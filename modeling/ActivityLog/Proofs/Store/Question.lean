/-
  ActivityLog.Proofs.Store.Question — all questions that a store answers, as data.

  A question lists the values of some part of those entries that lie in the period
  and satisfy its condition (`mem_values`). An entry has one part for each field
  (`Entry.part`), of the type that the field has.

  What can be asked of a store falls into five families, by the type of the answer: the
  set of some values (`SetQuestion`), the earliest time (`TimeQuestion`), the number of
  some entries (`CountQuestion`), the number of entries for each task (`TallyQuestion`)
  and the number of some values (`SizeQuestion`). A question carries its arguments; the
  period comes with the asking, also for the two questions that take no notice of it
  (`SetQuestion.IsRanged` holds of the others).

  Whatever the question, its answer is built in one of the few ways that
  `ActivityLog.Store` names (`exists_values`, `exists_earliest`, `exists_within`,
  `exists_taskTally`), so a law of those is a law of every question.
-/

import ActivityLog.Entry
import ActivityLog.Proofs.Ordered
import ActivityLog.Query.Request
import ActivityLog.Store

namespace ActivityLog

/-! ## Listed values -/

theorem Period.contains_iff {p : Period} {t : Timestamp} : p.contains t = true ↔
    (∀ lower, p.after = some lower → lower < t) ∧ (∀ upper, p.before = some upper → t < upper) := by
  have lt_iff : ∀ a b : Timestamp, (compare a b == .lt) = true ↔ a < b := fun a b => beq_iff_eq
  simp only [contains, isAfterLower, isBeforeUpper, Bool.and_eq_true, Option.all_eq_true, lt_iff]

theorem Period.contains_all (t : Timestamp) : Period.all.contains t = true := rfl

namespace Store

theorem mem_within {s : Store} {p : Period} {keep : Entry → Bool} {e : Entry} :
    e ∈ s.within p keep ↔ e ∈ s.entries ∧ p.contains e.time = true ∧ keep e = true := by
  rw [within, List.mem_filter, Bool.and_eq_true]

theorem within_all (s : Store) (keep : Entry → Bool) : s.within .all keep = s.entries.filter keep := rfl

theorem mem_map_within {α : Type} {s : Store} {p : Period} {keep : Entry → Bool} {project : Entry → α} {y : α} :
    y ∈ (s.within p keep).map project ↔
      ∃ e ∈ s.entries, p.contains e.time = true ∧ keep e = true ∧ project e = y := by
  simp only [List.mem_map, mem_within, and_assoc]

theorem mem_values {α : Type} [Ord α] [Std.TransOrd α] [Std.LawfulEqOrd α] {s : Store} {p : Period}
    {keep : Entry → Bool} {project : Entry → α} {y : α} : y ∈ s.values p keep project ↔
      ∃ e ∈ s.entries, p.contains e.time = true ∧ keep e = true ∧ project e = y := by
  rw [values, SortedSet.mem_ofList, mem_map_within]

end Store

namespace Query

/-! ## Parts of an entry -/

/-- The type of the parts that the field names. -/
def Field.Value : Field → Type
  | .ip | .user => Text
  | .date => Timestamp
  | .event => Event
  | .status => Status

namespace Field

instance (f : Field) : DecidableEq f.Value :=
  match f with
  | .ip | .user => inferInstanceAs (DecidableEq Text)
  | .date => inferInstanceAs (DecidableEq Timestamp)
  | .event => inferInstanceAs (DecidableEq Event)
  | .status => inferInstanceAs (DecidableEq Status)

instance (f : Field) : Ord f.Value :=
  match f with
  | .ip | .user => inferInstanceAs (Ord Text)
  | .date => inferInstanceAs (Ord Timestamp)
  | .event => inferInstanceAs (Ord Event)
  | .status => inferInstanceAs (Ord Status)

instance (f : Field) : Std.TransOrd f.Value :=
  match f with
  | .ip | .user => inferInstanceAs (Std.TransOrd Text)
  | .date => inferInstanceAs (Std.TransOrd Timestamp)
  | .event => inferInstanceAs (Std.TransOrd Event)
  | .status => inferInstanceAs (Std.TransOrd Status)

instance (f : Field) : Std.LawfulEqOrd f.Value :=
  match f with
  | .ip | .user => inferInstanceAs (Std.LawfulEqOrd Text)
  | .date => inferInstanceAs (Std.LawfulEqOrd Timestamp)
  | .event => inferInstanceAs (Std.LawfulEqOrd Event)
  | .status => inferInstanceAs (Std.LawfulEqOrd Status)

def part : (f : Field) → Entry → f.Value
  | .ip, e => e.ip
  | .user, e => e.user
  | .date, e => e.time
  | .event, e => e.event
  | .status, e => e.status

end Field
end Query

namespace Store

open Query (Field)

/-! ## Sets -/

inductive SetQuestion : Field → Type where
  | ips : SetQuestion .ip
  | ipsOfUser (user : Text) : SetQuestion .ip
  | ipsOfEvent (event : Event) : SetQuestion .ip
  | ipsOfStatus (status : Status) : SetQuestion .ip
  | ipsAt (date : Timestamp) : SetQuestion .ip
  | users : SetQuestion .user
  | usersOfIp (ip : Text) : SetQuestion .user
  | usersAt (date : Timestamp) : SetQuestion .user
  | usersOfEvent (event : Event) : SetQuestion .user
  | usersOfStatus (status : Status) : SetQuestion .user
  | usersLoggingIn : SetQuestion .user
  | usersDownloading : SetQuestion .user
  | usersWriting : SetQuestion .user
  | usersAttempting : SetQuestion .user
  | usersAttemptingTask (task : Int) : SetQuestion .user
  | usersFinishing : SetQuestion .user
  | usersFinishingTask (task : Int) : SetQuestion .user
  | dates : SetQuestion .date
  | datesOfIp (ip : Text) : SetQuestion .date
  | datesOfUser (user : Text) : SetQuestion .date
  | datesOfEvent (event : Event) : SetQuestion .date
  | datesOfStatus (status : Status) : SetQuestion .date
  | datesOfUserEvent (user : Text) (event : Event) : SetQuestion .date
  | failureDates : SetQuestion .date
  | errorDates : SetQuestion .date
  | messageDates (user : Text) : SetQuestion .date
  | downloadDates (user : Text) : SetQuestion .date
  | events : SetQuestion .event
  | eventsOfIp (ip : Text) : SetQuestion .event
  | eventsOfUser (user : Text) : SetQuestion .event
  | eventsAt (date : Timestamp) : SetQuestion .event
  | eventsOfStatus (status : Status) : SetQuestion .event
  | failingEvents : SetQuestion .event
  | erringEvents : SetQuestion .event
  | statuses : SetQuestion .status
  | statusesOfIp (ip : Text) : SetQuestion .status
  | statusesOfUser (user : Text) : SetQuestion .status
  | statusesAt (date : Timestamp) : SetQuestion .status
  | statusesOfEvent (event : Event) : SetQuestion .status

/-- The answer of the store; all users and all dates are listed whatever the period. -/
def SetQuestion.ask {f : Field} (q : SetQuestion f) (s : Store) (p : Period) : SortedSet f.Value :=
  match q with
  | .ips => s.ips p
  | .ipsOfUser user => s.ipsOfUser user p
  | .ipsOfEvent event => s.ipsOfEvent event p
  | .ipsOfStatus status => s.ipsOfStatus status p
  | .ipsAt date => s.ipsAt date p
  | .users => s.users
  | .usersOfIp ip => s.usersOfIp ip p
  | .usersAt date => s.usersAt date p
  | .usersOfEvent event => s.usersOfEvent event p
  | .usersOfStatus status => s.usersOfStatus status p
  | .usersLoggingIn => s.usersLoggingIn p
  | .usersDownloading => s.usersDownloading p
  | .usersWriting => s.usersWriting p
  | .usersAttempting => s.usersAttempting p
  | .usersAttemptingTask task => s.usersAttemptingTask task p
  | .usersFinishing => s.usersFinishing p
  | .usersFinishingTask task => s.usersFinishingTask task p
  | .dates => s.dates
  | .datesOfIp ip => s.datesOfIp ip p
  | .datesOfUser user => s.datesOfUser user p
  | .datesOfEvent event => s.datesOfEvent event p
  | .datesOfStatus status => s.datesOfStatus status p
  | .datesOfUserEvent user event => s.datesOfUserEvent user event p
  | .failureDates => s.failureDates p
  | .errorDates => s.errorDates p
  | .messageDates user => s.messageDates user p
  | .downloadDates user => s.downloadDates user p
  | .events => s.events p
  | .eventsOfIp ip => s.eventsOfIp ip p
  | .eventsOfUser user => s.eventsOfUser user p
  | .eventsAt date => s.eventsAt date p
  | .eventsOfStatus status => s.eventsOfStatus status p
  | .failingEvents => s.failingEvents p
  | .erringEvents => s.erringEvents p
  | .statuses => s.statuses p
  | .statusesOfIp ip => s.statusesOfIp ip p
  | .statusesOfUser user => s.statusesOfUser user p
  | .statusesAt date => s.statusesAt date p
  | .statusesOfEvent event => s.statusesOfEvent event p

theorem SetQuestion.exists_values {f : Field} (q : SetQuestion f) (p : Period) :
    ∃ (period : Period) (keep : Entry → Bool), ∀ s : Store, q.ask s p = s.values period keep f.part := by
  cases q <;> exact ⟨_, _, fun _ => rfl⟩

/-- The period counts for the answer; for all users and all dates it does not. -/
def SetQuestion.IsRanged {f : Field} : SetQuestion f → Prop
  | .users => False
  | .dates => False
  | _ => True

theorem SetQuestion.exists_keep {f : Field} {q : SetQuestion f} (h : q.IsRanged) :
    ∃ keep : Entry → Bool, ∀ (s : Store) (p : Period), q.ask s p = s.values p keep f.part := by
  cases q
  case users => exact h.elim
  case dates => exact h.elim
  all_goals exact ⟨_, fun _ _ => rfl⟩

/-- The time, where the question is about the entries at exactly that time. -/
def SetQuestion.date? {f : Field} : SetQuestion f → Option Timestamp
  | .ipsAt date => some date
  | .usersAt date => some date
  | .eventsAt date => some date
  | .statusesAt date => some date
  | _ => none

theorem SetQuestion.ask_of_date? {f : Field} {q : SetQuestion f} {date : Timestamp} (h : q.date? = some date)
    (s : Store) (p : Period) : q.ask s p = s.values p (fun e => e.time = date) f.part := by
  cases q <;> cases h <;> rfl

/-! ## Times -/

inductive TimeQuestion where
  | firstLogin (user : Text)
  | firstAttempt (user : Text) (task : Int)
  | firstFinish (user : Text) (task : Int)

def TimeQuestion.ask (q : TimeQuestion) (s : Store) (p : Period) : Option Timestamp :=
  match q with
  | .firstLogin user => s.firstLogin user p
  | .firstAttempt user task => s.firstAttempt user task p
  | .firstFinish user task => s.firstFinish user task p

theorem TimeQuestion.exists_earliest (q : TimeQuestion) :
    ∃ keep : Entry → Bool, ∀ (s : Store) (p : Period), q.ask s p = s.earliest p keep := by
  cases q <;> exact ⟨_, fun _ _ => rfl⟩

/-! ## Numbers of entries -/

/-- The questions for a number of entries; a repeated entry counts again. -/
inductive CountQuestion where
  | attemptCount (task : Int)
  | finishCount (task : Int)

def CountQuestion.ask (q : CountQuestion) (s : Store) (p : Period) : Nat :=
  match q with
  | .attemptCount task => s.attemptCount task p
  | .finishCount task => s.finishCount task p

theorem CountQuestion.exists_within (q : CountQuestion) :
    ∃ keep : Entry → Bool, ∀ (s : Store) (p : Period), q.ask s p = (s.within p keep).length := by
  cases q <;> exact ⟨_, fun _ _ => rfl⟩

inductive TallyQuestion where
  | attemptTally
  | finishTally

def TallyQuestion.ask (q : TallyQuestion) (s : Store) (p : Period) : Tally Int :=
  match q with
  | .attemptTally => s.attemptTally p
  | .finishTally => s.finishTally p

theorem TallyQuestion.exists_taskTally (q : TallyQuestion) :
    ∃ event : Event, ∀ (s : Store) (p : Period), q.ask s p = s.taskTally event p := by
  cases q <;> exact ⟨_, fun _ _ => rfl⟩

/-! ## Numbers of values -/

inductive SizeQuestion where
  | ipCount
  | userCount
  | eventCount
  | eventCountOfUser (user : Text)

namespace SizeQuestion

def ask (q : SizeQuestion) (s : Store) (p : Period) : Nat :=
  match q with
  | .ipCount => s.ipCount p
  | .userCount => s.userCount p
  | .eventCount => s.eventCount p
  | .eventCountOfUser user => s.eventCountOfUser user p

def field : SizeQuestion → Field
  | .ipCount => .ip
  | .userCount => .user
  | .eventCount | .eventCountOfUser _ => .event

/-- The values that are counted: the addresses, the users or the events of the period, or what the
    user did in it. -/
def values (q : SizeQuestion) (s : Store) (p : Period) : SortedSet q.field.Value :=
  match q with
  | .ipCount => s.ips p
  | .userCount => s.values p (fun _ => true) (·.user)
  | .eventCount => s.events p
  | .eventCountOfUser user => s.eventsOfUser user p

theorem ask_eq_size (q : SizeQuestion) (s : Store) (p : Period) : q.ask s p = (q.values s p).size := by
  cases q <;> rfl

theorem exists_values (q : SizeQuestion) :
    ∃ keep : Entry → Bool, ∀ (s : Store) (p : Period), q.values s p = s.values p keep q.field.part := by
  cases q <;> exact ⟨_, fun _ _ => rfl⟩

end SizeQuestion
end Store
end ActivityLog
