/-
  ActivityLog.Proofs.Store.First — first times, and going on from them.

  A first time is the time of an entry that is asked about, and no such entry is earlier
  (`IsFirst`). It is found in one pass over the entries, whatever their order, and the set of
  the times of the same entries is put together apart from it; still the one heads the other
  (`earliest_eq_head?`).

  Who asks for a first login, then for the first one after that, and so on until there is no
  answer, is told every login time once and in ascending order (`loginsInTurn_iff`). A bound
  does not belong to its period, so what is left after an answer is the rest of the set
  (`toList_values_since`), which is shorter each time.
-/

import ActivityLog.Proofs.Ordered
import ActivityLog.Proofs.Store.Tasks
import ActivityLog.Store

namespace ActivityLog

theorem Period.contains_since {t u : Timestamp} : (Period.since t).contains u = true ↔ t < u := by
  simp [Period.contains_iff, Period.since]

theorem Period.contains_of_lt {p : Period} (hp : p.before = none) {t u : Timestamp} (ht : p.contains t = true)
    (h : t < u) : p.contains u = true := by
  obtain ⟨hlower, -⟩ := Period.contains_iff.mp ht
  refine Period.contains_iff.mpr ⟨fun lower hl => ?_, fun upper hu => ?_⟩
  · exact Std.TransCmp.lt_trans (hlower lower hl) h
  · rw [hp] at hu
    cases hu

namespace Store

/-! ## First times -/

/-- The time is that of an entry of the period of which the condition holds, and no such entry is
    earlier. -/
structure IsFirst (s : Store) (p : Period) (holds : Entry → Prop) (t : Timestamp) : Prop where
  is_time : ∃ e ∈ s.entries, p.contains e.time = true ∧ holds e ∧ e.time = t
  least : ∀ e ∈ s.entries, p.contains e.time = true → holds e → ¬ e.time < t

section
variable {s : Store} {p : Period} {keep : Entry → Bool}

theorem earliest_eq_some_iff {t : Timestamp} :
    s.earliest p keep = some t ↔ s.IsFirst p (fun e => keep e = true) t := by
  rw [earliest, least?_eq_some_iff, mem_map_within]
  constructor
  · intro h
    refine ⟨h.1, fun e he htime hkeep => ?_⟩
    exact isLE_iff_not_lt.mp (h.2 e.time (mem_map_within.mpr ⟨e, he, htime, hkeep, rfl⟩))
  · intro h
    refine ⟨h.is_time, fun u hu => ?_⟩
    obtain ⟨e, he, htime, hkeep, rfl⟩ := mem_map_within.mp hu
    exact isLE_iff_not_lt.mpr (h.least e he htime hkeep)

theorem isSome_earliest_iff :
    (s.earliest p keep).isSome = true ↔ ∃ e ∈ s.entries, p.contains e.time = true ∧ keep e = true := by
  rw [Option.isSome_iff_ne_none, earliest, ne_eq, least?_eq_none_iff, List.map_eq_nil_iff]
  constructor
  · intro h
    obtain ⟨e, he⟩ := List.exists_mem_of_ne_nil _ h
    exact ⟨e, mem_within.mp he⟩
  · intro h
    obtain ⟨e, he⟩ := h
    exact List.ne_nil_of_mem (mem_within.mpr he)

theorem earliest_eq_head? : s.earliest p keep = (s.values p keep (·.time)).toList.head? := least?_eq_head? _

end

/-! ## For the tasks -/

/-- What is answered for a user's first time with the event for the task fits the entries, and the users
    with that event for the task. -/
structure FirstTimeFits (s : Store) (event : Event) (user : Text) (task : Int) (p : Period)
    (first : Option Timestamp) (users : SortedSet Text) : Prop where
  isSome_iff : first.isSome = true ↔ user ∈ users
  eq_some_iff : ∀ t, first = some t ↔
    s.IsFirst p (fun e => e.user = user ∧ e.event = event ∧ e.task = task) t

theorem firstTimeFits (s : Store) (event : Event) (user : Text) (task : Int) (p : Period) :
    FirstTimeFits s event user task p
      (s.earliest p fun e => e.user = user && e.event = event && e.task = task) (s.usersOfTask event task p) where
  isSome_iff := by
    rw [isSome_earliest_iff, mem_usersOfTask]
    refine exists_congr fun e => and_congr_right fun _ => and_congr_right fun _ => ?_
    simp only [Bool.and_eq_true, decide_eq_true_eq]
    exact and_assoc.trans and_comm
  eq_some_iff t := by
    rw [earliest_eq_some_iff]
    simp only [Bool.and_eq_true, decide_eq_true_eq, and_assoc]

/-! ## Logins one after another -/

/-- The answers to a run of questions for the user's first login: each question is about the time after
    the answer before, and the run ends with the question that has no answer. -/
inductive LoginsInTurn (s : Store) (user : Text) : Period → List Timestamp → Prop
  | done {p : Period} : s.firstLogin user p = none → LoginsInTurn s user p []
  | next {p : Period} {t : Timestamp} {ts : List Timestamp} : s.firstLogin user p = some t →
      LoginsInTurn s user (.since t) ts → LoginsInTurn s user p (t :: ts)

section
variable {s : Store} {p : Period}

/-- After the first of the times the others are left. -/
theorem toList_values_since {keep : Entry → Bool} (hp : p.before = none) {t : Timestamp} {ts : List Timestamp}
    (h : (s.values p keep (·.time)).toList = t :: ts) : (s.values (.since t) keep (·.time)).toList = ts := by
  have hascending := (s.values p keep (·.time)).ascending
  rw [h] at hascending
  obtain ⟨hafter, hrest⟩ := List.pairwise_cons.mp hascending
  have hmem : ∀ u, u ∈ s.values p keep (·.time) ↔ u = t ∨ u ∈ ts := by
    intro u
    rw [SortedSet.mem_def, h, List.mem_cons]
  suffices hset : s.values (.since t) keep (·.time) = ⟨ts, hrest⟩ by rw [hset]
  refine SortedSet.ext fun u => ?_
  constructor
  · intro hu
    obtain ⟨e, he, htime, hkeep, rfl⟩ := mem_values.mp hu
    have hlt : t < e.time := Period.contains_since.mp htime
    obtain ⟨e₀, -, ht, -, rfl⟩ := mem_values.mp ((hmem t).mpr (Or.inl rfl))
    rcases (hmem e.time).mp (mem_values.mpr ⟨e, he, Period.contains_of_lt hp ht hlt, hkeep, rfl⟩) with heq | hmore
    -- The bound is outside its period, so the time that was answered does not come back.
    · exact absurd heq.symm (ne_of_compare_lt hlt)
    · exact hmore
  · intro hu
    obtain ⟨e, he, -, hkeep, rfl⟩ := mem_values.mp ((hmem u).mpr (Or.inr hu))
    exact mem_values.mpr ⟨e, he, Period.contains_since.mpr (hafter e.time hu), hkeep, rfl⟩

theorem firstLogin_eq_head? (s : Store) (user : Text) (p : Period) :
    s.firstLogin user p = (s.datesOfUserEvent user .login p).toList.head? := earliest_eq_head?

/-- Asking on comes to an end, as each answer leaves one time less. -/
theorem loginsInTurn_toList {user : Text} (hp : p.before = none) :
    LoginsInTurn s user p (s.datesOfUserEvent user .login p).toList := by
  generalize h : (s.datesOfUserEvent user .login p).toList = ts
  -- On the times still to come. The period is another one at each step, but none has an upper bound.
  induction ts generalizing p with
  | nil => exact .done (by rw [firstLogin_eq_head?, h, List.head?_nil])
  | cons t ts ih => exact .next (by rw [firstLogin_eq_head?, h, List.head?_cons]) (ih rfl (toList_values_since hp h))

theorem LoginsInTurn.eq_toList {user : Text} {ts : List Timestamp} (h : LoginsInTurn s user p ts)
    (hp : p.before = none) : ts = (s.datesOfUserEvent user .login p).toList := by
  induction h with
  | done hnone =>
    rw [firstLogin_eq_head?, List.head?_eq_none_iff] at hnone
    exact hnone.symm
  | next hfirst _ ih =>
    rw [firstLogin_eq_head?, List.head?_eq_some_iff] at hfirst
    obtain ⟨more, hmore⟩ := hfirst
    rw [hmore, ih rfl]
    exact congrArg _ (toList_values_since hp hmore)

theorem loginsInTurn_iff {user : Text} {ts : List Timestamp} (hp : p.before = none) :
    LoginsInTurn s user p ts ↔ ts = (s.datesOfUserEvent user .login p).toList :=
  ⟨fun h => h.eq_toList hp, fun h => h ▸ loginsInTurn_toList hp⟩

end

/-- There is a first attempt at a task exactly for the users who tried it, and it is the time of such an
    entry that no other one precedes; so it is for finished tasks. The first login is the least of the login
    times, if there are any. Asked for again and again, each time after the answer before, it is
    each login time once, in ascending order, and then none. -/
theorem first_times_lead_on (s : Store) (user : Text) (p : Period) :
    (∀ task, FirstTimeFits s .solveTask user task p (s.firstAttempt user task p) (s.usersAttemptingTask task p)) ∧
    (∀ task, FirstTimeFits s .doneTask user task p (s.firstFinish user task p) (s.usersFinishingTask task p)) ∧
    (∀ t, s.firstLogin user p = some t ↔
      t ∈ s.datesOfUserEvent user .login p ∧ ∀ u ∈ s.datesOfUserEvent user .login p, ¬ u < t) ∧
    (s.firstLogin user p = none ↔ (s.datesOfUserEvent user .login p).toList = []) ∧
    (∀ ts, LoginsInTurn s user .all ts ↔ ts = (s.datesOfUserEvent user .login .all).toList) ∧
    (s.datesOfUserEvent user .login .all).toList.Pairwise fun t u => t < u := by
  refine ⟨fun task => firstTimeFits s .solveTask user task p, fun task => firstTimeFits s .doneTask user task p,
    fun t => ?_, ?_, fun ts => loginsInTurn_iff rfl, (s.datesOfUserEvent user .login .all).ascending⟩
  · rw [firstLogin_eq_head?, SortedSet.head?_eq_some_iff]
    simp only [isLE_iff_not_lt]
    rfl
  · rw [firstLogin_eq_head?, List.head?_eq_none_iff]

/-- A login in a leap second, recorded before an earlier one and recorded twice, is the second answer and
    the last. -/
theorem first_times_lead_on_to_leap_second : ∃ (s : Store) (early late : Timestamp),
    s.entries.map (·.time) = [late, early, late] ∧ early < late ∧ late.second = 60 ∧
    LoginsInTurn s "ann".toList .all [early, late] := by
  let early : Timestamp := ⟨2016, 12, 31, 23, 59, 59, by decide⟩
  let late : Timestamp := ⟨2016, 12, 31, 23, 59, 60, by decide⟩
  let login (t : Timestamp) : Entry := ⟨"10.0.0.1".toList, "ann".toList, t, .login, 0, .ok⟩
  refine ⟨.ofEntries [login late, login early, login late], early, late, rfl, by decide, rfl, ?_⟩
  obtain ⟨-, -, -, -, hturn, -⟩ := first_times_lead_on (.ofEntries [login late, login early, login late])
    "ann".toList .all
  exact (hturn _).mpr (by decide)

end Store
end ActivityLog
