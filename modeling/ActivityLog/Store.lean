/-
  ActivityLog.Store — the entries that are asked about, and what can be asked.

  A store is fixed once it is made. Whatever is asked of it is answered from the
  entries of a period that satisfy a condition (`within`), in one of four ways: the
  distinct values of some part of them (`values`), the earliest time (`earliest`),
  their number, or a tally of their tasks (`taskTally`). The order in which the
  entries lie in the store never shows in an answer.

  In numbers and tallies every entry counts, also a repeated one. An entry without a
  task number counts for task 0.
-/

import ActivityLog.Entry
import ActivityLog.Ordered
import ActivityLog.Timestamp

namespace ActivityLog

/-! ## Reports -/

/-- A line that was dropped: where it stands and why. -/
structure Rejection where
  file : Bytes
  /-- The number of the line in its file, counted from one, blank lines included. -/
  line : Nat
  error : LineError
  deriving DecidableEq, Repr

/-- The course of reading some files. -/
structure Report where
  /-- The files that were read, in reading order. -/
  files : List Bytes := []
  /-- The files that were chosen and hold no text. -/
  unreadable : List Bytes := []
  /-- The number of lines that became entries. -/
  accepted : Nat := 0
  rejected : List Rejection := []
  deriving DecidableEq, Repr

/-! ## Stores -/

/-- The entries, and how they were come by. -/
structure Store where
  entries : List Entry
  report : Report
  deriving DecidableEq, Repr

namespace Store

/-- The store of entries that come from no file. -/
def ofEntries (entries : List Entry) : Store := ⟨entries, { accepted := entries.length }⟩

def size (s : Store) : Nat := s.entries.length

def isEmpty (s : Store) : Bool := s.entries.isEmpty

/-! ## The four ways to answer -/

/-- The entries of the period that satisfy the condition. -/
def within (s : Store) (p : Period) (keep : Entry → Bool) : List Entry :=
  s.entries.filter fun e => p.contains e.time && keep e

/-- The distinct values that `project` takes on those entries. -/
def values {α : Type} [Ord α] [Std.TransOrd α] [Std.LawfulEqOrd α]
    (s : Store) (p : Period) (keep : Entry → Bool) (project : Entry → α) : SortedSet α :=
  .ofList ((s.within p keep).map project)

def earliest (s : Store) (p : Period) (keep : Entry → Bool) : Option Timestamp :=
  least? ((s.within p keep).map (·.time))

def taskTally (s : Store) (event : Event) (p : Period) : Tally Int :=
  .ofKeys ((s.within p fun e => e.event = event).map (·.task))

/-! ## Addresses -/

def ips (s : Store) (p : Period) : SortedSet Text := s.values p (fun _ => true) (·.ip)

def ipCount (s : Store) (p : Period) : Nat := (s.ips p).size

def ipsOfUser (s : Store) (user : Text) (p : Period) : SortedSet Text :=
  s.values p (fun e => e.user = user) (·.ip)

def ipsOfEvent (s : Store) (event : Event) (p : Period) : SortedSet Text :=
  s.values p (fun e => e.event = event) (·.ip)

def ipsOfStatus (s : Store) (status : Status) (p : Period) : SortedSet Text :=
  s.values p (fun e => e.status = status) (·.ip)

/-- The addresses seen at exactly that time. -/
def ipsAt (s : Store) (date : Timestamp) (p : Period) : SortedSet Text :=
  s.values p (fun e => e.time = date) (·.ip)

/-! ## Users -/

/-- Every user, whatever the time. -/
def users (s : Store) : SortedSet Text := s.values .all (fun _ => true) (·.user)

def userCount (s : Store) (p : Period) : Nat := (s.values p (fun _ => true) (·.user)).size

def usersOfIp (s : Store) (ip : Text) (p : Period) : SortedSet Text :=
  s.values p (fun e => e.ip = ip) (·.user)

def usersAt (s : Store) (date : Timestamp) (p : Period) : SortedSet Text :=
  s.values p (fun e => e.time = date) (·.user)

def usersOfEvent (s : Store) (event : Event) (p : Period) : SortedSet Text :=
  s.values p (fun e => e.event = event) (·.user)

def usersOfStatus (s : Store) (status : Status) (p : Period) : SortedSet Text :=
  s.values p (fun e => e.status = status) (·.user)

/-! ## By what they did -/

def usersLoggingIn (s : Store) (p : Period) : SortedSet Text := s.usersOfEvent .login p

def usersDownloading (s : Store) (p : Period) : SortedSet Text := s.usersOfEvent .download p

def usersWriting (s : Store) (p : Period) : SortedSet Text := s.usersOfEvent .writeMessage p

def usersAttempting (s : Store) (p : Period) : SortedSet Text := s.usersOfEvent .solveTask p

def usersFinishing (s : Store) (p : Period) : SortedSet Text := s.usersOfEvent .doneTask p

def usersOfTask (s : Store) (event : Event) (task : Int) (p : Period) : SortedSet Text :=
  s.values p (fun e => e.event = event && e.task = task) (·.user)

def usersAttemptingTask (s : Store) (task : Int) (p : Period) : SortedSet Text :=
  s.usersOfTask .solveTask task p

def usersFinishingTask (s : Store) (task : Int) (p : Period) : SortedSet Text :=
  s.usersOfTask .doneTask task p

/-! ## Times -/

/-- Every time on record. -/
def dates (s : Store) : SortedSet Timestamp := s.values .all (fun _ => true) (·.time)

def datesOfIp (s : Store) (ip : Text) (p : Period) : SortedSet Timestamp :=
  s.values p (fun e => e.ip = ip) (·.time)

def datesOfUser (s : Store) (user : Text) (p : Period) : SortedSet Timestamp :=
  s.values p (fun e => e.user = user) (·.time)

def datesOfEvent (s : Store) (event : Event) (p : Period) : SortedSet Timestamp :=
  s.values p (fun e => e.event = event) (·.time)

def datesOfStatus (s : Store) (status : Status) (p : Period) : SortedSet Timestamp :=
  s.values p (fun e => e.status = status) (·.time)

def datesOfUserEvent (s : Store) (user : Text) (event : Event) (p : Period) :
    SortedSet Timestamp :=
  s.values p (fun e => e.user = user && e.event = event) (·.time)

def failureDates (s : Store) (p : Period) : SortedSet Timestamp :=
  s.datesOfStatus .failed p

def errorDates (s : Store) (p : Period) : SortedSet Timestamp :=
  s.datesOfStatus .error p

def messageDates (s : Store) (user : Text) (p : Period) : SortedSet Timestamp :=
  s.datesOfUserEvent user .writeMessage p

def downloadDates (s : Store) (user : Text) (p : Period) : SortedSet Timestamp :=
  s.datesOfUserEvent user .download p

/-! ## First times -/

def firstLogin (s : Store) (user : Text) (p : Period) : Option Timestamp :=
  s.earliest p fun e => e.user = user && e.event = .login

def firstAttempt (s : Store) (user : Text) (task : Int) (p : Period) : Option Timestamp :=
  s.earliest p fun e => e.user = user && e.event = .solveTask && e.task = task

def firstFinish (s : Store) (user : Text) (task : Int) (p : Period) : Option Timestamp :=
  s.earliest p fun e => e.user = user && e.event = .doneTask && e.task = task

/-! ## Events -/

def events (s : Store) (p : Period) : SortedSet Event := s.values p (fun _ => true) (·.event)

def eventCount (s : Store) (p : Period) : Nat := (s.events p).size

def eventsOfIp (s : Store) (ip : Text) (p : Period) : SortedSet Event :=
  s.values p (fun e => e.ip = ip) (·.event)

def eventsOfUser (s : Store) (user : Text) (p : Period) : SortedSet Event :=
  s.values p (fun e => e.user = user) (·.event)

def eventCountOfUser (s : Store) (user : Text) (p : Period) : Nat := (s.eventsOfUser user p).size

def eventsAt (s : Store) (date : Timestamp) (p : Period) : SortedSet Event :=
  s.values p (fun e => e.time = date) (·.event)

def eventsOfStatus (s : Store) (status : Status) (p : Period) : SortedSet Event :=
  s.values p (fun e => e.status = status) (·.event)

def failingEvents (s : Store) (p : Period) : SortedSet Event := s.eventsOfStatus .failed p

def erringEvents (s : Store) (p : Period) : SortedSet Event := s.eventsOfStatus .error p

/-! ## Tasks -/

def attemptCount (s : Store) (task : Int) (p : Period) : Nat :=
  (s.within p fun e => e.event = .solveTask && e.task = task).length

def finishCount (s : Store) (task : Int) (p : Period) : Nat :=
  (s.within p fun e => e.event = .doneTask && e.task = task).length

/-- The tasks tried in the period, and how often. -/
def attemptTally (s : Store) (p : Period) : Tally Int := s.taskTally .solveTask p

def finishTally (s : Store) (p : Period) : Tally Int := s.taskTally .doneTask p

/-! ## Outcomes -/

def statuses (s : Store) (p : Period) : SortedSet Status := s.values p (fun _ => true) (·.status)

/-- How things done from the address turned out. -/
def statusesOfIp (s : Store) (ip : Text) (p : Period) : SortedSet Status :=
  s.values p (fun e => e.ip = ip) (·.status)

def statusesOfUser (s : Store) (user : Text) (p : Period) : SortedSet Status :=
  s.values p (fun e => e.user = user) (·.status)

def statusesAt (s : Store) (date : Timestamp) (p : Period) : SortedSet Status :=
  s.values p (fun e => e.time = date) (·.status)

def statusesOfEvent (s : Store) (event : Event) (p : Period) : SortedSet Status :=
  s.values p (fun e => e.event = event) (·.status)

end Store
end ActivityLog
