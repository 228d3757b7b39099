/-
  ActivityLog.Display — answers and totals on the screen.

  In the plain format an answer is its lines, each ended by a line feed. In the JSON
  format it is one line that holds an object with the query, the kind of the values
  and the values. No match is plainly nothing at all.

  In the plain format a summary is eight lines, each with the name of a total and the
  total itself; events are listed with a comma and a space between neighbours, and so
  are tasks, each with the number of its entries behind an equals sign. In the JSON
  format it is one line that holds an object with the same totals.
-/

import ActivityLog.Json
import ActivityLog.Query.Answer
import ActivityLog.Store

namespace ActivityLog.Display

/-! ## Answers -/

inductive Format where
  | plain
  | json
  deriving DecidableEq, Repr

def writeLines (lines : List Text) : Text := lines.flatMap fun line => line ++ ['\n']

def answerValue (query : Text) (o : Query.Output) : Json.Value :=
  .object [("query".toList, .string query), ("kind".toList, .string o.kind),
    ("values".toList, .array (o.lines.map .string))]

def writeAnswer (format : Format) (query : Text) (o : Query.Output) : Text :=
  match format with
  | .plain => writeLines o.lines
  | .json => (answerValue query o).write ++ ['\n']

/-! ## Totals -/

structure Summary where
  entries : Nat
  /-- The number of files that were read. -/
  files : Nat
  rejectedLines : Nat
  ips : Nat
  users : Nat
  events : SortedSet Event
  attempts : Tally Int
  finishes : Tally Int
  deriving DecidableEq, Repr

namespace Summary

/-- The totals of the store, whatever the time. -/
def ofStore (s : Store) : Summary where
  entries := s.size
  files := s.report.files.length
  rejectedLines := s.report.rejected.length
  ips := s.ipCount .all
  users := s.userCount .all
  events := s.events .all
  attempts := s.attemptTally .all
  finishes := s.finishTally .all

/-! ## Plain -/

/-- The tasks with the number of their entries, in ascending order. -/
def writeTally (t : Tally Int) : Text :=
  Text.joinWith ", ".toList (t.toList.map fun (task, n) => Text.ofInt task ++ '=' :: Text.ofNat n)

def lines (s : Summary) : List Text := [
  "entries: ".toList ++ Text.ofNat s.entries,
  "files: ".toList ++ Text.ofNat s.files,
  "rejected lines: ".toList ++ Text.ofNat s.rejectedLines,
  "unique ips: ".toList ++ Text.ofNat s.ips,
  "users: ".toList ++ Text.ofNat s.users,
  "events: ".toList ++ Text.joinWith ", ".toList (s.events.toList.map Event.token),
  "solved tasks: ".toList ++ writeTally s.attempts,
  "done tasks: ".toList ++ writeTally s.finishes]

/-! ## JSON -/

def tallyValue (t : Tally Int) : Json.Value :=
  .object (t.toList.map fun (task, n) => (Text.ofInt task, .number n))

def value (s : Summary) : Json.Value := .object [
  ("entries".toList, .number s.entries),
  ("files".toList, .number s.files),
  ("rejected_lines".toList, .number s.rejectedLines),
  ("unique_ips".toList, .number s.ips),
  ("users".toList, .number s.users),
  ("events".toList, .array (s.events.toList.map fun e => .string e.token)),
  ("solved_tasks".toList, tallyValue s.attempts),
  ("done_tasks".toList, tallyValue s.finishes)]

def write (format : Format) (s : Summary) : Text :=
  match format with
  | .plain => writeLines s.lines
  | .json => s.value.write ++ ['\n']

end Summary
end ActivityLog.Display
