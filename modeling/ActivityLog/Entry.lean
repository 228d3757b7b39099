/-
  ActivityLog.Entry — entries of the activity log, and the lines they are read from.

  A log line has five fields with a tab between neighbours: address, user, time,
  event and status. One carriage return at its end and then all tabs at its end are
  not part of it. Blanks around a field do not count. The event field is an event
  word, or an event word, one space and a task number.

  The checks run in the order of the fields and the first that fails is the error;
  the task number is looked at after the event word.

  Events, statuses and the fields of a query are each named by a fixed list of words
  (`Token`). A word is compared as it is: neither case nor blanks are forgiven. The
  order of events and statuses is that of their lists.
-/

import ActivityLog.Text.Basic
import ActivityLog.Text.Quoted
import ActivityLog.Timestamp

namespace ActivityLog

/-! ## Tokens -/

/-- The lists of words a token may have to come from. -/
inductive Vocabulary where
  | event
  | status
  | field
  deriving DecidableEq, Repr

def Vocabulary.name : Vocabulary → Text
  | .event => "event".toList
  | .status => "status".toList
  | .field => "field".toList

structure UnknownToken where
  vocabulary : Vocabulary
  token : Text
  deriving DecidableEq, Repr

def UnknownToken.message (e : UnknownToken) : Text :=
  "unknown ".toList ++ e.vocabulary.name ++ ' ' :: Text.quoted e.token

/-- A type whose values are all listed, each with a word of its own. -/
class Worded (α : Type) where
  vocabulary : Vocabulary
  all : List α
  token : α → Text
  mem_all (a : α) : a ∈ all
  token_inj {a b : α} : token a = token b → a = b

def readToken {α : Type} [Worded α] (text : Text) : Except UnknownToken α :=
  match Worded.all.find? fun a : α => Worded.token a = text with
  | some a => .ok a
  | none => .error ⟨Worded.vocabulary α, text⟩

/-! ## Events -/

inductive Event where
  | login
  | download
  | writeMessage
  | solveTask
  | doneTask
  deriving DecidableEq, Repr

namespace Event

def all : List Event := [.login, .download, .writeMessage, .solveTask, .doneTask]

def token : Event → Text
  | .login => "LOGIN".toList
  | .download => "DOWNLOAD".toList
  | .writeMessage => "WRITE_MESSAGE".toList
  | .solveTask => "SOLVE_TASK".toList
  | .doneTask => "DONE_TASK".toList

def index : Event → Nat
  | .login => 0
  | .download => 1
  | .writeMessage => 2
  | .solveTask => 3
  | .doneTask => 4

instance : Worded Event where
  vocabulary := .event
  all := all
  token := token
  mem_all a := by cases a <;> decide
  token_inj {a b} h := by cases a <;> cases b <;> first | rfl | exact absurd h (by decide)

def read : Text → Except UnknownToken Event := readToken

theorem index_inj {a b : Event} (h : a.index = b.index) : a = b := by
  cases a <;> cases b <;> first | rfl | exact absurd h (by decide)

instance : Ord Event := orderBy index

instance : Std.TransOrd Event := transOrd_orderBy index

instance : Std.LawfulEqOrd Event := lawfulEqOrd_orderBy index_inj

end Event

/-! ## Statuses -/

inductive Status where
  | ok
  | failed
  | error
  deriving DecidableEq, Repr

namespace Status

def all : List Status := [.ok, .failed, .error]

def token : Status → Text
  | .ok => "OK".toList
  | .failed => "FAILED".toList
  | .error => "ERROR".toList

def index : Status → Nat
  | .ok => 0
  | .failed => 1
  | .error => 2

instance : Worded Status where
  vocabulary := .status
  all := all
  token := token
  mem_all a := by cases a <;> decide
  token_inj {a b} h := by cases a <;> cases b <;> first | rfl | exact absurd h (by decide)

def read : Text → Except UnknownToken Status := readToken

theorem index_inj {a b : Status} (h : a.index = b.index) : a = b := by
  cases a <;> cases b <;> first | rfl | exact absurd h (by decide)

instance : Ord Status := orderBy index

instance : Std.TransOrd Status := transOrd_orderBy index

instance : Std.LawfulEqOrd Status := lawfulEqOrd_orderBy index_inj

end Status

/-! ## Entries -/

/-- Who did what from where, when, and how it turned out. -/
structure Entry where
  /-- The address of the client, as it was logged. -/
  ip : Text
  user : Text
  time : Timestamp
  event : Event
  /-- The task that a task event is about; 0 where the line names none. -/
  task : Int
  status : Status
  deriving DecidableEq, Repr

/-! ## Faults -/

inductive LineError where
  | fieldCount (found : Nat)
  | emptyIp
  | emptyUser
  | badTime (error : Timestamp.ReadError)
  | eventShape (field : Text)
  | badToken (error : UnknownToken)
  | badTask (fault : Text.IntFault)
  deriving DecidableEq, Repr

def LineError.message : LineError → Text
  | .fieldCount found => "expected 5 tab-separated fields, found ".toList ++ Text.ofNat found
  | .emptyIp => "empty ip field".toList
  | .emptyUser => "empty user field".toList
  | .badTime error => error.message
  | .eventShape field => "event field ".toList ++ Text.quoted field ++ " has more than one space".toList
  | .badToken error => error.message
  | .badTask fault => "invalid action id: ".toList ++ fault.message

/-! ## Reading -/

/-- The fields without the empty ones at the end; the first field always stays. -/
def dropTrailingEmpty : List Text → List Text
  | [] => []
  | field :: more => field :: (more.reverse.dropWhile List.isEmpty).reverse

def lineFields (line : Text) : List Text := dropTrailingEmpty (Text.pieces '\t' (Text.dropReturn line))

/-- The event word and the text of the task number, which may be missing. -/
def eventParts (field : Text) : Except LineError (Text × Option Text) :=
  match Text.splitOnce [' '] field with
  | none => .ok (field, none)
  | some (event, task) => if ' ' ∈ task then .error (.eventShape field) else .ok (event, some task)

def Entry.ofFields (ip user time event status : Text) : Except LineError Entry := do
  let ip := Text.trim ip
  if ip.isEmpty then throw .emptyIp
  let user := Text.trim user
  if user.isEmpty then throw .emptyUser
  let time ← (Timestamp.read time).mapError .badTime
  let (word, number) ← eventParts (Text.trim event)
  let event ← (Event.read word).mapError .badToken
  let task ← match number with
    | none => .ok 0
    | some text => (Text.int32? text).mapError .badTask
  let status ← (Status.read (Text.trim status)).mapError .badToken
  return { ip, user, time, event, task, status }

def Entry.read (line : Text) : Except LineError Entry :=
  match lineFields line with
  | [ip, user, time, event, status] => Entry.ofFields ip user time event status
  | fields => .error (.fieldCount fields.length)

end ActivityLog
