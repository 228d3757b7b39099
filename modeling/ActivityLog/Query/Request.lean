/-
  ActivityLog.Query.Request — what a query asks for, how it is written and how it is read.

  A query has two forms:

      get <field>
      get <target> for <filter> = "<value>" and date between "<after>" and "<before>"

  The first asks for all values of a field, the second for the values of a target
  field in the entries whose filter field has the value, within a period. The date
  clause may be missing, and is written only where both bounds are given. The value
  stands between the quotes as it is.

  The two forms are tried in order. Blanks may stand around the words and around the
  equals sign; the words are lower-case. A text whose words have the first form is
  never read by the second.

  The value is what stands between the first equals sign and the first occurrence of
  the date keyword, or the end. The bounds stand behind the keyword, on the two sides
  of the first `and`. From all three the quotes are removed, wherever they stand, and
  then the blanks at the ends. A date clause without two good bounds is left out, with
  a warning.

  A script holds a query on each line. Lines are trimmed; blank lines and lines that
  begin with `#` are no queries. The bytes are decoded line by line, and one line that
  is no text spoils the whole, be it a comment.
-/

import ActivityLog.Entry
import ActivityLog.Text.Basic
import ActivityLog.Timestamp

namespace ActivityLog.Query

/-! ## Fields -/

inductive Field where
  | ip
  | user
  | date
  | event
  | status
  deriving DecidableEq, Repr

namespace Field

def all : List Field := [.ip, .user, .date, .event, .status]

def token : Field → Text
  | .ip => "ip".toList
  | .user => "user".toList
  | .date => "date".toList
  | .event => "event".toList
  | .status => "status".toList

instance : Worded Field where
  vocabulary := .field
  all := all
  token := token
  mem_all f := by cases f <;> decide
  token_inj {a b} h := by cases a <;> cases b <;> first | rfl | exact absurd h (by decide)

def read : Text → Except UnknownToken Field := readToken

def read? (text : Text) : Option Field := (read text).toOption

end Field

/-! ## Requests -/

/-- A question about the entries whose filter field has a given value. -/
structure Lookup where
  target : Field
  filter : Field
  /-- The value as text, not yet read as a date, event or status. -/
  value : Text
  period : Option Period := none
  deriving DecidableEq, Repr

inductive Request where
  /-- All values of the field. -/
  | all (field : Field)
  | lookup (lookup : Lookup)
  deriving DecidableEq, Repr

def rangeKeyword : Text := "and date between".toList

/-- The date clause; nothing unless both bounds are given. -/
def writePeriod : Option Period → Text
  | some ⟨some after, some before⟩ =>
    ' ' :: rangeKeyword ++ " \"".toList ++ after.write ++ "\" and \"".toList ++ before.write ++ ['"']
  | _ => []

def Request.write : Request → Text
  | .all field => "get ".toList ++ field.token
  | .lookup l =>
    "get ".toList ++ l.target.token ++ " for ".toList ++ l.filter.token ++ " = \"".toList ++
      l.value ++ '"' :: writePeriod l.period

/-! ## Warnings -/

/-- What was left out of a query, and why. -/
inductive Warning where
  /-- The date clause has one bound only; `clause` is what follows the keyword. -/
  | missingBound (clause : Text)
  /-- A bound of the date clause is no timestamp. -/
  | badBound (error : Timestamp.ReadError)
  /-- The value of a date filter is no timestamp. -/
  | badDate (error : Timestamp.ReadError)
  deriving DecidableEq, Repr

def Warning.message : Warning → Text
  | .missingBound _ => "date range needs two bounds, ignoring it".toList
  | .badBound _ => "bad date range bound, ignoring the range".toList
  | .badDate _ => "cannot parse date filter value".toList

/-- A result, and the warnings given on the way to it, in order. -/
structure Noted (α : Type) where
  value : α
  warnings : List Warning := []
  deriving DecidableEq, Repr

/-! ## Words -/

/-- What follows the word, which blanks may precede. -/
def afterWord? (word text : Text) : Option Text := Text.dropMark? word (Text.trimStart text)

def afterBlanks? : Text → Option Text
  | [] => none
  | c :: rest => if Text.isBlank c then some (Text.trimStart rest) else none

def spanSome? (p : Char → Bool) (text : Text) : Option (Text × Text) :=
  match text.takeWhile p with
  | [] => none
  | word => some (word, text.dropWhile p)

def afterGet? (text : Text) : Option Text := afterWord? "get".toList text >>= afterBlanks?

/-! ## The two forms -/

/-- The word of the form `get <word>`. -/
def shortForm? (text : Text) : Option Text := do
  let text ← afterGet? text
  let (word, rest) ← spanSome? (fun c => !Text.isBlank c) text
  if Text.isAllBlank rest then some word else none

/-- The three parts of the form `get <target> for <filter> = <rest>`. -/
def longForm? (text : Text) : Option (Text × Text × Text) := do
  let isPlain c := !Text.isBlank c && c != '='
  let text ← afterGet? text
  let (target, text) ← spanSome? isPlain text
  let text ← afterBlanks? text
  let text ← Text.dropMark? "for".toList text
  let text ← afterBlanks? text
  let (filter, text) ← spanSome? isPlain text
  let rest ← afterWord? ['='] text
  return (target, filter, rest)

/-! ## Value and date clause -/

/-- The text without its quotes and then without the blanks at its ends. -/
def unquote (text : Text) : Text := Text.trim (text.filter (· != '"'))

def readPeriod (clause : Text) : Noted (Option Period) :=
  match Text.splitOnce "and".toList clause with
  | none => { value := none, warnings := [.missingBound (Text.trim clause)] }
  | some (after, before) =>
    match Timestamp.read (unquote after), Timestamp.read (unquote before) with
    | .ok after, .ok before => { value := some (.between after before) }
    | .error e, _ => { value := none, warnings := [.badBound e] }
    | .ok _, .error e => { value := none, warnings := [.badBound e] }

def readCondition (text : Text) : Text × Noted (Option Period) :=
  match Text.splitOnce rangeKeyword text with
  | some (value, clause) => (unquote value, readPeriod clause)
  | none => (unquote text, { value := none })

/-! ## The whole -/

/-- The request that the text writes, with the warnings of its date clause; `none` where the
    text is no query. Target and filter have to be different fields. -/
def Request.readNoted? (text : Text) : Option (Noted Request) :=
  match shortForm? text with
  | some word => (Field.read? word).map fun field => { value := .all field }
  | none => do
    let (target, filter, rest) ← longForm? text
    let target ← Field.read? target
    let filter ← Field.read? filter
    if target = filter then none
    else
      let (value, period) := readCondition rest
      return { value := .lookup { target, filter, value, period := period.value },
               warnings := period.warnings }

def Request.read? (text : Text) : Option Request := (Request.readNoted? text).map (·.value)

example : Request.read? " get\tip ".toList = some (.all .ip) := by decide
example : Request.read? "get ip for user=\"a\" b and date between 1 ".toList =
    some (.lookup ⟨.ip, .user, "a b".toList, none⟩) := by decide

/-! ## Scripts -/

/-- The trimmed line says something: it is not blank and no comment. -/
def isQueryLine : Text → Bool
  | [] => false
  | c :: _ => c != '#'

def queryLines (lines : List Text) : List Text := (lines.map Text.trim).filter isQueryLine

/-- The queries that the bytes hold; none where a line is no text. -/
def readScript? (bytes : Bytes) : Option (List Text) :=
  ((Text.pieces 10 bytes).mapM Text.decode?).map queryLines

end ActivityLog.Query
