/-
  ActivityLog.Timestamp — moments of the Gregorian calendar, written, read and compared.

  A `Timestamp` is a date and a time of day without a zone. The calendar runs
  backwards without a break (the year before 1 is 0, then -1) from year -262143 to
  year 262142, with the Gregorian leap rule throughout. Second 60 exists in every
  minute: it is a leap second, after second 59 of its minute and before the next
  minute. The type holds real moments only (`IsMoment`). Time order is the order of
  year, month, day, hour, minute and second, the most significant first.

  A timestamp is written `day.month.year hour:minute:second`. Every part has two
  digits but the year: a year from 0 to 9999 has four, any other a sign and at least
  four. It is read more freely:
  - blanks may stand in front of every number, and any number of them, none
    included, between the date and the time;
  - a part other than the year has one or two digits; a year without a sign has one
    to four, a year behind a sign any number of digits.

  The first fault met decides. A number out of the bounds of its part is out of range
  at once; text left over is reported before the date is looked up in the calendar; a
  day that its month does not have is out of range.

  Neither bound of a `Period` belongs to it, and either may be missing. A period whose
  lower bound is not before its upper one holds no moment.
-/

import ActivityLog.Ordered
import ActivityLog.Text.Basic
import ActivityLog.Text.Decimal
import ActivityLog.Text.Quoted

namespace ActivityLog

/-! ## The calendar -/

def isLeapYear (year : Int) : Bool := year % 4 == 0 && (year % 100 != 0 || year % 400 == 0)

/-- The days of the month, counted from January as 1; no other number is a month. -/
def daysInMonth (year : Int) (month : Nat) : Nat :=
  match month with
  | 1 | 3 | 5 | 7 | 8 | 10 | 12 => 31
  | 4 | 6 | 9 | 11 => 30
  | 2 => if isLeapYear year then 29 else 28
  | _ => 0

/-- The numbers name a day of the calendar and a second of that day. -/
def IsMoment (year : Int) (month day hour minute second : Nat) : Prop :=
  -262143 ≤ year ∧ year ≤ 262142 ∧ 1 ≤ day ∧ day ≤ daysInMonth year month ∧
    hour ≤ 23 ∧ minute ≤ 59 ∧ second ≤ 60

instance (year : Int) (month day hour minute second : Nat) :
    Decidable (IsMoment year month day hour minute second) := by unfold IsMoment; infer_instance

example : daysInMonth 2024 2 = 29 ∧ daysInMonth 1900 2 = 28 ∧ daysInMonth (-4) 2 = 29 := by decide

/-! ## Timestamps -/

/-- A moment of the calendar. -/
structure Timestamp where
  year : Int
  month : Nat
  day : Nat
  hour : Nat
  minute : Nat
  second : Nat
  isMoment : IsMoment year month day hour minute second
  deriving DecidableEq, Repr

namespace Timestamp

def ofParts? (year : Int) (month day hour minute second : Nat) : Option Timestamp :=
  if h : IsMoment year month day hour minute second then
    some ⟨year, month, day, hour, minute, second, h⟩
  else none

/-! ## Time order -/

/-- The numbers that decide the order, the most significant first. -/
def parts (t : Timestamp) : List Int := [t.year, t.month, t.day, t.hour, t.minute, t.second]

theorem parts_inj {s t : Timestamp} (h : s.parts = t.parts) : s = t := by
  cases s
  cases t
  simp only [parts, List.cons.injEq, mk.injEq] at h ⊢
  omega

instance : Ord Timestamp := orderBy parts

instance : Std.TransOrd Timestamp := transOrd_orderBy parts

instance : Std.LawfulEqOrd Timestamp := lawfulEqOrd_orderBy parts_inj

instance : LT Timestamp := ltOfOrd

/-! ## Writing -/

/-- The layout by its customary field codes. -/
def layout : Text := "%d.%m.%Y %H:%M:%S".toList

/-- The year, with a sign where four digits do not tell it. -/
def writeYear (year : Int) : Text :=
  if 0 ≤ year ∧ year ≤ 9999 then Text.padded 4 year.toNat
  else (if year < 0 then '-' else '+') :: Text.padded 4 year.natAbs

def write (t : Timestamp) : Text :=
  Text.padded 2 t.day ++ '.' :: Text.padded 2 t.month ++ '.' :: writeYear t.year ++
    ' ' :: Text.padded 2 t.hour ++ ':' :: Text.padded 2 t.minute ++ ':' :: Text.padded 2 t.second

example : write ⟨2028, 2, 29, 5, 4, 60, by decide⟩ = "29.02.2028 05:04:60".toList := by decide
example : writeYear (-44) = "-0044".toList ∧ writeYear 12020 = "+12020".toList := by decide

/-! ## Faults -/

inductive Fault where
  /-- The text ends where a number or a mark is due. -/
  | premature
  /-- Another character stands where a number or a mark is due. -/
  | invalid
  /-- A number is out of its bounds, or the calendar has no such day. -/
  | outOfRange
  /-- Something follows the seconds. -/
  | trailing
  deriving DecidableEq, Repr

def Fault.message : Fault → Text
  | .premature => "premature end of input".toList
  | .invalid => "input contains invalid characters".toList
  | .outOfRange => "input is out of range".toList
  | .trailing => "trailing input".toList

/-- A text that is no timestamp: the trimmed text and what is wrong with it. -/
structure ReadError where
  input : Text
  fault : Fault
  deriving DecidableEq, Repr

def ReadError.message (e : ReadError) : Text :=
  "invalid timestamp ".toList ++ Text.quoted e.input ++ ": ".toList ++ e.fault.message

/-! ## Parts -/

/-- One or more digits, at most `width` of them where a width is given, and the rest. -/
def readDigits (width : Option Nat) (text : Text) : Except Fault (Nat × Text) :=
  let reach := match width with
    | some n => text.take n
    | none => text
  let digits := reach.takeWhile Char.isDigit
  if !digits.isEmpty then .ok (Text.natOf digits, text.drop digits.length)
  else if text.isEmpty then .error .premature
  else .error .invalid

def readPart (low high : Nat) (text : Text) : Except Fault (Nat × Text) := do
  let (n, rest) ← readDigits (some 2) (Text.trimStart text)
  if low ≤ n ∧ n ≤ high then .ok (n, rest) else .error .outOfRange

/-- A year behind any blanks: up to four digits, or a sign and any number of digits. A year
    beyond 32 bits is out of range here, before anything behind it is looked at. -/
def readYear (text : Text) : Except Fault (Int × Text) := do
  let (year, rest) ← match Text.trimStart text with
    | '-' :: text => (readDigits none text).map fun (n, rest) => (-(n : Int), rest)
    | '+' :: text => (readDigits none text).map fun (n, rest) => ((n : Int), rest)
    | text => (readDigits (some 4) text).map fun (n, rest) => ((n : Int), rest)
  if -2147483648 ≤ year ∧ year ≤ 2147483647 then .ok (year, rest) else .error .outOfRange

def readMark (mark : Char) : Text → Except Fault Text
  | [] => .error .premature
  | c :: rest => if c = mark then .ok rest else .error .invalid

/-! ## The whole -/

def readTrimmed (text : Text) : Except Fault Timestamp := do
  let (day, text) ← readPart 1 31 text
  let text ← readMark '.' text
  let (month, text) ← readPart 1 12 text
  let text ← readMark '.' text
  let (year, text) ← readYear text
  let text := Text.trimStart text
  let (hour, text) ← readPart 0 23 text
  let text ← readMark ':' text
  let (minute, text) ← readPart 0 59 text
  let text ← readMark ':' text
  let (second, text) ← readPart 0 60 text
  if !text.isEmpty then .error .trailing
  else match ofParts? year month day hour minute second with
    | some t => .ok t
    | none => .error .outOfRange

def read (text : Text) : Except ReadError Timestamp :=
  (readTrimmed (Text.trim text)).mapError fun fault => ⟨Text.trim text, fault⟩

def read? (text : Text) : Option Timestamp := (read text).toOption

example : read? " 1. 2.-44 3:4:60".toList = some ⟨-44, 2, 1, 3, 4, 60, by decide⟩ := by decide
example : readTrimmed "29.02.2023 00:00:00".toList = .error .outOfRange := rfl
example : readTrimmed "32.x".toList = .error .outOfRange ∧ readTrimmed "31.x".toList = .error .invalid :=
  ⟨rfl, rfl⟩

end Timestamp

/-! ## Periods -/

/-- The moments after one bound and before another; a missing bound does not restrict. -/
structure Period where
  after : Option Timestamp := none
  before : Option Timestamp := none
  deriving DecidableEq, Repr

namespace Period

def all : Period := {}

def since (t : Timestamp) : Period := { after := some t }

def upTo (t : Timestamp) : Period := { before := some t }

def between (lower upper : Timestamp) : Period := ⟨some lower, some upper⟩

def dropUpper (p : Period) : Period := { p with before := none }

def isAfterLower (p : Period) (t : Timestamp) : Bool := p.after.all fun lower => compare lower t == .lt

def isBeforeUpper (p : Period) (t : Timestamp) : Bool := p.before.all fun upper => compare t upper == .lt

/-- The moment lies strictly between the bounds. -/
def contains (p : Period) (t : Timestamp) : Bool := p.isAfterLower t && p.isBeforeUpper t

end Period
end ActivityLog
