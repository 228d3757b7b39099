/-
  ActivityLog.Text.Decimal — whole numbers in decimal digits.

  Numbers are written with ASCII digits only: a number without leading zeros, a
  negative one behind a minus sign, a padded one with zeros up to its width. They
  are read back digit by digit (`natOf`); `int32?` reads a number of 32 bits with
  an optional sign and says in `IntFault` why a text is none.
-/

import ActivityLog.Text.Basic

namespace ActivityLog.Text

/-! ## Writing -/

def ofNat (n : Nat) : Text := Nat.toDigits 10 n

def ofInt : Int → Text
  | .ofNat n => ofNat n
  | .negSucc n => '-' :: ofNat (n + 1)

def padded (width n : Nat) : Text := (ofNat n).leftpad width '0'

/-! ## Reading -/

def natOf (digits : Text) : Nat := Nat.ofDigitChars 10 digits 0

theorem natOf_ofNat (n : Nat) : natOf (ofNat n) = n := Nat.ofDigitChars_ten_toDigits

/-- The value of a hexadecimal digit of either case. -/
def hexDigit? (c : Char) : Option Nat :=
  if c.isDigit then some (c.toNat - '0'.toNat)
  else if 'a' ≤ c ∧ c ≤ 'f' then some (c.toNat - 'a'.toNat + 10)
  else if 'A' ≤ c ∧ c ≤ 'F' then some (c.toNat - 'A'.toNat + 10)
  else none

def spanDigits (text : Text) : Text × Text := (text.takeWhile Char.isDigit, text.dropWhile Char.isDigit)

inductive IntFault where
  | empty
  | badDigit
  | tooLarge
  | tooSmall
  deriving DecidableEq, Repr

def IntFault.message : IntFault → Text
  | .empty => "cannot parse integer from empty string".toList
  | .badDigit => "invalid digit found in string".toList
  | .tooLarge => "number too large to fit in target type".toList
  | .tooSmall => "number too small to fit in target type".toList

/-- The sign in front of a number, if one is written, and the digits behind it. -/
def splitSign : Text → Bool × Text
  | '-' :: digits => (true, digits)
  | '+' :: digits => (false, digits)
  | digits => (false, digits)

/-- A whole number from -2147483648 to 2147483647: an optional sign and one or more digits.
    A number out of bounds is told from a bad digit by which of the two comes first. -/
def int32? (text : Text) : Except IntFault Int :=
  if text.isEmpty then .error .empty
  else
    let (negative, digits) := splitSign text
    if digits.isEmpty then .error .badDigit
    else go negative 0 digits
where
  /-- Adds one digit after another to `value`, stopping at the first that does not fit. -/
  go (negative : Bool) (value : Nat) : Text → Except IntFault Int
    | [] => .ok (if negative then -value else value)
    | c :: rest =>
      if !c.isDigit then .error .badDigit
      else
        let next := 10 * value + (c.toNat - '0'.toNat)
        if negative then
          if next ≤ 2147483648 then go negative next rest else .error .tooSmall
        else
          if next ≤ 2147483647 then go negative next rest else .error .tooLarge

example : ofInt (-2147483648) = "-2147483648".toList ∧ padded 4 44 = "0044".toList := by decide
example : int32? "+7".toList = .ok 7 ∧ int32? "-".toList = .error .badDigit ∧
    int32? "2147483648".toList = .error .tooLarge := ⟨rfl, rfl, rfl⟩

end ActivityLog.Text
