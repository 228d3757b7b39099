/-
  ActivityLog.Toml.Scalar — numbers, truth values and moments of a TOML document.

  A scalar is a run of letters, digits and the signs `+ - _ . :`; a date may be followed
  by one space and a time. Its form settles its type:
  - digits may be parted by single underscores; a decimal number has no leading zero;
  - an integer is decimal, or hexadecimal, octal or binary behind `0x`, `0o` or `0b`
    without a sign, and fits 64 bits with a sign;
  - a float has a fraction, an exponent or both, or is `inf` or `nan`; a positive one
    may not exceed the largest double;
  - a moment is a date, a time, or a date, a separator and a time with or without an
    offset; the day exists in its month, and second 60 is allowed.
-/

import ActivityLog.Text.Decimal
import ActivityLog.Timestamp
import ActivityLog.Toml.Table

namespace ActivityLog.Toml

/-! ## Digits -/

/-- Digits without the underscores between them; none where an underscore has no digit on either
    side, or where no digit stands. -/
def digits? (isDigit : Char → Bool) : Text → Option Text
  | [] => none
  | [c] => if isDigit c then some [c] else none
  | c :: d :: rest =>
    if !isDigit c then none
    else if d = '_' then (digits? isDigit rest).map (c :: ·)
    else (digits? isDigit (d :: rest)).map (c :: ·)

/-- Decimal digits without a leading zero, unless zero is the number. -/
def plainDigits? (text : Text) : Option Text :=
  if text = ['0'] then some text
  else if text.head? = some '0' then none
  else digits? Char.isDigit text

/-! ## Integers -/

def fitsInt64 (negative : Bool) (n : Nat) : Bool :=
  n ≤ 9223372036854775807 || (negative && n == 9223372036854775808)

def valueOf (base : Nat) (digits : Text) : Nat :=
  digits.foldl (fun n c => base * n + (Text.hexDigit? c).getD 0) 0

def isInteger (text : Text) : Bool :=
  match text with
  | '0' :: 'x' :: rest => based 16 (fun c => (Text.hexDigit? c).isSome) rest
  | '0' :: 'o' :: rest => based 8 (fun c => '0' ≤ c && c ≤ '7') rest
  | '0' :: 'b' :: rest => based 2 (fun c => c == '0' || c == '1') rest
  | text =>
    let (negative, rest) := Text.splitSign text
    match plainDigits? rest with
    | some digits => fitsInt64 negative (Text.natOf digits)
    | none => false
where
  based (base : Nat) (isDigit : Char → Bool) (text : Text) : Bool :=
    match digits? isDigit text with
    | some digits => fitsInt64 false (valueOf base digits)
    | none => false

/-! ## Floats -/

/-- The decimal number `n · 10^e` rounds to no finite double: it is at least halfway from the
    largest one to the next power of two. -/
def exceedsDouble (n : Nat) (e : Int) : Bool :=
  let size := (Text.ofNat n).length + e
  if n = 0 || size < 300 then false
  else if 400 < size then true
  else
    let limit := Nat.pow 2 1024 - Nat.pow 2 970
    if 0 ≤ e then limit ≤ n * Nat.pow 10 e.toNat else limit * Nat.pow 10 e.natAbs ≤ n

/-- The text at the first character that satisfies `p`, without that character. -/
def splitAt? (p : Char → Bool) (text : Text) : Option (Text × Text) :=
  match text.dropWhile (fun c => !p c) with
  | [] => none
  | _ :: after => some (text.takeWhile (fun c => !p c), after)

def isFloat (text : Text) : Bool :=
  let (negative, rest) := Text.splitSign text
  if rest = "inf".toList || rest = "nan".toList then true
  else
    let (mantissa, exponent) := match splitAt? (fun c => c == 'e' || c == 'E') rest with
      | some (mantissa, exponent) => (mantissa, some exponent)
      | none => (rest, none)
    let (whole, fraction) := match splitAt? (· == '.') mantissa with
      | some (whole, fraction) => (whole, some fraction)
      | none => (mantissa, none)
    let readExponent (text : Text) : Option Int :=
      let (negative, digits) := Text.splitSign text
      (digits? Char.isDigit digits).map fun digits =>
        if negative then -(Text.natOf digits : Int) else Text.natOf digits
    let fractionDigits := match fraction with
      | some text => digits? Char.isDigit text
      | none => some []
    let power := match exponent with
      | some text => readExponent text
      | none => some 0
    match plainDigits? whole, fractionDigits, power with
    | some whole, some decimals, some power =>
      (fraction.isSome || exponent.isSome) &&
        (negative || !exceedsDouble (Text.natOf (whole ++ decimals)) (power - decimals.length))
    | _, _, _ => false

/-! ## Moments -/

def twoDigits? (high : Nat) : Text → Option (Nat × Text)
  | a :: b :: rest =>
    if a.isDigit && b.isDigit && Text.natOf [a, b] ≤ high then some (Text.natOf [a, b], rest) else none
  | _ => none

def afterTime? (text : Text) : Option Text := do
  let (_, text) ← twoDigits? 23 text
  let text ← Text.dropMark? [':'] text
  let (_, text) ← twoDigits? 59 text
  let text ← Text.dropMark? [':'] text
  let (_, text) ← twoDigits? 60 text
  match text with
  | '.' :: rest => if (rest.takeWhile Char.isDigit).isEmpty then none else some (rest.dropWhile Char.isDigit)
  | text => some text

def isOffset : Text → Bool
  | [] => true
  | ['Z'] | ['z'] => true
  | sign :: rest =>
    (sign == '+' || sign == '-') && ((do
      let (_, rest) ← twoDigits? 23 rest
      let rest ← Text.dropMark? [':'] rest
      twoDigits? 59 rest) : Option (Nat × Text)).any fun (_, rest) => rest.isEmpty

def afterDate? (text : Text) : Option Text := do
  let (century, text) ← twoDigits? 99 text
  let (years, text) ← twoDigits? 99 text
  let text ← Text.dropMark? ['-'] text
  let (month, text) ← twoDigits? 12 text
  let text ← Text.dropMark? ['-'] text
  let (day, text) ← twoDigits? 31 text
  if 1 ≤ day && day ≤ daysInMonth (100 * century + years) month then some text else none

def isTime (withOffset : Bool) (text : Text) : Bool :=
  (afterTime? text).any fun rest => rest.isEmpty || (withOffset && isOffset rest)

/-- The text is a moment without spaces. -/
def isMoment (text : Text) : Bool :=
  match afterDate? text with
  | none => isTime false text
  | some [] => true
  | some (separator :: rest) => (separator == 'T' || separator == 't') && isTime true rest

/-! ## Whole scalars -/

def isScalarChar (c : Char) : Bool := c.isAlphanum || c ∈ ['+', '-', '_', '.', ':']

def readScalar? (text : Text) : Option (Value × Text) :=
  let word := text.takeWhile isScalarChar
  let rest := text.dropWhile isScalarChar
  if word = "true".toList then some (.boolean true, rest)
  else if word = "false".toList then some (.boolean false, rest)
  else if isInteger word || isFloat word then some (.number word, rest)
  else if !isMoment word then none
  else if afterDate? word = some [] then
    match rest with
    | ' ' :: more =>
      let time := more.takeWhile isScalarChar
      if time.isEmpty then some (.moment word, rest)
      else if isTime true time then some (.moment (word ++ ' ' :: time), more.dropWhile isScalarChar)
      else none
    | _ => some (.moment word, rest)
  else some (.moment word, rest)

example : isInteger "-9_223_372_036_854_775_808".toList && isInteger "0xdead_BEEF".toList &&
    !isInteger "012".toList && !isInteger "1__2".toList := by decide +kernel
example : isFloat "6.02e+23".toList && isFloat "-inf".toList && !isFloat "1.".toList &&
    !isFloat "1e309".toList := by decide +kernel
example : isMoment "1979-05-27T07:32:00.5-07:00".toList && !isMoment "2023-02-29".toList := by
  decide +kernel

end ActivityLog.Toml
