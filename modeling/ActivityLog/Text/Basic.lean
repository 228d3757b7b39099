/-
  ActivityLog.Text.Basic — text as a list of characters, and how it is cut.

  Everything the library reads or writes is a `Text`: a list of Unicode scalar
  values. Cutting is done in three ways only:
  - `pieces sep` cuts at every occurrence of one symbol; there is always one piece
    more than there are separators, so the empty text is one empty piece;
  - `splitOnce mark` cuts at the first occurrence of a marker and drops it;
  - `joinWith sep` is the way back from `pieces sep`.

  A character is blank when it has the Unicode property White_Space; the zero-width
  space and the byte order mark have not. `trim` drops blanks at both ends and keeps
  those inside.

  A line ends at a line feed; what follows the last line feed is a line only if it
  is not empty. A carriage return right before the line feed belongs to the line
  end; one at the end of an unterminated last line belongs to the line.

  A byte sequence is text when it is the UTF-8 form of some characters; which
  characters is then settled (`decode?_eq_some_iff`), so decoding loses nothing.
-/

namespace ActivityLog

abbrev Text := List Char

namespace Text

/-! ## Cutting at every separator -/

/-- The stretches of `xs` between the occurrences of `sep`, in order. -/
def pieces {α : Type} [DecidableEq α] (sep : α) : List α → List (List α)
  | [] => [[]]
  | x :: xs =>
    if x = sep then [] :: pieces sep xs
    else match pieces sep xs with
      | [] => [[x]]
      | first :: more => (x :: first) :: more

def joinWith {α : Type} (sep : List α) : List (List α) → List α
  | [] => []
  | [only] => only
  | first :: second :: more => first ++ sep ++ joinWith sep (second :: more)

theorem pieces_ne_nil {α : Type} [DecidableEq α] (sep : α) (xs : List α) : pieces sep xs ≠ [] := by
  cases xs with
  | nil => simp [pieces]
  | cons x xs =>
    unfold pieces
    split
    · simp
    · split <;> simp

/-- Joining the pieces at the separator gives the whole back. -/
theorem joinWith_pieces {α : Type} [DecidableEq α] (sep : α) (xs : List α) :
    joinWith [sep] (pieces sep xs) = xs := by
  induction xs with
  | nil => rfl
  | cons x xs ih =>
    unfold pieces
    split
    · rename_i h
      cases hp : pieces sep xs with
      | nil => exact absurd hp (pieces_ne_nil sep xs)
      | cons first more => rw [hp] at ih; simp [joinWith, ih, h]
    · cases hp : pieces sep xs with
      | nil => exact absurd hp (pieces_ne_nil sep xs)
      | cons first more =>
        rw [hp] at ih
        cases more <;> simp_all [joinWith]

/-! ## Cutting at the first marker -/

/-- What follows `mark` at the front of the text; `none` where the text does not begin with it. -/
def dropMark? (mark : Text) (text : Text) : Option Text :=
  match mark, text with
  | [], text => some text
  | _ :: _, [] => none
  | m :: mark, c :: text => if c = m then dropMark? mark text else none

theorem dropMark?_eq_some_iff {mark text rest : Text} :
    dropMark? mark text = some rest ↔ text = mark ++ rest := by
  induction mark generalizing text with
  | nil => simp [dropMark?]
  | cons m mark ih =>
    cases text with
    | nil => simp [dropMark?]
    | cons c text =>
      by_cases h : c = m
      · simp [dropMark?, h, ih]
      · simp [dropMark?, h]

/-- The text before and after the first occurrence of `mark`; `none` where it does not occur. -/
def splitOnce (mark : Text) : Text → Option (Text × Text)
  | [] => if mark.isEmpty then some ([], []) else none
  | c :: rest =>
    match dropMark? mark (c :: rest) with
    | some tail => some ([], tail)
    | none => (splitOnce mark rest).map fun (before, after) => (c :: before, after)

/-- A cut loses the marker and nothing else. -/
theorem eq_append_of_splitOnce {mark text before after : Text}
    (h : splitOnce mark text = some (before, after)) : text = before ++ mark ++ after := by
  induction text generalizing before with
  | nil =>
    unfold splitOnce at h
    split at h <;> simp_all
  | cons c rest ih =>
    unfold splitOnce at h
    split at h
    · rename_i tail ht
      simp_all [dropMark?_eq_some_iff]
    · obtain ⟨⟨b, a⟩, hs, he⟩ := Option.map_eq_some_iff.mp h
      simp only [Prod.mk.injEq] at he
      obtain ⟨rfl, rfl⟩ := he
      simp [ih hs]

/-! ## Blanks -/

/-- The property White_Space. -/
def isBlank (c : Char) : Bool :=
  let n := c.toNat
  (9 ≤ n && n ≤ 13) || n == 0x20 || n == 0x85 || n == 0xA0 || n == 0x1680 ||
    (0x2000 ≤ n && n ≤ 0x200A) || n == 0x2028 || n == 0x2029 || n == 0x202F || n == 0x205F ||
    n == 0x3000

def trimStart (text : Text) : Text := text.dropWhile isBlank

def trimEnd (text : Text) : Text := (text.reverse.dropWhile isBlank).reverse

def trim (text : Text) : Text := trimEnd (trimStart text)

def isAllBlank (text : Text) : Bool := text.all isBlank

example : trim " \t a b\u3000\n".toList = "a b".toList := by decide
example : isBlank '\u200b' = false ∧ isBlank '\ufeff' = false := by decide

/-! ## Lines -/

def dropReturn (line : Text) : Text := if line.getLast? = some '\r' then line.dropLast else line

/-- The lines of the text: every terminated stretch without its line end, then the rest as it
    is, unless it is empty. -/
def lines (text : Text) : List Text :=
  go (pieces '\n' text)
where
  /-- All pieces but the last were terminated. -/
  go : List Text → List Text
    | [] => []
    | [last] => if last.isEmpty then [] else [last]
    | piece :: next :: more => dropReturn piece :: go (next :: more)

def numberedLines (text : Text) : List (Nat × Text) :=
  ((lines text).zipIdx 1).map fun (line, n) => (n, line)

example : lines "a\r\nb\n\nc\r".toList = ["a".toList, "b".toList, [], "c\r".toList] := by decide
example : lines "a\n".toList = ["a".toList] ∧ lines [] = [] := by decide

end Text

/-! ## Bytes -/

abbrev Bytes := List UInt8

namespace Text

def encode (text : Text) : Bytes := text.flatMap String.utf8EncodeChar

/-- The text whose UTF-8 form the bytes are, if there is one. -/
def decode? (bytes : Bytes) : Option Text := bytes.toByteArray.utf8Decode?.map Array.toList

/-- Decoding accepts exactly what encoding produces. -/
theorem decode?_eq_some_iff {bytes : Bytes} {text : Text} :
    decode? bytes = some text ↔ bytes = encode text := by
  constructor
  · intro h
    obtain ⟨chars, hd, rfl⟩ := Option.map_eq_some_iff.mp h
    have he := ByteArray.utf8Encode_get_utf8Decode? (b := bytes.toByteArray) (h := by simp [hd])
    simp only [hd, Option.get_some, List.utf8Encode] at he
    exact (List.toByteArray_inj.mp he).symm
  · rintro rfl
    have := List.utf8Decode?_utf8Encode (l := text)
    simp only [List.utf8Encode] at this
    simp [decode?, encode, this]

/-- The bytes begin the UTF-8 form of a character and do not end it. -/
def isStump : Bytes → Bool
  | [a] => 0xC2 ≤ a && a ≤ 0xF4
  | [a, b] => 0xE0 ≤ a && a ≤ 0xF4 && isSecond a b
  | [a, b, c] => 0xF0 ≤ a && a ≤ 0xF4 && isSecond a b && 0x80 ≤ c && c ≤ 0xBF
  | _ => false
where
  isSecond (a b : UInt8) : Bool :=
    (if a = 0xE0 then 0xA0 else if a = 0xF0 then 0x90 else 0x80) ≤ b &&
      b ≤ (if a = 0xED then 0x9F else if a = 0xF4 then 0x8F else 0xBF)

/-- The bytes as they are shown: characters where there are some, and a replacement character for each
    stretch that is none, which is a stump or a single byte. -/
def lossy (bytes : Bytes) : Text := go [] bytes
where
  go (stump : Bytes) : Bytes → Text
    | [] => if stump.isEmpty then [] else ['\ufffd']
    | b :: rest =>
      match decode? (stump ++ [b]) with
      | some text => text ++ go [] rest
      | none =>
        if isStump (stump ++ [b]) then go (stump ++ [b]) rest
        else
          -- The byte does not go on from the stump, so it is looked at by itself.
          (if stump.isEmpty then [] else ['\ufffd']) ++ match decode? [b] with
            | some text => text ++ go [] rest
            | none => if isStump [b] then go [b] rest else '\ufffd' :: go [] rest

example : lossy [0x63, 0xE9, 0x2E, 0xE2, 0x82, 0xE2, 0x82, 0xAC] = "c\ufffd.\ufffd€".toList := by decide +kernel

end Text
end ActivityLog
