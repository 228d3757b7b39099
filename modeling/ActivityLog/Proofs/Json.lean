/-
  ActivityLog.Proofs.Json — a value that is written as JSON is read back.

  The reader takes JSON in any of its spellings, not only as `Value.write` gives it. Blanks
  may stand around every value, name and mark. Any character of a string may be escaped, a
  character above U+FFFF by a pair of surrogates; the quote, the backslash and the controls
  below the space have to be. Only what a `Value` can be is read: of the numbers the natural
  ones, and neither truth values nor null.

  - `read?_write`: reading what was written gives the value, whatever characters its
    texts and names hold.
  - `not_control_of_mem_write`: no character below the space stands in what was
    written, so it is one line.

  The parts come first: what was written is read, whatever follows, and the rest is left.
  A number alone has no end of its own. It must not be followed by a digit, which
  behind a comma, a bracket or the end of the text it never is.
-/

import ActivityLog.Json
import ActivityLog.Proofs.Text.Decimal
import ActivityLog.Proofs.Text.Lines

namespace ActivityLog.Json

/-! ## Strings -/

def escapeLetter? : Char → Option Char
  | '"' => some '"'
  | '\\' => some '\\'
  | '/' => some '/'
  | 'b' => some '\x08'
  | 'f' => some '\x0c'
  | 'n' => some '\n'
  | 'r' => some '\r'
  | 't' => some '\t'
  | _ => none

/-- Where reading stands inside a string. -/
inductive Place where
  | plain
  /-- Behind a backslash. -/
  | escape
  /-- Inside a character given by a number: the first surrogate, if there was one, how many digits are
      left, and the number so far. -/
  | number (first : Option Nat) (left value : Nat)
  /-- Behind a first surrogate; the second has to follow. -/
  | paired (first : Nat)
  /-- Behind the backslash of the second surrogate. -/
  | pairedEscape (first : Nat)

def withChar (c : Char) (read : Option (Text × Text)) : Option (Text × Text) :=
  read.map fun (content, rest) => (c :: content, rest)

def readChars? (place : Place) : Text → Option (Text × Text)
  | [] => none
  | c :: rest =>
    match place with
    | .plain =>
      if c = '"' then some ([], rest)
      else if c = '\\' then readChars? .escape rest
      else if c.toNat < 0x20 then none
      else withChar c (readChars? .plain rest)
    | .escape =>
      if c = 'u' then readChars? (.number none 4 0) rest
      else match escapeLetter? c with
        | some d => withChar d (readChars? .plain rest)
        | none => none
    | .number first left value =>
      match Text.hexDigit? c with
      | none => none
      | some digit =>
        let value := 16 * value + digit
        let isSecond := 0xDC00 ≤ value && value ≤ 0xDFFF
        if 1 < left then readChars? (.number first (left - 1) value) rest
        else match first with
          | none =>
            if 0xD800 ≤ value && value ≤ 0xDBFF then readChars? (.paired value) rest
            else if isSecond then none
            else withChar (Char.ofNat value) (readChars? .plain rest)
          | some first =>
            let scalar := 0x10000 + 0x400 * (first - 0xD800) + (value - 0xDC00)
            if isSecond then withChar (Char.ofNat scalar) (readChars? .plain rest) else none
    | .paired first => if c = '\\' then readChars? (.pairedEscape first) rest else none
    | .pairedEscape first => if c = 'u' then readChars? (.number (some first) 4 0) rest else none

/-! ## Lists of items -/

def isBlank (c : Char) : Bool := c = ' ' || c = '\t' || c = '\n' || c = '\r'

def skipBlanks (text : Text) : Text := text.dropWhile isBlank

def readItems? {α : Type} (close : Char) (readItem : Text → Option (α × Text)) (text : Text) :
    Option (List α × Text) :=
  match readItem text with
  | none => none
  | some (item, rest) =>
    match skipBlanks rest with
    | [] => none
    | mark :: more =>
      if mark = close then some ([item], more)
      else if mark = ',' ∧ more.length < text.length then
        (readItems? close readItem more).map fun (items, rest) => (item :: items, rest)
      else none
termination_by text.length

def readList? {α : Type} (close : Char) (readItem : Text → Option (α × Text)) (text : Text) :
    Option (List α × Text) :=
  match skipBlanks text with
  | [] => none
  | c :: rest => if c = close then some ([], rest) else readItems? close readItem text

/-! ## Values -/

def readNumber? (text : Text) : Option (Value × Text) :=
  let (digits, rest) := Text.spanDigits text
  if digits.isEmpty || (digits.head? = some '0' && digits ≠ ['0']) then none
  else some (.number (Text.natOf digits), rest)

def readMember? (readValue : Text → Option (Value × Text)) (text : Text) : Option ((Text × Value) × Text) := do
  let rest ← Text.dropMark? ['"'] (skipBlanks text)
  let (name, rest) ← readChars? .plain rest
  let rest ← Text.dropMark? [':'] (skipBlanks rest)
  let (value, rest) ← readValue rest
  return ((name, value), rest)

/-- A value that nests at most `depth` deep, and what follows. -/
def readValue? (depth : Nat) (text : Text) : Option (Value × Text) :=
  match depth with
  | 0 => none
  | depth + 1 =>
    match skipBlanks text with
    | [] => none
    | c :: rest =>
      if c = '"' then (readChars? .plain rest).map fun (content, rest) => (.string content, rest)
      else if c = '[' then (readList? ']' (readValue? depth) rest).map fun (items, rest) => (.array items, rest)
      else if c = '\x7b' then
        (readList? '\x7d' (readMember? (readValue? depth)) rest).map fun (members, rest) => (.object members, rest)
      else readNumber? (c :: rest)

/-- The value that the text stands for. No text nests deeper than it is long. -/
def read? (text : Text) : Option Value :=
  match readValue? text.length text with
  | some (value, rest) => if (skipBlanks rest).isEmpty then some value else none
  | none => none

example : (readChars? .plain "\\u00E9\\ud83d\\ude00\\/\\n\" :".toList) =
    some ("é😀/\n".toList, " :".toList) := by decide +kernel
example : (readChars? .plain "\\ud83d\"".toList).isNone ∧ (readChars? .plain "\n\"".toList).isNone := by
  decide +kernel

/-! ## Written strings -/

/-- The four digits that stand for a control. -/
theorem leftpad_toDigits_of_control {n : Nat} (h : n < 0x20) :
    (Nat.toDigits 16 n).leftpad 4 '0' = ['0', '0', (n / 16).digitChar, (n % 16).digitChar] := by
  have : ∀ n < 0x20, (Nat.toDigits 16 n).leftpad 4 '0' = ['0', '0', (n / 16).digitChar, (n % 16).digitChar] := by
    decide
  exact this n h

theorem readChars?_number {n : Nat} (h : n < 0x20) (rest : Text) :
    readChars? (.number none 4 0) ((Nat.toDigits 16 n).leftpad 4 '0' ++ rest) =
      withChar (Char.ofNat n) (readChars? .plain rest) := by
  have hzero : Text.hexDigit? '0' = some 0 := rfl
  have hlarge : Text.hexDigit? (n / 16).digitChar = some (n / 16) := Text.hexDigit?_digitChar (by omega)
  have hsmall : Text.hexDigit? (n % 16).digitChar = some (n % 16) := Text.hexDigit?_digitChar (by omega)
  have hn : 16 * (n / 16) + n % 16 = n := Nat.div_add_mod n 16
  have hfirst : ¬ 0xD800 ≤ n := by omega
  have hsecond : ¬ 0xDC00 ≤ n := by omega
  rw [leftpad_toDigits_of_control h]
  simp [readChars?, hzero, hlarge, hsmall, hn, hfirst, hsecond]

theorem readChars?_escapedChar (c : Char) (rest : Text) :
    readChars? .plain (escapedChar c ++ rest) = withChar c (readChars? .plain rest) := by
  unfold escapedChar
  split
  case h_8 hquote hbackslash _ _ _ _ _ =>
    by_cases hc : c.toNat < 0x20
    · rw [if_pos hc, List.append_assoc]
      show readChars? (.number none 4 0) ((Nat.toDigits 16 c.toNat).leftpad 4 '0' ++ rest) = _
      rw [readChars?_number hc, Char.ofNat_toNat]
    · rw [if_neg hc]
      show readChars? .plain (c :: rest) = _
      rw [readChars?]
      simp only [if_neg hc, if_neg (show ¬ c = '"' from hquote), if_neg (show ¬ c = '\\' from hbackslash)]
  all_goals rfl

/-- The content of a string is read up to the closing quote. -/
theorem readChars?_escaped (text rest : Text) :
    readChars? .plain (text.flatMap escapedChar ++ '"' :: rest) = some (text, rest) := by
  induction text with
  | nil => rfl
  | cons c text ih =>
    rw [List.flatMap_cons, List.append_assoc, readChars?_escapedChar, ih]
    rfl

/-! ## Written numbers -/

/-- No number is longer for what follows. -/
def EndsNumber (rest : Text) : Prop := ∀ c ∈ rest.head?, c.isDigit = false

theorem endsNumber_cons {c : Char} (h : c.isDigit = false) (rest : Text) : EndsNumber (c :: rest) := by
  intro d hd
  rw [← Option.mem_some.mp hd]
  exact h

theorem spanDigits_append {digits rest : Text} (h : ∀ c ∈ digits, c.isDigit = true) (hrest : EndsNumber rest) :
    Text.spanDigits (digits ++ rest) = (digits, rest) := by
  have hnone : rest.takeWhile Char.isDigit = [] ∧ rest.dropWhile Char.isDigit = rest := by
    cases rest with
    | nil => exact ⟨rfl, rfl⟩
    | cons c rest => simp [hrest c rfl]
  rw [Text.spanDigits, List.takeWhile_append_of_pos h, List.dropWhile_append_of_pos h, hnone.1, hnone.2,
    List.append_nil]

/-- Zero alone is written with a zero in front. -/
theorem head?_ofNat_eq_zero_iff {n : Nat} : (Text.ofNat n).head? = some '0' ↔ n = 0 := by
  unfold Text.ofNat
  induction n using Nat.strongRecOn with
  | ind n ih =>
    by_cases h : n < 10
    · simp [Nat.toDigits_of_lt_base h, Nat.digitChar_eq_zero]
    · rw [Nat.toDigits_of_base_le (by decide) (by omega), List.head?_append_of_ne_nil _ Nat.toDigits_ne_nil,
        ih (n / 10) (by omega)]
      omega

theorem readNumber?_ofNat (n : Nat) {rest : Text} (hrest : EndsNumber rest) :
    readNumber? (Text.ofNat n ++ rest) = some (.number n, rest) := by
  have hne : (Text.ofNat n).isEmpty = false := by
    rw [List.isEmpty_eq_false_iff]
    exact Text.ofNat_ne_nil n
  have hzeros : (Text.ofNat n).head? = some '0' → Text.ofNat n = ['0'] := by
    intro h
    rw [head?_ofNat_eq_zero_iff.mp h]
    rfl
  rw [readNumber?, spanDigits_append (fun c => Text.isDigit_of_mem_ofNat) hrest]
  simp only [hne, Bool.false_or, Text.natOf_ofNat]
  rw [if_neg]
  intro h
  simp only [Bool.and_eq_true, decide_eq_true_eq] at h
  exact h.2 (hzeros h.1)

/-! ## Written lists -/

/-- A mark that ends a list and can be mistaken for nothing else in it. -/
structure IsClosing (close : Char) : Prop where
  not_blank : isBlank close = false
  not_digit : close.isDigit = false
  not_comma : close ≠ ','

theorem isClosing_bracket : IsClosing ']' := ⟨rfl, rfl, by decide⟩

theorem isClosing_brace : IsClosing '\x7d' := ⟨rfl, rfl, by decide⟩

/-- The item begins with a mark of its own, and is read back unless a digit follows. -/
structure ReadsBack {α : Type} (close : Char) (readItem : Text → Option (α × Text)) (write : α → Text) (item : α) :
    Prop where
  starts : ∃ c rest, write item = c :: rest ∧ isBlank c = false ∧ c ≠ close
  reads : ∀ rest, EndsNumber rest → readItem (write item ++ rest) = some (item, rest)

variable {α : Type} {close : Char} {readItem : Text → Option (α × Text)} {write : α → Text}

theorem skipBlanks_cons {c : Char} (h : isBlank c = false) (rest : Text) : skipBlanks (c :: rest) = c :: rest := by
  simp [skipBlanks, h]

/-- Items with commas between them are read up to the closing mark. -/
theorem readItems?_joinWith (hclose : IsClosing close) {items : List α} (hne : items ≠ [])
    (h : ∀ item ∈ items, ReadsBack close readItem write item) (rest : Text) :
    readItems? close readItem (Text.joinWith [','] (items.map write) ++ close :: rest) = some (items, rest) := by
  induction items with
  | nil => exact absurd rfl hne
  | cons item more ih =>
    have hitem := h item (List.mem_cons_self ..)
    rw [readItems?.eq_def]
    cases more with
    | nil =>
      simp [Text.joinWith, hitem.reads _ (endsNumber_cons hclose.not_digit rest), skipBlanks_cons hclose.not_blank]
    | cons next more =>
      have hrest := ih (List.cons_ne_nil _ _) fun item hi => h item (List.mem_cons_of_mem _ hi)
      generalize hm : Text.joinWith [','] ((next :: more).map write) ++ close :: rest = tail at hrest
      have htext : Text.joinWith [','] ((item :: next :: more).map write) ++ close :: rest =
          write item ++ ',' :: tail := by
        rw [← hm]
        simp [Text.joinWith]
      rw [htext, hitem.reads _ (endsNumber_cons (by decide) tail)]
      simp only [skipBlanks_cons (c := ',') (by decide)]
      rw [if_neg hclose.not_comma.symm, if_pos ⟨trivial, by simp; omega⟩, hrest]
      rfl

theorem readList?_joinWith (hclose : IsClosing close) {items : List α}
    (h : ∀ item ∈ items, ReadsBack close readItem write item) (rest : Text) :
    readList? close readItem (Text.joinWith [','] (items.map write) ++ close :: rest) = some (items, rest) := by
  by_cases hne : items = []
  · simp [readList?, hne, Text.joinWith, skipBlanks_cons hclose.not_blank]
  · have hitems := readItems?_joinWith hclose hne h rest
    obtain ⟨first, more, rfl⟩ := List.exists_cons_of_ne_nil hne
    obtain ⟨c, tail, hfirst, hblank, hc⟩ := (h first (List.mem_cons_self ..)).starts
    obtain ⟨tail', htail⟩ : ∃ tail', Text.joinWith [','] ((first :: more).map write) ++ close :: rest = c :: tail' :=
      ⟨_, by rw [List.map_cons, Text.joinWith_cons, hfirst, List.cons_append, List.cons_append]⟩
    rw [htail] at hitems ⊢
    rw [readList?, skipBlanks_cons hblank]
    simp only [if_neg hc]
    exact hitems

/-! ## Written values -/

/-- A value is a number, a text or made of smaller values. -/
@[elab_as_elim]
theorem Value.induction {motive : Value → Prop} (number : ∀ n, motive (.number n))
    (string : ∀ text, motive (.string text))
    (array : ∀ items, (∀ item ∈ items, motive item) → motive (.array items))
    (object : ∀ members, (∀ member ∈ members, motive member.2) → motive (.object members)) (v : Value) : motive v := by
  match v with
  | .number n => exact number n
  | .string text => exact string text
  | .array items =>
    refine array items fun item hitem => ?_
    have := List.sizeOf_lt_of_mem hitem
    exact Value.induction number string array object item
  | .object members =>
    refine object members fun member hmember => ?_
    obtain ⟨name, value⟩ := member
    have := List.sizeOf_lt_of_mem hmember
    exact Value.induction number string array object value
termination_by sizeOf v
decreasing_by all_goals simp_wf; simp at *; omega

def writeMember (member : Text × Value) : Text := writeString member.1 ++ ':' :: member.2.write

theorem writeItems_eq (items : List Value) : writeItems items = Text.joinWith [','] (items.map Value.write) := by
  induction items with
  | nil => simp [writeItems, Text.joinWith]
  | cons item more ih =>
    cases more with
    | nil => simp [writeItems, Text.joinWith]
    | cons next more => simp [writeItems, Text.joinWith, ih]

theorem writeMembers_eq (members : List (Text × Value)) :
    writeMembers members = Text.joinWith [','] (members.map writeMember) := by
  induction members with
  | nil => simp [writeMembers, Text.joinWith]
  | cons member more ih =>
    cases more with
    | nil => simp [writeMembers, Text.joinWith, writeMember]
    | cons next more => simp [writeMembers, Text.joinWith, writeMember, ih]

/-- A number begins with a mark that nothing else begins with. -/
theorem exists_digit_cons_of_ofNat (n : Nat) : ∃ c digits, Text.ofNat n = c :: digits ∧ isBlank c = false ∧
    c ≠ '"' ∧ c ≠ '[' ∧ c ≠ ']' ∧ c ≠ '\x7b' := by
  obtain ⟨c, digits, h⟩ := List.exists_cons_of_ne_nil (Text.ofNat_ne_nil n)
  have hdigit : c.isDigit = true := Text.isDigit_of_mem_ofNat (h ▸ List.mem_cons_self ..)
  have hne : ∀ d : Char, d.isDigit = false → c ≠ d := by
    intro d hd hcd
    rw [hcd, hd] at hdigit
    cases hdigit
  refine ⟨c, digits, h, ?_, hne _ rfl, hne _ rfl, hne _ rfl, hne _ rfl⟩
  simp [isBlank, hne ' ' rfl, hne '\t' rfl, hne '\n' rfl, hne '\r' rfl]

theorem Value.starts (v : Value) : ∃ c rest, v.write = c :: rest ∧ isBlank c = false ∧ c ≠ ']' := by
  cases v with
  | number n =>
    obtain ⟨c, digits, h, hblank, -, -, hclose, -⟩ := exists_digit_cons_of_ofNat n
    exact ⟨c, digits, by rw [Value.write, h], hblank, hclose⟩
  | string text => exact ⟨'"', _, by rw [Value.write, writeString, List.cons_append], rfl, by decide⟩
  | array items => exact ⟨'[', _, by rw [Value.write, List.cons_append], rfl, by decide⟩
  | object members => exact ⟨'\x7b', _, by rw [Value.write, List.cons_append], rfl, by decide⟩

theorem readValue?_ofNat (depth n : Nat) {rest : Text} (hrest : EndsNumber rest) :
    readValue? (depth + 1) (Text.ofNat n ++ rest) = some (.number n, rest) := by
  obtain ⟨c, digits, h, hblank, hquote, hbracket, -, hbrace⟩ := exists_digit_cons_of_ofNat n
  have hread := readNumber?_ofNat n hrest
  rw [h, List.cons_append] at hread ⊢
  rw [readValue?, skipBlanks_cons hblank]
  simp only [if_neg hquote, if_neg hbracket, if_neg hbrace]
  exact hread

theorem Value.exists_succ_of_length_le {v : Value} {depth : Nat} (h : v.write.length ≤ depth) :
    ∃ d, depth = d + 1 := by
  obtain ⟨c, rest, hv, -⟩ := v.starts
  rw [hv, List.length_cons] at h
  exact Nat.exists_eq_add_one_of_ne_zero (by omega)

theorem readMember?_writeMember {readValue : Text → Option (Value × Text)} {member : Text × Value} {rest : Text}
    (h : readValue (member.2.write ++ rest) = some (member.2, rest)) :
    readMember? readValue (writeMember member ++ rest) = some (member, rest) := by
  have htext : writeMember member ++ rest =
      '"' :: (member.1.flatMap escapedChar ++ '"' :: ':' :: (member.2.write ++ rest)) := by
    simp [writeMember, writeString]
  rw [htext, readMember?, skipBlanks_cons (by decide)]
  simp [Text.dropMark?, readChars?_escaped, skipBlanks_cons (c := ':') (by decide), h]

/-- A value is read back by any reader that may go as deep as the value is long. -/
theorem readValue?_write (v : Value) {depth : Nat} (hdepth : v.write.length ≤ depth) {rest : Text}
    (hrest : EndsNumber rest) : readValue? depth (v.write ++ rest) = some (v, rest) := by
  induction v using Value.induction generalizing depth rest with
  | number n =>
    obtain ⟨depth, rfl⟩ := Value.exists_succ_of_length_le hdepth
    exact readValue?_ofNat depth n hrest
  | string text =>
    obtain ⟨depth, rfl⟩ := Value.exists_succ_of_length_le hdepth
    rw [Value.write, writeString, readValue?]
    simp [skipBlanks_cons (c := '"') (by decide), readChars?_escaped]
  | array items ih =>
    obtain ⟨depth, rfl⟩ := Value.exists_succ_of_length_le hdepth
    rw [Value.write, writeItems_eq] at hdepth ⊢
    have hitems : ∀ item ∈ items, ReadsBack ']' (readValue? depth) Value.write item := by
      intro item hitem
      have hlength : item.write.length ≤ depth := by
        have := (Text.infix_joinWith_of_mem [','] (List.mem_map_of_mem (f := Value.write) hitem)).length_le
        simp at hdepth
        omega
      exact ⟨item.starts, fun rest hrest => ih item hitem hlength hrest⟩
    rw [readValue?]
    simp [skipBlanks_cons (c := '[') (by decide), readList?_joinWith isClosing_bracket hitems]
  | object members ih =>
    obtain ⟨depth, rfl⟩ := Value.exists_succ_of_length_le hdepth
    rw [Value.write, writeMembers_eq] at hdepth ⊢
    have hmembers : ∀ m ∈ members, ReadsBack '\x7d' (readMember? (readValue? depth)) writeMember m := by
      intro m hm
      have hlength : m.2.write.length ≤ depth := by
        have := (Text.infix_joinWith_of_mem [','] (List.mem_map_of_mem (f := writeMember) hm)).length_le
        simp [writeMember] at hdepth this
        omega
      exact ⟨⟨'"', _, rfl, rfl, by decide⟩, fun rest hrest => readMember?_writeMember (ih m hm hlength hrest)⟩
    rw [readValue?]
    simp [skipBlanks_cons (c := '\x7b') (by decide), readList?_joinWith isClosing_brace hmembers]

theorem read?_write (v : Value) : read? v.write = some v := by
  have h : readValue? v.write.length (v.write ++ []) = some (v, []) := readValue?_write v (Nat.le_refl _) nofun
  rw [List.append_nil] at h
  rw [read?, h]
  rfl

/-! ## One line -/

theorem not_control_of_isDigit {c : Char} (h : c.isDigit = true) : 0x20 ≤ c.toNat := by
  simp only [Char.isDigit, Bool.and_eq_true, decide_eq_true_eq, UInt32.le_iff_toNat_le] at h
  have hlow : 48 ≤ c.toNat := h.1
  omega

theorem not_control_of_mem_escapedChar {c d : Char} (h : d ∈ escapedChar c) : 0x20 ≤ d.toNat := by
  unfold escapedChar at h
  split at h
  case h_8 =>
    by_cases hc : c.toNat < 0x20
    · have hdigit : ∀ n < 16, 0x20 ≤ n.digitChar.toNat := by decide
      have hlarge := hdigit (c.toNat / 16) (by omega)
      have hsmall := hdigit (c.toNat % 16) (by omega)
      rw [if_pos hc, leftpad_toDigits_of_control hc] at h
      have hd : d ∈ ['\\', 'u', '0', '0', (c.toNat / 16).digitChar, (c.toNat % 16).digitChar] := h
      simp only [List.mem_cons, List.not_mem_nil, or_false] at hd
      rcases hd with rfl | rfl | rfl | rfl | rfl | rfl
      · decide
      · decide
      · decide
      · decide
      · exact hlarge
      · exact hsmall
    · rw [if_neg hc] at h
      rw [List.mem_singleton.mp h]
      omega
  -- The seven characters that are written with a letter or doubled.
  all_goals
    simp only [List.mem_cons, List.not_mem_nil, or_false] at h
    rcases h with rfl | rfl
    · decide
    · decide

theorem not_control_of_mem_writeString {text : Text} {c : Char} (h : c ∈ writeString text) : 0x20 ≤ c.toNat := by
  simp only [writeString, List.cons_append, List.mem_cons, List.mem_append, List.mem_flatMap, List.not_mem_nil,
    or_false] at h
  rcases h with rfl | ⟨d, -, h⟩ | rfl
  · decide
  · exact not_control_of_mem_escapedChar h
  · decide

/-- Brackets and commas are no controls either. -/
theorem not_control_of_mem_joinWith {first last c : Char} {parts : List Text} (hfirst : 0x20 ≤ first.toNat)
    (hlast : 0x20 ≤ last.toNat) (hparts : ∀ part ∈ parts, c ∈ part → 0x20 ≤ c.toNat)
    (h : c ∈ first :: Text.joinWith [','] parts ++ [last]) : 0x20 ≤ c.toNat := by
  rcases List.mem_append.mp h with h | h
  · rcases List.mem_cons.mp h with rfl | h
    · exact hfirst
    · rcases Text.mem_joinWith h with h | ⟨part, hpart, h⟩
      · rw [List.mem_singleton.mp h]
        decide
      · exact hparts part hpart h
  · rw [List.mem_singleton.mp h]
    exact hlast

/-- Nothing below the space stands in a value that was written. -/
theorem not_control_of_mem_write {v : Value} {c : Char} (h : c ∈ v.write) : 0x20 ≤ c.toNat := by
  induction v using Value.induction with
  | number n =>
    rw [Value.write] at h
    exact not_control_of_isDigit (Text.isDigit_of_mem_ofNat h)
  | string text =>
    rw [Value.write] at h
    exact not_control_of_mem_writeString h
  | array items ih =>
    rw [Value.write, writeItems_eq] at h
    refine not_control_of_mem_joinWith (by decide) (by decide) ?_ h
    intro part hpart hc
    obtain ⟨item, hitem, rfl⟩ := List.mem_map.mp hpart
    exact ih item hitem hc
  | object members ih =>
    rw [Value.write, writeMembers_eq] at h
    refine not_control_of_mem_joinWith (by decide) (by decide) ?_ h
    intro part hpart hc
    obtain ⟨m, hm, rfl⟩ := List.mem_map.mp hpart
    rcases List.mem_append.mp hc with hc | hc
    · exact not_control_of_mem_writeString hc
    · rcases List.mem_cons.mp hc with rfl | hc
      · decide
      · exact ih m hm hc

theorem lineFeed_not_mem_write (v : Value) : '\n' ∉ v.write := by
  intro h
  exact absurd (not_control_of_mem_write h) (by decide)

end ActivityLog.Json
