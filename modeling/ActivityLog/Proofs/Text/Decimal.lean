/-
  ActivityLog.Proofs.Text.Decimal — decimal digits, written and read back.

  A padded number is written with digits only, with exactly as many of them as its
  width says where it fits (`length_padded`), and stands for the number that was
  written (`natOf_padded`). A digit is not blank.

  A text is read as a number of 32 bits exactly where it is a numeral, digits behind an
  optional sign, and its value is in bounds (`int32?_eq_ok_iff`). The reader looks at the
  bound after every digit; that is the bound on the whole, as no digit makes a number
  smaller. So the numbers of 32 bits are those that are written and read back
  (`int32?_ofInt`). Numbers of any size are told apart by what is written for them
  (`ofNat_injective`, `ofInt_injective`).
-/

import Mathlib.Algebra.Group.Nat.Defs
import ActivityLog.Text.Basic
import ActivityLog.Text.Decimal

namespace ActivityLog.Text

theorem isBlank_of_isDigit {c : Char} (h : c.isDigit = true) : isBlank c = false := by
  simp only [Char.isDigit, Bool.and_eq_true, decide_eq_true_eq, UInt32.le_iff_toNat_le] at h
  have hlow : 48 ≤ c.toNat := h.1
  have hhigh : c.toNat ≤ 57 := h.2
  simp only [isBlank, Bool.or_eq_false_iff, Bool.and_eq_false_iff, decide_eq_false_iff_not, beq_eq_false_iff_ne]
  omega

/-! ## Padded numbers -/

theorem isDigit_of_mem_padded {width n : Nat} {c : Char} (h : c ∈ padded width n) : c.isDigit = true := by
  rcases List.mem_append.mp h with h | h
  · rw [(List.mem_replicate.mp h).2]; rfl
  · exact Nat.isDigit_of_mem_toDigits (by decide) (by decide) h

theorem padded_ne_nil (width n : Nat) : padded width n ≠ [] := by
  intro h
  exact Nat.toDigits_ne_nil (List.append_eq_nil_iff.mp h).2

theorem length_padded {width n : Nat} (hw : 0 < width) (hn : n < 10 ^ width) : (padded width n).length = width := by
  have : (ofNat n).length ≤ width := (Nat.length_toDigits_le_iff (by decide) hw).mpr hn
  rw [padded, List.length_leftpad]
  omega

theorem natOf_padded (width n : Nat) : natOf (padded width n) = n := by
  simp only [padded, List.leftpad, natOf, Nat.ofDigitChars_append, Nat.ofDigitChars_replicate_zero, Nat.mul_zero]
  exact natOf_ofNat n

theorem hexDigit?_digitChar {d : Nat} (h : d < 16) : hexDigit? d.digitChar = some d := by
  have hall : ∀ d < 16, hexDigit? d.digitChar = some d := by decide
  exact hall d h

/-! ## Numbers of 32 bits -/

def IsInt32 (n : Int) : Prop := -2147483648 ≤ n ∧ n ≤ 2147483647

instance (n : Int) : Decidable (IsInt32 n) := by unfold IsInt32; infer_instance

def signed (negative : Bool) (size : Nat) : Int := if negative then -size else size

theorem le_ofDigitChars (digits : Text) (value : Nat) : value ≤ Nat.ofDigitChars 10 digits value := by
  induction digits generalizing value with
  | nil => exact Nat.le_refl _
  | cons c digits ih =>
    rw [Nat.ofDigitChars_cons]
    exact Nat.le_trans (by omega) (ih _)

/-- Reading on from an intermediate value gives the number that the digits end in, if it is in bounds. -/
theorem int32?_go_eq_ok_iff {negative : Bool} {value : Nat} {digits : Text} {n : Int}
    (hv : IsInt32 (signed negative value)) : int32?.go negative value digits = .ok n ↔
      (∀ c ∈ digits, c.isDigit = true) ∧ n = signed negative (Nat.ofDigitChars 10 digits value) ∧ IsInt32 n := by
  induction digits generalizing value with
  | nil =>
    simp only [int32?.go, Except.ok.injEq, List.not_mem_nil, false_implies, implies_true, true_and,
      Nat.ofDigitChars_nil]
    exact ⟨fun h => ⟨h.symm, h ▸ hv⟩, fun h => h.1.symm⟩
  | cons c digits ih =>
    rw [int32?.go, List.forall_mem_cons, Nat.ofDigitChars_cons]
    by_cases hc : c.isDigit = true
    · simp only [hc, Bool.not_true, Bool.false_eq_true, if_false, true_and]
      generalize 10 * value + (c.toNat - '0'.toNat) = next
      by_cases hn : IsInt32 (signed negative next)
      · rw [← ih hn]
        cases negative <;> simp only [IsInt32, signed, if_true, if_false, Bool.false_eq_true] at hn ⊢
        · rw [if_pos (by omega)]
        · rw [if_pos (by omega)]
      · -- The number that follows is at least as far from zero.
        have hfar : ¬ IsInt32 (signed negative (Nat.ofDigitChars 10 digits next)) := by
          have := le_ofDigitChars digits next
          cases negative <;> simp only [IsInt32, signed, if_true, if_false, Bool.false_eq_true] at hn ⊢ <;> omega
        refine iff_of_false ?_ fun h => hfar (h.2.1 ▸ h.2.2)
        cases negative <;> simp only [IsInt32, signed, if_true, if_false, Bool.false_eq_true] at hn ⊢
        · rw [if_neg (by omega)]
          exact nofun
        · rw [if_neg (by omega)]
          exact nofun
    · simp [hc]

/-! ## Numerals -/

structure IsDigits (digits : Text) : Prop where
  ne_nil : digits ≠ []
  digit : ∀ c ∈ digits, c.isDigit = true

/-- The text writes the number with digits, behind one sign or none. -/
inductive IsNumeral : Text → Int → Prop where
  | plain {digits : Text} (h : IsDigits digits) : IsNumeral digits (natOf digits)
  | plus {digits : Text} (h : IsDigits digits) : IsNumeral ('+' :: digits) (natOf digits)
  | minus {digits : Text} (h : IsDigits digits) : IsNumeral ('-' :: digits) (-(natOf digits : Int))

theorem splitSign_of_isDigits {digits : Text} (h : IsDigits digits) : splitSign digits = (false, digits) := by
  obtain ⟨-, hdigit⟩ := h
  unfold splitSign
  split
  · exact absurd (hdigit _ (List.mem_cons_self ..)) (by decide)
  · exact absurd (hdigit _ (List.mem_cons_self ..)) (by decide)
  · rfl

theorem isNumeral_iff_splitSign {text : Text} {n : Int} : IsNumeral text n ↔
    ∃ negative digits, splitSign text = (negative, digits) ∧ IsDigits digits ∧ n = signed negative (natOf digits) := by
  constructor
  · intro h
    cases h with
    | plain h => exact ⟨false, _, splitSign_of_isDigits h, h, rfl⟩
    | plus h => exact ⟨false, _, rfl, h, rfl⟩
    | minus h => exact ⟨true, _, rfl, h, rfl⟩
  · intro h
    obtain ⟨negative, digits, hs, hd, rfl⟩ := h
    unfold splitSign at hs
    split at hs <;> cases hs
    · exact .minus hd
    · exact .plus hd
    · exact .plain hd

theorem IsNumeral.unique {text : Text} {m n : Int} (hm : IsNumeral text m) (hn : IsNumeral text n) : m = n := by
  obtain ⟨negative, digits, hs, -, rfl⟩ := isNumeral_iff_splitSign.mp hm
  obtain ⟨negative', digits', hs', -, rfl⟩ := isNumeral_iff_splitSign.mp hn
  cases hs.symm.trans hs'
  rfl

/-- A numeral is read exactly where its number has 32 bits, and nothing else is. -/
theorem int32?_eq_ok_iff {text : Text} {n : Int} : int32? text = .ok n ↔ IsNumeral text n ∧ IsInt32 n := by
  rw [isNumeral_iff_splitSign]
  obtain ⟨negative, digits, hs⟩ : ∃ negative digits, splitSign text = (negative, digits) := ⟨_, _, rfl⟩
  have hzero : IsInt32 (signed negative 0) := by cases negative <;> decide
  -- The empty text has no digits behind a sign either.
  have hread : int32? text = .ok n ↔ digits ≠ [] ∧ int32?.go negative 0 digits = .ok n := by
    cases text with
    | nil =>
      cases hs
      simp [int32?]
    | cons c rest =>
      simp only [int32?, List.isEmpty_cons, Bool.false_eq_true, if_false, hs, List.isEmpty_iff]
      split
      · rename_i hnil
        exact iff_of_false nofun fun h => h.1 hnil
      · rename_i hne
        exact ⟨fun h => ⟨hne, h⟩, fun h => h.2⟩
  rw [hread, int32?_go_eq_ok_iff hzero]
  constructor
  · intro h
    obtain ⟨hne, hdigit, hn, hbound⟩ := h
    exact ⟨⟨negative, digits, hs, ⟨hne, hdigit⟩, hn⟩, hbound⟩
  · intro h
    obtain ⟨⟨negative', digits', hs', ⟨hne, hdigit⟩, hn⟩, hbound⟩ := h
    cases hs.symm.trans hs'
    exact ⟨hne, hdigit, hn, hbound⟩

theorem isInt32_of_int32? {text : Text} {n : Int} (h : int32? text = .ok n) : IsInt32 n :=
  (int32?_eq_ok_iff.mp h).2

/-! ## Written numbers -/

theorem isDigit_of_mem_ofNat {n : Nat} {c : Char} (h : c ∈ ofNat n) : c.isDigit = true :=
  Nat.isDigit_of_mem_toDigits (by decide) (by decide) h

theorem ofNat_ne_nil (n : Nat) : ofNat n ≠ [] := Nat.toDigits_ne_nil

theorem isDigits_ofNat (n : Nat) : IsDigits (ofNat n) := ⟨ofNat_ne_nil n, fun _ => isDigit_of_mem_ofNat⟩

theorem isNumeral_ofInt (n : Int) : IsNumeral (ofInt n) n := by
  cases n with
  | ofNat n =>
    have := IsNumeral.plain (isDigits_ofNat n)
    rwa [natOf_ofNat] at this
  | negSucc n =>
    have := IsNumeral.minus (isDigits_ofNat (n + 1))
    rwa [natOf_ofNat] at this

theorem ofNat_injective : Function.Injective ofNat := Function.LeftInverse.injective natOf_ofNat

theorem ofInt_injective : Function.Injective ofInt := fun m n h =>
  (isNumeral_ofInt m).unique (h ▸ isNumeral_ofInt n)

theorem int32?_ofInt {n : Int} (h : IsInt32 n) : int32? (ofInt n) = .ok n :=
  int32?_eq_ok_iff.mpr ⟨isNumeral_ofInt n, h⟩

theorem mem_ofInt {n : Int} {c : Char} (h : c ∈ ofInt n) : c.isDigit = true ∨ c = '-' := by
  cases n with
  | ofNat n => exact Or.inl (isDigit_of_mem_ofNat h)
  | negSucc n => exact (List.mem_cons.mp h).symm.imp_left isDigit_of_mem_ofNat

theorem not_mem_ofNat {c : Char} (hc : c.isDigit = false) (n : Nat) : c ∉ ofNat n := by
  intro h
  rw [isDigit_of_mem_ofNat h] at hc
  cases hc

theorem not_mem_ofInt {c : Char} (hc : c.isDigit = false) (hminus : c ≠ '-') (n : Int) : c ∉ ofInt n := by
  intro h
  rcases mem_ofInt h with hdigit | rfl
  · rw [hdigit] at hc
    cases hc
  · exact hminus rfl

theorem ofInt_ne_nil (n : Int) : ofInt n ≠ [] := by
  cases n with
  | ofNat n => exact ofNat_ne_nil n
  | negSucc n => exact List.cons_ne_nil _ _

end ActivityLog.Text
