/-
  ActivityLog.Proofs.Text.Cut — cutting a text at the first occurrence of a marker.

  `upTo mark text` is what stands before the first occurrence, or the whole text
  where there is none. It never holds the marker itself (`not_infix_upTo`).
  `splitOnce` cuts there and nowhere else: it finds nothing only where the marker
  does not occur (`splitOnce_eq_none_iff`), and it cuts before a given occurrence
  as soon as no other one begins earlier (`splitOnce_of_first`).

  An occurrence begins earlier than a given one exactly when it lies in what stands
  before the marker together with all of the marker but its last character. Where a
  character that is not in the marker stands between two texts, an occurrence lies
  on one side of it (`infix_append_cons`). An occurrence ends with the last character
  of the marker, so it cannot reach into a text without that character
  (`infix_append_iff_of_last`). A marker that begins with none of its own ends cannot
  overlap with itself (`not_infix_append_dropLast`).

  All told, the cut is the one with the least before it (`splitOnce_eq_some_iff`), and
  what follows the text does not move it (`splitOnce_append`). A marker of one character
  cuts behind the run of other characters (`splitOnce_singleton`).
-/

import Mathlib.Data.List.Infix
import ActivityLog.Text.Basic

namespace ActivityLog.Text

/-- What stands before the first occurrence of the marker; everything where it does not occur. -/
def upTo (mark : Text) : Text → Text
  | [] => []
  | c :: rest => if mark.isPrefixOf (c :: rest) then [] else c :: upTo mark rest

/-! ## Occurrences -/

theorem dropMark?_eq_none_iff {mark text : Text} : dropMark? mark text = none ↔ ¬ mark <+: text := by
  constructor
  · rintro h ⟨rest, rfl⟩
    have : dropMark? mark (mark ++ rest) = some rest := dropMark?_eq_some_iff.mpr rfl
    rw [h] at this; cases this
  · intro h
    cases hd : dropMark? mark text with
    | none => rfl
    | some rest => exact absurd ⟨rest, (dropMark?_eq_some_iff.mp hd).symm⟩ h

/-- A marker does not reach across a character that it does not have. -/
theorem infix_append_cons {mark a b : Text} {c : Char} (hc : c ∉ mark) :
    mark <:+: a ++ c :: b ↔ mark <:+: a ∨ mark <:+: b := by
  constructor
  · intro h
    rcases List.infix_append_iff.mp h with h | h | ⟨l₁, l₂, rfl, h₁, h₂⟩
    · exact Or.inl h
    · rcases List.infix_cons_iff.mp h with h | h
      · rcases List.prefix_cons_iff.mp h with rfl | ⟨t, rfl, -⟩
        · exact Or.inl List.nil_infix
        · exact absurd (List.mem_cons_self ..) hc
      · exact Or.inr h
    · rcases List.prefix_cons_iff.mp h₂ with rfl | ⟨t, rfl, -⟩
      · rw [List.append_nil]; exact Or.inl h₁.isInfix
      · exact absurd (List.mem_append_right _ (List.mem_cons_self ..)) hc
  · rintro (h | h)
    · exact List.infix_append_of_infix_left h
    · exact List.infix_append_of_infix_right (List.infix_cons h)

/-- Quotes after every character keep a marker of two or more characters out of a text. -/
theorem infix_flatMap_separated {mark b : Text} {q : Char} (hq : q ∉ mark) (hlen : 2 ≤ mark.length) (a : Text) :
    mark <:+: a.flatMap (fun c => [c, q]) ++ b ↔ mark <:+: b := by
  induction a with
  | nil => simp
  | cons c a ih =>
    show mark <:+: [c] ++ q :: (a.flatMap (fun c => [c, q]) ++ b) ↔ _
    rw [infix_append_cons hq, ih]
    refine or_iff_right fun h => ?_
    have := h.length_le
    simp only [List.length_singleton] at this
    omega

/-! ## The text before the first occurrence -/

theorem upTo_prefix_self (mark text : Text) : upTo mark text <+: text := by
  induction text with
  | nil => exact List.prefix_rfl
  | cons c rest ih =>
    unfold upTo
    split
    · exact List.nil_prefix
    · exact (List.prefix_cons_inj c).mpr ih

theorem not_infix_upTo {mark : Text} (h : mark ≠ []) (text : Text) : ¬ mark <:+: upTo mark text := by
  induction text with
  | nil => exact fun hi => h (List.infix_nil.mp hi)
  | cons c rest ih =>
    unfold upTo
    split
    · exact fun hi => h (List.infix_nil.mp hi)
    · rename_i hp
      intro hi
      rcases List.infix_cons_iff.mp hi with hi | hi
      · exact hp (List.isPrefixOf_iff_prefix.mpr (hi.trans ((List.prefix_cons_inj c).mpr (upTo_prefix_self mark rest))))
      · exact ih hi

/-- What stands before the first occurrence in `a` is not changed by what follows `a`. -/
theorem upTo_append_of_infix {mark a : Text} (h : mark <:+: a) (b : Text) : upTo mark (a ++ b) = upTo mark a := by
  induction a with
  | nil =>
    rw [List.infix_nil.mp h]
    cases b <;> rfl
  | cons c a ih =>
    by_cases hp : mark <+: c :: a
    · have hp' : mark <+: c :: (a ++ b) := hp.trans (List.prefix_append (c :: a) b)
      simp [upTo, hp, hp']
    · have ha : mark <:+: a := (List.infix_cons_iff.mp h).resolve_left hp
      have hp' : ¬ mark <+: c :: (a ++ b) := fun hp' =>
        hp (List.prefix_of_prefix_length_le hp' (List.prefix_append (c :: a) b)
          (ha.length_le.trans (Nat.le_succ _)))
      simp [upTo, hp, hp', ih ha]

/-! ## Cutting -/

theorem splitOnce_eq_none_iff {mark : Text} (h : mark ≠ []) (text : Text) :
    splitOnce mark text = none ↔ ¬ mark <:+: text := by
  induction text with
  | nil => simp [splitOnce, h]
  | cons c rest ih =>
    rw [List.infix_cons_iff, not_or, ← ih, ← dropMark?_eq_none_iff]
    cases hd : dropMark? mark (c :: rest) with
    | some tail => simp [splitOnce, hd]
    | none => simp only [splitOnce, hd, Option.map_eq_none_iff, true_and]

/-- The cut is before `mark`, unless another occurrence begins earlier. -/
theorem splitOnce_of_first {mark before : Text} (h : ¬ mark <:+: before ++ mark.dropLast) (after : Text) :
    splitOnce mark (before ++ mark ++ after) = some (before, after) := by
  induction before with
  | nil =>
    cases mark with
    | nil => exact absurd List.nil_infix h
    | cons m mark =>
      have : dropMark? (m :: mark) (m :: (mark ++ after)) = some after := dropMark?_eq_some_iff.mpr rfl
      simp [splitOnce, this]
  | cons c before ih =>
    have hrest : ¬ mark <:+: before ++ mark.dropLast := fun hi => h (List.infix_cons hi)
    -- An occurrence at `c` ends before the last character of the given one.
    have hd : dropMark? mark (c :: (before ++ mark ++ after)) = none := by
      refine dropMark?_eq_none_iff.mpr fun hp => h (List.IsPrefix.isInfix ?_)
      refine List.prefix_of_prefix_length_le hp ?_ (by simp; omega)
      refine (List.prefix_cons_inj c).mpr ?_
      rw [List.append_assoc]
      exact (List.prefix_append_right_inj before).mpr
        ((List.dropLast_prefix mark).trans (List.prefix_append mark after))
    simp only [List.cons_append, splitOnce, hd, ih hrest, Option.map_some]

theorem upTo_of_splitOnce {mark text before after : Text} (h : splitOnce mark text = some (before, after)) :
    upTo mark text = before := by
  induction text generalizing before with
  | nil =>
    unfold splitOnce at h
    split at h
    · cases h; rfl
    · cases h
  | cons c rest ih =>
    unfold splitOnce at h
    split at h
    · rename_i tail hd
      have hp : mark <+: c :: rest := ⟨tail, (dropMark?_eq_some_iff.mp hd).symm⟩
      cases h
      simp [upTo, hp]
    · rename_i hd
      have hp : ¬ mark <+: c :: rest := dropMark?_eq_none_iff.mp hd
      obtain ⟨⟨b, a⟩, hs, he⟩ := Option.map_eq_some_iff.mp h
      cases he
      simp [upTo, hp, ih hs]

theorem upTo_of_not_infix {mark text : Text} (h : ¬ mark <:+: text) : upTo mark text = text := by
  induction text with
  | nil => rfl
  | cons c rest ih =>
    have hp : ¬ mark <+: c :: rest := fun hp => h hp.isInfix
    simp [upTo, hp, ih fun hi => h (List.infix_cons hi)]

/-! ## The first cut -/

/-- The text falls into what stands before the marker and what stands behind it, and no other way to cut
    it at the marker leaves less before. -/
structure IsFirstCut (mark text before after : Text) : Prop where
  text_eq : text = before ++ mark ++ after
  first : ∀ b a, text = b ++ mark ++ a → before.length ≤ b.length

theorem length_le_of_splitOnce {mark text before after : Text} (h : splitOnce mark text = some (before, after))
    {b a : Text} (hcut : text = b ++ mark ++ a) : before.length ≤ b.length := by
  induction text generalizing before b with
  | nil =>
    unfold splitOnce at h
    split at h
    · cases h; exact Nat.zero_le _
    · cases h
  | cons c rest ih =>
    unfold splitOnce at h
    split at h
    · cases h; exact Nat.zero_le _
    · rename_i hd
      obtain ⟨⟨x, y⟩, hs, he⟩ := Option.map_eq_some_iff.mp h
      cases he
      cases b with
      | nil => exact absurd ⟨a, hcut.symm⟩ (dropMark?_eq_none_iff.mp hd)
      | cons d b =>
        have hrest : rest = b ++ mark ++ a := (List.cons.inj hcut).2
        exact Nat.succ_le_succ (ih hs hrest)

theorem IsFirstCut.unique {mark text b₁ a₁ b₂ a₂ : Text} (h₁ : IsFirstCut mark text b₁ a₁)
    (h₂ : IsFirstCut mark text b₂ a₂) : b₁ = b₂ ∧ a₁ = a₂ := by
  have hlen : b₁.length = b₂.length := Nat.le_antisymm (h₁.first _ _ h₂.text_eq) (h₂.first _ _ h₁.text_eq)
  have heq : b₁ ++ (mark ++ a₁) = b₂ ++ (mark ++ a₂) := by
    rw [← List.append_assoc, ← List.append_assoc, ← h₁.text_eq, ← h₂.text_eq]
  obtain ⟨hb, htail⟩ := List.append_inj heq hlen
  exact ⟨hb, List.append_cancel_left htail⟩

theorem splitOnce_eq_some_iff {mark : Text} (hne : mark ≠ []) {text before after : Text} :
    splitOnce mark text = some (before, after) ↔ IsFirstCut mark text before after := by
  have cut : ∀ {b a}, splitOnce mark text = some (b, a) → IsFirstCut mark text b a := fun h =>
    ⟨eq_append_of_splitOnce h, fun _ _ => length_le_of_splitOnce h⟩
  refine ⟨cut, fun h => ?_⟩
  cases hs : splitOnce mark text with
  | none => exact absurd ⟨before, after, h.text_eq.symm⟩ ((splitOnce_eq_none_iff hne text).mp hs)
  | some parts =>
    obtain ⟨hb, ha⟩ := (cut hs).unique h
    rw [← hb, ← ha]

/-- What follows a text does not move its first cut. -/
theorem IsFirstCut.append {mark text before after : Text} (h : IsFirstCut mark text before after) (more : Text) :
    IsFirstCut mark (text ++ more) before (after ++ more) where
  text_eq := by rw [h.text_eq, List.append_assoc]
  first b a hcut := by
    by_contra hlt
    -- A cut that leaves less before it leaves its marker in `text`.
    have hlen : (b ++ mark).length ≤ text.length := by
      rw [h.text_eq]
      simp only [List.length_append]
      omega
    have hbegin : b ++ mark <+: text :=
      List.prefix_of_prefix_length_le ⟨a, hcut.symm⟩ (List.prefix_append text more) hlen
    obtain ⟨rest, hrest⟩ := hbegin
    exact hlt (h.first b rest hrest.symm)

/-- A marker of one character cuts where the run of other characters ends. -/
theorem splitOnce_singleton (c : Char) (text : Text) : splitOnce [c] text =
    if c ∈ text then some (text.takeWhile (· != c), (text.dropWhile (· != c)).tail) else none := by
  induction text with
  | nil => rfl
  | cons d rest ih =>
    by_cases h : d = c
    · simp [splitOnce, dropMark?, h]
    · have hd : (d != c) = true := bne_iff_ne.mpr h
      simp only [splitOnce, dropMark?, if_neg h, ih, List.mem_cons, Ne.symm h, false_or, List.takeWhile_cons,
        List.dropWhile_cons, hd, if_true]
      split <;> rfl

theorem mem_tail_dropWhile_iff (c : Char) (text : Text) :
    c ∈ (text.dropWhile (· != c)).tail ↔ 1 < text.count c := by
  induction text with
  | nil => simp
  | cons d rest ih =>
    by_cases h : d = c
    · subst h
      simp
    · have hd : (d != c) = true := bne_iff_ne.mpr h
      rw [List.dropWhile_cons, if_pos hd, List.count_cons_of_ne h, ih]

/-! ## Texts put together -/

/-- An occurrence does not reach into a text without the last character of the marker. -/
theorem infix_append_iff_of_last {mark b : Text} {c : Char} (hc : mark.getLast? = some c) (hb : c ∉ b) (a : Text) :
    mark <:+: a ++ b ↔ mark <:+: a := by
  refine ⟨fun h => ?_, List.infix_append_of_infix_left⟩
  rcases List.infix_append_iff.mp h with h | h | ⟨l₁, l₂, rfl, h₁, h₂⟩
  · exact h
  · exact absurd (h.subset (List.mem_of_getLast? hc)) hb
  · cases l₂ with
    | nil => rw [List.append_nil]; exact h₁.isInfix
    | cons d l₂ =>
      rw [List.getLast?_append, List.getLast?_eq_some_getLast (List.cons_ne_nil d l₂), Option.some_or] at hc
      cases hc
      exact absurd (h₂.subset (List.getLast_mem _)) hb

theorem splitOnce_append {mark b : Text} {c : Char} (hc : mark.getLast? = some c) (hb : c ∉ b) (a : Text) :
    splitOnce mark (a ++ b) = (splitOnce mark a).map fun (before, after) => (before, after ++ b) := by
  have hne : mark ≠ [] := by rintro rfl; cases hc
  cases hs : splitOnce mark a with
  | none =>
    rw [splitOnce_eq_none_iff hne] at hs
    rw [Option.map_none, splitOnce_eq_none_iff hne, infix_append_iff_of_last hc hb]
    exact hs
  | some parts => exact (splitOnce_eq_some_iff hne).mpr (((splitOnce_eq_some_iff hne).mp hs).append b)

/-- Of all that the marker begins with, only nothing and the whole are also an end of it. -/
def IsUnbordered (mark : Text) : Prop := ∀ part ∈ mark.tails, part <+: mark → part = [] ∨ part = mark

instance (mark : Text) : Decidable (IsUnbordered mark) := by unfold IsUnbordered; infer_instance

/-- Such a marker does not begin in a text and end within another occurrence behind it. -/
theorem not_infix_append_dropLast {mark text : Text} (hne : mark ≠ []) (hmark : IsUnbordered mark)
    (h : ¬ mark <:+: text) : ¬ mark <:+: text ++ mark.dropLast := by
  have hpos : 0 < mark.length := List.length_pos_iff.mpr hne
  intro hi
  rcases List.infix_append_iff.mp hi with hi | hi | ⟨l₁, l₂, hl, h₁, h₂⟩
  · exact h hi
  · have := hi.length_le
    rw [List.length_dropLast] at this
    omega
  · have hsuffix : l₂ ∈ mark.tails := (List.mem_tails _ _).mpr ⟨l₁, hl.symm⟩
    rcases hmark l₂ hsuffix (h₂.trans (List.dropLast_prefix mark)) with rfl | rfl
    · rw [List.append_nil] at hl
      exact h (hl ▸ h₁.isInfix)
    · have := h₂.length_le
      rw [List.length_dropLast] at this
      omega

end ActivityLog.Text
