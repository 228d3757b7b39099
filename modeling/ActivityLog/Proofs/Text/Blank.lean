/-
  ActivityLog.Proofs.Text.Blank — blanks at the ends of a text and between its words.

  A text is trimmed when neither its first nor its last character is blank
  (`IsTrimmed`). These are the texts that `trim` leaves alone (`trim_eq_self_iff`),
  and what `trim` makes is one of them (`isTrimmed_trim`). Blanks added at the ends
  do not change what it makes (`trim_append_blanks`, `trim_blanks_append`).

  The words of a text are its stretches without blanks, the empty ones left out
  (`words`). A blank ends a word and belongs to none (`words_append_blank`), so the
  words do not show how many blanks stand between them. A text begins with its first
  word, blanks aside, and that word is followed by a blank or by nothing
  (`words_eq_cons_iff`).
-/

import Mathlib.Data.List.TakeWhile
import ActivityLog.Text.Basic

namespace ActivityLog.Text

/-! ## Runs of blanks -/

theorem isAllBlank_iff {text : Text} : isAllBlank text = true ↔ ∀ c ∈ text, isBlank c = true := List.all_eq_true

theorem not_mem_of_isAllBlank {b : Text} (hb : isAllBlank b = true) {c : Char} (hc : isBlank c = false) : c ∉ b := by
  intro hmem
  rw [isAllBlank_iff.mp hb c hmem] at hc
  cases hc

theorem trimStart_blanks_append {b : Text} (hb : isAllBlank b = true) (text : Text) :
    trimStart (b ++ text) = trimStart text :=
  List.dropWhile_append_of_pos (isAllBlank_iff.mp hb)

theorem trimStart_eq_nil_iff {text : Text} : trimStart text = [] ↔ isAllBlank text = true := by
  rw [isAllBlank_iff]; exact List.dropWhile_eq_nil_iff

/-- A text is a run of blanks and what `trimStart` leaves of it. -/
theorem exists_blanks_append_trimStart (text : Text) :
    ∃ b, isAllBlank b = true ∧ text = b ++ trimStart text :=
  ⟨text.takeWhile isBlank, List.all_takeWhile, List.takeWhile_append_dropWhile.symm⟩

theorem trimStart_cons {c : Char} (hc : isBlank c = false) (text : Text) : trimStart (c :: text) = c :: text := by
  simp [trimStart, hc]

theorem isBlank_head_trimStart {text rest : Text} {c : Char} (h : trimStart text = c :: rest) :
    isBlank c = false := by
  have := List.head?_dropWhile_not isBlank text
  rw [show text.dropWhile isBlank = c :: rest from h] at this
  simpa using this

/-! ## Trimmed texts -/

/-- Neither the first nor the last character is blank. -/
structure IsTrimmed (text : Text) : Prop where
  head : ∀ c, text.head? = some c → isBlank c = false
  last : ∀ c, text.getLast? = some c → isBlank c = false

theorem trimStart_eq_self_iff {text : Text} :
    trimStart text = text ↔ ∀ c, text.head? = some c → isBlank c = false := by
  constructor
  · intro h c hc
    cases text with
    | nil => cases hc
    | cons d rest => cases hc; exact isBlank_head_trimStart h
  · intro h
    cases text with
    | nil => rfl
    | cons d rest => exact trimStart_cons (h d rfl) rest

theorem trimEnd_eq_self_iff {text : Text} :
    trimEnd text = text ↔ ∀ c, text.getLast? = some c → isBlank c = false := by
  have h := @trimStart_eq_self_iff text.reverse
  rw [List.head?_reverse] at h
  rw [← h]
  exact ⟨fun he => List.reverse_eq_iff.mp he, fun he => List.reverse_eq_iff.mpr he⟩

theorem trimEnd_prefix_self (text : Text) : trimEnd text <+: text := by
  have := (List.dropWhile_suffix (l := text.reverse) isBlank).reverse
  rwa [List.reverse_reverse] at this

theorem trim_infix (text : Text) : trim text <:+: text :=
  (trimEnd_prefix_self (trimStart text)).isInfix.trans (List.dropWhile_suffix isBlank).isInfix

theorem isTrimmed_trim (text : Text) : IsTrimmed (trim text) where
  head c hc := by
    have hp := trimEnd_prefix_self (trimStart text)
    obtain ⟨rest, hr⟩ : ∃ rest, trim text = c :: rest := List.head?_eq_some_iff.mp hc
    obtain ⟨t, ht⟩ := hp
    rw [show trimEnd (trimStart text) = c :: rest from hr] at ht
    exact isBlank_head_trimStart ht.symm
  last c hc := by
    have : (trimStart (trimStart text).reverse).head? = some c := by rw [← List.getLast?_reverse]; exact hc
    obtain ⟨rest, hr⟩ := List.head?_eq_some_iff.mp this
    exact isBlank_head_trimStart hr

theorem trim_eq_self_iff {text : Text} : trim text = text ↔ IsTrimmed text := by
  constructor
  · intro h; exact h ▸ isTrimmed_trim text
  · intro h
    rw [trim, trimStart_eq_self_iff.mpr h.head, trimEnd_eq_self_iff.mpr h.last]

theorem trim_trim (text : Text) : trim (trim text) = trim text := trim_eq_self_iff.mpr (isTrimmed_trim text)

theorem trimEnd_append_blanks {b : Text} (hb : isAllBlank b = true) (text : Text) :
    trimEnd (text ++ b) = trimEnd text := by
  have hb' : isAllBlank b.reverse = true := by rw [isAllBlank, List.all_reverse]; exact hb
  rw [trimEnd, List.reverse_append]
  exact congrArg List.reverse (trimStart_blanks_append hb' text.reverse)

theorem trim_blanks_append {b : Text} (hb : isAllBlank b = true) (text : Text) : trim (b ++ text) = trim text := by
  rw [trim, trimStart_blanks_append hb, trim]

theorem trim_append_blanks {b : Text} (hb : isAllBlank b = true) (text : Text) : trim (text ++ b) = trim text := by
  rw [trim, trimStart, List.dropWhile_append]
  split
  · rename_i he
    have ht : trimStart text = [] := List.isEmpty_iff.mp he
    rw [trim, ht]
    exact congrArg trimEnd (trimStart_eq_nil_iff.mpr hb)
  · exact trimEnd_append_blanks hb _

/-- A text is what `trim` leaves of it, between blanks. -/
theorem exists_blanks_append_trim (text : Text) :
    ∃ a b, isAllBlank a = true ∧ isAllBlank b = true ∧ text = a ++ (trim text ++ b) := by
  obtain ⟨a, ha, hstart⟩ := exists_blanks_append_trimStart text
  obtain ⟨b, hb, hend⟩ := exists_blanks_append_trimStart (trimStart text).reverse
  refine ⟨a, b.reverse, ha, ?_, ?_⟩
  · rw [isAllBlank, List.all_reverse]
    exact hb
  · calc text = a ++ trimStart text := hstart
      _ = a ++ (trimStart text).reverse.reverse := by rw [List.reverse_reverse]
      _ = a ++ (trim text ++ b.reverse) := by
        rw [hend, List.reverse_append]
        rfl

theorem trim_eq_nil_of_isAllBlank {text : Text} (h : isAllBlank text = true) : trim text = [] := by
  rw [trim, trimStart_eq_nil_iff.mpr h]
  rfl

theorem trim_eq_nil_iff {text : Text} : trim text = [] ↔ isAllBlank text = true := by
  refine ⟨fun h => ?_, trim_eq_nil_of_isAllBlank⟩
  obtain ⟨a, b, ha, hb, htext⟩ := exists_blanks_append_trim text
  rw [htext, h, List.nil_append, isAllBlank, List.all_append, Bool.and_eq_true]
  exact ⟨ha, hb⟩

/-! ## Words -/

/-- The stretches of the text between its blanks, without the empty ones. -/
def words (text : Text) : List Text := (text.splitOnP isBlank).filter fun word => !word.isEmpty

structure IsWord (word : Text) : Prop where
  ne_nil : word ≠ []
  plain : ∀ c ∈ word, isBlank c = false

theorem isWord_iff_all {word : Text} : IsWord word ↔ 1 ≤ word.length ∧ word.all (fun c => !isBlank c) = true := by
  constructor
  · intro h
    obtain ⟨hne, hplain⟩ := h
    refine ⟨List.length_pos_iff.mpr hne, List.all_eq_true.mpr fun c hc => ?_⟩
    rw [hplain c hc]; rfl
  · intro h
    obtain ⟨hlen, hall⟩ := h
    refine ⟨List.ne_nil_of_length_pos hlen, fun c hc => ?_⟩
    simpa using List.all_eq_true.mp hall c hc

theorem IsWord.not_mem {word : Text} (h : IsWord word) {c : Char} (hc : isBlank c = true) : c ∉ word := by
  intro hmem
  rw [h.plain c hmem] at hc
  cases hc

theorem isTrimmed_of_words {a b : Text} (ha : IsWord a) (hb : IsWord b) (between : Text) :
    IsTrimmed (a ++ between ++ b) where
  head c hc := by
    rw [List.append_assoc, List.head?_append, List.head?_eq_some_head ha.ne_nil] at hc
    cases hc
    exact ha.plain _ (List.head_mem _)
  last c hc := by
    rw [List.getLast?_append, List.getLast?_eq_some_getLast hb.ne_nil] at hc
    cases hc
    exact hb.plain _ (List.getLast_mem _)

theorem IsWord.isTrimmed {word : Text} (h : IsWord word) : IsTrimmed word where
  head c hc := h.plain c (List.mem_of_head? hc)
  last c hc := h.plain c (List.mem_of_getLast? hc)

structure IsGap (gap : Text) : Prop where
  ne_nil : gap ≠ []
  blank : isAllBlank gap = true

theorem words_append_blank {c : Char} (hc : isBlank c = true) (a b : Text) :
    words (a ++ c :: b) = words a ++ words b := by
  simp only [words, List.splitOnP_append_cons a b hc, List.filter_append]

theorem words_of_isWord {word : Text} (h : IsWord word) : words word = [word] := by
  have hne := h.ne_nil
  rw [words, List.splitOnP_eq_singleton h.plain]
  simp [hne]

theorem words_blanks_append {b : Text} (hb : isAllBlank b = true) (text : Text) : words (b ++ text) = words text := by
  induction b with
  | nil => rfl
  | cons c b ih =>
    simp only [isAllBlank, List.all_cons, Bool.and_eq_true] at hb
    exact (words_append_blank hb.1 [] (b ++ text)).trans (ih hb.2)

theorem words_eq_nil_of_isAllBlank {b : Text} (hb : isAllBlank b = true) : words b = [] := by
  have := words_blanks_append hb []
  rwa [List.append_nil] at this

theorem words_append_blanks {b : Text} (hb : isAllBlank b = true) (text : Text) : words (text ++ b) = words text := by
  cases b with
  | nil => rw [List.append_nil]
  | cons c b =>
    simp only [isAllBlank, List.all_cons, Bool.and_eq_true] at hb
    rw [words_append_blank hb.1, words_eq_nil_of_isAllBlank hb.2, List.append_nil]

/-- A word that a blank or nothing follows is the first word. -/
theorem words_isWord_append {word rest : Text} (h : IsWord word)
    (hr : ∀ c, rest.head? = some c → isBlank c = true) : words (word ++ rest) = word :: words rest := by
  cases rest with
  | nil => rw [List.append_nil, words_of_isWord h]; rfl
  | cons c rest =>
    have hc : isBlank c = true := hr c rfl
    rw [words_append_blank hc, words_of_isWord h]
    exact congrArg (word :: ·) (words_append_blank hc [] rest).symm

theorem words_isWord_gap_append {word gap : Text} (h : IsWord word) (hgap : IsGap gap) (rest : Text) :
    words (word ++ (gap ++ rest)) = word :: words rest := by
  obtain ⟨c, gap, rfl⟩ := List.exists_cons_of_ne_nil hgap.ne_nil
  have hr : ∀ d, (c :: gap ++ rest).head? = some d → isBlank d = true := by
    rintro _ ⟨⟩
    exact isAllBlank_iff.mp hgap.blank c (List.mem_cons_self ..)
  rw [words_isWord_append h hr, words_blanks_append hgap.blank]

/-- A text that is not all blank begins with a word, blanks aside. -/
theorem exists_first_word {text : Text} (h : isAllBlank text = false) :
    ∃ b word rest, isAllBlank b = true ∧ IsWord word ∧ (∀ c, rest.head? = some c → isBlank c = true) ∧
      text = b ++ word ++ rest := by
  obtain ⟨b, hb, ht⟩ := exists_blanks_append_trimStart text
  cases hs : trimStart text with
  | nil => rw [trimStart_eq_nil_iff.mp hs] at h; cases h
  | cons c tail =>
    have hc := isBlank_head_trimStart hs
    -- The first word runs up to the next blank.
    let plain : Char → Bool := fun c => !isBlank c
    refine ⟨b, (c :: tail).takeWhile plain, (c :: tail).dropWhile plain, hb, ⟨?_, ?_⟩, ?_, ?_⟩
    · simp [plain, hc]
    · intro d hd
      simpa [plain] using List.mem_takeWhile_imp hd
    · intro d hd
      have := List.head?_dropWhile_not plain (c :: tail)
      rw [hd] at this
      simpa [plain] using this
    · rw [List.append_assoc, List.takeWhile_append_dropWhile, ← hs]
      exact ht

theorem words_eq_nil_iff {text : Text} : words text = [] ↔ isAllBlank text = true := by
  constructor
  · intro h
    by_contra hne
    obtain ⟨b, word, rest, hb, hw, hr, rfl⟩ := exists_first_word (by simpa using hne)
    rw [List.append_assoc, words_blanks_append hb, words_isWord_append hw hr] at h
    cases h
  · exact words_eq_nil_of_isAllBlank

theorem words_eq_cons_iff {text word : Text} {more : List Text} :
    words text = word :: more ↔ ∃ b rest, isAllBlank b = true ∧ IsWord word ∧
      (∀ c, rest.head? = some c → isBlank c = true) ∧ text = b ++ word ++ rest ∧ words rest = more := by
  constructor
  · intro h
    have hne : isAllBlank text = false := by
      by_contra hall
      rw [words_eq_nil_of_isAllBlank (by simpa using hall)] at h
      cases h
    obtain ⟨b, first, rest, hb, hw, hr, rfl⟩ := exists_first_word hne
    rw [List.append_assoc, words_blanks_append hb, words_isWord_append hw hr] at h
    cases h
    exact ⟨b, rest, hb, hw, hr, rfl, rfl⟩
  · intro h
    obtain ⟨b, rest, hb, hword, hr, rfl, rfl⟩ := h
    rw [List.append_assoc, words_blanks_append hb, words_isWord_append hword hr]

/-- Two words have a gap between them. -/
theorem isGap_of_head {b word rest : Text} (hb : isAllBlank b = true) (hw : IsWord word)
    (h : ∀ c, (b ++ word ++ rest).head? = some c → isBlank c = true) : IsGap b := by
  refine ⟨?_, hb⟩
  rintro rfl
  obtain ⟨c, tail, rfl⟩ := List.exists_cons_of_ne_nil hw.ne_nil
  have := hw.plain c (List.mem_cons_self ..)
  rw [h c rfl] at this
  cases this

example : words "  get\tip\n".toList = ["get".toList, "ip".toList] := by decide

end ActivityLog.Text
