/-
  ActivityLog.Proofs.Query.Forms — the two forms of a query, word by word.

  The forms are given a second time, as patterns: stretches of text that follow one
  another, of which some are kept (`Matches`). The readers find exactly the matches
  of their patterns (`shortForm?_iff_matches`, `longForm?_iff_matches`), so there is
  never more than one match, and a text of the long form never has the short one
  (`shortForm?_eq_none_of_longForm?`).

  Both forms are a matter of words. A text has the short form when its words are
  `get` and one other (`shortForm?_eq_some_iff`). It has the long form when the words
  before its first equals sign are `get`, one word, `for` and one more
  (`longForm?_eq_some_iff`). A request is then read from the field words alone, and
  its value from what follows the equals sign (`read_by_words`).

  Pattern, reader and words meet in a layout, the list of all stretches of a text with
  what each of them has to be (`ShortLayout`, `LongLayout`).
-/

import ActivityLog.Proofs.Text.Blank
import ActivityLog.Proofs.Text.Cut
import ActivityLog.Proofs.Entry.Reader
import ActivityLog.Query.Request

namespace ActivityLog.Query

open Text (isBlank isAllBlank IsGap IsWord isWord_iff_all words)

/-! ## Patterns -/

/-- A stretch of a pattern. -/
inductive Piece where
  /-- These characters. -/
  | literal (text : Text)
  /-- At least `least` characters that satisfy `p`. -/
  | run (least : Nat) (p : Char → Bool)
  /-- The same, kept as a part of the match. -/
  | part (least : Nat) (p : Char → Bool)

/-- The text as a whole falls into the stretches of the pattern, and these are the parts kept. -/
def Matches : List Piece → Text → List Text → Prop
  | [], text, parts => text = [] ∧ parts = []
  | .literal a :: more, text, parts => ∃ rest, text = a ++ rest ∧ Matches more rest parts
  | .run least p :: more, text, parts =>
    ∃ a rest, text = a ++ rest ∧ least ≤ a.length ∧ a.all p = true ∧ Matches more rest parts
  | .part least p :: more, text, parts =>
    ∃ a rest others, text = a ++ rest ∧ least ≤ a.length ∧ a.all p = true ∧ parts = a :: others ∧
      Matches more rest others

def isPlain (c : Char) : Bool := !isBlank c && c != '='

/-- A word that can stand for a field before the equals sign. -/
structure IsFieldWord (word : Text) : Prop extends IsWord word where
  no_equals : '=' ∉ word

/-- `get <word>`, with blanks around the words. -/
def shortPattern : List Piece :=
  [.run 0 isBlank, .literal "get".toList, .run 1 isBlank, .part 1 fun c => !isBlank c, .run 0 isBlank]

/-- `get <target> for <filter> = <rest>`, with blanks around the words. -/
def longPattern : List Piece :=
  [.run 0 isBlank, .literal "get".toList, .run 1 isBlank, .part 1 isPlain, .run 1 isBlank,
   .literal "for".toList, .run 1 isBlank, .part 1 isPlain, .run 0 isBlank, .literal ['='], .part 0 fun _ => true]

/-! ## The stretches of the patterns -/

theorem isFieldWord_iff_all {word : Text} : IsFieldWord word ↔ 1 ≤ word.length ∧ word.all isPlain = true := by
  have hplain : ∀ c, isPlain c = true ↔ isBlank c = false ∧ c ≠ '=' := by
    intro c; simp [isPlain]
  simp only [List.all_eq_true, hplain]
  constructor
  · intro h
    obtain ⟨hw, heq⟩ := h
    exact ⟨List.length_pos_of_ne_nil hw.ne_nil, fun c hc => ⟨hw.plain c hc, fun he => heq (he ▸ hc)⟩⟩
  · intro h
    obtain ⟨hlen, h⟩ := h
    exact ⟨⟨List.ne_nil_of_length_pos hlen, fun c hc => (h c hc).1⟩, fun hc => (h _ hc).2 rfl⟩

section Stretches

variable {more : List Piece} {text : Text} {parts : List Text}

theorem matches_literal_iff {a : Text} :
    Matches (.literal a :: more) text parts ↔ ∃ rest, text = a ++ rest ∧ Matches more rest parts := Iff.rfl

theorem matches_blanks_iff : Matches (.run 0 isBlank :: more) text parts ↔
    ∃ b, isAllBlank b = true ∧ ∃ rest, text = b ++ rest ∧ Matches more rest parts := by
  constructor
  · intro h
    obtain ⟨b, rest, rfl, -, hb, h⟩ := h
    exact ⟨b, hb, rest, rfl, h⟩
  · intro h
    obtain ⟨b, hb, rest, rfl, h⟩ := h
    exact ⟨b, rest, rfl, Nat.zero_le _, hb, h⟩

theorem matches_gap_iff : Matches (.run 1 isBlank :: more) text parts ↔
    ∃ b, IsGap b ∧ ∃ rest, text = b ++ rest ∧ Matches more rest parts := by
  constructor
  · intro h
    obtain ⟨b, rest, rfl, hlen, hb, h⟩ := h
    exact ⟨b, ⟨List.ne_nil_of_length_pos hlen, hb⟩, rest, rfl, h⟩
  · intro h
    obtain ⟨b, hb, rest, rfl, h⟩ := h
    exact ⟨b, rest, rfl, List.length_pos_of_ne_nil hb.ne_nil, hb.blank, h⟩

theorem matches_part_iff {least : Nat} {p : Char → Bool} {P : Text → Prop}
    (hP : ∀ word, P word ↔ least ≤ word.length ∧ word.all p = true) : Matches (.part least p :: more) text parts ↔
      ∃ word, P word ∧ ∃ others, parts = word :: others ∧ ∃ rest, text = word ++ rest ∧ Matches more rest others := by
  constructor
  · intro h
    obtain ⟨word, rest, others, rfl, hlen, hall, rfl, h⟩ := h
    exact ⟨word, (hP word).mpr ⟨hlen, hall⟩, others, rfl, rest, rfl, h⟩
  · intro h
    obtain ⟨word, hword, others, rfl, rest, rfl, h⟩ := h
    obtain ⟨hlen, hall⟩ := (hP word).mp hword
    exact ⟨word, rest, others, rfl, hlen, hall, rfl, h⟩

end Stretches

/-! ## The steps of the readers -/

theorem head_of_isWord {word rest : Text} (hw : IsWord word) :
    ∀ c, (word ++ rest).head? = some c → isBlank c = false := by
  obtain ⟨d, tail, rfl⟩ := List.exists_cons_of_ne_nil hw.ne_nil
  rintro _ ⟨⟩
  exact hw.plain d (List.mem_cons_self ..)

theorem head_of_isGap {gap : Text} (hgap : IsGap gap) (rest : Text) :
    ∀ c, (gap ++ rest).head? = some c → isPlain c = false := by
  obtain ⟨d, tail, rfl⟩ := List.exists_cons_of_ne_nil hgap.ne_nil
  rintro _ ⟨⟩
  simp [isPlain, Text.isAllBlank_iff.mp hgap.blank d (List.mem_cons_self ..)]

theorem isBlank_head_of_isAllBlank {b : Text} (hb : isAllBlank b = true) :
    ∀ c, b.head? = some c → isBlank c = true := fun c hc =>
  Text.isAllBlank_iff.mp hb c (List.mem_of_head? hc)

theorem equals_not_mem_blanks {b : Text} (hb : isAllBlank b = true) : '=' ∉ b :=
  Text.not_mem_of_isAllBlank hb rfl

theorem afterWord?_eq_some_iff {word text rest : Text} (hw : IsWord word) :
    afterWord? word text = some rest ↔ ∃ b, isAllBlank b = true ∧ text = b ++ (word ++ rest) := by
  have hstart : Text.trimStart (word ++ rest) = word ++ rest := Text.trimStart_eq_self_iff.mpr (head_of_isWord hw)
  unfold afterWord?
  rw [Text.dropMark?_eq_some_iff]
  constructor
  · intro h
    obtain ⟨b, hb, ht⟩ := Text.exists_blanks_append_trimStart text
    exact ⟨b, hb, h ▸ ht⟩
  · intro h
    obtain ⟨b, hb, rfl⟩ := h
    rw [Text.trimStart_blanks_append hb, hstart]

theorem afterBlanks?_eq_some_iff {text rest : Text} : afterBlanks? text = some rest ↔
    ∃ b, IsGap b ∧ text = b ++ rest ∧ ∀ c, rest.head? = some c → isBlank c = false := by
  constructor
  · intro h
    cases text with
    | nil => cases h
    | cons c tail =>
      simp only [afterBlanks?] at h
      split at h
      · rename_i hc
        cases h
        obtain ⟨b, hb, ht⟩ := Text.exists_blanks_append_trimStart tail
        refine ⟨c :: b, ⟨List.cons_ne_nil _ _, ?_⟩, congrArg (c :: ·) ht, ?_⟩
        · rw [Text.isAllBlank_iff]
          exact List.forall_mem_cons.mpr ⟨hc, Text.isAllBlank_iff.mp hb⟩
        · intro d hd
          obtain ⟨more, hm⟩ := List.head?_eq_some_iff.mp hd
          exact Text.isBlank_head_trimStart hm
      · cases h
  · intro h
    obtain ⟨b, hgap, rfl, hr⟩ := h
    obtain ⟨c, b, rfl⟩ := List.exists_cons_of_ne_nil hgap.ne_nil
    have hb := hgap.blank
    simp only [isAllBlank, List.all_cons, Bool.and_eq_true] at hb
    have : Text.trimStart (b ++ rest) = rest := by
      rw [Text.trimStart_blanks_append hb.2, Text.trimStart_eq_self_iff.mpr hr]
    simp [afterBlanks?, hb.1, this]

theorem spanSome?_eq_some_iff {p : Char → Bool} {text word rest : Text} :
    spanSome? p text = some (word, rest) ↔ (1 ≤ word.length ∧ word.all p = true) ∧ text = word ++ rest ∧
      ∀ c, rest.head? = some c → p c = false := by
  constructor
  · intro h
    unfold spanSome? at h
    split at h
    · cases h
    · rename_i hne
      cases h
      refine ⟨⟨List.length_pos_of_ne_nil hne, List.all_takeWhile⟩, List.takeWhile_append_dropWhile.symm, fun c hc => ?_⟩
      have := List.head?_dropWhile_not p text
      rw [hc] at this
      simpa using this
  · intro h
    obtain ⟨⟨hlen, hw⟩, rfl, hr⟩ := h
    have hne : word ≠ [] := List.ne_nil_of_length_pos hlen
    have hrest : rest.takeWhile p = [] ∧ rest.dropWhile p = rest := by
      cases rest with
      | nil => exact ⟨rfl, rfl⟩
      | cons c rest => simp [hr c rfl]
    have hw := List.all_eq_true.mp hw
    have htake : (word ++ rest).takeWhile p = word := by
      rw [List.takeWhile_append_of_pos hw, hrest.1, List.append_nil]
    have hdrop : (word ++ rest).dropWhile p = rest := by
      rw [List.dropWhile_append_of_pos hw, hrest.2]
    unfold spanSome?
    rw [htake, hdrop]
    split
    · contradiction
    · rfl

theorem isWord_get : IsWord "get".toList := isWord_iff_all.mpr (by decide)

theorem isWord_for : IsWord "for".toList := isWord_iff_all.mpr (by decide)

theorem isWord_equals : IsWord ['='] := isWord_iff_all.mpr (by decide)

theorem afterGet?_eq_some_iff {text rest : Text} : afterGet? text = some rest ↔
    ∃ b₁, isAllBlank b₁ = true ∧ ∃ b₂, IsGap b₂ ∧ text = b₁ ++ ("get".toList ++ (b₂ ++ rest)) ∧
      ∀ c, rest.head? = some c → isBlank c = false := by
  simp only [afterGet?, Option.bind_eq_bind, Option.bind_eq_some_iff, afterWord?_eq_some_iff isWord_get,
    afterBlanks?_eq_some_iff]
  constructor
  · intro h
    obtain ⟨_, ⟨b₁, hb₁, rfl⟩, b₂, hb₂, rfl, hr⟩ := h
    exact ⟨b₁, hb₁, b₂, hb₂, rfl, hr⟩
  · intro h
    obtain ⟨b₁, hb₁, b₂, hb₂, rfl, hr⟩ := h
    exact ⟨_, ⟨b₁, hb₁, rfl⟩, b₂, hb₂, rfl, hr⟩

/-! ## The short form -/

structure ShortLayout (q w : Text) where
  lead : Text
  gap : Text
  trail : Text
  lead_blank : isAllBlank lead = true
  isGap : IsGap gap
  isWord : IsWord w
  trail_blank : isAllBlank trail = true
  text_eq : q = lead ++ ("get".toList ++ (gap ++ (w ++ trail)))

theorem matches_shortPattern_iff {q : Text} {parts : List Text} :
    Matches shortPattern q parts ↔ ∃ w, Nonempty (ShortLayout q w) ∧ parts = [w] := by
  simp only [shortPattern, matches_blanks_iff, matches_gap_iff, matches_literal_iff,
    matches_part_iff fun _ => isWord_iff_all]
  constructor
  · intro h
    obtain ⟨lead, hlead, _, rfl, _, rfl, gap, hgap, _, rfl, w, hw, _, rfl, _, rfl, trail, htrail, _, rfl, rfl, rfl⟩ := h
    exact ⟨w, ⟨lead, gap, trail, hlead, hgap, hw, htrail, by rw [List.append_nil]⟩, rfl⟩
  · intro h
    obtain ⟨w, ⟨layout⟩, rfl⟩ := h
    exact ⟨_, layout.lead_blank, _, layout.text_eq, _, rfl, _, layout.isGap, _, rfl, w, layout.isWord, _, rfl, _, rfl,
      _, layout.trail_blank, [], (List.append_nil _).symm, rfl, rfl⟩

theorem shortForm?_iff_layout {q w : Text} : shortForm? q = some w ↔ Nonempty (ShortLayout q w) := by
  simp only [shortForm?, Option.bind_eq_bind, Option.bind_eq_some_iff, afterGet?_eq_some_iff]
  constructor
  · intro h
    obtain ⟨_, ⟨lead, hlead, gap, hgap, rfl, -⟩, ⟨word, trail⟩, hspan, h⟩ := h
    obtain ⟨hword, rfl, -⟩ := spanSome?_eq_some_iff.mp hspan
    split at h
    · rename_i htrail
      cases h
      exact ⟨lead, gap, trail, hlead, hgap, isWord_iff_all.mpr hword, htrail, rfl⟩
    · cases h
  · intro h
    obtain ⟨layout⟩ := h
    have hspan : spanSome? (fun c => !isBlank c) (w ++ layout.trail) = some (w, layout.trail) := by
      refine spanSome?_eq_some_iff.mpr ⟨isWord_iff_all.mp layout.isWord, rfl, fun c hc => ?_⟩
      rw [isBlank_head_of_isAllBlank layout.trail_blank c hc]; rfl
    exact ⟨_, ⟨_, layout.lead_blank, _, layout.isGap, layout.text_eq, head_of_isWord layout.isWord⟩, _, hspan,
      if_pos layout.trail_blank⟩

/-- The reader of the short form finds the matches of the pattern, and there is never another one. -/
theorem shortForm?_iff_matches {q : Text} {parts : List Text} :
    Matches shortPattern q parts ↔ ∃ w, shortForm? q = some w ∧ parts = [w] := by
  simp only [matches_shortPattern_iff, shortForm?_iff_layout]

/-- A text has the short form when its words are `get` and one other. -/
theorem shortForm?_eq_some_iff {q w : Text} : shortForm? q = some w ↔ words q = ["get".toList, w] := by
  rw [shortForm?_iff_layout]
  constructor
  · intro h
    obtain ⟨layout⟩ := h
    rw [layout.text_eq, Text.words_blanks_append layout.lead_blank,
      Text.words_isWord_gap_append isWord_get layout.isGap,
      Text.words_isWord_append layout.isWord (isBlank_head_of_isAllBlank layout.trail_blank),
      Text.words_eq_nil_of_isAllBlank layout.trail_blank]
  · intro h
    obtain ⟨lead, _, hlead, -, hnext, rfl, h₁⟩ := Text.words_eq_cons_iff.mp h
    obtain ⟨gap, trail, hgap, hw, -, rfl, hend⟩ := Text.words_eq_cons_iff.mp h₁
    exact ⟨lead, gap, trail, hlead, Text.isGap_of_head hgap hw hnext, hw, Text.words_eq_nil_iff.mp hend,
      by simp only [List.append_assoc]⟩

/-- A text of the short form has an equals sign only in its word. -/
theorem not_mem_of_shortForm? {q w : Text} (h : shortForm? q = some w) (hw : '=' ∉ w) : '=' ∉ q := by
  obtain ⟨layout⟩ := shortForm?_iff_layout.mp h
  rw [layout.text_eq]
  simp [equals_not_mem_blanks layout.lead_blank, equals_not_mem_blanks layout.isGap.blank,
    equals_not_mem_blanks layout.trail_blank, hw]

/-! ## The long form -/

structure LongLayout (q t f rest : Text) where
  lead : Text
  gap₁ : Text
  gap₂ : Text
  gap₃ : Text
  trail : Text
  lead_blank : isAllBlank lead = true
  isGap₁ : IsGap gap₁
  target : IsFieldWord t
  isGap₂ : IsGap gap₂
  isGap₃ : IsGap gap₃
  filter : IsFieldWord f
  trail_blank : isAllBlank trail = true
  text_eq : q =
    lead ++ ("get".toList ++ (gap₁ ++ (t ++ (gap₂ ++ ("for".toList ++ (gap₃ ++ (f ++ (trail ++ '=' :: rest))))))))

theorem matches_longPattern_iff {q : Text} {parts : List Text} : Matches longPattern q parts ↔
    ∃ t f rest, Nonempty (LongLayout q t f rest) ∧ parts = [t, f, rest] := by
  have hany : ∀ word : Text, True ↔ 0 ≤ word.length ∧ word.all (fun _ => true) = true := by simp
  simp only [longPattern, matches_blanks_iff, matches_gap_iff, matches_literal_iff,
    matches_part_iff fun _ => isFieldWord_iff_all, matches_part_iff hany]
  constructor
  · intro h
    obtain ⟨lead, hlead, _, rfl, _, rfl, gap₁, hgap₁, _, rfl, t, ht, _, rfl, _, rfl, gap₂, hgap₂, _, rfl, _, rfl,
      gap₃, hgap₃, _, rfl, f, hf, _, rfl, _, rfl, trail, htrail, _, rfl, _, rfl, rest, -, _, rfl, _, rfl, rfl, rfl⟩ := h
    exact ⟨t, f, rest, ⟨lead, gap₁, gap₂, gap₃, trail, hlead, hgap₁, ht, hgap₂, hgap₃, hf, htrail,
      by rw [List.append_nil]; rfl⟩, rfl⟩
  · intro h
    obtain ⟨t, f, rest, ⟨layout⟩, rfl⟩ := h
    exact ⟨_, layout.lead_blank, _, layout.text_eq, _, rfl, _, layout.isGap₁, _, rfl, t, layout.target, _, rfl, _, rfl,
      _, layout.isGap₂, _, rfl, _, rfl, _, layout.isGap₃, _, rfl, f, layout.filter, _, rfl, _, rfl,
      _, layout.trail_blank, _, rfl, _, rfl, rest, trivial, _, rfl, [], (List.append_nil rest).symm, rfl, rfl⟩

theorem spanSome?_isPlain {word rest : Text} (h : IsFieldWord word)
    (hr : ∀ c, rest.head? = some c → isPlain c = false) : spanSome? isPlain (word ++ rest) = some (word, rest) :=
  spanSome?_eq_some_iff.mpr ⟨isFieldWord_iff_all.mp h, rfl, hr⟩

theorem longForm?_iff_layout {q t f rest : Text} :
    longForm? q = some (t, f, rest) ↔ Nonempty (LongLayout q t f rest) := by
  have hplain : (fun c => !isBlank c && c != '=') = isPlain := rfl
  unfold longForm?
  simp only [hplain, Option.bind_eq_bind, Option.bind_eq_some_iff, afterGet?_eq_some_iff, afterBlanks?_eq_some_iff,
    Text.dropMark?_eq_some_iff, afterWord?_eq_some_iff isWord_equals]
  constructor
  · intro h
    obtain ⟨_, ⟨lead, hlead, gap₁, hgap₁, rfl, -⟩, ⟨t, _⟩, hspan, _, ⟨gap₂, hgap₂, rfl, -⟩, _, rfl,
      _, ⟨gap₃, hgap₃, rfl, -⟩, ⟨f, _⟩, hspan', _, ⟨trail, htrail, rfl⟩, h⟩ := h
    cases h
    obtain ⟨ht, rfl, -⟩ := spanSome?_eq_some_iff.mp hspan
    obtain ⟨hf, rfl, -⟩ := spanSome?_eq_some_iff.mp hspan'
    exact ⟨lead, gap₁, gap₂, gap₃, trail, hlead, hgap₁, isFieldWord_iff_all.mpr ht, hgap₂, hgap₃,
      isFieldWord_iff_all.mpr hf, htrail, rfl⟩
  · intro h
    obtain ⟨layout⟩ := h
    -- A blank ends the target; a blank or the equals sign ends the filter.
    have hstop : ∀ c, (layout.trail ++ '=' :: rest).head? = some c → isPlain c = false := by
      by_cases hne : layout.trail = []
      · rw [hne]; rintro c ⟨⟩; rfl
      · exact head_of_isGap ⟨hne, layout.trail_blank⟩ _
    exact ⟨_, ⟨_, layout.lead_blank, _, layout.isGap₁, layout.text_eq, head_of_isWord layout.target.toIsWord⟩,
      _, spanSome?_isPlain layout.target (head_of_isGap layout.isGap₂ _),
      _, ⟨_, layout.isGap₂, rfl, head_of_isWord isWord_for⟩, _, rfl,
      _, ⟨_, layout.isGap₃, rfl, head_of_isWord layout.filter.toIsWord⟩,
      _, spanSome?_isPlain layout.filter hstop, _, ⟨_, layout.trail_blank, rfl⟩, rfl⟩

/-- The reader of the long form finds the matches of the pattern, and there is never another one. -/
theorem longForm?_iff_matches {q : Text} {parts : List Text} : Matches longPattern q parts ↔
    ∃ t f rest, longForm? q = some (t, f, rest) ∧ parts = [t, f, rest] := by
  simp only [matches_longPattern_iff, longForm?_iff_layout]

/-- The first three words are the same whatever stands behind them. -/
theorem LongLayout.words_opening {q t f rest : Text} (layout : LongLayout q t f rest) (text : Text) :
    words (layout.lead ++ ("get".toList ++ (layout.gap₁ ++ (t ++ (layout.gap₂ ++ ("for".toList ++
      (layout.gap₃ ++ text))))))) = "get".toList :: t :: "for".toList :: words text := by
  rw [Text.words_blanks_append layout.lead_blank, Text.words_isWord_gap_append isWord_get layout.isGap₁,
    Text.words_isWord_gap_append layout.target.toIsWord layout.isGap₂,
    Text.words_isWord_gap_append isWord_for layout.isGap₃]

/-- A text has the long form when the words before its first equals sign are `get`, one word, `for` and
    one more. -/
theorem longForm?_eq_some_iff {q t f rest : Text} : longForm? q = some (t, f, rest) ↔
    ∃ head, q = head ++ '=' :: rest ∧ '=' ∉ head ∧ words head = ["get".toList, t, "for".toList, f] := by
  rw [longForm?_iff_layout]
  constructor
  · intro h
    obtain ⟨layout⟩ := h
    refine ⟨layout.lead ++ ("get".toList ++ (layout.gap₁ ++ (t ++ (layout.gap₂ ++ ("for".toList ++
      (layout.gap₃ ++ (f ++ layout.trail))))))), ?_, ?_, ?_⟩
    · refine layout.text_eq.trans ?_
      simp only [List.append_assoc]
    · simp [equals_not_mem_blanks layout.lead_blank, equals_not_mem_blanks layout.isGap₁.blank,
        equals_not_mem_blanks layout.isGap₂.blank, equals_not_mem_blanks layout.isGap₃.blank,
        equals_not_mem_blanks layout.trail_blank, layout.target.no_equals, layout.filter.no_equals]
    · rw [layout.words_opening,
        Text.words_isWord_append layout.filter.toIsWord (isBlank_head_of_isAllBlank layout.trail_blank),
        Text.words_eq_nil_of_isAllBlank layout.trail_blank]
  · intro h
    obtain ⟨head, rfl, heq, hwords⟩ := h
    obtain ⟨lead, _, hlead, -, hnext₁, rfl, h₁⟩ := Text.words_eq_cons_iff.mp hwords
    obtain ⟨gap₁, _, hgap₁, ht, hnext₂, rfl, h₂⟩ := Text.words_eq_cons_iff.mp h₁
    obtain ⟨gap₂, _, hgap₂, hfor, hnext₃, rfl, h₃⟩ := Text.words_eq_cons_iff.mp h₂
    obtain ⟨gap₃, trail, hgap₃, hf, -, rfl, hend⟩ := Text.words_eq_cons_iff.mp h₃
    have heq_t : '=' ∉ t := fun hmem => heq (by simp [hmem])
    have heq_f : '=' ∉ f := fun hmem => heq (by simp [hmem])
    exact ⟨lead, gap₁, gap₂, gap₃, trail, hlead, Text.isGap_of_head hgap₁ ht hnext₁, ⟨ht, heq_t⟩,
      Text.isGap_of_head hgap₂ hfor hnext₂, Text.isGap_of_head hgap₃ hf hnext₃, ⟨hf, heq_f⟩,
      Text.words_eq_nil_iff.mp hend, by simp only [List.append_assoc]⟩

/-- Before its equals sign a text of the long form has more words than the short form allows. -/
theorem shortForm?_eq_none_of_longForm? {q : Text} {parts : Text × Text × Text} (h : longForm? q = some parts) :
    shortForm? q = none := by
  obtain ⟨t, f, rest⟩ := parts
  obtain ⟨layout⟩ := longForm?_iff_layout.mp h
  refine Option.eq_none_iff_forall_not_mem.mpr fun w hw => ?_
  have hwords := shortForm?_eq_some_iff.mp hw
  rw [layout.text_eq, layout.words_opening] at hwords
  cases hwords

/-! ## Field words -/

theorem Field.read?_eq_some_iff {word : Text} {f : Field} : Field.read? word = some f ↔ word = f.token := by
  have hread : Field.read word = .ok f ↔ f.token = word := readToken_eq_ok_iff
  rw [eq_comm (a := word), ← hread, Field.read?]
  cases Field.read word <;> simp [Except.toOption]

theorem Field.isFieldWord_token (f : Field) : IsFieldWord f.token := by
  cases f <;> exact isFieldWord_iff_all.mpr (by decide)

/-! ## Requests -/

/-- The value ends before the first date keyword. -/
theorem readCondition_fst (text : Text) : (readCondition text).1 = unquote (Text.upTo rangeKeyword text) := by
  unfold readCondition
  split
  · rename_i value clause h
    rw [Text.upTo_of_splitOnce h]
  · rename_i h
    rw [Text.upTo_of_not_infix ((Text.splitOnce_eq_none_iff (by decide) text).mp h)]

/-- What a text of the long form is read as, its field words being known. -/
theorem read?_of_longForm? {q rest : Text} {t f : Text} (h : longForm? q = some (t, f, rest)) (r : Request) :
    Request.read? q = some r ↔ ∃ target filter, t = target.token ∧ f = filter.token ∧ target ≠ filter ∧
      r = .lookup ⟨target, filter, (readCondition rest).1, (readCondition rest).2.value⟩ := by
  have hshort := shortForm?_eq_none_of_longForm? h
  simp only [Request.read?, Request.readNoted?, hshort, h, Option.bind_eq_bind, Option.bind_some,
    Option.map_eq_some_iff, Option.bind_eq_some_iff, Field.read?_eq_some_iff]
  constructor
  · intro h
    obtain ⟨noted, ⟨target, ht, filter, hf, hread⟩, rfl⟩ := h
    split at hread
    · cases hread
    · rename_i hne
      cases hread
      exact ⟨target, filter, ht, hf, hne, rfl⟩
  · intro h
    obtain ⟨target, filter, ht, hf, hne, rfl⟩ := h
    exact ⟨_, ⟨target, ht, filter, hf, if_neg hne⟩, rfl⟩

theorem read?_eq_all_iff {q : Text} {f : Field} : Request.read? q = some (.all f) ↔ shortForm? q = some f.token := by
  cases hshort : shortForm? q with
  | some w =>
    simp [Request.read?, Request.readNoted?, hshort, Option.map_eq_some_iff, Field.read?_eq_some_iff]
  | none =>
    refine iff_of_false (fun h => ?_) nofun
    cases hlong : longForm? q with
    | none => simp [Request.read?, Request.readNoted?, hshort, hlong] at h
    | some parts =>
      obtain ⟨target, filter, -, -, -, hr⟩ := (read?_of_longForm? hlong _).mp h
      cases hr

theorem read?_eq_lookup_iff {q : Text} {l : Lookup} : Request.read? q = some (.lookup l) ↔
    ∃ rest, longForm? q = some (l.target.token, l.filter.token, rest) ∧ l.target ≠ l.filter ∧
      l.value = (readCondition rest).1 ∧ l.period = (readCondition rest).2.value := by
  constructor
  · intro h
    cases hlong : longForm? q with
    | none =>
      simp only [Request.read?, Request.readNoted?, hlong] at h
      split at h
      · simp at h
      · cases h
    | some parts =>
      obtain ⟨t, f, rest⟩ := parts
      obtain ⟨target, filter, rfl, rfl, hne, hr⟩ := (read?_of_longForm? hlong _).mp h
      cases hr
      exact ⟨rest, rfl, hne, rfl, rfl⟩
  · intro h
    obtain ⟨rest, hlong, hne, hvalue, hperiod⟩ := h
    refine (read?_of_longForm? hlong _).mpr ⟨l.target, l.filter, rfl, rfl, hne, ?_⟩
    rw [← hvalue, ← hperiod]

/-! ## Reading by words -/

theorem read?_eq_all_iff_words {q : Text} {f : Field} :
    Request.read? q = some (.all f) ↔ '=' ∉ q ∧ words q = ["get".toList, f.token] := by
  rw [read?_eq_all_iff, ← shortForm?_eq_some_iff]
  constructor
  · intro h
    exact ⟨not_mem_of_shortForm? h f.isFieldWord_token.no_equals, h⟩
  · intro h
    exact h.2

theorem read?_eq_lookup_iff_words {q : Text} {l : Lookup} : Request.read? q = some (.lookup l) ↔
    ∃ head rest, q = head ++ '=' :: rest ∧ '=' ∉ head ∧
      words head = ["get".toList, l.target.token, "for".toList, l.filter.token] ∧ l.target ≠ l.filter ∧
      l.value = unquote (Text.upTo rangeKeyword rest) ∧ l.period = (readCondition rest).2.value := by
  simp only [read?_eq_lookup_iff, longForm?_eq_some_iff, readCondition_fst]
  constructor
  · intro h
    obtain ⟨rest, ⟨head, hq, heq, hwords⟩, hcondition⟩ := h
    exact ⟨head, rest, hq, heq, hwords, hcondition⟩
  · intro h
    obtain ⟨head, rest, hq, heq, hwords, hcondition⟩ := h
    exact ⟨rest, ⟨head, hq, heq, hwords⟩, hcondition⟩

/-- Queries are read word by word. The short form is `get` and a field, without an equals sign. The
    long form is decided before the first equals sign, and its value ends at the first date keyword. -/
theorem read_by_words (q : Text) :
    (∀ parts, Matches shortPattern q parts ↔ ∃ w, shortForm? q = some w ∧ parts = [w]) ∧
    (∀ parts, Matches longPattern q parts ↔ ∃ t f rest, longForm? q = some (t, f, rest) ∧ parts = [t, f, rest]) ∧
    ¬ ((shortForm? q).isSome ∧ (longForm? q).isSome) ∧
    (∀ f, Request.read? q = some (.all f) ↔ '=' ∉ q ∧ words q = ["get".toList, f.token]) ∧
    (∀ l, Request.read? q = some (.lookup l) ↔
      ∃ head rest, q = head ++ '=' :: rest ∧ '=' ∉ head ∧
        words head = ["get".toList, l.target.token, "for".toList, l.filter.token] ∧ l.target ≠ l.filter ∧
        l.value = Text.trim ((Text.upTo rangeKeyword rest).filter (· != '"')) ∧
        l.period = (readCondition rest).2.value) := by
  refine ⟨fun _ => shortForm?_iff_matches, fun _ => longForm?_iff_matches, ?_,
    fun _ => read?_eq_all_iff_words, fun _ => read?_eq_lookup_iff_words⟩
  intro h
  obtain ⟨parts, hparts⟩ := Option.isSome_iff_exists.mp h.2
  have hshort := h.1
  rw [shortForm?_eq_none_of_longForm? hparts] at hshort
  cases hshort

end ActivityLog.Query
