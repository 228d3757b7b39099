/-
  ActivityLog.Proofs.Config — settings that are written are read back.

  A configuration file can be made of lines with a key and a text each (`writePairs`).
  Whatever the texts hold, the document is the table of these keys and texts, provided
  that no key is there twice (`readDocument?_writePairs`): quotes, backslashes and controls
  are escaped, so a text keeps to its line and ends at its closing quote.

  Of such a table the settings depend on three keys (`Config.read_writePairs_eq_ok_iff`).
  A key that is missing has its default, an empty file has all of them, other keys are
  ignored, and a word for the output that no format has is the only fault besides a key that
  is there twice (`Config.read_writePairs_eq_error_iff`). So any settings can be written, and
  come back from the bytes of the file (`settings_write`).

  Each option goes before the setting that it stands for. So settings that differ only in
  what the options give lead to the same run (`run_of_options`).
-/

import ActivityLog.CommandLine.Process
import ActivityLog.Proofs.Text.Decimal
import ActivityLog.Proofs.Text.Lines
import Mathlib.Data.List.Nodup

namespace ActivityLog

namespace Toml

/-! ## Strings -/

def escapedChar (c : Char) : Text :=
  if c = '"' ∨ c = '\\' then ['\\', c]
  else if isPlain c then [c]
  else ['\\', 'u', '0', '0', (c.toNat / 16).digitChar, (c.toNat % 16).digitChar]

/-- A basic string behind its opening quote. -/
def writeBody (text : Text) : Text := text.flatMap escapedChar ++ ['"']

theorem toNat_lt_of_not_isPlain {c : Char} (h : ¬ isPlain c = true) : c.toNat < 0x80 := by
  simp only [isPlain, Bool.or_eq_true, Bool.and_eq_true, decide_eq_true_eq, bne_iff_ne, ne_eq, not_or, not_and,
    not_not] at h
  omega

theorem cutAt?_quote (rest : Text) : cutAt? '"' true ('"' :: rest) = some ([], rest) := by
  rw [cutAt?.eq_def]
  rfl

theorem cutAt?_escape (c : Char) (rest : Text) : cutAt? '"' true ('\\' :: c :: rest) =
    (cutAt? '"' true rest).map fun cut => ('\\' :: c :: cut.1, cut.2) := by
  rw [cutAt?.eq_def]
  rfl

theorem cutAt?_cons {c : Char} (hquote : c ≠ '"') (hslash : c ≠ '\\') (rest : Text) :
    cutAt? '"' true (c :: rest) = (cutAt? '"' true rest).map fun cut => (c :: cut.1, cut.2) := by
  rw [cutAt?.eq_def]
  simp only [hquote, hslash, if_false, decide_false, Bool.and_false, Bool.false_eq_true]

theorem digitChar_ne {d : Nat} (h : d < 16) : d.digitChar ≠ '"' ∧ d.digitChar ≠ '\\' := by
  have hall : ∀ d < 16, d.digitChar ≠ '"' ∧ d.digitChar ≠ '\\' := by decide
  exact hall d h

/-- An escaped character does not end the string. -/
theorem cutAt?_escapedChar (c : Char) (rest : Text) : cutAt? '"' true (escapedChar c ++ rest) =
    (cutAt? '"' true rest).map fun cut => (escapedChar c ++ cut.1, cut.2) := by
  unfold escapedChar
  by_cases hmark : c = '"' ∨ c = '\\'
  · rw [if_pos hmark]
    exact cutAt?_escape c rest
  · rw [if_neg hmark]
    obtain ⟨hquote, hslash⟩ := not_or.mp hmark
    by_cases hplain : isPlain c = true
    · rw [if_pos hplain]
      exact cutAt?_cons hquote hslash rest
    · rw [if_neg hplain]
      have hsmall := toNat_lt_of_not_isPlain hplain
      obtain ⟨hq₁, hs₁⟩ := digitChar_ne (d := c.toNat / 16) (by omega)
      obtain ⟨hq₂, hs₂⟩ := digitChar_ne (d := c.toNat % 16) (by omega)
      have hzero : ('0' : Char) ≠ '"' ∧ ('0' : Char) ≠ '\\' := by decide
      simp only [List.cons_append, List.nil_append, cutAt?_escape, cutAt?_cons hzero.1 hzero.2, cutAt?_cons hq₁ hs₁,
        cutAt?_cons hq₂ hs₂, Option.map_map]
      rfl

theorem cutAt?_writeBody (text rest : Text) :
    cutAt? '"' true (writeBody text ++ rest) = some (text.flatMap escapedChar, rest) := by
  unfold writeBody
  induction text with
  | nil => exact cutAt?_quote rest
  | cons c text ih =>
    rw [List.flatMap_cons, List.append_assoc, List.append_assoc, cutAt?_escapedChar, ← List.append_assoc, ih]
    rfl

theorem unescape?_escapedChar (c : Char) (rest : Text) :
    unescape? false .plain (escapedChar c ++ rest) = (unescape? false .plain rest).map (c :: ·) := by
  unfold escapedChar
  by_cases hmark : c = '"' ∨ c = '\\'
  · rw [if_pos hmark]
    rcases hmark with rfl | rfl <;> simp [unescape?, escapeLetter?]
  · rw [if_neg hmark]
    obtain ⟨-, hslash⟩ := not_or.mp hmark
    by_cases hplain : isPlain c = true
    · rw [if_pos hplain]
      simp [unescape?, hslash, hplain]
    · rw [if_neg hplain]
      -- All controls are below U+0080, so two of the four digits tell them apart.
      have hsmall := toNat_lt_of_not_isPlain hplain
      have hzero : Text.hexDigit? '0' = some 0 := rfl
      have hhigh := Text.hexDigit?_digitChar (d := c.toNat / 16) (by omega)
      have hlow := Text.hexDigit?_digitChar (d := c.toNat % 16) (by omega)
      have hvalue : 16 * (c.toNat / 16) + c.toNat % 16 = c.toNat := Nat.div_add_mod c.toNat 16
      have hvalid : c.toNat.isValidChar := c.valid
      simp [unescape?, escapeLetter?, modeAfter?, hzero, hhigh, hlow, hvalue, hvalid, Char.ofNat_toNat]

theorem unescape?_flatMap_escapedChar (text : Text) :
    unescape? false .plain (text.flatMap escapedChar) = some text := by
  induction text with
  | nil => rfl
  | cons c text ih => rw [List.flatMap_cons, unescape?_escapedChar, ih]; rfl

theorem readLineString?_writeBody (text rest : Text) :
    readLineString? ('"' :: (writeBody text ++ rest)) = some (text, rest) := by
  simp [readLineString?, cutAt?_writeBody, unescape?_flatMap_escapedChar]

/-- No escaped character begins with a quote. -/
theorem exists_cons_of_escapedChar (c : Char) : ∃ d more, escapedChar c = d :: more ∧ d ≠ '"' := by
  unfold escapedChar
  split
  · exact ⟨'\\', [c], rfl, by decide⟩
  · rename_i hmark
    split
    · exact ⟨c, [], rfl, (not_or.mp hmark).1⟩
    · exact ⟨'\\', _, rfl, by decide⟩

/-- A written string is not taken for one with three quotes. Of the empty text this holds as its
    line ends behind it. -/
theorem readString?_writeBody (text rest : Text) :
    readString? ('"' :: (writeBody text ++ '\n' :: rest)) = some (text, '\n' :: rest) := by
  have hline : readString? ('"' :: (writeBody text ++ '\n' :: rest)) =
      readLineString? ('"' :: (writeBody text ++ '\n' :: rest)) := by
    cases text with
    | nil => rfl
    | cons c text =>
      obtain ⟨d, more, hd, hquote⟩ := exists_cons_of_escapedChar c
      simp only [writeBody, List.flatMap_cons, hd, List.cons_append]
      unfold readString?
      split
      · rename_i h
        exact absurd (List.cons.inj (List.cons.inj h).2).1 hquote
      · rename_i h
        exact absurd (List.cons.inj h).1 (by decide)
      · rfl
  rw [hline, readLineString?_writeBody]

/-! ## Lines -/

/-- A key that needs no quotes. -/
structure IsBareKey (key : Text) : Prop where
  ne_nil : key ≠ []
  bare : ∀ c ∈ key, isBare c = true

theorem isBareKey_iff {key : Text} : IsBareKey key ↔ key ≠ [] ∧ key.all isBare = true :=
  ⟨fun h => ⟨h.ne_nil, List.all_eq_true.mpr h.bare⟩, fun h => ⟨h.1, List.all_eq_true.mp h.2⟩⟩

instance (key : Text) : Decidable (IsBareKey key) := decidable_of_iff _ isBareKey_iff.symm

def writePair (key value : Text) : Text := key ++ " = \"".toList ++ writeBody value ++ ['\n']

def writePairs (pairs : List (Text × Text)) : Text := pairs.flatMap fun pair => writePair pair.1 pair.2

theorem ne_of_isBare {c d : Char} (hc : isBare c = true) (hd : isBare d = false) : c ≠ d := by
  rintro rfl
  rw [hc] at hd
  cases hd

theorem IsBareKey.exists_cons {key : Text} (h : IsBareKey key) : ∃ c more, key = c :: more ∧ isBare c = true := by
  cases key with
  | nil => exact absurd rfl h.ne_nil
  | cons c more => exact ⟨c, more, rfl, h.bare c (List.mem_cons_self ..)⟩

theorem skipGap_bare {c : Char} (h : isBare c = true) (rest : Text) : skipGap (c :: rest) = c :: rest := by
  have hgap : isGap c = false := by
    simp only [isGap, ne_of_isBare h (d := ' ') rfl, ne_of_isBare h (d := '\t') rfl, decide_false, Bool.or_false]
  rw [skipGap, List.dropWhile_cons, if_neg (by simp [hgap])]

theorem readParts?_bare {key : Text} (h : IsBareKey key) (rest : Text) :
    readParts? (key ++ ' ' :: '=' :: rest) = some ([key], '=' :: rest) := by
  obtain ⟨c, more, rfl, hc⟩ := h.exists_cons
  have hword : (c :: more ++ ' ' :: '=' :: rest).takeWhile isBare = c :: more := by
    rw [List.takeWhile_append_of_pos h.bare]
    exact List.append_nil _
  have hrest : (c :: more ++ ' ' :: '=' :: rest).dropWhile isBare = ' ' :: '=' :: rest := by
    rw [List.dropWhile_append_of_pos h.bare]
    rfl
  have hpart : readKeyPart? (c :: more ++ ' ' :: '=' :: rest) = some (c :: more, ' ' :: '=' :: rest) := by
    unfold readKeyPart?
    split
    · rename_i h'
      exact absurd (List.cons.inj h').1 (ne_of_isBare hc rfl)
    · rename_i h'
      exact absurd (List.cons.inj h').1 (ne_of_isBare hc rfl)
    · rw [hword, hrest]
      rfl
  rw [readParts?, List.cons_append, skipGap_bare hc, ← List.cons_append, hpart]
  rfl

theorem readKey?_bare {key : Text} (h : IsBareKey key) (rest : Text) :
    readKey? (key ++ ' ' :: '=' :: rest) = some ([key], '=' :: rest) := by
  rw [readKey?, readParts?_bare h]
  rfl

theorem readPair?_writePair {key : Text} (h : IsBareKey key) (value rest : Text) :
    readPair? (readValue? depthLimit) (writePair key value ++ rest) = some (([key], .text value), '\n' :: rest) := by
  have hline : writePair key value ++ rest =
      key ++ ' ' :: '=' :: ' ' :: '"' :: (writeBody value ++ '\n' :: rest) := by
    simp [writePair]
  have hvalue : readValue? depthLimit ('"' :: (writeBody value ++ '\n' :: rest)) =
      some (.text value, '\n' :: rest) := by
    simp [readValue?.eq_def, depthLimit, readSimple?, readString?_writeBody]
  rw [hline, readPair?, readKey?_bare h]
  have hgap : skipGap (' ' :: '"' :: (writeBody value ++ '\n' :: rest)) =
      '"' :: (writeBody value ++ '\n' :: rest) := rfl
  change (readValue? depthLimit (skipGap _)).bind _ = _
  rw [hgap, hvalue]
  rfl

/-- A line with a key and a text is read, and reading goes on behind it. -/
theorem readPairs?_writePair {key : Text} (h : IsBareKey key) (value rest : Text) :
    readPairs? (writePair key value ++ rest) =
      (readPairs? rest).map fun read => (([key], .text value) :: read.1, read.2) := by
  obtain ⟨c, more, hkey, hc⟩ := h.exists_cons
  obtain ⟨line, hline⟩ : ∃ line, writePair key value ++ rest = c :: line := by
    rw [hkey]
    exact ⟨_, rfl⟩
  have hpair := readPair?_writePair h value rest
  have hshorter : rest.length < (writePair key value ++ rest).length := by
    have hne : writePair key value ≠ [] := List.append_ne_nil_of_right_ne_nil _ (List.cons_ne_nil _ _)
    have hpos := List.length_pos_of_ne_nil hne
    rw [List.length_append]
    omega
  have hplace : ¬ (c = '#' ∨ c = '\n' ∨ c = '\r') := by
    rintro (rfl | rfl | rfl) <;> exact absurd hc (by decide)
  rw [hline] at hpair hshorter ⊢
  rw [readPairs?, skipGap_bare hc]
  split
  · rename_i h'
    cases h'
  · rename_i h'
    exact absurd (List.cons.inj h').1 (ne_of_isBare hc rfl)
  · rename_i h'
    cases h'
    have hend : lineEnd? ('\n' :: rest) = some rest := rfl
    simp only [decide_eq_true_eq, Bool.or_eq_true, or_assoc]
    rw [if_neg hplace, hpair]
    simp only [hend, if_pos hshorter]

theorem readPairs?_writePairs {pairs : List (Text × Text)} (h : ∀ pair ∈ pairs, IsBareKey pair.1) :
    readPairs? (writePairs pairs) = some (pairs.map fun pair => ([pair.1], .text pair.2), []) := by
  induction pairs with
  | nil => simp [writePairs, readPairs?, skipGap]
  | cons pair pairs ih =>
    obtain ⟨hpair, hpairs⟩ := List.forall_mem_cons.mp h
    have hline : writePairs (pair :: pairs) = writePair pair.1 pair.2 ++ writePairs pairs := rfl
    rw [hline, readPairs?_writePair hpair, ih hpairs]
    rfl

/-! ## Tables -/

def textMembers (pairs : List (Text × Text)) : Members := pairs.map fun pair => (pair.1, .text pair.2)

theorem get?_eq_none_iff {key : Text} {members : Members} :
    members.get? key = none ↔ key ∉ members.map (·.1) := by
  simp only [Members.get?, Option.map_eq_none_iff, List.find?_eq_none, decide_eq_true_eq, List.mem_map, not_exists,
    not_and]

theorem get?_textMembers (key : Text) (pairs : List (Text × Text)) :
    (textMembers pairs).get? key = (pairs.lookup key).map .text := by
  induction pairs with
  | nil => rfl
  | cons pair pairs ih =>
    obtain ⟨first, text⟩ := pair
    simp only [textMembers, Members.get?] at ih ⊢
    rw [List.map_cons, List.find?_cons, List.lookup_cons]
    by_cases hkey : first = key
    · simp [hkey]
    · have hkey' : (key == first) = false := beq_eq_false_iff_ne.mpr (Ne.symm hkey)
      simp only [hkey, decide_false, hkey', ih]

theorem define_single (key : Text) (value : Value) (members : Members) :
    Members.define true [key] value members =
      if key ∈ members.map (·.1) then none else some (members ++ [(key, value)]) := by
  have hnone : (members.get? key).isNone = true ↔ key ∉ members.map (·.1) :=
    Option.isNone_iff_eq_none.trans get?_eq_none_iff
  simp only [Members.define, Bool.true_and]
  by_cases hkey : key ∈ members.map (·.1)
  · rw [if_pos hkey, if_neg (fun h => hnone.mp h hkey)]
  · rw [if_neg hkey, if_pos (hnone.mpr hkey)]

/-- Keys with texts extend a table exactly where no key is there twice. -/
theorem defineAll_texts {members : Members} (hmembers : (members.map (·.1)).Nodup) (pairs : List (Text × Text)) :
    Members.defineAll (pairs.map fun pair => ([pair.1], .text pair.2)) members =
      if (members.map (·.1) ++ pairs.map (·.1)).Nodup then some (members ++ textMembers pairs) else none := by
  induction pairs generalizing members with
  | nil =>
    have hcond : (members.map (·.1) ++ ([] : List (Text × Text)).map (·.1)).Nodup := by
      rwa [List.map_nil, List.append_nil]
    rw [if_pos hcond]
    simp [Members.defineAll, textMembers]
  | cons pair pairs ih =>
    have hstep : Members.defineAll ((pair :: pairs).map fun pair => ([pair.1], .text pair.2)) members =
        (Members.define true [pair.1] (.text pair.2) members).bind
          (Members.defineAll (pairs.map fun pair => ([pair.1], .text pair.2))) := rfl
    rw [hstep, define_single]
    by_cases hkey : pair.1 ∈ members.map (·.1)
    -- A key of the table at hand stays in it, so it is there twice in the end.
    · have htwice : ¬ (members.map (·.1) ++ (pair :: pairs).map (·.1)).Nodup := fun h =>
        List.disjoint_of_nodup_append h hkey (List.mem_cons_self ..)
      rw [if_pos hkey, if_neg htwice]
      rfl
    · have hnext : ((members ++ [(pair.1, Value.text pair.2)]).map (·.1)).Nodup := by
        rw [List.map_append]
        exact List.nodup_append_comm.mp (List.nodup_cons.mpr ⟨hkey, hmembers⟩)
      rw [if_neg hkey, Option.bind_some, ih hnext]
      simp only [List.map_append, List.map_cons, List.map_nil, List.append_assoc, List.cons_append, List.nil_append,
        textMembers]

/-- A document of keys and texts is their table, unless a key is there twice. -/
theorem readDocument?_writePairs {pairs : List (Text × Text)} (h : ∀ pair ∈ pairs, IsBareKey pair.1) :
    readDocument? (writePairs pairs) = if (pairs.map (·.1)).Nodup then some (textMembers pairs) else none := by
  have hmark : (Text.dropMark? ['\ufeff'] (writePairs pairs)).getD (writePairs pairs) = writePairs pairs := by
    cases pairs with
    | nil => rfl
    | cons pair pairs =>
      obtain ⟨c, more, hkey, hc⟩ := (h pair (List.mem_cons_self ..)).exists_cons
      have hfirst : c ≠ '\ufeff' := ne_of_isBare hc rfl
      simp [writePairs, writePair, hkey, Text.dropMark?, hfirst]
  have hsections : readSections? [] = some [] := by
    rw [readSections?]
    rfl
  have hdefine := @defineAll_texts [] List.nodup_nil pairs
  rw [List.map_nil, List.nil_append] at hdefine
  simp only [readDocument?, hmark, readPairs?_writePairs h, Option.bind_eq_bind, Option.bind_some, hsections, hdefine]
  split <;> rfl

end Toml

open Toml

/-! ## Settings -/

def Display.Format.word : Display.Format → Text
  | .plain => "plain".toList
  | .json => "json".toList

theorem Display.Format.word_injective : Function.Injective Display.Format.word := by
  intro a b h
  cases a <;> cases b <;> first | rfl | exact absurd h (by decide)

namespace Config

def keys : List Text := ["log_dir".toList, "extension".toList, "output".toList]

def toPairs (config : Config) : List (Text × Text) :=
  (config.logDir.toList.map fun folder => ("log_dir".toList, folder)) ++
    [("extension".toList, config.extension), ("output".toList, config.output.word)]

def write (config : Config) : Text := writePairs config.toPairs

theorem textAt_textMembers (key : Text) (pairs : List (Text × Text)) :
    textAt key (textMembers pairs) = .ok (pairs.lookup key) := by
  rw [textAt, get?_textMembers]
  cases pairs.lookup key <;> rfl

section
variable {key : Text} {pairs : List (Text × Text)}

theorem formatAt_of_none (h : pairs.lookup key = none) : formatAt key (textMembers pairs) = .ok none := by
  rw [formatAt, get?_textMembers, h]
  rfl

theorem formatAt_of_word {format : Display.Format} (h : pairs.lookup key = some format.word) :
    formatAt key (textMembers pairs) = .ok (some format) := by
  rw [formatAt, get?_textMembers, h]
  cases format <;> rfl

theorem formatAt_of_no_word {word : Text} (h : pairs.lookup key = some word)
    (hword : ∀ format : Display.Format, word ≠ format.word) :
    formatAt key (textMembers pairs) = .error (.badValue key) := by
  have hplain : formatName? (.text word) ≠ some "plain".toList := fun h => hword .plain (Option.some.inj h)
  have hjson : formatName? (.text word) ≠ some "json".toList := fun h => hword .json (Option.some.inj h)
  simp only [formatAt, get?_textMembers, h, Option.map_some, if_neg hplain, if_neg hjson]

/-- The format is read where the text is the word for it. The plain one needs no text. -/
theorem formatAt_eq_ok_iff {format : Display.Format} :
    (∃ output, formatAt key (textMembers pairs) = .ok output ∧ output.getD .plain = format) ↔
      format.word = (pairs.lookup key).getD "plain".toList := by
  cases h : pairs.lookup key with
  | none =>
    simp only [formatAt_of_none h, Except.ok.injEq, exists_eq_left', Option.getD_none]
    exact ⟨fun hf => hf ▸ rfl, fun hf => Display.Format.word_injective hf.symm⟩
  | some word =>
    by_cases hword : ∃ format : Display.Format, word = format.word
    · obtain ⟨read, rfl⟩ := hword
      simp only [formatAt_of_word h, Except.ok.injEq, exists_eq_left', Option.getD_some]
      exact ⟨fun hf => hf ▸ rfl, fun hf => Display.Format.word_injective hf.symm⟩
    · rw [not_exists] at hword
      rw [formatAt_of_no_word h hword]
      exact iff_of_false (fun hf => nomatch hf.choose_spec.1) fun hf => hword format hf.symm

theorem formatAt_eq_error_iff {e : ConfigError} : formatAt key (textMembers pairs) = .error e ↔
    (∃ word, pairs.lookup key = some word ∧ ∀ format : Display.Format, word ≠ format.word) ∧ e = .badValue key := by
  cases h : pairs.lookup key with
  | none => simp [formatAt_of_none h]
  | some word =>
    simp only [Option.some.injEq, exists_eq_left']
    by_cases hword : ∃ format : Display.Format, word = format.word
    · obtain ⟨read, rfl⟩ := hword
      rw [formatAt_of_word h]
      exact iff_of_false nofun fun hno => hno.1 read rfl
    · rw [not_exists] at hword
      rw [formatAt_of_no_word h hword, Except.error.injEq, eq_comm]
      exact (and_iff_right hword).symm

end

/-- The settings of a file of keys and texts are what three of the keys say, or the default of a
    key that is not there. -/
theorem read_writePairs_eq_ok_iff {pairs : List (Text × Text)} (h : ∀ pair ∈ pairs, IsBareKey pair.1)
    {config : Config} : read (writePairs pairs) = .ok config ↔
      (pairs.map (·.1)).Nodup ∧
      config.logDir = pairs.lookup "log_dir".toList ∧
      config.extension = (pairs.lookup "extension".toList).getD defaultExtension ∧
      config.output.word = (pairs.lookup "output".toList).getD "plain".toList := by
  rw [read, readDocument?_writePairs h]
  by_cases hkeys : (pairs.map (·.1)).Nodup
  · rw [if_pos hkeys, ← formatAt_eq_ok_iff]
    simp only [textAt_textMembers]
    cases hformat : formatAt "output".toList (textMembers pairs) with
    | error e => exact iff_of_false nofun fun h => nomatch h.2.2.2.choose_spec.1
    | ok output =>
      obtain ⟨logDir, extension, format⟩ := config
      constructor
      · intro hread
        cases hread
        exact ⟨hkeys, rfl, rfl, output, rfl, rfl⟩
      · rintro ⟨-, rfl, rfl, _, ⟨⟩, rfl⟩
        rfl
  · rw [if_neg hkeys]
    exact iff_of_false nofun fun h => hkeys h.1

/-- Such a file cannot be used where a key is there twice, or where no format has the word. -/
theorem read_writePairs_eq_error_iff {pairs : List (Text × Text)} (h : ∀ pair ∈ pairs, IsBareKey pair.1)
    {e : ConfigError} : read (writePairs pairs) = .error e ↔
      (¬ (pairs.map (·.1)).Nodup ∧ e = .notToml) ∨
      ((pairs.map (·.1)).Nodup ∧ (∃ word, pairs.lookup "output".toList = some word ∧
        ∀ format : Display.Format, word ≠ format.word) ∧ e = .badValue "output".toList) := by
  rw [read, readDocument?_writePairs h]
  by_cases hkeys : (pairs.map (·.1)).Nodup
  · rw [if_pos hkeys, ← formatAt_eq_error_iff]
    simp only [textAt_textMembers, hkeys, not_true_eq_false, false_and, true_and, false_or]
    cases formatAt "output".toList (textMembers pairs) with
    | error e' => exact ⟨fun hread => by cases hread; rfl, fun hformat => by cases hformat; rfl⟩
    | ok output => exact iff_of_false nofun nofun
  · rw [if_neg hkeys]
    simp only [hkeys, not_false_eq_true, true_and, false_and, or_false, Except.error.injEq, eq_comm]

theorem toPairs_keys_sublist (config : Config) : (config.toPairs.map (·.1)).Sublist keys := by
  obtain ⟨logDir, extension, output⟩ := config
  cases logDir with
  | none => exact List.sublist_cons_self ..
  | some folder => exact List.Sublist.refl _

/-- Settings that were written come back. -/
theorem read_write (config : Config) : read config.write = .ok config := by
  have hbare : ∀ key ∈ keys, IsBareKey key := by decide
  have hnodup : keys.Nodup := by decide
  have hsub := toPairs_keys_sublist config
  refine (read_writePairs_eq_ok_iff fun pair hpair => hbare _ (hsub.subset (List.mem_map_of_mem hpair))).mpr
    ⟨hsub.nodup hnodup, ?_⟩
  obtain ⟨logDir, extension, output⟩ := config
  cases logDir with
  | none => exact ⟨rfl, rfl, rfl⟩
  | some folder => exact ⟨rfl, rfl, rfl⟩

theorem read_nil : read [] = .ok {} :=
  (@read_writePairs_eq_ok_iff [] (List.forall_mem_nil _) {}).mpr ⟨List.nodup_nil, rfl, rfl, rfl⟩

end Config

namespace CommandLine

theorem settings_write (path : Text) (config : Config) :
    (ConfigFile.found path (Text.encode config.write)).settings = .ok config := by
  simp only [ConfigFile.settings, Text.decode?_encode, Config.read_write]
  rfl

/-- An empty configuration file is as good as none. -/
theorem settings_nil (path : Text) : (ConfigFile.found path []).settings = ConfigFile.absent.settings := by
  have hdecode : Text.decode? [] = some [] := Text.decode?_encode []
  simp only [ConfigFile.settings, hdecode, Config.read_nil]
  rfl

/-- What an option gives is not taken from the settings: runs with two files are the same where the
    settings in them differ only in what the options give. -/
theorem run_of_options {o : Options} {file file' : ConfigFile} {config config' : Config}
    (hfile : file.settings = .ok config) (hfile' : file'.settings = .ok config')
    (hfolder : o.folder.isSome ∨ config.logDir = config'.logDir)
    (hextension : o.extension.isSome ∨ config.extension = config'.extension)
    (hformat : o.json = true ∨ config.output = config'.output) (listing : Listing Item)
    (input : Except ReadFault Bytes) : run o file listing input = run o file' listing input := by
  have hfolders : o.folder.or config.logDir = o.folder.or config'.logDir := by
    rcases hfolder with h | h
    · obtain ⟨folder, h⟩ := Option.isSome_iff_exists.mp h
      rw [h, Option.some_or, Option.some_or]
    · rw [h]
  have hextensions : o.extension.getD config.extension = o.extension.getD config'.extension := by
    rcases hextension with h | h
    · obtain ⟨extension, h⟩ := Option.isSome_iff_exists.mp h
      rw [h, Option.getD_some, Option.getD_some]
    · rw [h]
  have hformats : o.format config = o.format config' := by
    unfold Options.format
    rcases hformat with h | h
    · rw [if_pos h, if_pos h]
    · rw [h]
  have hsource : o.source config = o.source config' := by
    rw [Options.source, hfolders, hextensions]
    rfl
  simp only [run, hfile, hfile', hsource, hformats]

end CommandLine
end ActivityLog
