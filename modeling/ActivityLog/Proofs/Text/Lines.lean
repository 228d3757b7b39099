/-
  ActivityLog.Proofs.Text.Lines — pieces, lines, and the bytes of either.

  `pieces` and `joinWith` are the library's `splitOn` and `intercalate`. Texts without
  the separator are the pieces of their join (`pieces_joinWith`), also where it stands
  behind the last of them (`pieces_terminated`). A longer separator tells parts apart as
  well, if they do not hold its first symbol and none of them is empty (`joinWith_inj`).
  Where every symbol is written out by others, and the new separator comes from the old
  one only, the text can be cut before or after that (`pieces_flatMap`).

  A line feed ends the first line, and the lines of the rest follow (`lines_append_feed`).
  A text that is trimmed, not empty and without a line feed is tidy (`IsTidy`). Tidy
  texts, each with a line feed behind it, fall into just these lines again
  (`lines_terminated`). Lines can be written with ends of several kinds (`HoldsLines`).

  The byte of a line feed occurs in the UTF-8 form of no other character, so the bytes can
  be cut into lines before they are decoded: the lines are texts exactly where the whole is
  one, and then they are its lines (`mapM_decode?_pieces`).
-/

import Mathlib.Data.List.Infix
import ActivityLog.Proofs.Text.Blank
import ActivityLog.Text.Basic

namespace ActivityLog.Text

/-! ## Pieces -/

variable {α : Type}

theorem joinWith_eq_intercalate (sep : List α) (parts : List (List α)) :
    joinWith sep parts = sep.intercalate parts := by
  induction parts with
  | nil => rfl
  | cons first more ih =>
    cases more with
    | nil => simp [joinWith]
    | cons second more => rw [joinWith, ih, List.intercalate_cons_cons]

/-- Each part but the first has a separator in front of it. -/
theorem joinWith_cons (sep part : List α) (more : List (List α)) :
    joinWith sep (part :: more) = part ++ more.flatMap fun next => sep ++ next := by
  induction more generalizing part with
  | nil => simp [joinWith]
  | cons next more ih => rw [joinWith, ih, List.flatMap_cons, List.append_assoc, List.append_assoc]

/-- Each part but the last has a separator behind it. -/
theorem joinWith_append_singleton (sep : List α) (parts : List (List α)) (last : List α) :
    joinWith sep (parts ++ [last]) = (parts.flatMap fun part => part ++ sep) ++ last := by
  induction parts with
  | nil => rfl
  | cons part more ih =>
    obtain ⟨next, rest, h⟩ : ∃ next rest, more ++ [last] = next :: rest := List.exists_cons_of_ne_nil (by simp)
    rw [List.flatMap_cons, List.append_assoc, ← ih, List.cons_append, h, joinWith]

/-- What is joined is a stretch of the whole. -/
theorem infix_joinWith_of_mem (sep : List α) {parts : List (List α)} {part : List α} (h : part ∈ parts) :
    part <:+: joinWith sep parts := by
  rw [joinWith_eq_intercalate]
  induction parts with
  | nil => cases h
  | cons first more ih =>
    cases more with
    | nil => rw [List.mem_singleton.mp h, List.intercalate_singleton]
    | cons second more =>
      rw [List.intercalate_cons_cons, List.append_assoc]
      rcases List.mem_cons.mp h with rfl | h
      · exact (List.prefix_append ..).isInfix
      · exact List.infix_append_of_infix_right (List.infix_append_of_infix_right (ih h))

/-- Every symbol of a join is one of the separator or of a part. -/
theorem mem_joinWith {sep : List α} {parts : List (List α)} {x : α} (h : x ∈ joinWith sep parts) :
    x ∈ sep ∨ ∃ part ∈ parts, x ∈ part := by
  cases parts with
  | nil => cases h
  | cons first more =>
    rw [joinWith_cons] at h
    rcases List.mem_append.mp h with h | h
    · exact Or.inr ⟨first, List.mem_cons_self .., h⟩
    · obtain ⟨next, hnext, hx⟩ := List.mem_flatMap.mp h
      rcases List.mem_append.mp hx with hx | hx
      · exact Or.inl hx
      · exact Or.inr ⟨next, List.mem_cons_of_mem _ hnext, hx⟩

theorem flatMap_joinWith {β : Type} {f : α → List β} {sep : α} {mark : List β} (hf : f sep = mark)
    (parts : List (List α)) :
    (joinWith [sep] parts).flatMap f = joinWith mark (parts.map fun part => part.flatMap f) := by
  cases parts with
  | nil => rfl
  | cons first more =>
    simp only [List.map_cons, joinWith_cons, List.flatMap_append, List.flatMap_assoc, List.flatMap_map,
      List.flatMap_singleton, hf]

variable [DecidableEq α]

theorem pieces_eq_splitOn (sep : α) (xs : List α) : pieces sep xs = xs.splitOn sep := by
  induction xs with
  | nil => rfl
  | cons x xs ih =>
    rw [pieces, List.splitOn_cons_eq_if_modifyHead, ih]
    by_cases h : x = sep
    · simp [h]
    · obtain ⟨first, more, hp⟩ := List.exists_cons_of_ne_nil (List.splitOn_ne_nil sep xs)
      simp [h, hp]

/-- Texts without the separator are the pieces of their join. -/
theorem pieces_joinWith {sep : α} {parts : List (List α)} (h : ∀ part ∈ parts, sep ∉ part) (hne : parts ≠ []) :
    pieces sep (joinWith [sep] parts) = parts := by
  rw [joinWith_eq_intercalate, pieces_eq_splitOn, List.splitOn_intercalate sep h hne]

theorem pieces_of_not_mem {sep : α} {xs : List α} (h : sep ∉ xs) : pieces sep xs = [xs] := by
  have honly : ∀ part ∈ [xs], sep ∉ part := by simpa using h
  exact pieces_joinWith honly (List.cons_ne_nil _ _)

/-- Texts with the separator behind each are the pieces, with an empty one behind the last. -/
theorem pieces_terminated {sep : α} {parts : List (List α)} (h : ∀ part ∈ parts, sep ∉ part) :
    pieces sep (parts.flatMap fun part => part ++ [sep]) = parts ++ [[]] := by
  rw [← List.append_nil (parts.flatMap _), ← joinWith_append_singleton]
  refine pieces_joinWith ?_ (by simp)
  intro piece hpiece
  rcases List.mem_append.mp hpiece with hpart | hlast
  · exact h piece hpart
  · rw [List.mem_singleton.mp hlast]
    exact List.not_mem_nil

/-- Cutting at the first symbol of a longer separator leaves the others in front of every part but the first. -/
theorem pieces_joinWith_cons {c : α} {sep : List α} (hsep : c ∉ sep) {part : List α} {more : List (List α)}
    (h : ∀ x ∈ part :: more, c ∉ x) :
    pieces c (joinWith (c :: sep) (part :: more)) = part :: more.map fun next => sep ++ next := by
  have hjoin : joinWith (c :: sep) (part :: more) = joinWith [c] (part :: more.map fun next => sep ++ next) := by
    simp [joinWith_cons, List.flatMap_map]
  rw [hjoin]
  refine pieces_joinWith ?_ (List.cons_ne_nil _ _)
  intro x hx
  rcases List.mem_cons.mp hx with rfl | hx
  · exact h x (List.mem_cons_self ..)
  · obtain ⟨next, hnext, rfl⟩ := List.mem_map.mp hx
    simp [hsep, h next (List.mem_cons_of_mem _ hnext)]

/-- Parts are known by their join where the separator begins with a symbol that is in none of them, and no part is
    empty: one empty part would look like no part at all. -/
theorem joinWith_inj {c : α} {sep : List α} (hsep : c ∉ sep) {xs ys : List (List α)}
    (hxs : ∀ x ∈ xs, x ≠ [] ∧ c ∉ x) (hys : ∀ y ∈ ys, y ≠ [] ∧ c ∉ y)
    (h : joinWith (c :: sep) xs = joinWith (c :: sep) ys) : xs = ys := by
  have hnil : ∀ {part : List α} {more : List (List α)}, part ≠ [] → joinWith (c :: sep) (part :: more) ≠ [] := by
    intro part more hne hjoin
    rw [joinWith_cons] at hjoin
    exact hne (List.append_eq_nil_iff.mp hjoin).1
  cases xs with
  | nil =>
    cases ys with
    | nil => rfl
    | cons y ys => exact absurd h.symm (hnil (hys y (List.mem_cons_self ..)).1)
  | cons x xs =>
    cases ys with
    | nil => exact absurd h (hnil (hxs x (List.mem_cons_self ..)).1)
    | cons y ys =>
      have hpieces := congrArg (pieces c) h
      rw [pieces_joinWith_cons hsep fun x hx => (hxs x hx).2, pieces_joinWith_cons hsep fun y hy => (hys y hy).2,
        List.cons.injEq] at hpieces
      obtain ⟨rfl, hmore⟩ := hpieces
      rw [List.map_injective_iff.mpr (fun a b => List.append_cancel_left) hmore]

/-- The pieces of a text with a separator inside it are those before and those behind. -/
theorem pieces_append_cons (sep : α) (a b : List α) : pieces sep (a ++ sep :: b) = pieces sep a ++ pieces sep b := by
  simp only [pieces_eq_splitOn]
  exact List.splitOnP_append_cons a b (beq_self_eq_true sep)

/-- The last piece is not empty where the text does not end with the separator. -/
theorem exists_last_piece {sep x : α} (hx : x ≠ sep) (xs : List α) :
    ∃ init last, pieces sep (xs ++ [x]) = init ++ [last] ∧ last ≠ [] := by
  induction xs with
  | nil => exact ⟨[], [x], by simp [pieces, hx], List.cons_ne_nil _ _⟩
  | cons y xs ih =>
    obtain ⟨init, last, hp, hlast⟩ := ih
    rw [List.cons_append, pieces, hp]
    split
    · exact ⟨[] :: init, last, rfl, hlast⟩
    · cases init with
      | nil => exact ⟨[], y :: last, rfl, List.cons_ne_nil _ _⟩
      | cons first init => exact ⟨(y :: first) :: init, last, rfl, hlast⟩

theorem not_mem_of_mem_pieces {sep : α} {xs piece : List α} (h : piece ∈ pieces sep xs) : sep ∉ piece := by
  induction xs generalizing piece with
  | nil =>
    rw [List.mem_singleton.mp h]
    exact List.not_mem_nil
  | cons x xs ih =>
    obtain ⟨first, more, hp⟩ := List.exists_cons_of_ne_nil (pieces_ne_nil sep xs)
    rw [hp] at ih
    rw [pieces, hp] at h
    split at h
    · rcases List.mem_cons.mp h with rfl | h
      · exact List.not_mem_nil
      · exact ih h
    · rename_i hx
      rcases List.mem_cons.mp h with rfl | h
      · exact List.not_mem_cons_of_ne_of_not_mem (Ne.symm hx) (ih (List.mem_cons_self ..))
      · exact ih (List.mem_cons_of_mem _ h)

theorem infix_of_mem_pieces {sep : α} {xs piece : List α} (h : piece ∈ pieces sep xs) : piece <:+: xs := by
  have := infix_joinWith_of_mem [sep] h
  rwa [joinWith_pieces] at this

/-- Writing out every symbol before the cut is writing out the pieces behind it. -/
theorem pieces_flatMap {β : Type} [DecidableEq β] {f : α → List β} {sep : α} {mark : β} (hf : f sep = [mark])
    (hmark : ∀ x, mark ∈ f x → x = sep) (xs : List α) :
    pieces mark (xs.flatMap f) = (pieces sep xs).map fun piece => piece.flatMap f := by
  rw [← joinWith_pieces sep xs, flatMap_joinWith hf, joinWith_pieces]
  refine pieces_joinWith ?_ ?_
  · intro part hpart hmem
    obtain ⟨piece, hpiece, rfl⟩ := List.mem_map.mp hpart
    obtain ⟨x, hx, hin⟩ := List.mem_flatMap.mp hmem
    exact not_mem_of_mem_pieces hpiece (hmark x hin ▸ hx)
  · rw [Ne, List.map_eq_nil_iff]
    exact pieces_ne_nil sep xs

/-! ## Lines -/

theorem dropReturn_prefix_self (line : Text) : dropReturn line <+: line := by
  unfold dropReturn
  split
  · exact List.dropLast_prefix line
  · exact List.prefix_rfl

theorem dropReturn_append {b : Text} (h : b ≠ []) (a : Text) : dropReturn (a ++ b) = a ++ dropReturn b := by
  unfold dropReturn
  rw [List.getLast?_append_of_ne_nil a h]
  split
  · exact List.dropLast_append_of_ne_nil h
  · rfl

theorem dropReturn_append_return (line : Text) : dropReturn (line ++ ['\r']) = line := by
  rw [dropReturn_append (List.cons_ne_nil _ _)]
  exact List.append_nil line

theorem dropReturn_eq_self {line : Text} (h : line.getLast? ≠ some '\r') : dropReturn line = line := if_neg h

theorem trim_dropReturn (line : Text) : trim (dropReturn line) = trim line := by
  unfold dropReturn
  split
  · rename_i h
    obtain ⟨rest, rfl⟩ := List.getLast?_eq_some_iff.mp h
    rw [List.dropLast_concat, trim_append_blanks (by decide)]
  · rfl

/-! ## Lines of a text -/

/-- A line feed ends the first line. -/
theorem lines_append_feed {line : Text} (h : '\n' ∉ line) (rest : Text) :
    lines (line ++ '\n' :: rest) = dropReturn line :: lines rest := by
  obtain ⟨next, more, hrest⟩ := List.exists_cons_of_ne_nil (pieces_ne_nil '\n' rest)
  rw [lines, lines, pieces_append_cons, pieces_of_not_mem h, hrest]
  rfl

/-- Without a line feed there is one line, or none. -/
theorem lines_of_not_mem {text : Text} (h : '\n' ∉ text) : lines text = if text = [] then [] else [text] := by
  rw [lines, pieces_of_not_mem h, lines.go]
  simp only [List.isEmpty_iff]

/-- A line is the beginning of a stretch between line feeds. -/
theorem exists_piece_of_mem_lines {text line : Text} (h : line ∈ lines text) :
    ∃ piece ∈ pieces '\n' text, line <+: piece := by
  unfold lines at h
  generalize pieces '\n' text = parts at h
  induction parts with
  | nil => cases h
  | cons piece more ih =>
    cases more with
    | nil =>
      simp only [lines.go] at h
      split at h
      · cases h
      · exact ⟨line, h, List.prefix_rfl⟩
    | cons next more =>
      rcases List.mem_cons.mp h with rfl | h
      · exact ⟨piece, List.mem_cons_self .., dropReturn_prefix_self piece⟩
      · obtain ⟨piece', hmem, hbegin⟩ := ih h
        exact ⟨piece', List.mem_cons_of_mem _ hmem, hbegin⟩

theorem lineFeed_not_mem_of_mem_lines {text line : Text} (h : line ∈ lines text) : '\n' ∉ line := by
  obtain ⟨piece, hpiece, hbegin⟩ := exists_piece_of_mem_lines h
  intro hfeed
  exact not_mem_of_mem_pieces hpiece (hbegin.subset hfeed)

/-! ## Texts that keep to one line -/

/-- A text that fills a line, with nothing to lose at its ends. -/
structure IsTidy (text : Text) : Prop where
  ne_nil : text ≠ []
  trimmed : IsTrimmed text
  no_feed : '\n' ∉ text

theorem IsWord.isTidy {word : Text} (h : IsWord word) : IsTidy word := ⟨h.ne_nil, h.isTrimmed, h.not_mem rfl⟩

/-- A tidy text does not end with a carriage return. -/
theorem IsTidy.dropReturn_eq {text : Text} (h : IsTidy text) : dropReturn text = text :=
  dropReturn_eq_self fun hlast => absurd (h.trimmed.last _ hlast) (by decide)

/-- Tidy texts with a line feed behind each are the lines. -/
theorem lines_terminated {parts : List Text} (h : ∀ part ∈ parts, IsTidy part) :
    lines (parts.flatMap fun part => part ++ ['\n']) = parts := by
  induction parts with
  | nil => rfl
  | cons part more ih =>
    have hpart := h part (List.mem_cons_self ..)
    rw [List.flatMap_cons, List.append_assoc, List.singleton_append, lines_append_feed hpart.no_feed,
      hpart.dropReturn_eq, ih fun part hpart => h part (List.mem_cons_of_mem _ hpart)]

/-! ## Lines with ends of their own -/

/-- The text holds these lines, one after another. Each ends in its own way, with a line feed or with a
    return and a line feed. -/
inductive HoldsLines : List Text → Text → Prop where
  | none : HoldsLines [] []
  /-- No line feed ends the last line, but a return may stand behind it. -/
  | last {line : Text} (ending : Text) (h : ending ∈ [[], ['\r']]) : HoldsLines [line] (line ++ ending)
  | next {line : Text} {lines : List Text} {rest : Text} (ending : Text) (h : ending ∈ [['\n'], ['\r', '\n']])
      (hrest : HoldsLines lines rest) : HoldsLines (line :: lines) (line ++ ending ++ rest)

theorem holdsLines_terminated (lines : List Text) : HoldsLines lines (lines.flatMap fun line => line ++ ['\n']) := by
  induction lines with
  | nil => exact .none
  | cons line lines ih => exact .next _ (List.mem_cons_self ..) ih

structure IsLine (line : Text) : Prop where
  no_feed : '\n' ∉ line
  no_return : '\r' ∉ line

instance (line : Text) : Decidable (IsLine line) :=
  decidable_of_iff ('\n' ∉ line ∧ '\r' ∉ line) ⟨fun h => ⟨h.1, h.2⟩, fun h => ⟨h.1, h.2⟩⟩

namespace IsLine

variable {line : Text} (h : IsLine line)
include h

theorem dropReturn_eq : dropReturn line = line :=
  dropReturn_eq_self fun hlast => h.no_return (List.mem_of_getLast? hlast)

/-- Either end of a line leaves the line. -/
theorem lines_append {ending : Text} (hending : ending ∈ [['\n'], ['\r', '\n']]) (rest : Text) :
    lines (line ++ ending ++ rest) = line :: lines rest := by
  rcases List.mem_pair.mp hending with rfl | rfl
  · rw [List.append_assoc, List.singleton_append, lines_append_feed h.no_feed, h.dropReturn_eq]
  · have hfeed : '\n' ∉ line ++ ['\r'] := by simp [h.no_feed]
    have htext : line ++ ['\r', '\n'] ++ rest = (line ++ ['\r']) ++ '\n' :: rest := by simp
    rw [htext, lines_append_feed hfeed, dropReturn_append_return]

end IsLine

/-! ## Bytes -/

/-- The byte of a line feed comes from a line feed. -/
theorem eq_lineFeed_of_mem_utf8EncodeChar {c : Char} (h : 10 ∈ String.utf8EncodeChar c) : c = '\n' := by
  have byte : ∀ n, (10 : UInt8) = UInt8.ofNat n → n % 256 = 10 := by
    intro n hn
    have := congrArg UInt8.toNat hn
    rw [UInt8.toNat_ofNat'] at this
    exact this.symm
  have hval : c.val.toNat = 10 := by
    simp only [String.utf8EncodeChar] at h
    -- All bytes of a longer form are 128 or more.
    split at h
    · have := byte _ (List.mem_singleton.mp h)
      omega
    · split at h
      · simp only [List.mem_cons, List.not_mem_nil, or_false] at h
        rcases h with h | h <;> have := byte _ h <;> omega
      · split at h <;> simp only [List.mem_cons, List.not_mem_nil, or_false] at h
        · rcases h with h | h | h <;> have := byte _ h <;> omega
        · rcases h with h | h | h | h <;> have := byte _ h <;> omega
  exact Char.ext (UInt32.toNat_inj.mp hval)

/-- Cutting the bytes of a text at its line feeds gives the bytes of its lines. -/
theorem pieces_encode (text : Text) : pieces 10 (encode text) = (pieces '\n' text).map encode :=
  pieces_flatMap (f := String.utf8EncodeChar) rfl (fun _ => eq_lineFeed_of_mem_utf8EncodeChar) text

theorem encode_joinWith (lines : List Text) : encode (joinWith ['\n'] lines) = joinWith [10] (lines.map encode) :=
  flatMap_joinWith (f := String.utf8EncodeChar) rfl lines

/-! ## Decoding -/

theorem decode?_encode (text : Text) : decode? (encode text) = some text := decode?_eq_some_iff.mpr rfl

theorem decode?_eq_none_iff {bytes : Bytes} : decode? bytes = none ↔ ¬ bytes.toByteArray.IsValidUTF8 := by
  rw [decode?, Option.map_eq_none_iff, ← ByteArray.isSome_utf8Decode?_iff, Option.not_isSome_iff_eq_none]

/-- Stretches of bytes are decoded one by one exactly where each is the form of a text. -/
theorem mapM_decode?_eq_some_iff {parts : List Bytes} {lines : List Text} :
    parts.mapM decode? = some lines ↔ parts = lines.map encode := by
  induction parts generalizing lines with
  | nil => cases lines <;> simp
  | cons part parts ih =>
    cases lines with
    | nil => simp [Option.bind_eq_some_iff]
    | cons line lines => simp [Option.bind_eq_some_iff, decode?_eq_some_iff, ih]

/-- Bytes are text line by line exactly where they are text as a whole, and the lines are the same. A
    character that a line feed breaks up is none in either reading. -/
theorem mapM_decode?_pieces (bytes : Bytes) :
    (pieces 10 bytes).mapM decode? = (decode? bytes).map (pieces '\n') := by
  cases hwhole : decode? bytes with
  | some text =>
    obtain rfl := decode?_eq_some_iff.mp hwhole
    exact mapM_decode?_eq_some_iff.mpr (pieces_encode text)
  | none =>
    rw [Option.map_none, Option.eq_none_iff_forall_ne_some]
    intro lines hlines
    -- The lines put together again would be the text.
    have hbytes : bytes = encode (joinWith ['\n'] lines) := by
      rw [encode_joinWith, ← mapM_decode?_eq_some_iff.mp hlines, joinWith_pieces]
    rw [hbytes, decode?_encode] at hwhole
    cases hwhole

end ActivityLog.Text
