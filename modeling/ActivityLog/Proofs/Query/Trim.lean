/-
  ActivityLog.Proofs.Query.Trim — blanks around a query, and queries on lines.

  A query is read the same with blanks around it and without (`readNoted?_trim`): the same
  request, the same warnings, or none of either. In front of the first word they are
  skipped. Behind the query they follow the value or the second bound, which are trimmed
  themselves. No marker ends with a blank, so none of the three cuts can move. A line that a
  script leaves out, a blank one or a comment, is no query in any case
  (`readNoted?_of_not_isQueryLine`).

  A script is decoded line by line, and yet it fails exactly where it is no text as a
  whole, also if the bytes that are none stand in a comment. Otherwise it holds the lines of
  this text that say something, in their order and trimmed (`readScript?_eq`). It can be
  written anew, a query on each line and nothing else, and the same queries are read again
  (`script_is_read_as_text`).
-/

import ActivityLog.Proofs.Query.RoundTrip
import ActivityLog.Proofs.Text.Lines
import ActivityLog.Query.Answer
import ActivityLog.Query.Request

namespace ActivityLog.Query

open Text (isBlank isAllBlank)

section Blanks

variable {b : Text} (hb : isAllBlank b = true)
include hb

/-! ## Blanks in front -/

theorem afterGet?_blanks_append (q : Text) : afterGet? (b ++ q) = afterGet? q := by
  simp only [afterGet?, afterWord?, Text.trimStart_blanks_append hb]

theorem readNoted?_blanks_append (q : Text) : Request.readNoted? (b ++ q) = Request.readNoted? q := by
  simp only [Request.readNoted?, shortForm?, longForm?, afterGet?_blanks_append hb]

/-! ## Blanks behind -/

theorem shortForm?_append_blanks (q : Text) : shortForm? (q ++ b) = shortForm? q := by
  refine Option.ext fun word => ?_
  rw [shortForm?_eq_some_iff, shortForm?_eq_some_iff, Text.words_append_blanks hb]

/-- The equals sign of a text with blanks behind it stands in the text. -/
theorem exists_equals_of_append_blanks {q head rest : Text} (h : q ++ b = head ++ '=' :: rest) :
    ∃ rest', q = head ++ '=' :: rest' ∧ rest = rest' ++ b := by
  rcases List.append_eq_append_iff.mp h with ⟨more, rfl, hblank⟩ | ⟨more, rfl, hrest⟩
  · have hmem : '=' ∈ b := by simp [hblank]
    exact absurd hmem (Text.not_mem_of_isAllBlank hb (by decide))
  · cases more with
    | nil =>
      have hmem : '=' ∈ [] ++ b := hrest ▸ List.mem_cons_self ..
      exact absurd hmem (Text.not_mem_of_isAllBlank hb (by decide))
    | cons c more =>
      obtain ⟨rfl, rfl⟩ := List.cons.inj hrest
      exact ⟨more, rfl, rfl⟩

theorem longForm?_append_blanks (q : Text) :
    longForm? (q ++ b) = (longForm? q).map fun (target, filter, rest) => (target, filter, rest ++ b) := by
  cases h : longForm? q with
  | some parts =>
    obtain ⟨t, f, rest⟩ := parts
    obtain ⟨head, rfl, hhead, hwords⟩ := longForm?_eq_some_iff.mp h
    exact longForm?_eq_some_iff.mpr ⟨head, by simp only [List.append_assoc, List.cons_append], hhead, hwords⟩
  | none =>
    refine Option.eq_none_iff_forall_ne_some.mpr ?_
    rintro ⟨t, f, rest⟩ hsome
    obtain ⟨head, hq, hhead, hwords⟩ := longForm?_eq_some_iff.mp hsome
    obtain ⟨rest', hq', -⟩ := exists_equals_of_append_blanks hb hq
    have hform := longForm?_eq_some_iff.mpr ⟨head, hq', hhead, hwords⟩
    rw [h] at hform
    cases hform

theorem readPeriod_append_blanks (clause : Text) : readPeriod (clause ++ b) = readPeriod clause := by
  have hcut := Text.splitOnce_append (show "and".toList.getLast? = some 'd' by decide)
    (Text.not_mem_of_isAllBlank hb (by decide)) clause
  cases h : Text.splitOnce "and".toList clause with
  | none =>
    rw [h, Option.map_none] at hcut
    simp only [readPeriod, h, hcut, Text.trim_append_blanks hb]
  | some parts =>
    rw [h, Option.map_some] at hcut
    simp only [readPeriod, h, hcut, unquote_append_blanks hb]

theorem readCondition_append_blanks (text : Text) : readCondition (text ++ b) = readCondition text := by
  have hcut := Text.splitOnce_append (show rangeKeyword.getLast? = some 'n' by decide)
    (Text.not_mem_of_isAllBlank hb (by decide)) text
  cases h : Text.splitOnce rangeKeyword text with
  | none =>
    rw [h, Option.map_none] at hcut
    simp only [readCondition, h, hcut, unquote_append_blanks hb]
  | some parts =>
    rw [h, Option.map_some] at hcut
    simp only [readCondition, h, hcut, readPeriod_append_blanks hb]

theorem readNoted?_append_blanks (q : Text) : Request.readNoted? (q ++ b) = Request.readNoted? q := by
  rw [Request.readNoted?, shortForm?_append_blanks hb, longForm?_append_blanks hb, Request.readNoted?]
  cases shortForm? q with
  | some word => rfl
  | none =>
    cases longForm? q with
    | none => rfl
    | some parts =>
      simp only [Option.map_some, Option.bind_eq_bind, Option.bind_some, readCondition_append_blanks hb]

end Blanks

/-! ## Trimmed queries -/

/-- A query is read as it is without the blanks around it, and with the same warnings. -/
theorem readNoted?_trim (q : Text) : Request.readNoted? (Text.trim q) = Request.readNoted? q := by
  obtain ⟨a, b, ha, hb, hq⟩ := Text.exists_blanks_append_trim q
  calc Request.readNoted? (Text.trim q) = Request.readNoted? (Text.trim q ++ b) := (readNoted?_append_blanks hb _).symm
    _ = Request.readNoted? (a ++ (Text.trim q ++ b)) := (readNoted?_blanks_append ha _).symm
    _ = Request.readNoted? q := by rw [← hq]

theorem execute_trim (s : Store) (q : Text) : execute s (Text.trim q) = execute s q := by
  simp only [execute, executeNoted, readNoted?_trim]

/-! ## Lines that are left out -/

theorem readNoted?_of_not_isQueryLine {q : Text} (h : isQueryLine (Text.trim q) = false) :
    Request.readNoted? q = none := by
  rw [← readNoted?_trim]
  cases ht : Text.trim q with
  | nil => rfl
  | cons c rest =>
    rw [ht] at h
    have hc : c = '#' := by simpa [isQueryLine] using h
    subst hc
    have hget : afterGet? ('#' :: rest) = none := by
      rw [afterGet?, afterWord?, Text.trimStart_cons (by decide)]
      rfl
    simp only [Request.readNoted?, shortForm?, longForm?, hget, Option.bind_eq_bind, Option.bind_none]

theorem execute_of_not_isQueryLine {q : Text} (h : isQueryLine (Text.trim q) = false) (s : Store) :
    execute s q = .ok .noMatch := by
  simp only [execute, executeNoted, readNoted?_of_not_isQueryLine h]

open Text (IsTidy IsTrimmed)

/-! ## Lines that say something -/

theorem isQueryLine_iff {line : Text} : isQueryLine line = true ↔ line ≠ [] ∧ line.head? ≠ some '#' := by
  cases line <;> simp [isQueryLine]

theorem queryLines_cons (line : Text) (lines : List Text) : queryLines (line :: lines) =
    (if isQueryLine (Text.trim line) then [Text.trim line] else []) ++ queryLines lines := by
  rw [queryLines, List.map_cons, List.filter_cons]
  split <;> rfl

theorem mem_queryLines {lines : List Text} {query : Text} :
    query ∈ queryLines lines ↔ (∃ line ∈ lines, Text.trim line = query) ∧ isQueryLine query = true := by
  rw [queryLines, List.mem_filter, List.mem_map]

theorem isTidy_of_mem_queryLines {lines : List Text} (hfeeds : ∀ line ∈ lines, '\n' ∉ line) {query : Text}
    (h : query ∈ queryLines lines) : IsTidy query ∧ query.head? ≠ some '#' := by
  obtain ⟨⟨line, hline, rfl⟩, hsays⟩ := mem_queryLines.mp h
  obtain ⟨hne, hcomment⟩ := isQueryLine_iff.mp hsays
  have hfeed : '\n' ∉ Text.trim line := fun hmem => hfeeds line hline ((Text.trim_infix line).subset hmem)
  exact ⟨⟨hne, Text.isTrimmed_trim line, hfeed⟩, hcomment⟩

/-- Tidy lines that are no comments stand for themselves. -/
theorem queryLines_eq_self {queries : List Text} (h : ∀ query ∈ queries, IsTidy query ∧ query.head? ≠ some '#') :
    queryLines queries = queries := by
  have htrim : queries.map Text.trim = queries.map id :=
    List.map_congr_left fun query hquery => Text.trim_eq_self_iff.mpr (h query hquery).1.trimmed
  rw [queryLines, htrim, List.map_id, List.filter_eq_self]
  intro query hquery
  exact isQueryLine_iff.mpr ⟨(h query hquery).1.ne_nil, (h query hquery).2⟩

/-! ## The whole stream -/

/-- The stream is a text with queries on its lines, or it fails. -/
theorem readScript?_eq (bytes : Bytes) :
    readScript? bytes = (Text.decode? bytes).map fun text => queryLines (Text.pieces '\n' text) := by
  rw [readScript?, Text.mapM_decode?_pieces, Option.map_map]
  rfl

theorem readScript?_encode (text : Text) :
    readScript? (Text.encode text) = some (queryLines (Text.pieces '\n' text)) := by
  rw [readScript?_eq, Text.decode?_encode, Option.map_some]

/-- Lines are queries of their own where none of them holds a line feed. -/
theorem readScript?_joinWith {lines : List Text} (hne : lines ≠ []) (hfeeds : ∀ line ∈ lines, '\n' ∉ line) :
    readScript? (Text.encode (Text.joinWith ['\n'] lines)) = some (queryLines lines) := by
  rw [readScript?_encode, Text.pieces_joinWith hfeeds hne]

theorem isTidy_of_readScript? {bytes : Bytes} {queries : List Text} (h : readScript? bytes = some queries) :
    ∀ query ∈ queries, IsTidy query ∧ query.head? ≠ some '#' := by
  rw [readScript?_eq] at h
  obtain ⟨text, -, rfl⟩ := Option.map_eq_some_iff.mp h
  intro query hquery
  exact isTidy_of_mem_queryLines (fun line hline => Text.not_mem_of_mem_pieces hline) hquery

/-- A query on each line is read as these queries. -/
theorem readScript?_joinWith_of_isTidy {queries : List Text}
    (h : ∀ query ∈ queries, IsTidy query ∧ query.head? ≠ some '#') :
    readScript? (Text.encode (Text.joinWith ['\n'] queries)) = some queries := by
  by_cases hne : queries = []
  · rw [hne]
    rfl
  · rw [readScript?_joinWith hne fun query hquery => (h query hquery).1.no_feed, queryLines_eq_self h]

/-- Reading a script fails exactly where its bytes as a whole are not valid. Otherwise it gives the lines of the text,
    trimmed and in order, without the empty ones and the comments. Every one of these queries is tidy and no comment,
    and a script of nothing but these queries, one on each line, is read as the same queries. -/
theorem script_is_read_as_text (bytes : Bytes) :
    (readScript? bytes = none ↔ ¬ bytes.toByteArray.IsValidUTF8) ∧
    (∀ text, bytes = Text.encode text → readScript? bytes = some
      (((Text.pieces '\n' text).map Text.trim).filter fun line => line ≠ [] ∧ line.head? ≠ some '#')) ∧
    ∀ queries, readScript? bytes = some queries →
      (∀ query ∈ queries, query ≠ [] ∧ IsTrimmed query ∧ '\n' ∉ query ∧ query.head? ≠ some '#') ∧
      readScript? (Text.encode (Text.joinWith ['\n'] queries)) = some queries := by
  refine ⟨?_, ?_, ?_⟩
  · rw [readScript?_eq, Option.map_eq_none_iff, Text.decode?_eq_none_iff]
  · rintro text rfl
    rw [readScript?_encode, queryLines]
    refine congrArg some (List.filter_congr fun line _ => ?_)
    rw [Bool.eq_iff_iff, isQueryLine_iff, decide_eq_true_iff]
  · intro queries h
    have htidy := isTidy_of_readScript? h
    refine ⟨fun query hquery => ?_, readScript?_joinWith_of_isTidy htidy⟩
    obtain ⟨⟨hne, htrimmed, hfeed⟩, hcomment⟩ := htidy query hquery
    exact ⟨hne, htrimmed, hfeed, hcomment⟩

/-- A script with a return, a comment, a line of blanks and no line feed at its end; and one with a comment in which a
    line feed stands between the two bytes of a character. -/
theorem script_is_read_as_text_broken_character : ∃ (text : Text) (queries : List Text) (broken : Bytes),
    readScript? (Text.encode text) = some queries ∧
    queries = ["get ip".toList, "get # user".toList] ∧
    readScript? (Text.encode "get ip\nget # user".toList) = some queries ∧
    broken = Text.encode "get ip\n# caf".toList ++ [0xC3, 10, 0xA9] ∧ readScript? broken = none ∧
    ¬ broken.toByteArray.IsValidUTF8 := by
  let text := "get ip\r\n\u3000\t\n # all of them\n\u3000get # user\t".toList
  let queries := ["get ip".toList, "get # user".toList]
  let broken := Text.encode "get ip\n# caf".toList ++ [0xC3, 10, 0xA9]
  have hread : readScript? (Text.encode text) = some queries :=
    ((script_is_read_as_text (Text.encode text)).2.1 text rfl).trans (by decide +kernel)
  have hbroken : readScript? broken = none := by decide +kernel
  refine ⟨text, queries, broken, hread, rfl, ?_, rfl, hbroken, ?_⟩
  · exact ((script_is_read_as_text (Text.encode text)).2.2 queries hread).2
  · exact (script_is_read_as_text broken).1.mp hbroken

end ActivityLog.Query
