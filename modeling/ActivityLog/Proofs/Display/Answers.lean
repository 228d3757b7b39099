/-
  ActivityLog.Proofs.Display.Answers — answers that can be told from what is put out.

  In the JSON format the answers to any queries over any store are a line each, and from
  each line the query, the kind and the values are read back, whatever characters they
  hold (`json_answers_read_back`). The plain text of an answer is the same values, each
  with a line feed behind it. Only there can a value bring a line feed of its own along.

  So a plain answer can be read only as far as its lines keep to themselves. Loading cuts
  every file at its line feeds first, so of every entry of a loaded store the address and the
  user are tidy (`isTidy_of_load`). Every line of an answer is then tidy, whatever the query,
  and the text falls into these lines again. With the kind of the answer known the text tells
  which answer it is (`plain_answer_read_back`).

  Over an arbitrary store this fails. A user's name with a line feed in it looks like two
  users.
-/

import ActivityLog.Display
import ActivityLog.Proofs.Ingest.Account
import ActivityLog.Proofs.Json
import ActivityLog.Proofs.Query.Listing
import ActivityLog.Query.Answer

namespace ActivityLog

open Text (IsTidy)

/-! ## Tidy stores -/

/-- A line without a line feed gives tidy texts. -/
theorem Entry.isTidy_of_read {line : Text} (hfeed : '\n' ∉ line) {e : Entry} (h : Entry.read line = .ok e) :
    IsTidy e.ip ∧ IsTidy e.user := by
  obtain ⟨ip, user, _, _, _, hfields, hfive⟩ := Entry.exists_fields_of_read h
  obtain ⟨⟨hip, hip_ne⟩, ⟨huser, huser_ne⟩, -⟩ := Entry.ofFields_eq_ok_iff.mp hfive
  have field : ∀ f ∈ lineFields line, '\n' ∉ Text.trim f := by
    intro f hf hmem
    exact hfeed (((Text.trim_infix f).trans (infix_of_mem_lineFields hf)).subset hmem)
  rw [hfields] at field
  refine ⟨⟨hip_ne, ?_, ?_⟩, ⟨huser_ne, ?_, ?_⟩⟩
  · exact hip ▸ Text.isTrimmed_trim ip
  · exact hip ▸ field ip (by simp)
  · exact huser ▸ Text.isTrimmed_trim user
  · exact huser ▸ field user (by simp)

/-- The lines of a file are lines of its text. -/
theorem lineFeed_not_mem_of_mem_linesOf {found : List Item} {line : FileLine} (h : line ∈ linesOf found) :
    '\n' ∉ line.text := by
  obtain ⟨item, -, hline⟩ := List.mem_flatMap.mp h
  cases htext : item.content.text? with
  | none =>
    rw [Item.lines, htext] at hline
    cases hline
  | some text =>
    rw [Item.lines_of_text htext] at hline
    obtain ⟨⟨n, t⟩, hnumbered, rfl⟩ := List.mem_map.mp hline
    obtain ⟨⟨t', i⟩, hindexed, heq⟩ := List.mem_map.mp hnumbered
    cases heq
    exact Text.lineFeed_not_mem_of_mem_lines (List.fst_mem_of_mem_zipIdx hindexed)

theorem isTidy_of_load {src : Source} {listing : Listing Item} {s : Store}
    (h : Store.load src listing = .ok s) : ∀ e ∈ s.entries, IsTidy e.ip ∧ IsTidy e.user := by
  cases listing with
  | error fault => cases fault <;> cases h
  | ok items =>
    intro e he
    rw [(accounts_of_load h).entries] at he
    obtain ⟨line, hline, hentry⟩ := List.mem_filterMap.mp he
    exact Entry.isTidy_of_read (lineFeed_not_mem_of_mem_linesOf hline) (FileLine.entry?_eq_some_iff.mp hentry)

namespace Display

/-! ## Lines -/

/-- Lines without line feeds are the stretches between the line feeds; behind the last nothing stands. -/
theorem pieces_writeLines {lines : List Text} (h : ∀ line ∈ lines, '\n' ∉ line) :
    Text.pieces '\n' (writeLines lines) = lines ++ [[]] := Text.pieces_terminated h

theorem count_writeLines {lines : List Text} (h : ∀ line ∈ lines, '\n' ∉ line) :
    (writeLines lines).count '\n' = lines.length := by
  induction lines with
  | nil => rfl
  | cons line lines ih =>
    have hline : line.count '\n' = 0 := List.count_eq_zero_of_not_mem (h line (List.mem_cons_self ..))
    have hlines := ih fun line hl => h line (List.mem_cons_of_mem _ hl)
    show ((line ++ ['\n']) ++ writeLines lines).count '\n' = _
    simp [hline, hlines]

theorem mem_writeLines {lines : List Text} {c : Char} (h : c ∈ writeLines lines) :
    c = '\n' ∨ ∃ line ∈ lines, c ∈ line := by
  obtain ⟨line, hline, hc⟩ := List.mem_flatMap.mp h
  rcases List.mem_append.mp hc with hc | hc
  · exact Or.inr ⟨line, hline, hc⟩
  · exact Or.inl (List.mem_singleton.mp hc)

/-! ## Answers -/

/-- The queries that are answered, each with its answer, in the order of the queries. -/
def answered (s : Store) (queries : List Text) : List (Text × Query.Output) :=
  queries.filterMap fun query => (Query.execute s query).toOption.map fun o => (query, o)

theorem answered_cons (s : Store) (query : Text) (queries : List Text) :
    answered s (query :: queries) = answered s [query] ++ answered s queries := by
  unfold answered
  rw [← List.singleton_append, List.filterMap_append]

def writeAnswers (format : Format) (answers : List (Text × Query.Output)) : Text :=
  answers.flatMap fun (query, o) => writeAnswer format query o

def answerLine (answer : Text × Query.Output) : Text := (answerValue answer.1 answer.2).write

theorem writeAnswers_json (answers : List (Text × Query.Output)) :
    writeAnswers .json answers = writeLines (answers.map answerLine) := by
  rw [writeLines, List.flatMap_map]
  rfl

theorem not_control_of_mem_answerLine {answer : Text × Query.Output} {c : Char} (h : c ∈ answerLine answer) :
    0x20 ≤ c.toNat := Json.not_control_of_mem_write h

theorem lineFeed_not_mem_answerLine (answer : Text × Query.Output) : '\n' ∉ answerLine answer :=
  Json.lineFeed_not_mem_write _

/-- The answers to any queries, written as JSON, fall into as many lines as there are answers, with
    no other control among them. Each line is read as an object with the query, the kind and the
    values of its answer; and the values, each with a line feed, are the answer written plainly. -/
theorem json_answers_read_back (s : Store) (queries : List Text) : ∃ lines : List Text,
    writeAnswers .json (answered s queries) = writeLines lines ∧
    Text.pieces '\n' (writeAnswers .json (answered s queries)) = lines ++ [[]] ∧
    (writeAnswers .json (answered s queries)).count '\n' = (answered s queries).length ∧
    (∀ c ∈ writeAnswers .json (answered s queries), c ≠ '\n' → 0x20 ≤ c.toNat) ∧
    lines.map Json.read? = (answered s queries).map (fun (query, o) => some (.object [
      ("query".toList, .string query),
      ("kind".toList, .string o.kind),
      ("values".toList, .array (o.lines.map .string))])) ∧
    ∀ query o, (query, o) ∈ answered s queries →
      writeAnswer .plain query o = o.lines.flatMap fun value => value ++ ['\n'] := by
  have hfeeds : ∀ line ∈ (answered s queries).map answerLine, '\n' ∉ line := by
    intro line hline
    obtain ⟨answer, -, rfl⟩ := List.mem_map.mp hline
    exact lineFeed_not_mem_answerLine answer
  refine ⟨(answered s queries).map answerLine, writeAnswers_json _, ?_, ?_, ?_, ?_, ?_⟩
  · rw [writeAnswers_json]
    exact pieces_writeLines hfeeds
  · rw [writeAnswers_json, count_writeLines hfeeds, List.length_map]
  · intro c hc hne
    rw [writeAnswers_json] at hc
    obtain ⟨line, hline, hmem⟩ := (mem_writeLines hc).resolve_left hne
    obtain ⟨answer, -, rfl⟩ := List.mem_map.mp hline
    exact not_control_of_mem_answerLine hmem
  · rw [List.map_map]
    refine List.map_congr_left fun answer _ => ?_
    exact Json.read?_write (answerValue answer.1 answer.2)
  · intro query o _
    rfl

/-- A user with a line feed in the name, and a query with a line feed and another control in it. -/
theorem json_answers_read_back_line_feeds : ∃ (s : Store) (queries : List Text),
    writeAnswers .json (answered s queries) = (
      "\x7b\"query\":\"get user\",\"kind\":\"strings\",\"values\":[\"a\\nb\"]\x7d\n" ++
      "\x7b\"query\":\"\\n\\u0001\",\"kind\":\"no_match\",\"values\":[]\x7d\n").toList ∧
    (writeAnswers .json (answered s queries)).count '\n' = (answered s queries).length ∧
    ("get user".toList, .texts (.ofList ["a\nb".toList])) ∈ answered s queries := by
  let e : Entry := ⟨"::1".toList, "a\nb".toList, ⟨2020, 1, 1, 10, 0, 0, by decide⟩, .login, 0, .ok⟩
  let queries := ["get user".toList, "\n\x01".toList]
  obtain ⟨-, -, -, hcount, -⟩ := json_answers_read_back (.ofEntries [e]) queries
  exact ⟨.ofEntries [e], queries, by decide +kernel, hcount, by decide +kernel⟩

theorem isTidy_of_mem_lines_of_load {src : Source} {listing : Listing Item} {s : Store}
    (hload : Store.load src listing = .ok s) {query : Text} {o : Query.Output} (ho : Query.execute s query = .ok o) :
    ∀ line ∈ o.lines, IsTidy line := by
  intro line hline
  exact Query.isTidy_of_mem_lines (Query.isOnRecord_of_execute ho) (isTidy_of_load hload) hline

/-- An answer over a loaded store, written plainly, has a line feed behind each value and falls into
    the values again. There are as many as the answer has, no two alike, none empty and all trimmed.
    Answers of one kind over two loaded stores are the same if they are written alike. -/
theorem plain_answer_read_back {src : Source} {listing : Listing Item} {s : Store} {query : Text}
    {o : Query.Output} (hload : Store.load src listing = .ok s) (ho : Query.execute s query = .ok o) :
    writeAnswer .plain query o = (o.lines.flatMap fun line => line ++ ['\n']) ∧
    Text.pieces '\n' (writeAnswer .plain query o) = o.lines ++ [[]] ∧
    Text.lines (writeAnswer .plain query o) = o.lines ∧
    o.lines.length = o.size ∧
    o.lines.Nodup ∧
    (∀ line ∈ o.lines, line ≠ [] ∧ Text.IsTrimmed line) ∧
    ∀ (src' : Source) (listing' : Listing Item) (s' : Store) (query' : Text) (o' : Query.Output),
      Store.load src' listing' = .ok s' → Query.execute s' query' = .ok o' → o.kind = o'.kind →
      writeAnswer .plain query o = writeAnswer .plain query' o' → o = o' := by
  have htidy := isTidy_of_mem_lines_of_load hload ho
  have hpieces : Text.pieces '\n' (writeAnswer .plain query o) = o.lines ++ [[]] :=
    pieces_writeLines fun line hline => (htidy line hline).no_feed
  refine ⟨rfl, hpieces, Text.lines_terminated htidy, o.length_lines, o.nodup_lines, ?_, ?_⟩
  · intro line hline
    exact ⟨(htidy line hline).ne_nil, (htidy line hline).trimmed⟩
  · intro src' listing' s' query' o' hload' ho' hkind hwritten
    have htidy' := isTidy_of_mem_lines_of_load hload' ho'
    have hpieces' : Text.pieces '\n' (writeAnswer .plain query' o') = o'.lines ++ [[]] :=
      pieces_writeLines fun line hline => (htidy' line hline).no_feed
    rw [hwritten, hpieces'] at hpieces
    exact Query.Output.lines_inj hkind (List.append_cancel_right hpieces).symm

/-- Two folders with a user whose name has a carriage return inside and one whose name looks like a
    date, in one file and in two. -/
theorem plain_answer_read_back_two_folders :
    ∃ (src : Source) (items items' : List Item) (s s' : Store) (o o' : Query.Output),
      Store.load src (.ok items) = .ok s ∧ Query.execute s "get user".toList = .ok o ∧
      writeAnswer .plain "get user".toList o = "01.01.2020\nann\rb\n".toList ∧
      Text.lines (writeAnswer .plain "get user".toList o) = o.lines ∧
      Store.load src (.ok items') = .ok s' ∧ Query.execute s' "get user".toList = .ok o' ∧ o = o' := by
  let src : Source := ⟨"logs".toList, ".log".toList⟩
  let first := "::1\tann\rb\t14.10.2021 11:38:21\tLOGIN\tOK\r".toList
  let second := "::1\t 01.01.2020\t14.10.2021 11:38:22\tLOGIN\tOK".toList
  let items : List Item := [⟨Text.encode "a.log".toList, .file (Text.encode (first ++ '\n' :: second))⟩]
  let items' : List Item :=
    [⟨Text.encode "a.log".toList, .file (Text.encode second)⟩, ⟨Text.encode "b.log".toList, .file (Text.encode first)⟩]
  let s := (src.found items).foldl Store.readFile Store.empty
  let s' := (src.found items').foldl Store.readFile Store.empty
  let o : Query.Output := .texts (.ofList ["01.01.2020".toList, "ann\rb".toList])
  have hload : Store.load src (.ok items) = .ok s := rfl
  have hload' : Store.load src (.ok items') = .ok s' := rfl
  have ho : Query.execute s "get user".toList = .ok o := by decide +kernel
  have ho' : Query.execute s' "get user".toList = .ok o := by decide +kernel
  obtain ⟨-, -, hlines, -, -, -, hsame⟩ := plain_answer_read_back hload ho
  exact ⟨src, items, items', s, s', o, o, hload, ho, by decide +kernel, hlines, hload', ho',
    hsame src (.ok items') s' _ o hload' ho' rfl rfl⟩

/-- A line feed in a name would look like two names. -/
example : writeAnswer .plain [] (.texts (.ofList ["a\nb".toList])) =
    writeAnswer .plain [] (.texts (.ofList ["a".toList, "b".toList])) := by decide

end Display
end ActivityLog
