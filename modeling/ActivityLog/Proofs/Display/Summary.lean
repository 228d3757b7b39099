/-
  ActivityLog.Proofs.Display.Summary — totals that fit together, and can be told from their text.

  Written in either format, summaries with different totals are different texts
  (`summary_told_from_text`). In the plain format the eight lines can be cut apart again, as
  no total holds a line feed, and each total stands behind a name of its own
  (`lines_injective`). A list of events or tasks is cut at its commas. Before its equals sign
  a task has digits and a minus sign only, so the number of its entries is cut off there. In
  the JSON format the one line is read back as the object that was written
  (`value_injective`). Tasks stand in the order of their numbers, which is not that of their
  texts: -1, 2, 10.

  The totals of a loaded store come from separate places: the list of its entries, the report
  of the loading, the sets of addresses, users and events, and the two tallies of tasks. They
  fit each other, the lines of the files, and what the query language tells about the same store
  (`totals_fit`), whatever stands in the folder.

  Three facts carry it. Loading makes one entry or one rejection of every line that is not
  blank (`Accounts.length_add_length`). An entry has one address and one user, so there are no
  more of them than entries and none only without entries. It has one event, so no entry counts
  both as an attempt and as a finished task (`length_filter_events`).
-/

import ActivityLog.Display
import ActivityLog.Proofs.Display.Answers
import ActivityLog.Proofs.Entry.Reader
import ActivityLog.Proofs.Ingest.Account
import ActivityLog.Proofs.Ordered
import ActivityLog.Proofs.Query.DrillDown
import ActivityLog.Proofs.Store.Tasks

namespace ActivityLog

namespace Display

attribute [ext] Summary

namespace Summary

/-! ## Lists of events and of tasks -/

/-- An item of a list that commas can part. -/
structure IsItem (item : Text) : Prop where
  ne_nil : item ≠ []
  no_comma : ',' ∉ item
  no_feed : '\n' ∉ item

theorem isItem_token (e : Event) : IsItem e.token := by
  cases e <;> exact ⟨by decide, by decide, by decide⟩

def writeCount (entry : Int × Nat) : Text := Text.ofInt entry.1 ++ '=' :: Text.ofNat entry.2

theorem writeTally_eq (t : Tally Int) : writeTally t = Text.joinWith ", ".toList (t.toList.map writeCount) := rfl

theorem isItem_writeCount (entry : Int × Nat) : IsItem (writeCount entry) where
  ne_nil := List.append_ne_nil_of_left_ne_nil (Text.ofInt_ne_nil _) _
  no_comma := by simp [writeCount, Text.not_mem_ofInt, Text.not_mem_ofNat]
  no_feed := by simp [writeCount, Text.not_mem_ofInt, Text.not_mem_ofNat]

theorem writeCount_injective : Function.Injective writeCount := by
  intro a b h
  have htask : '=' ∉ Text.ofInt a.1 := Text.not_mem_ofInt rfl (by decide) a.1
  have hn : '=' ∉ Text.ofNat a.2 := Text.not_mem_ofNat rfl a.2
  obtain ⟨htask, -, hn⟩ := (List.append_cons_inj_of_notMem htask hn).mp h
  exact Prod.ext (Text.ofInt_injective htask) (Text.ofNat_injective hn)

/-- Lists of items are told apart by their texts. -/
theorem joinWith_items_inj {α : Type} {item : α → Text} (hitem : ∀ a, IsItem (item a))
    (hinj : Function.Injective item) {xs ys : List α}
    (h : Text.joinWith ", ".toList (xs.map item) = Text.joinWith ", ".toList (ys.map item)) : xs = ys := by
  have hitems : ∀ zs : List α, ∀ z ∈ zs.map item, z ≠ [] ∧ ',' ∉ z := by
    intro zs z hz
    obtain ⟨a, -, rfl⟩ := List.mem_map.mp hz
    exact ⟨(hitem a).ne_nil, (hitem a).no_comma⟩
  have hspace : ',' ∉ [' '] := by decide
  exact List.map_injective_iff.mpr hinj (Text.joinWith_inj hspace (hitems xs) (hitems ys) h)

theorem lineFeed_not_mem_joinWith {α : Type} {item : α → Text} (hitem : ∀ a, IsItem (item a)) (xs : List α) :
    '\n' ∉ Text.joinWith ", ".toList (xs.map item) := by
  intro h
  rcases Text.mem_joinWith h with h | ⟨text, htext, h⟩
  · exact absurd h (by decide)
  · obtain ⟨a, -, rfl⟩ := List.mem_map.mp htext
    exact (hitem a).no_feed h

/-! ## Plain -/

theorem writeTally_injective : Function.Injective writeTally := by
  intro s t h
  rw [writeTally_eq, writeTally_eq] at h
  exact Tally.toList_inj (joinWith_items_inj isItem_writeCount writeCount_injective h)

/-- Behind their names the lines hold the totals. -/
theorem lines_injective : Function.Injective lines := by
  intro s t h
  simp only [lines, List.cons.injEq, List.append_cancel_left_eq, and_true] at h
  obtain ⟨hentries, hfiles, hrejected, hips, husers, hevents, hattempts, hfinishes⟩ := h
  have hevents' := joinWith_items_inj isItem_token Worded.token_injective hevents
  exact Summary.ext (Text.ofNat_injective hentries) (Text.ofNat_injective hfiles) (Text.ofNat_injective hrejected)
    (Text.ofNat_injective hips) (Text.ofNat_injective husers) (SortedSet.toList_inj hevents')
    (writeTally_injective hattempts) (writeTally_injective hfinishes)

theorem lineFeed_not_mem_lines (s : Summary) : ∀ line ∈ s.lines, '\n' ∉ line := by
  have hcount : ∀ n, '\n' ∉ Text.ofNat n := Text.not_mem_ofNat rfl
  have hevents := lineFeed_not_mem_joinWith isItem_token s.events.toList
  have htasks : ∀ t : Tally Int, '\n' ∉ writeTally t := fun t => lineFeed_not_mem_joinWith isItem_writeCount t.toList
  simp only [lines, List.forall_mem_cons]
  exact ⟨List.not_mem_append (by decide) (hcount _), List.not_mem_append (by decide) (hcount _),
    List.not_mem_append (by decide) (hcount _), List.not_mem_append (by decide) (hcount _),
    List.not_mem_append (by decide) (hcount _), List.not_mem_append (by decide) hevents,
    List.not_mem_append (by decide) (htasks _), List.not_mem_append (by decide) (htasks _), nofun⟩

theorem pieces_write_plain (s : Summary) : Text.pieces '\n' (s.write .plain) = s.lines ++ [[]] :=
  pieces_writeLines s.lineFeed_not_mem_lines

/-! ## JSON -/

theorem tallyValue_injective : Function.Injective tallyValue := by
  intro s t h
  have hmember : Function.Injective fun e : Int × Nat => (Text.ofInt e.1, Json.Value.number e.2) := by
    intro a b hab
    simp only [Prod.mk.injEq, Json.Value.number.injEq] at hab
    exact Prod.ext (Text.ofInt_injective hab.1) hab.2
  rw [tallyValue, tallyValue, Json.Value.object.injEq] at h
  exact Tally.toList_inj (List.map_injective_iff.mpr hmember h)

theorem value_injective : Function.Injective value := by
  intro s t h
  have htoken : Function.Injective fun e : Event => Json.Value.string e.token := fun a b hab =>
    Worded.token_injective (Json.Value.string.inj hab)
  simp only [value, Json.Value.object.injEq, List.cons.injEq, Prod.mk.injEq, Json.Value.number.injEq,
    Json.Value.array.injEq, true_and, and_true] at h
  obtain ⟨hentries, hfiles, hrejected, hips, husers, hevents, hattempts, hfinishes⟩ := h
  have hevents' := List.map_injective_iff.mpr htoken hevents
  exact Summary.ext hentries hfiles hrejected hips husers (SortedSet.toList_inj hevents')
    (tallyValue_injective hattempts) (tallyValue_injective hfinishes)

/-! ## Either format -/

theorem write_injective (format : Format) : Function.Injective (write format) := by
  intro s t h
  cases format with
  | plain =>
    have hpieces := congrArg (Text.pieces '\n') h
    rw [pieces_write_plain, pieces_write_plain] at hpieces
    exact lines_injective (List.append_cancel_right hpieces)
  | json =>
    have hread := congrArg Json.read? (List.append_cancel_right h)
    rw [Json.read?_write, Json.read?_write] at hread
    exact value_injective (Option.some.inj hread)

/-- The members of an object name the tasks in ascending order, each once and by its decimal text,
    with the number of its entries. -/
structure TellsTasks (object : List (Text × Json.Value)) (t : Tally Int) : Prop where
  members : object = t.keys.map fun task => (Text.ofInt task, .number (t.count task))
  numerals : ∀ task ∈ t.keys, Text.IsNumeral (Text.ofInt task) task
  ascending : t.keys.Pairwise (· < ·)
  nodup : (object.map (·.1)).Nodup

theorem exists_tellsTasks (t : Tally Int) : ∃ members, tallyValue t = .object members ∧ TellsTasks members t := by
  have hmembers : (t.toList.map fun e => (Text.ofInt e.1, Json.Value.number e.2)) =
      t.keys.map fun task => (Text.ofInt task, .number (t.count task)) := by
    conv_lhs => rw [t.toList_eq]
    rw [List.map_map]
    rfl
  refine ⟨_, rfl, hmembers, fun task _ => Text.isNumeral_ofInt task, ?_, ?_⟩
  · exact t.keySet.ascending.imp Int.compare_eq_lt.mp
  · rw [hmembers, List.map_map]
    exact t.keySet.nodup_toList.map Text.ofInt_injective

end Summary

/-- A summary can be told from its text in either format. The plain text is eight lines, with a line
    feed behind each. The JSON text is one line, and what is read from it is an object with all totals.
    In it the tasks stand in ascending order, each under its decimal text with the number of its entries. -/
theorem summary_told_from_text :
    (∀ format, Function.Injective (Summary.write format)) ∧
    ∀ s : Summary,
      (∃ lines : List Text, Text.pieces '\n' (s.write .plain) = lines ++ [[]] ∧ lines.length = 8) ∧
      ∃ (line : Text) (attempts finishes : List (Text × Json.Value)),
        s.write .json = line ++ ['\n'] ∧ '\n' ∉ line ∧
        Json.read? line = some (.object [
          ("entries".toList, .number s.entries),
          ("files".toList, .number s.files),
          ("rejected_lines".toList, .number s.rejectedLines),
          ("unique_ips".toList, .number s.ips),
          ("users".toList, .number s.users),
          ("events".toList, .array (s.events.toList.map fun e => .string e.token)),
          ("solved_tasks".toList, .object attempts),
          ("done_tasks".toList, .object finishes)]) ∧
        Summary.TellsTasks attempts s.attempts ∧ Summary.TellsTasks finishes s.finishes := by
  refine ⟨Summary.write_injective, fun s => ⟨⟨s.lines, s.pieces_write_plain, rfl⟩, ?_⟩⟩
  obtain ⟨attempts, hattempts, htold⟩ := Summary.exists_tellsTasks s.attempts
  obtain ⟨finishes, hfinishes, htold'⟩ := Summary.exists_tellsTasks s.finishes
  refine ⟨s.value.write, attempts, finishes, rfl, Json.lineFeed_not_mem_write _, ?_, htold, htold'⟩
  rw [Json.read?_write, Summary.value, hattempts, hfinishes]

/-- A summary with a task below zero, one of two digits and no finished task. -/
theorem summary_told_from_text_negative_task : ∃ s : Summary,
    s.write .plain = "entries: 4\nfiles: 1\nrejected lines: 0\nunique ips: 1\nusers: 2\n".toList ++
      "events: LOGIN, SOLVE_TASK\nsolved tasks: -1=1, 2=1, 10=1\ndone tasks: \n".toList ∧
    s.write .json = "\x7b\"entries\":4,\"files\":1,\"rejected_lines\":0,\"unique_ips\":1,\"users\":2,".toList ++
      "\"events\":[\"LOGIN\",\"SOLVE_TASK\"],\"solved_tasks\":\x7b\"-1\":1,\"2\":1,\"10\":1\x7d,".toList ++
      "\"done_tasks\":\x7b\x7d\x7d\n".toList ∧
    ∀ t : Summary, t.write .plain = s.write .plain ∨ t.write .json = s.write .json → t = s := by
  let s : Summary := ⟨4, 1, 0, 1, 2, .ofList [.solveTask, .login], .ofKeys [10, -1, 2], .empty⟩
  refine ⟨s, by decide +kernel, by decide +kernel, ?_⟩
  rintro t (hplain | hjson)
  · exact summary_told_from_text.1 .plain hplain
  · exact summary_told_from_text.1 .json hjson

end Display

/-! ## Values and entries -/

namespace Store

variable (s : Store)

section
variable {α : Type} [Ord α] [Std.TransOrd α] [Std.LawfulEqOrd α] (project : Entry → α)

theorem size_values_all_le : (s.values .all (fun _ => true) project).size ≤ s.size := by
  refine (SortedSet.size_ofList_le _).trans ?_
  rw [within_all, List.filter_true, List.length_map, size]

theorem size_values_all_eq_zero_iff : (s.values .all (fun _ => true) project).size = 0 ↔ s.size = 0 := by
  rw [values, SortedSet.size_ofList_eq_zero_iff, within_all, List.filter_true, List.map_eq_nil_iff, size,
    List.length_eq_zero_iff]

end

theorem mem_events_all {event : Event} : event ∈ s.events .all ↔ ∃ e ∈ s.entries, e.event = event := by
  simp only [events, mem_values, Period.contains_all, true_and]

/-- An event is on record when some task of it is tallied. -/
theorem mem_events_iff_taskTally {event : Event} :
    event ∈ s.events .all ↔ (s.taskTally event .all).toList ≠ [] := by
  rw [mem_events_all, taskTally, ne_eq, Tally.toList_ofKeys_eq_nil_iff, List.map_eq_nil_iff, within_all,
    List.filter_eq_nil_iff]
  simp only [decide_eq_true_eq, not_forall, not_not, exists_prop]

/-! ## Entries with either of two events -/

/-- No entry has two events. -/
theorem length_filter_events {a b : Event} (h : a ≠ b) (xs : List Entry) :
    (xs.filter fun e => e.event = a).length + (xs.filter fun e => e.event = b).length =
      (xs.filter fun e => e.event = a ∨ e.event = b).length := by
  induction xs with
  | nil => rfl
  | cons e xs ih =>
    by_cases ha : e.event = a
    · have hb : e.event ≠ b := fun hb => h (ha.symm.trans hb)
      simp only [List.filter_cons, ha, h, decide_true, decide_false, Bool.false_eq_true, if_true, if_false, true_or,
        List.length_cons]
      omega
    · by_cases hb : e.event = b
      · simp only [List.filter_cons, hb, Ne.symm h, decide_true, decide_false, Bool.false_eq_true, if_true, if_false,
          or_true, List.length_cons]
        omega
      · simp only [List.filter_cons, ha, hb, decide_false, Bool.false_eq_true, if_false, or_self]
        exact ih

/-- The tallies of two events count the entries with either of them. -/
theorem total_taskTally_add {a b : Event} (h : a ≠ b) : (s.taskTally a .all).total + (s.taskTally b .all).total =
    (s.entries.filter fun e => e.event = a ∨ e.event = b).length := by
  rw [(s.taskAnswersFit a .all).total_eq, (s.taskAnswersFit b .all).total_eq]
  exact length_filter_events h s.entries

end Store

namespace Display

open Query (execute)

/-- The totals fit the files that the store was loaded from, the answers that it gives, and each other. -/
structure TotalsFit (found : List Item) (s : Store) (t : Summary) : Prop where
  lines : t.entries + t.rejectedLines = (linesOf found).countP fun line => ¬ line.isBlank = true
  ips : ∃ listed, execute s "get ip".toList = .ok listed ∧ listed.size = t.ips
  users : ∃ listed, execute s "get user".toList = .ok listed ∧ listed.size = t.users
  events : execute s "get event".toList = .ok (.events t.events)
  ips_le : t.ips ≤ t.entries
  ips_eq_zero_iff : t.ips = 0 ↔ t.entries = 0
  users_le : t.users ≤ t.entries
  users_eq_zero_iff : t.users = 0 ↔ t.entries = 0
  attempts_iff : .solveTask ∈ t.events ↔ t.attempts.toList ≠ []
  finishes_iff : .doneTask ∈ t.events ↔ t.finishes.toList ≠ []
  total_le : t.attempts.total + t.finishes.total ≤ t.entries
  total_eq_iff : t.attempts.total + t.finishes.total = t.entries ↔
    ∀ event ∈ t.events, event = .solveTask ∨ event = .doneTask

/-- Where every event on record is one of the two, all entries count. -/
theorem total_eq_size_iff (s : Store) :
    (Summary.ofStore s).attempts.total + (Summary.ofStore s).finishes.total = s.size ↔
      ∀ event ∈ s.events .all, event = .solveTask ∨ event = .doneTask := by
  have htotal := s.total_taskTally_add (a := .solveTask) (b := .doneTask) nofun
  refine (Eq.congr_left htotal).trans (List.length_filter_eq_length_iff.trans ?_)
  simp only [decide_eq_true_eq, Store.mem_events_all]
  constructor
  · rintro h event ⟨e, he, rfl⟩
    exact h e he
  · intro h e he
    exact h e.event ⟨e, he, rfl⟩

/-- Entries and rejected lines of a loaded store are the lines of its files that are not blank. Its
    addresses, users and events are what the store answers when it is asked for them. There are no more
    addresses or users than entries, and none only where there are no entries. An event about tasks is on
    record exactly when some task is tallied for it. The two tallies count no entry twice, and they count
    all entries exactly when there are no other events. -/
theorem totals_fit {src : Source} {items : List Item} {s : Store} (h : Store.load src (.ok items) = .ok s) :
    TotalsFit (src.found items) s (Summary.ofStore s) where
  lines := (accounts_of_load h).length_add_length
  ips := ⟨_, Query.execute_write_all s .ip, rfl⟩
  users := ⟨_, Query.execute_write_all s .user, rfl⟩
  events := Query.execute_write_all s .event
  ips_le := s.size_values_all_le _
  ips_eq_zero_iff := s.size_values_all_eq_zero_iff _
  users_le := s.size_values_all_le _
  users_eq_zero_iff := s.size_values_all_eq_zero_iff _
  attempts_iff := s.mem_events_iff_taskTally
  finishes_iff := s.mem_events_iff_taskTally
  total_le := (s.total_taskTally_add (a := .solveTask) (b := .doneTask) nofun).trans_le (List.length_filter_le ..)
  total_eq_iff := total_eq_size_iff s

/-- A folder with a blank line, a line that is no log line, and a file that is no text. Both entries are about
    a task, so both are tallied. -/
theorem totals_fit_mixed_folder : ∃ (src : Source) (items : List Item) (s : Store),
    Store.load src (.ok items) = .ok s ∧ TotalsFit (src.found items) s (Summary.ofStore s) ∧
    (Summary.ofStore s).entries = 2 ∧ (Summary.ofStore s).rejectedLines = 1 ∧
    (Summary.ofStore s).attempts.total + (Summary.ofStore s).finishes.total = 2 := by
  let src : Source := ⟨"logs".toList, ".log".toList⟩
  let items : List Item := [
    ⟨Text.encode "a.log".toList, .file (Text.encode (
      " \nann\tLOGIN\n::1\tann\t14.10.2021 11:38:21\tSOLVE_TASK 18\tOK\n".toList ++
      "::1\tann\t14.10.2021 11:38:25\tDONE_TASK 18\tOK".toList))⟩,
    ⟨Text.encode "b.log".toList, .file [255]⟩]
  let s : Store := {
    entries := [⟨"::1".toList, "ann".toList, ⟨2021, 10, 14, 11, 38, 21, by decide⟩, .solveTask, 18, .ok⟩,
      ⟨"::1".toList, "ann".toList, ⟨2021, 10, 14, 11, 38, 25, by decide⟩, .doneTask, 18, .ok⟩]
    report := { files := [Text.encode "a.log".toList], unreadable := [Text.encode "b.log".toList], accepted := 2,
                rejected := [⟨Text.encode "a.log".toList, 2, .fieldCount 2⟩] } }
  have hload : Store.load src (.ok items) = .ok s := by decide +kernel
  have hfit := totals_fit hload
  exact ⟨src, items, s, hload, hfit, rfl, rfl, hfit.total_eq_iff.mpr (by decide)⟩

end Display
end ActivityLog
