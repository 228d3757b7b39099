/-
  ActivityLog.Proofs.Entry.Reader — the fields of a line, and the entries they describe.

  Each vocabulary is read in the same way: the first of its members with the given word.
  What is found has that word, and a word is refused exactly where no member has it
  (`readToken_eq_error_iff`).

  A field is a stretch of its line without a tab (`infix_of_mem_lineFields`). Dropping the
  empty fields at the end is dropping the tabs at the end of the line before it is cut
  (`lineFields_eq_pieces`). The checks run in the order of the fields (`ofFields_eq`), so the
  fields make an entry exactly where each of them passes its own (`ofFields_eq_ok_iff`). A
  line of nothing but blanks is never an entry (`read_of_isAllBlank`).

  A line can describe an entry whose address and user can stand in a field: they are
  not empty, trimmed and without a tab (`IsFieldText`). The task number has 32 bits. Nothing
  else is asked of an entry (`Entry.IsRecordable`). These are exactly the entries that
  reading a line gives (`recordable_entries`): each of them is written as a line that is read
  as that entry, and whatever is read is one of them. The task number may be left out where
  it is 0.
-/

import Mathlib.Data.List.DropRight
import ActivityLog.Entry
import ActivityLog.Proofs.Text.Blank
import ActivityLog.Proofs.Text.Cut
import ActivityLog.Proofs.Text.Decimal
import ActivityLog.Proofs.Text.Lines
import ActivityLog.Proofs.Timestamp

namespace ActivityLog

/-! ## Vocabularies -/

section
variable {α : Type} [Worded α] {text : Text}

theorem readToken_eq_ok_iff {a : α} : readToken text = .ok a ↔ Worded.token a = text := by
  unfold readToken
  split
  · rename_i b hfind
    have hb : Worded.token b = text := by simpa using List.find?_some hfind
    rw [Except.ok.injEq]
    exact ⟨fun h => h ▸ hb, fun h => Worded.token_inj (hb.trans h.symm)⟩
  · rename_i hfind
    exact iff_of_false nofun fun h => by simpa [h] using List.find?_eq_none.mp hfind a (Worded.mem_all a)

theorem readToken_eq_error_iff {err : UnknownToken} : (readToken text : Except UnknownToken α) = .error err ↔
    (∀ a : α, Worded.token a ≠ text) ∧ err = ⟨Worded.vocabulary α, text⟩ := by
  unfold readToken
  split
  · rename_i a hfind
    exact iff_of_false nofun fun h => h.1 a (by simpa using List.find?_some hfind)
  · rename_i hfind
    have hnone : ∀ a : α, Worded.token a ≠ text := fun a => by
      simpa using List.find?_eq_none.mp hfind a (Worded.mem_all a)
    rw [Except.error.injEq]
    exact ⟨fun h => ⟨hnone, h.symm⟩, fun h => h.2.symm⟩

theorem readToken_token (a : α) : readToken (Worded.token a) = .ok a := readToken_eq_ok_iff.mpr rfl

theorem Worded.token_injective : Function.Injective (token : α → Text) := fun _ _ => token_inj

end

open Text (IsWord)

theorem Event.isWord_token (e : Event) : IsWord e.token := by
  cases e <;> exact Text.isWord_iff_all.mpr (by decide)

theorem Status.isWord_token (s : Status) : IsWord s.token := by
  cases s <;> exact Text.isWord_iff_all.mpr (by decide)

/-! ## Fields -/

theorem mem_of_mem_dropTrailingEmpty {field : Text} {fields : List Text} (h : field ∈ dropTrailingEmpty fields) :
    field ∈ fields := by
  cases fields with
  | nil => exact h
  | cons first more =>
    rcases List.mem_cons.mp h with rfl | h
    · exact List.mem_cons_self ..
    · rw [List.mem_reverse] at h
      exact List.mem_cons_of_mem _ (List.mem_reverse.mp ((List.dropWhile_sublist _).subset h))

theorem infix_of_mem_lineFields {line field : Text} (h : field ∈ lineFields line) : field <:+: line :=
  (Text.infix_of_mem_pieces (mem_of_mem_dropTrailingEmpty h)).trans (Text.dropReturn_prefix_self line).isInfix

theorem tab_not_mem_of_mem_lineFields {line field : Text} (h : field ∈ lineFields line) : '\t' ∉ field :=
  Text.not_mem_of_mem_pieces (mem_of_mem_dropTrailingEmpty h)

/-! ## The end of a line -/

/-- The line without what its end may have: one carriage return and, in front of that, tabs. -/
def lineBody (line : Text) : Text := (Text.dropReturn line).rdropWhile (· == '\t')

theorem dropTrailingEmpty_append_nil {fields : List Text} (h : fields ≠ []) :
    dropTrailingEmpty (fields ++ [[]]) = dropTrailingEmpty fields := by
  obtain ⟨first, more, rfl⟩ := List.exists_cons_of_ne_nil h
  simp [dropTrailingEmpty]

theorem dropTrailingEmpty_append_of_ne_nil {last : Text} (h : last ≠ []) (fields : List Text) :
    dropTrailingEmpty (fields ++ [last]) = fields ++ [last] := by
  cases fields with
  | nil => rfl
  | cons first more => simp [dropTrailingEmpty, h]

/-- A tab at the end of a text makes an empty field, which does not stay. -/
theorem dropTrailingEmpty_pieces_append_tab (text : Text) :
    dropTrailingEmpty (Text.pieces '\t' (text ++ ['\t'])) = dropTrailingEmpty (Text.pieces '\t' text) := by
  rw [Text.pieces_append_cons]
  exact dropTrailingEmpty_append_nil (Text.pieces_ne_nil _ _)

/-- Without the empty fields at its end a line is a line without the tabs at its end. -/
theorem lineFields_eq_pieces (line : Text) : lineFields line = Text.pieces '\t' (lineBody line) := by
  unfold lineFields lineBody
  induction Text.dropReturn line using List.reverseRecOn with
  | nil => rfl
  | append_singleton text c ih =>
    by_cases hc : c = '\t'
    · subst hc
      rw [dropTrailingEmpty_pieces_append_tab, ih, List.rdropWhile_concat_pos _ _ _ (by decide)]
    · obtain ⟨init, last, hp, hlast⟩ := Text.exists_last_piece hc text
      rw [List.rdropWhile_concat_neg _ _ _ (by simpa using hc), hp, dropTrailingEmpty_append_of_ne_nil hlast]

/-! ## Checks -/

theorem mapError_eq_ok_iff {ε ε' α : Type} {f : ε → ε'} {x : Except ε α} {a : α} :
    x.mapError f = .ok a ↔ x = .ok a := by
  cases x <;> simp [Except.mapError]

theorem mapError_eq_error_iff {ε ε' α : Type} {f : ε → ε'} {x : Except ε α} {err : ε'} :
    x.mapError f = .error err ↔ ∃ fault, x = .error fault ∧ err = f fault := by
  cases x <;> simp [Except.mapError, eq_comm]

theorem bind_eq_ok_iff {ε α β : Type} {x : Except ε α} {f : α → Except ε β} {b : β} :
    (x >>= f) = .ok b ↔ ∃ a, x = .ok a ∧ f a = .ok b := by
  cases x <;> simp [bind, Except.bind]

def readNamed (blank : LineError) (field : Text) : Except LineError Text :=
  if Text.trim field = [] then .error blank else .ok (Text.trim field)

theorem readNamed_eq_ok_iff {blank : LineError} {field name : Text} :
    readNamed blank field = .ok name ↔ Text.trim field = name ∧ name ≠ [] := by
  unfold readNamed
  split
  · rename_i h
    exact iff_of_false nofun fun hname => hname.2 (hname.1 ▸ h)
  · rename_i h
    rw [Except.ok.injEq]
    exact ⟨fun hname => ⟨hname, hname ▸ h⟩, fun hname => hname.1⟩

theorem readNamed_eq_error_iff {blank err : LineError} {field : Text} :
    readNamed blank field = .error err ↔ Text.isAllBlank field = true ∧ err = blank := by
  unfold readNamed
  rw [← Text.trim_eq_nil_iff]
  split
  · rename_i h
    simp [h, eq_comm]
  · rename_i h
    simp [h]

def readTask : Option Text → Except Text.IntFault Int
  | none => .ok 0
  | some number => Text.int32? number

/-- The fields are checked one after another. -/
theorem Entry.ofFields_eq (ip user time event status : Text) : Entry.ofFields ip user time event status = (do
    let ip ← readNamed .emptyIp ip
    let user ← readNamed .emptyUser user
    let time ← (Timestamp.read time).mapError .badTime
    let (word, number) ← eventParts (Text.trim event)
    let event ← (Event.read word).mapError .badToken
    let task ← (readTask number).mapError .badTask
    let status ← (Status.read (Text.trim status)).mapError .badToken
    return ⟨ip, user, time, event, task, status⟩) := by
  by_cases hip : Text.trim ip = []
  · simp only [Entry.ofFields, readNamed, hip, if_true]
    rfl
  by_cases huser : Text.trim user = []
  · simp only [Entry.ofFields, readNamed, hip, huser, List.isEmpty_iff, if_false, if_true]
    rfl
  simp only [Entry.ofFields, readNamed, hip, huser, List.isEmpty_iff, if_false]
  refine bind_congr fun t => bind_congr fun parts => bind_congr fun kind => ?_
  obtain ⟨word, number⟩ := parts
  cases number <;> rfl

/-- Five fields make an entry exactly where each of them passes its check. -/
theorem Entry.ofFields_eq_ok_iff {ip user time event status : Text} {e : Entry} :
    Entry.ofFields ip user time event status = .ok e ↔
      (Text.trim ip = e.ip ∧ e.ip ≠ []) ∧ (Text.trim user = e.user ∧ e.user ≠ []) ∧
      Timestamp.read time = .ok e.time ∧
      (∃ word number, eventParts (Text.trim event) = .ok (word, number) ∧ Event.read word = .ok e.event ∧
        readTask number = .ok e.task) ∧
      Status.read (Text.trim status) = .ok e.status := by
  simp only [Entry.ofFields_eq, bind_eq_ok_iff, mapError_eq_ok_iff, readNamed_eq_ok_iff]
  constructor
  · intro h
    obtain ⟨_, hip, _, huser, _, htime, ⟨word, number⟩, hparts, _, hevent, _, htask, _, hstatus, ⟨⟩⟩ := h
    exact ⟨hip, huser, htime, ⟨word, number, hparts, hevent, htask⟩, hstatus⟩
  · intro h
    obtain ⟨hip, huser, htime, ⟨word, number, hparts, hevent, htask⟩, hstatus⟩ := h
    exact ⟨_, hip, _, huser, _, htime, (word, number), hparts, _, hevent, _, htask, _, hstatus, rfl⟩

/-- Blanks around a field do not count. -/
theorem Entry.ofFields_trim (ip user time event status : Text) :
    Entry.ofFields (Text.trim ip) (Text.trim user) (Text.trim time) (Text.trim event) (Text.trim status) =
      Entry.ofFields ip user time event status := by
  simp only [Entry.ofFields, Text.trim_trim, Timestamp.read_trim]

/-! ## Lines -/

theorem Entry.read_eq_ofFields {line ip user time event status : Text}
    (h : lineFields line = [ip, user, time, event, status]) :
    Entry.read line = Entry.ofFields ip user time event status := by
  simp only [Entry.read, h]

/-- A line that is read has the five fields that describe its entry. -/
theorem Entry.exists_fields_of_read {line : Text} {e : Entry} (h : Entry.read line = .ok e) :
    ∃ ip user time event status, lineFields line = [ip, user, time, event, status] ∧
      Entry.ofFields ip user time event status = .ok e := by
  unfold Entry.read at h
  split at h
  · rename_i hfields
    exact ⟨_, _, _, _, _, hfields, h⟩
  · cases h

theorem isInt32_of_readTask {number : Option Text} {n : Int} (h : readTask number = .ok n) : Text.IsInt32 n := by
  cases number with
  | none => cases h; decide
  | some text => exact Text.isInt32_of_int32? h

/-- A line of blanks, tabs included, is no entry. -/
theorem Entry.read_of_isAllBlank {line : Text} (h : Text.isAllBlank line = true) :
    (Entry.read line).toOption = none := by
  cases hread : Entry.read line with
  | error e => rfl
  | ok e =>
    obtain ⟨ip, _, _, _, _, hfields, hfive⟩ := Entry.exists_fields_of_read hread
    obtain ⟨⟨htrim, hne⟩, -⟩ := Entry.ofFields_eq_ok_iff.mp hfive
    have hip : ip <:+: line := infix_of_mem_lineFields (by simp [hfields])
    have hblank : Text.isAllBlank ip = true :=
      Text.isAllBlank_iff.mpr fun c hc => Text.isAllBlank_iff.mp h c (hip.subset hc)
    exact absurd (htrim.symm.trans (Text.trim_eq_nil_of_isAllBlank hblank)) hne

open Text (IsTrimmed IsWord IsInt32)

/-! ## Writing -/

/-- A text that can stand in a field of its own. -/
structure IsFieldText (text : Text) : Prop where
  ne_nil : text ≠ []
  trimmed : IsTrimmed text
  no_tab : '\t' ∉ text

namespace Entry

/-- An entry that some line describes. -/
structure IsRecordable (e : Entry) : Prop where
  ip : IsFieldText e.ip
  user : IsFieldText e.user
  task : IsInt32 e.task

def lineWith (e : Entry) (event : Text) : Text :=
  Text.joinWith ['\t'] [e.ip, e.user, e.time.write, event, e.status.token]

def write (e : Entry) : Text := e.lineWith (e.event.token ++ ' ' :: Text.ofInt e.task)

def writeTaskless (e : Entry) : Text := e.lineWith e.event.token

end Entry

/-! ## The fields of a line -/

theorem lineFields_lineWith {e : Entry} (he : e.IsRecordable) {event : Text} (hevent : '\t' ∉ event) :
    lineFields (e.lineWith event) = [e.ip, e.user, e.time.write, event, e.status.token] := by
  have hstatus := e.status.isWord_token
  have hline : e.lineWith event = Text.joinWith ['\t'] ([e.ip, e.user, e.time.write, event] ++ [e.status.token]) := rfl
  -- The line ends with the status word, so there is no carriage return to drop.
  have hreturn : Text.dropReturn (e.lineWith event) = e.lineWith event := by
    rw [hline, Text.joinWith_append_singleton, Text.dropReturn_append hstatus.ne_nil, hstatus.isTidy.dropReturn_eq]
  have htabs : ∀ field ∈ [e.ip, e.user, e.time.write, event, e.status.token], '\t' ∉ field := by
    have htime : '\t' ∉ e.time.write := Timestamp.not_mem_write (by decide) e.time
    have htoken : '\t' ∉ e.status.token := hstatus.not_mem (by decide)
    simp [he.ip.no_tab, he.user.no_tab, htime, hevent, htoken]
  rw [lineFields, hreturn, Entry.lineWith, Text.pieces_joinWith htabs (List.cons_ne_nil _ _)]
  exact dropTrailingEmpty_append_of_ne_nil hstatus.ne_nil [e.ip, e.user, e.time.write, event]

/-! ## The event field -/

theorem eventParts_word {word : Text} (h : IsWord word) : eventParts word = .ok (word, none) := by
  have hnone : Text.splitOnce [' '] word = none :=
    (Text.splitOnce_eq_none_iff (List.cons_ne_nil _ _) word).mpr fun hi =>
      h.not_mem (c := ' ') (by decide) (hi.subset (List.mem_cons_self ..))
  simp only [eventParts, hnone]

theorem eventParts_numbered {word number : Text} (hw : IsWord word) (hn : IsWord number) :
    eventParts (word ++ ' ' :: number) = .ok (word, some number) := by
  have hfirst : ¬ [' '] <:+: word ++ [' '].dropLast := fun hi => by
    rw [List.dropLast_singleton, List.append_nil] at hi
    exact hw.not_mem (c := ' ') (by decide) (hi.subset (List.mem_cons_self ..))
  have hcut : Text.splitOnce [' '] (word ++ ' ' :: number) = some (word, number) := by
    rw [← Text.splitOnce_of_first hfirst number, List.append_assoc]
    rfl
  simp only [eventParts, hcut]
  rw [if_neg (hn.not_mem (by decide))]

/-! ## Round trip -/

/-- The line of an entry is read as that entry, whatever way its event field tells the task. -/
theorem Entry.read_lineWith {e : Entry} (he : e.IsRecordable) {event word : Text} {number : Option Text}
    (htab : '\t' ∉ event) (htrim : IsTrimmed event) (hparts : eventParts event = .ok (word, number))
    (hword : Event.read word = .ok e.event) (htask : readTask number = .ok e.task) :
    Entry.read (e.lineWith event) = .ok e := by
  rw [Entry.read_eq_ofFields (lineFields_lineWith he htab), Entry.ofFields_eq_ok_iff,
    Text.trim_eq_self_iff.mpr he.ip.trimmed, Text.trim_eq_self_iff.mpr he.user.trimmed,
    Text.trim_eq_self_iff.mpr htrim, Text.trim_eq_self_iff.mpr e.status.isWord_token.isTrimmed]
  exact ⟨⟨rfl, he.ip.ne_nil⟩, ⟨rfl, he.user.ne_nil⟩, Timestamp.read_write _, ⟨word, number, hparts, hword, htask⟩,
    readToken_token e.status⟩

theorem isWord_ofInt (n : Int) : IsWord (Text.ofInt n) where
  ne_nil := Text.ofInt_ne_nil n
  plain c hc := by
    rcases Text.mem_ofInt hc with h | rfl
    · exact Text.isBlank_of_isDigit h
    · decide

/-- An entry is read back from the line that it is written as. -/
theorem Entry.read_write {e : Entry} (he : e.IsRecordable) : Entry.read e.write = .ok e := by
  have hword := e.event.isWord_token
  have hnumber := isWord_ofInt e.task
  refine Entry.read_lineWith he ?_ ?_ (eventParts_numbered hword hnumber) (readToken_token e.event)
    (Text.int32?_ofInt he.task)
  · simp [hword.not_mem (c := '\t') (by decide), hnumber.not_mem (c := '\t') (by decide)]
  · have := Text.isTrimmed_of_words hword hnumber [' ']
    rwa [List.append_assoc] at this

theorem Entry.read_writeTaskless {e : Entry} (he : e.IsRecordable) (htask : e.task = 0) :
    Entry.read e.writeTaskless = .ok e := by
  have hword := e.event.isWord_token
  exact Entry.read_lineWith he (hword.not_mem (by decide)) hword.isTrimmed (eventParts_word hword)
    (readToken_token e.event)
    (congrArg Except.ok htask.symm)

/-- The time of an entry is read from a field of its line. -/
theorem Entry.exists_date_of_read {line : Text} {e : Entry} (h : Entry.read line = .ok e) :
    ∃ date ∈ lineFields line, Timestamp.read date = .ok e.time := by
  obtain ⟨_, _, time, _, _, hfields, h⟩ := Entry.exists_fields_of_read h
  obtain ⟨-, -, htime, -⟩ := Entry.ofFields_eq_ok_iff.mp h
  exact ⟨time, by simp [hfields], htime⟩

/-- What is read from a line can be written as one. -/
theorem Entry.isRecordable_of_read {line : Text} {e : Entry} (h : Entry.read line = .ok e) : e.IsRecordable := by
  obtain ⟨ip, user, time, event, status, hfields, h⟩ := Entry.exists_fields_of_read h
  obtain ⟨⟨hip, hip_ne⟩, ⟨huser, huser_ne⟩, -, ⟨_, number, -, -, htask⟩, -⟩ := Entry.ofFields_eq_ok_iff.mp h
  have field : ∀ f ∈ lineFields line, Text.trim f ≠ [] → IsFieldText (Text.trim f) := fun f hf hne =>
    ⟨hne, Text.isTrimmed_trim f, fun htab => tab_not_mem_of_mem_lineFields hf ((Text.trim_infix f).subset htab)⟩
  rw [hfields] at field
  refine ⟨?_, ?_, isInt32_of_readTask htask⟩
  · rw [← hip] at hip_ne ⊢
    exact field ip (by simp) hip_ne
  · rw [← huser] at huser_ne ⊢
    exact field user (by simp) huser_ne

/-- Writing and reading go both ways between entries and lines: an entry with proper field texts and a
    task number of 32 bits is read back from its line, also without its task number where that is 0,
    and every entry that is read from some line is such an entry, with the time that a field of the
    line gives, and is read back from its own line. -/
theorem Entry.recordable_entries (e : Entry) :
    (e.IsRecordable → Entry.read e.write = .ok e ∧ (e.task = 0 → Entry.read e.writeTaskless = .ok e)) ∧
    ∀ line, Entry.read line = .ok e → e.IsRecordable ∧
      (∃ date ∈ lineFields line, Timestamp.read date = .ok e.time) ∧ Entry.read e.write = .ok e := by
  refine ⟨fun he => ⟨Entry.read_write he, Entry.read_writeTaskless he⟩, fun line h => ?_⟩
  have he := Entry.isRecordable_of_read h
  exact ⟨he, Entry.exists_date_of_read h, Entry.read_write he⟩

/-- Blanks, returns and quotes inside a text, a year before the first and a leap second do no harm. -/
theorem Entry.recordable_entries_odd_texts : ∃ e : Entry, e.IsRecordable ∧ e.write =
    "10.0.0.1\tAnn \r \"B\"\t29.02.-0044 05:04:60\tSOLVE_TASK -2147483648\tFAILED".toList ∧
    Entry.read e.write = .ok e := by
  let e : Entry :=
    ⟨"10.0.0.1".toList, "Ann \r \"B\"".toList, ⟨-44, 2, 29, 5, 4, 60, by decide⟩, .solveTask, -2147483648, .failed⟩
  have he : e.IsRecordable :=
    { ip := ⟨by decide, Text.trim_eq_self_iff.mp (by decide), by decide⟩
      user := ⟨by decide, Text.trim_eq_self_iff.mp (by decide), by decide⟩
      task := by decide }
  exact ⟨e, he, by decide, ((Entry.recordable_entries e).1 he).1⟩

end ActivityLog
