/-
  ActivityLog.Proofs.Entry.Faults — what a line is refused for, and what may be added to it.

  A line counts without the carriage return and the tabs at its end (`lineBody`). With
  five fields there it goes through seven checks (`Fields.checks`), and the first that
  fails is the error (`first_fault_decides`), whatever is wrong with the rest of the line.
  The checks are told without the reader: the event field by its first space, the task
  number by its digits, the words by the two vocabularies. A line that passes all of them
  is read as what its fields describe (`Fields.Describes`).

  So an entry is not changed by blanks around the fields of its line, or by tabs and a
  carriage return behind it. A tab in front of the carriage return goes with it, but not
  one in front of two: the first of these is a field of its own.
-/

import ActivityLog.Proofs.Entry.Reader
import ActivityLog.Proofs.Text.Cut

namespace ActivityLog

open Text (IsInt32 IsNumeral isAllBlank)

/-! ## One check after another -/

/-- A check, told by the errors that it gives. -/
abbrev Check := LineError → Prop

/-- The error that the first failing check gives. -/
inductive FirstError : List Check → LineError → Prop where
  | here {check : Check} {more : List Check} {err : LineError} (h : check err) : FirstError (check :: more) err
  | later {check : Check} {more : List Check} {err : LineError} (hpass : ∀ e, ¬ check e) (h : FirstError more err) :
      FirstError (check :: more) err

theorem FirstError.exists_failing {checks : List Check} {err : LineError} (h : FirstError checks err) :
    ∃ check ∈ checks, check err := by
  induction h with
  | here h => exact ⟨_, List.mem_cons_self .., h⟩
  | later _ _ ih =>
    obtain ⟨check, hmem, h⟩ := ih
    exact ⟨check, List.mem_cons_of_mem _ hmem, h⟩

theorem not_firstError_nil (err : LineError) : ¬ FirstError [] err := nofun

theorem exists_firstError {checks : List Check} {check : Check} (hmem : check ∈ checks) {err : LineError}
    (h : check err) : ∃ first, FirstError checks first := by
  induction checks with
  | nil => cases hmem
  | cons c more ih =>
    by_cases hc : ∃ e, c e
    · obtain ⟨e, he⟩ := hc
      exact ⟨e, .here he⟩
    · have hpass : ∀ e, ¬ c e := fun e he => hc ⟨e, he⟩
      rcases List.mem_cons.mp hmem with rfl | hmem
      · exact absurd h (hpass err)
      · obtain ⟨first, hfirst⟩ := ih hmem
        exact ⟨first, .later hpass hfirst⟩

/-- A step that fails as a check tells, in front of steps that fail as the other checks tell. -/
theorem bind_eq_error_iff {α β : Type} {x : Except LineError α} {f : α → Except LineError β} {check : Check}
    {more : List Check} {err : LineError} (hx : ∀ e, x = .error e ↔ check e)
    (hf : ∀ a, x = .ok a → (f a = .error err ↔ FirstError more err)) :
    (x >>= f) = .error err ↔ FirstError (check :: more) err := by
  cases x with
  | error e =>
    constructor
    · intro h
      cases h
      exact .here ((hx _).mp rfl)
    · intro h
      cases h with
      | here h => exact congrArg (· >>= f) ((hx err).mpr h)
      | later hpass h => exact absurd ((hx e).mp rfl) (hpass e)
  | ok a =>
    have hpass : ∀ e, ¬ check e := fun e he => nomatch (hx e).mpr he
    refine Iff.trans (hf a rfl) ⟨.later hpass, fun h => ?_⟩
    cases h with
    | here h => exact absurd h (hpass err)
    | later _ h => exact h

/-! ## The event field -/

/-- A space ends the event word, and one more is too many. -/
theorem eventParts_eq (field : Text) : eventParts field =
    if 1 < field.count ' ' then .error (.eventShape field)
    else .ok (field.takeWhile (· != ' '), if ' ' ∈ field then some (field.dropWhile (· != ' ')).tail else none) := by
  rw [eventParts, Text.splitOnce_singleton]
  by_cases h : ' ' ∈ field
  · simp only [if_pos h, Text.mem_tail_dropWhile_iff]
  · have hword : field.takeWhile (· != ' ') = field := List.takeWhile_eq_self_iff.mpr fun c hc =>
      bne_iff_ne.mpr fun he => h (he ▸ hc)
    have hcount : ¬ 1 < field.count ' ' := by rw [List.count_eq_zero.mpr h]; omega
    simp only [if_neg h, if_neg hcount, hword]

/-- What the text of a task number stands for; 0 where there is none. -/
def IsTask : Option Text → Int → Prop
  | none, n => n = 0
  | some number, n => IsNumeral number n ∧ IsInt32 n

theorem readTask_eq_ok_iff {number : Option Text} {n : Int} : readTask number = .ok n ↔ IsTask number n := by
  cases number with
  | none => exact ⟨fun h => (Except.ok.inj h).symm, fun h => congrArg Except.ok h.symm⟩
  | some text => exact Text.int32?_eq_ok_iff

theorem readTask_eq_error_iff {number : Option Text} {err : LineError} :
    (readTask number).mapError .badTask = .error err ↔
      ∃ text, number = some text ∧ (¬ ∃ n, IsNumeral text n ∧ IsInt32 n) ∧
        ∃ fault, Text.int32? text = .error fault ∧ err = .badTask fault := by
  rw [mapError_eq_error_iff]
  cases number with
  | none => simp [readTask]
  | some text =>
    have hnone : ∀ {fault}, Text.int32? text = .error fault → ¬ ∃ n, IsNumeral text n ∧ IsInt32 n := by
      intro fault h hnumeral
      obtain ⟨n, hn⟩ := hnumeral
      rw [Text.int32?_eq_ok_iff.mpr hn] at h
      cases h
    constructor
    · intro h
      obtain ⟨fault, hread, herr⟩ := h
      exact ⟨text, rfl, hnone hread, fault, hread, herr⟩
    · intro h
      obtain ⟨_, ⟨⟩, -, fault, hread, herr⟩ := h
      exact ⟨fault, hread, herr⟩

/-! ## Five fields -/

structure Fields where
  ip : Text
  user : Text
  time : Text
  event : Text
  status : Text

namespace Fields

def toList (f : Fields) : List Text := [f.ip, f.user, f.time, f.event, f.status]

def eventWord (f : Fields) : Text := (Text.trim f.event).takeWhile (· != ' ')

def taskText (f : Fields) : Option Text :=
  if ' ' ∈ Text.trim f.event then some ((Text.trim f.event).dropWhile (· != ' ')).tail else none

def checks (f : Fields) : List Check := [
  fun err => isAllBlank f.ip = true ∧ err = .emptyIp,
  fun err => isAllBlank f.user = true ∧ err = .emptyUser,
  fun err => ∃ fault, Timestamp.read f.time = .error fault ∧ err = .badTime fault,
  fun err => 1 < (Text.trim f.event).count ' ' ∧ err = .eventShape (Text.trim f.event),
  fun err => (∀ e : Event, e.token ≠ f.eventWord) ∧ err = .badToken ⟨.event, f.eventWord⟩,
  fun err => ∃ number, f.taskText = some number ∧ (¬ ∃ n, IsNumeral number n ∧ IsInt32 n) ∧
    ∃ fault, Text.int32? number = .error fault ∧ err = .badTask fault,
  fun err => (∀ s : Status, s.token ≠ Text.trim f.status) ∧ err = .badToken ⟨.status, Text.trim f.status⟩]

/-- The fields say what the entry holds. -/
structure Describes (f : Fields) (e : Entry) : Prop where
  ip : Text.trim f.ip = e.ip
  user : Text.trim f.user = e.user
  time : Timestamp.read f.time = .ok e.time
  event : e.event.token = f.eventWord
  task : IsTask f.taskText e.task
  status : e.status.token = Text.trim f.status

def read (f : Fields) : Except LineError Entry := Entry.ofFields f.ip f.user f.time f.event f.status

/-! ## The steps of the reader and the checks -/

theorem eventParts_eq_error_iff {f : Fields} {err : LineError} : eventParts (Text.trim f.event) = .error err ↔
    1 < (Text.trim f.event).count ' ' ∧ err = .eventShape (Text.trim f.event) := by
  rw [eventParts_eq]
  split
  · rename_i h
    simp [h, eq_comm]
  · rename_i h
    simp [h]

theorem eventParts_eq_ok_iff {f : Fields} {word : Text} {number : Option Text} :
    eventParts (Text.trim f.event) = .ok (word, number) ↔
      ¬ 1 < (Text.trim f.event).count ' ' ∧ word = f.eventWord ∧ number = f.taskText := by
  rw [eventParts_eq]
  split
  · rename_i h
    simp [h]
  · rename_i h
    simp [h, eventWord, taskText, eq_comm]

theorem read_eq_error_iff (f : Fields) (err : LineError) : f.read = .error err ↔ FirstError f.checks err := by
  have hevent : ∀ {word : Text} {e : LineError}, (Event.read word).mapError .badToken = .error e ↔
      (∀ k : Event, k.token ≠ word) ∧ e = .badToken ⟨.event, word⟩ := by
    simp [mapError_eq_error_iff, Event.read, readToken_eq_error_iff, and_assoc, Worded.token, Worded.vocabulary]
  have hstatus : ∀ {word : Text} {e : LineError}, (Status.read word).mapError .badToken = .error e ↔
      (∀ s : Status, s.token ≠ word) ∧ e = .badToken ⟨.status, word⟩ := by
    simp [mapError_eq_error_iff, Status.read, readToken_eq_error_iff, and_assoc, Worded.token, Worded.vocabulary]
  rw [read, Entry.ofFields_eq]
  refine bind_eq_error_iff (fun e => readNamed_eq_error_iff) fun ip _ => ?_
  refine bind_eq_error_iff (fun e => readNamed_eq_error_iff) fun user _ => ?_
  refine bind_eq_error_iff (fun e => mapError_eq_error_iff) fun time _ => ?_
  refine bind_eq_error_iff (fun e => eventParts_eq_error_iff) fun ⟨word, number⟩ hparts => ?_
  obtain ⟨-, rfl, rfl⟩ := eventParts_eq_ok_iff.mp hparts
  refine bind_eq_error_iff (fun e => hevent) fun event _ => ?_
  refine bind_eq_error_iff (fun e => readTask_eq_error_iff) fun task _ => ?_
  refine bind_eq_error_iff (fun e => hstatus) fun status _ => ?_
  exact iff_of_false nofun (not_firstError_nil err)

theorem describes_of_read {f : Fields} {e : Entry} (h : f.read = .ok e) : f.Describes e := by
  obtain ⟨⟨hip, -⟩, ⟨huser, -⟩, htime, ⟨word, number, hparts, hevent, htask⟩, hstatus⟩ :=
    Entry.ofFields_eq_ok_iff.mp h
  obtain ⟨-, rfl, rfl⟩ := eventParts_eq_ok_iff.mp hparts
  exact ⟨hip, huser, htime, readToken_eq_ok_iff.mp hevent, readTask_eq_ok_iff.mp htask,
    readToken_eq_ok_iff.mp hstatus⟩

theorem Describes.unique {f : Fields} {a b : Entry} (ha : f.Describes a) (hb : f.Describes b) : a = b := by
  have htime : a.time = b.time := Except.ok.inj (ha.time.symm.trans hb.time)
  have hevent : a.event = b.event := Worded.token_injective (ha.event.trans hb.event.symm)
  have htask : a.task = b.task :=
    Except.ok.inj ((readTask_eq_ok_iff.mpr ha.task).symm.trans (readTask_eq_ok_iff.mpr hb.task))
  have hstatus : a.status = b.status := Worded.token_injective (ha.status.trans hb.status.symm)
  cases a
  cases b
  simp only at htime hevent htask hstatus
  rw [Entry.mk.injEq]
  exact ⟨ha.ip.symm.trans hb.ip, ha.user.symm.trans hb.user, htime, hevent, htask, hstatus⟩

/-- Fields that pass every check make the entry that they describe, and no others make one. -/
theorem read_eq_ok_iff (f : Fields) (e : Entry) :
    f.read = .ok e ↔ (∀ check ∈ f.checks, ∀ err, ¬ check err) ∧ f.Describes e := by
  constructor
  · intro h
    refine ⟨fun check hmem err hcheck => ?_, describes_of_read h⟩
    obtain ⟨first, hfirst⟩ := exists_firstError hmem hcheck
    rw [← read_eq_error_iff, h] at hfirst
    cases hfirst
  · intro h
    obtain ⟨hpass, hdescribes⟩ := h
    cases hread : f.read with
    | error err =>
      obtain ⟨check, hmem, hcheck⟩ := ((read_eq_error_iff f err).mp hread).exists_failing
      exact absurd hcheck (hpass check hmem err)
    | ok other => rw [hdescribes.unique (describes_of_read hread)]

end Fields

/-! ## Lines -/

theorem Entry.read_eq_fields_read {line : Text} {f : Fields} (h : lineFields line = f.toList) :
    Entry.read line = f.read := Entry.read_eq_ofFields h

theorem Entry.read_of_length_ne {line : Text} (h : (lineFields line).length ≠ 5) :
    Entry.read line = .error (.fieldCount (lineFields line).length) := by
  unfold Entry.read
  split
  · rename_i hfields
    exact absurd (congrArg List.length hfields) h
  · rfl

/-! ## Blanks around fields, and the end of a line -/

/-- The field with blanks around it that do not end it. -/
def IsPadded (field padded : Text) : Prop :=
  ∃ a b, isAllBlank a = true ∧ isAllBlank b = true ∧ '\t' ∉ a ∧ '\t' ∉ b ∧ padded = a ++ field ++ b

theorem IsPadded.trim_eq {field padded : Text} (h : IsPadded field padded) : Text.trim padded = Text.trim field := by
  obtain ⟨a, b, ha, hb, -, -, rfl⟩ := h
  rw [Text.trim_append_blanks hb, Text.trim_blanks_append ha]

theorem IsPadded.tab_not_mem {field padded : Text} (h : IsPadded field padded) (hfield : '\t' ∉ field) :
    '\t' ∉ padded := by
  obtain ⟨a, b, -, -, ha, hb, rfl⟩ := h
  simp [ha, hb, hfield]

/-- Tabs at the end of a line add no field. -/
theorem dropTrailingEmpty_pieces_append_tabs (text : Text) (tabs : Nat) :
    dropTrailingEmpty (Text.pieces '\t' (text ++ List.replicate tabs '\t')) =
      dropTrailingEmpty (Text.pieces '\t' text) := by
  induction tabs with
  | zero => rw [List.replicate_zero, List.append_nil]
  | succ tabs ih => rw [List.replicate_succ', ← List.append_assoc, dropTrailingEmpty_pieces_append_tab, ih]

def lineEnds : List Text := [[], ['\r']]

/-- What stays of a line without its return: the last field loses one only where nothing follows it. -/
theorem exists_dropReturn_eq (text : Text) {last : Text} (hlast : last ≠ []) (tabs : Nat) {ending : Text}
    (hending : ending ∈ lineEnds) : ∃ last' ∈ [last, Text.dropReturn last],
      Text.dropReturn (text ++ last ++ List.replicate tabs '\t' ++ ending) =
        text ++ last' ++ List.replicate tabs '\t' := by
  rcases List.mem_pair.mp hending with rfl | rfl
  · rw [List.append_nil]
    cases tabs with
    | zero =>
      refine ⟨Text.dropReturn last, by simp, ?_⟩
      simp only [List.replicate_zero, List.append_nil]
      exact Text.dropReturn_append hlast text
    | succ tabs =>
      refine ⟨last, by simp, if_neg ?_⟩
      simp [List.getLast?_replicate]
  · exact ⟨last, by simp, Text.dropReturn_append_return _⟩

/-- Texts without tabs are the fields of the line that is made of them, whatever its end; a return behind the
    last of them is blank. -/
theorem exists_lineFields_eq {parts : List Text} {last : Text} (h : ∀ part ∈ parts ++ [last], '\t' ∉ part)
    (hlast : Text.trim last ≠ []) (tabs : Nat) {ending : Text} (hending : ending ∈ lineEnds) :
    ∃ last', Text.trim last' = Text.trim last ∧
      lineFields (Text.joinWith ['\t'] (parts ++ [last]) ++ List.replicate tabs '\t' ++ ending) = parts ++ [last'] := by
  have hne : ∀ {text : Text}, Text.trim text ≠ [] → text ≠ [] := by
    rintro _ h rfl
    exact h rfl
  obtain ⟨last', hmem, hreturn⟩ :=
    exists_dropReturn_eq (parts.flatMap fun part => part ++ ['\t']) (hne hlast) tabs hending
  have hsame : Text.trim last' = Text.trim last ∧ '\t' ∉ last' := by
    have htab : '\t' ∉ last := h last (by simp)
    rcases List.mem_pair.mp hmem with rfl | rfl
    · exact ⟨rfl, htab⟩
    · exact ⟨Text.trim_dropReturn last, fun ht => htab ((Text.dropReturn_prefix_self last).subset ht)⟩
  obtain ⟨htrim, htab⟩ := hsame
  have hparts : ∀ part ∈ parts ++ [last'], '\t' ∉ part := by
    intro part hpart
    rcases List.mem_append.mp hpart with hpart | hpart
    · exact h part (List.mem_append_left _ hpart)
    · rwa [List.mem_singleton.mp hpart]
  refine ⟨last', htrim, ?_⟩
  rw [lineFields, Text.joinWith_append_singleton, hreturn, ← Text.joinWith_append_singleton,
    dropTrailingEmpty_pieces_append_tabs, Text.pieces_joinWith hparts (by simp),
    dropTrailingEmpty_append_of_ne_nil (hne (htrim ▸ hlast))]

/-- Padded fields of an accepted line make the same entry, whatever the end of the line. -/
theorem Entry.read_padded {line : Text} {e : Entry} (h : Entry.read line = .ok e) {padded : List Text}
    (hpadded : List.Forall₂ IsPadded (lineFields line) padded) (tabs : Nat) {ending : Text}
    (hending : ending ∈ lineEnds) :
    Entry.read (Text.joinWith ['\t'] padded ++ List.replicate tabs '\t' ++ ending) = .ok e := by
  obtain ⟨ip, user, time, event, status, hfields, hread⟩ := Entry.exists_fields_of_read h
  have htab : ∀ field ∈ [ip, user, time, event, status], '\t' ∉ field := fun field hfield =>
    tab_not_mem_of_mem_lineFields (hfields ▸ hfield)
  rw [hfields] at hpadded
  rcases hpadded with _ | ⟨hip, _ | ⟨huser, _ | ⟨htime, _ | ⟨hevent, _ | ⟨hstatus, _ | _⟩⟩⟩⟩⟩
  rename_i ip' user' time' event' status'
  have htab' : ∀ part ∈ [ip', user', time', event'] ++ [status'], '\t' ∉ part := by
    simp only [List.forall_mem_cons] at htab
    simp [hip.tab_not_mem htab.1, huser.tab_not_mem htab.2.1, htime.tab_not_mem htab.2.2.1,
      hevent.tab_not_mem htab.2.2.2.1, hstatus.tab_not_mem htab.2.2.2.2.1]
  have hword : Text.trim status' ≠ [] := by
    obtain ⟨-, -, -, -, htoken⟩ := Entry.ofFields_eq_ok_iff.mp hread
    rw [hstatus.trim_eq, ← readToken_eq_ok_iff.mp htoken]
    exact e.status.isWord_token.ne_nil
  obtain ⟨last, hlast, hline⟩ := exists_lineFields_eq htab' hword tabs hending
  rw [show [ip', user', time', event', status'] = [ip', user', time', event'] ++ [status'] from rfl,
    Entry.read_eq_ofFields hline, ← hread, ← Entry.ofFields_trim, hip.trim_eq, huser.trim_eq, htime.trim_eq,
    hevent.trim_eq, hlast, hstatus.trim_eq, Entry.ofFields_trim]

/-! ## What decides -/

/-- Without the carriage return and the tabs at its end a line is cut at its tabs. Where that does not make five
    fields, their number is the error. Where it does, the error is that of the first check that fails, and where
    none does, the entry is what the fields describe. Blanks other than tabs around the fields of a line that is
    read, tabs behind them and a carriage return behind these make no difference. -/
theorem Entry.first_fault_decides (line : Text) :
    ((Text.pieces '\t' (lineBody line)).length ≠ 5 →
      Entry.read line = .error (.fieldCount (Text.pieces '\t' (lineBody line)).length)) ∧
    (∀ f : Fields, Text.pieces '\t' (lineBody line) = f.toList →
      (∀ err, Entry.read line = .error err ↔ FirstError f.checks err) ∧
      ∀ e, Entry.read line = .ok e ↔ (∀ check ∈ f.checks, ∀ err, ¬ check err) ∧ f.Describes e) ∧
    ∀ e, Entry.read line = .ok e → ∀ padded, List.Forall₂ IsPadded (Text.pieces '\t' (lineBody line)) padded →
      ∀ tabs, ∀ ending ∈ lineEnds,
        Entry.read (Text.joinWith ['\t'] padded ++ List.replicate tabs '\t' ++ ending) = .ok e := by
  rw [← lineFields_eq_pieces]
  refine ⟨Entry.read_of_length_ne, fun f hf => ?_,
    fun e he padded hpadded tabs ending => Entry.read_padded he hpadded tabs⟩
  rw [Entry.read_eq_fields_read hf]
  exact ⟨f.read_eq_error_iff, f.read_eq_ok_iff⟩

/-- Tabs and a return alone make one field; of three faults the first is told; a line may be padded with any
    blank but a tab. -/
theorem Entry.first_fault_decides_odd_lines :
    Entry.read "\t\t\r".toList = .error (.fieldCount 1) ∧
    FirstError (Fields.mk "::1".toList "Ann".toList "1.1.20 10:0:0".toList " LOGOUT x ".toList "WARN".toList).checks
      (.badToken ⟨.event, "LOGOUT".toList⟩) ∧
    Entry.read "\u3000::1\tAnn B\t1.1.20 10:0:0\tDONE_TASK -7\t\rOK\n\t\t\r".toList =
      .ok ⟨"::1".toList, "Ann B".toList, ⟨20, 1, 1, 10, 0, 0, by decide⟩, .doneTask, -7, .ok⟩ := by
  have hplain : ∀ field, IsPadded field field := fun field => ⟨[], [], by simp [isAllBlank]⟩
  have hip : IsPadded "::1".toList "\u3000::1".toList := ⟨['\u3000'], [], by decide⟩
  have hstatus : IsPadded "OK".toList "\rOK\n".toList := ⟨['\r'], ['\n'], by decide⟩
  refine ⟨?_, ?_, ?_⟩
  · exact (first_fault_decides "\t\t\r".toList).1 (by decide)
  · exact (((first_fault_decides "::1\tAnn\t1.1.20 10:0:0\t LOGOUT x \tWARN\t".toList).2.1 _ rfl).1 _).mp rfl
  · have htext : Text.joinWith ['\t'] ["\u3000::1".toList, "Ann B".toList, "1.1.20 10:0:0".toList,
        "DONE_TASK -7".toList, "\rOK\n".toList] ++ List.replicate 2 '\t' ++ ['\r'] =
        "\u3000::1\tAnn B\t1.1.20 10:0:0\tDONE_TASK -7\t\rOK\n\t\t\r".toList := by decide +kernel
    rw [← htext]
    exact (first_fault_decides "::1\tAnn B\t1.1.20 10:0:0\tDONE_TASK -7\tOK".toList).2.2 _ rfl _
      (.cons hip (.cons (hplain _) (.cons (hplain _) (.cons (hplain _) (.cons hstatus .nil))))) 2 ['\r'] (by decide)

/-- Between two returns a tab stays, and makes a field of the first of them. -/
example : Entry.read "::1\tAnn\t1.1.20 10:0:0\tLOGIN\tOK\t\r\r".toList = .error (.fieldCount 6) := rfl

end ActivityLog
