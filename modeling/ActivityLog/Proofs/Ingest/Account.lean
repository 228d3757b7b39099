/-
  ActivityLog.Proofs.Ingest.Account — where every line of a folder goes.

  Loading fails only for want of a folder that can be listed or of log files in it,
  never over what stands in a file. Otherwise every log file and every line of it is accounted for
  (`load_accounts_for_every_line`):
  - a file is read or unreadable, and it is unreadable exactly where its bytes are no
    text; of such a file nothing comes through;
  - the entries are what reading all lines of the files gives. Blank lines are skipped
    before they are read, but they would not have made entries;
  - a line that is neither blank nor an entry is one rejection, with its number among
    all lines of its file.

  Reading one more file keeps the account (`Accounts.readFile`), so it holds after any
  number of files.
-/

import Mathlib.Data.List.Basic
import ActivityLog.Ingest
import ActivityLog.Proofs.Entry.Reader

namespace ActivityLog

/-! ## Files and their lines -/

def Item.IsText (item : Item) : Prop := ∃ text, item.content = .file (Text.encode text)

/-- A line of a file, and where it stands. -/
structure FileLine where
  file : Bytes
  /-- The number of the line, counted from one. -/
  number : Nat
  text : Text

/-- The lines of the item, blank ones included; none where it is no text. -/
def Item.lines (item : Item) : List FileLine :=
  match item.content.text? with
  | none => []
  | some text => (Text.lines text).mapIdx fun i line => ⟨item.name, i + 1, line⟩

namespace FileLine

def isBlank (line : FileLine) : Bool := Text.isAllBlank line.text

def entry? (line : FileLine) : Option Entry := (Entry.read line.text).toOption

/-- The rejection of the line, if it is neither blank nor a log line. -/
def rejection? (line : FileLine) : Option Rejection :=
  if line.isBlank then none
  else match Entry.read line.text with
    | .ok _ => none
    | .error e => some ⟨line.file, line.number, e⟩

end FileLine

theorem FileLine.entry?_eq_some_iff {line : FileLine} {e : Entry} :
    line.entry? = some e ↔ Entry.read line.text = .ok e := by
  unfold entry?
  cases Entry.read line.text <;> simp [Except.toOption]

theorem Item.isText_iff {item : Item} : item.IsText ↔ item.content.text?.isSome = true := by
  unfold Item.IsText
  cases item.content with
  | file bytes =>
    simp only [Content.text?, Option.isSome_iff_exists, Text.decode?_eq_some_iff, Content.file.injEq]
  | locked => simp [Content.text?]
  | other => simp [Content.text?]

instance (item : Item) : Decidable item.IsText := decidable_of_iff _ Item.isText_iff.symm

theorem Item.lines_of_text {item : Item} {text : Text} (h : item.content.text? = some text) :
    item.lines = (Text.numberedLines text).map fun (n, line) => ⟨item.name, n, line⟩ := by
  simp only [Item.lines, h, Text.numberedLines, List.mapIdx_eq_zipIdx_map]
  rw [List.zipIdx_succ, List.map_map, List.map_map]
  rfl

/-! ## The lines of one file -/

theorem acceptedOf_readLines {item : Item} {text : Text} (h : item.content.text? = some text) :
    acceptedOf (readLines text) = item.lines.filterMap FileLine.entry? := by
  rw [Item.lines_of_text h, acceptedOf, readLines, List.filterMap_filterMap, List.filterMap_map]
  refine List.filterMap_congr fun (n, line) _ => ?_
  -- A blank line is left out before it is read, and reading it would leave it out as well.
  by_cases hb : Text.isAllBlank line = true
  · simp [hb, FileLine.entry?, Entry.read_of_isAllBlank hb]
  · simp [hb, FileLine.entry?]

theorem rejectedOf_readLines {item : Item} {text : Text} (h : item.content.text? = some text) :
    rejectedOf item.name (readLines text) = item.lines.filterMap FileLine.rejection? := by
  rw [Item.lines_of_text h, rejectedOf, readLines, List.filterMap_filterMap, List.filterMap_map]
  refine List.filterMap_congr fun (n, line) _ => ?_
  by_cases hb : Text.isAllBlank line = true
  · simp [hb, FileLine.rejection?, FileLine.isBlank]
  · cases hread : Entry.read line <;> simp [hb, hread, FileLine.rejection?, FileLine.isBlank]

/-- Every line is an entry, a rejection or blank, and only one of them. -/
theorem length_lines (lines : List FileLine) :
    (lines.filterMap FileLine.entry?).length + (lines.filterMap FileLine.rejection?).length +
      lines.countP FileLine.isBlank = lines.length := by
  induction lines with
  | nil => rfl
  | cons line lines ih =>
    rw [List.length_cons, ← ih]
    by_cases hb : line.isBlank = true
    · have hentry : line.entry? = none := Entry.read_of_isAllBlank hb
      have hrejection : line.rejection? = none := if_pos hb
      rw [List.filterMap_cons_none hentry, List.filterMap_cons_none hrejection, List.countP_cons_of_pos hb]
      omega
    · rw [List.countP_cons_of_neg hb]
      cases hread : Entry.read line.text with
      | ok e =>
        have hentry : line.entry? = some e := by simp [FileLine.entry?, hread, Except.toOption]
        have hrejection : line.rejection? = none := by simp [FileLine.rejection?, hread]
        rw [List.filterMap_cons_some hentry, List.filterMap_cons_none hrejection, List.length_cons]
        omega
      | error fault =>
        have hentry : line.entry? = none := by simp [FileLine.entry?, hread, Except.toOption]
        have hrejection : line.rejection? = some ⟨line.file, line.number, fault⟩ := by
          simp [FileLine.rejection?, hb, hread]
        rw [List.filterMap_cons_none hentry, List.filterMap_cons_some hrejection, List.length_cons]
        omega

/-! ## All files -/

def linesOf (found : List Item) : List FileLine := (found.filter fun item => item.IsText).flatMap Item.lines

/-- The store holds what the found files give, and nothing else. -/
structure Accounts (found : List Item) (s : Store) : Prop where
  files : s.report.files = (found.filter fun item => item.IsText).map (·.name)
  unreadable : s.report.unreadable = (found.filter fun item => ¬ item.IsText).map (·.name)
  entries : s.entries = (linesOf found).filterMap FileLine.entry?
  rejected : s.report.rejected = (linesOf found).filterMap FileLine.rejection?
  accepted : s.report.accepted = s.entries.length

theorem Accounts.empty : Accounts [] Store.empty := ⟨rfl, rfl, rfl, rfl, rfl⟩

/-- Reading one more file keeps the account. -/
theorem Accounts.readFile {found : List Item} {s : Store} (h : Accounts found s) (item : Item) :
    Accounts (found ++ [item]) (s.readFile item) := by
  cases htext : item.content.text? with
  | none =>
    have hno : ¬ item.IsText := by simp [Item.isText_iff, htext]
    have hs : s.readFile item =
        { s with report := { s.report with unreadable := s.report.unreadable ++ [item.name] } } := by
      simp only [Store.readFile, htext]
    rw [hs]
    constructor
    · simp [h.files, hno]
    · simp [h.unreadable, hno]
    · simp [h.entries, linesOf, hno]
    · simp [h.rejected, linesOf, hno]
    · exact h.accepted
  | some text =>
    have hyes : item.IsText := by simp [Item.isText_iff, htext]
    simp only [Store.readFile, htext, acceptedOf_readLines htext, rejectedOf_readLines htext]
    constructor
    · simp [h.files, hyes]
    · simp [h.unreadable, hyes]
    · simp [h.entries, linesOf, hyes]
    · simp [h.rejected, linesOf, hyes]
    · simp [h.accepted]

theorem accounts_foldl_readFile (items : List Item) {found : List Item} {s : Store} (h : Accounts found s) :
    Accounts (found ++ items) (items.foldl Store.readFile s) := by
  induction items generalizing found s with
  | nil => rwa [List.append_nil]
  | cons item items ih =>
    have := ih (h.readFile item)
    rwa [List.append_assoc] at this

/-- Entries and rejections are as many as there are lines that are not blank. -/
theorem Accounts.length_add_length {found : List Item} {s : Store} (h : Accounts found s) :
    s.entries.length + s.report.rejected.length = (linesOf found).countP fun line => ¬ line.isBlank = true := by
  have hlines := length_lines (linesOf found)
  have hblank := List.length_eq_countP_add_countP FileLine.isBlank (l := linesOf found)
  rw [h.entries, h.rejected]
  omega

/-! ## Loading -/

namespace Source

def found (src : Source) (items : List Item) : List Item :=
  items.filter fun item => item.content.isFile = true ∧ Text.encode src.extension <:+ item.name

theorem logFiles_ok (src : Source) (items : List Item) : src.logFiles (.ok items) =
    if src.found items = [] then .error (.noLogFiles src.folder src.extension) else .ok (src.found items) := by
  have hfilter : items.filter src.isLogFile = src.found items := by
    refine List.filter_congr fun item _ => ?_
    rw [Bool.eq_iff_iff, decide_eq_true_iff, isLogFile, Bool.and_eq_true, takesName, List.isSuffixOf_iff_suffix]
  rw [logFiles, hfilter]
  cases src.found items <;> rfl

theorem found_eq_nil_iff {src : Source} {items : List Item} : src.found items = [] ↔
    ∀ item ∈ items, item.content.isFile = true → ¬ Text.encode src.extension <:+ item.name := by
  simp only [found, List.filter_eq_nil_iff, decide_eq_true_eq, not_and]

/-- The listing gives no log files, for the reason that the error names. -/
inductive Refuses (src : Source) : Listing Item → LoadError → Prop where
  | notAFolder : Refuses src (.error .notAFolder) (.notADirectory src.folder)
  | broken (fault : ReadFault) : Refuses src (.error (.broken fault)) (.unlistable src.folder fault)
  | noLogFiles {items : List Item}
      (hnone : ∀ item ∈ items, item.content.isFile = true → ¬ Text.encode src.extension <:+ item.name) :
      Refuses src (.ok items) (.noLogFiles src.folder src.extension)

end Source

theorem Store.load_ok (src : Source) (items : List Item) : Store.load src (.ok items) =
    if src.found items = [] then .error (.noLogFiles src.folder src.extension)
    else .ok ((src.found items).foldl Store.readFile Store.empty) := by
  rw [Store.load, src.logFiles_ok]
  split <;> rfl

/-- Nothing that stands in a file makes loading fail. -/
theorem Store.load_eq_error_iff {src : Source} {listing : Listing Item} {e : LoadError} :
    Store.load src listing = .error e ↔ src.Refuses listing e := by
  cases listing with
  | error fault =>
    cases fault with
    | notAFolder => exact ⟨fun h => by cases h; exact .notAFolder, fun h => by cases h; rfl⟩
    | broken fault => exact ⟨fun h => by cases h; exact .broken fault, fun h => by cases h; rfl⟩
  | ok items =>
    rw [Store.load_ok]
    by_cases h : src.found items = []
    · rw [if_pos h, Except.error.injEq]
      have hnone := Source.found_eq_nil_iff.mp h
      exact ⟨fun he => he ▸ .noLogFiles hnone, fun he => by cases he; rfl⟩
    · rw [if_neg h]
      refine iff_of_false nofun fun he => h ?_
      cases he with
      | noLogFiles hnone => exact Source.found_eq_nil_iff.mpr hnone

theorem accounts_of_load {src : Source} {items : List Item} {s : Store} (h : Store.load src (.ok items) = .ok s) :
    Accounts (src.found items) s := by
  rw [Store.load_ok] at h
  split at h
  · cases h
  · cases h
    exact accounts_foldl_readFile (src.found items) Accounts.empty

/-- Loading fails only where there is no folder, where it cannot be listed, or where no log file is in it.
    Otherwise the log files are read or unreadable, as their bytes are texts or not, and of the lines of
    the files that were read each is an entry, a rejection under its number, or blank. -/
theorem load_accounts_for_every_line (src : Source) (listing : Listing Item) :
    (∀ e, Store.load src listing = .error e ↔ src.Refuses listing e) ∧
    ∀ items s, listing = .ok items → Store.load src listing = .ok s → Accounts (src.found items) s ∧
      s.report.accepted + s.report.rejected.length + (linesOf (src.found items)).countP FileLine.isBlank =
        (linesOf (src.found items)).length := by
  refine ⟨fun e => Store.load_eq_error_iff, ?_⟩
  rintro items s rfl h
  have hs := accounts_of_load h
  refine ⟨hs, ?_⟩
  rw [hs.accepted, hs.entries, hs.rejected]
  exact length_lines _

/-- A folder with a log file whose name is no text, a file that is no text itself and one that is no log
    file. The line numbers count the blank line. -/
theorem load_accounts_for_mixed_folder : ∃ (src : Source) (items : List Item) (s : Store) (name : Bytes),
    Text.decode? name = none ∧ Store.load src (.ok items) = .ok s ∧ Accounts (src.found items) s ∧
    s.report = { files := [name], unreadable := [Text.encode "b.log".toList], accepted := 1,
                 rejected := [⟨name, 2, .fieldCount 2⟩] } := by
  let src : Source := ⟨"logs".toList, ".log".toList⟩
  let name : Bytes := [0x63, 0x61, 0x66, 0xE9, 0x2E, 0x6C, 0x6F, 0x67]
  let items : List Item := [
    ⟨name, .file (Text.encode "\t\nann\tLOGIN\n10.0.0.1\tann\t14.10.2021 11:38:21\tLOGIN\tOK".toList)⟩,
    ⟨Text.encode "b.log".toList, .file [255]⟩,
    ⟨Text.encode "notes.txt".toList, .file []⟩]
  refine ⟨src, items, (src.found items).foldl Store.readFile Store.empty, name, by decide, rfl, ?_, by decide⟩
  exact ((load_accounts_for_every_line src (.ok items)).2 items _ rfl rfl).1

end ActivityLog
