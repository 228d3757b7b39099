/-
  ActivityLog.Proofs.Ingest.LineEnds — files with other line ends hold the same log.

  A line ends with a line feed or with a return and a line feed, each line in its own way.
  The last line of a file may also have no end or a return alone (`Text.HoldsLines`). However
  its lines end, a file gives the same entries and the same rejections as with a line feed
  behind every line, under the same numbers and with the same errors
  (`line_ends_never_show`).

  A return is dropped in two places. In front of a line feed it goes with the line end, and
  the line never has it. At the end of the file it stays in the last line, which is as blank
  as without it, and reading the line drops it (`lineOutcome?_append_return`). The lines
  themselves hold no returns here, for the second place would drop those as well.
-/

import Mathlib.Data.List.Forall2
import ActivityLog.Proofs.Ingest.Account
import ActivityLog.Proofs.Text.Lines

namespace ActivityLog

open Text (HoldsLines IsLine isAllBlank)

/-! ## One line -/

def lineOutcome? (line : Text) (n : Nat) : Option (Nat × Except LineError Entry) :=
  if isAllBlank line then none else some (n, Entry.read line)

theorem readLines_eq (text : Text) : readLines text = ((Text.lines text).zipIdx 1).filterMap fun (line, n) =>
    lineOutcome? line n := by
  rw [readLines, Text.numberedLines, List.filterMap_map]
  rfl

theorem Entry.read_append_return {line : Text} (h : IsLine line) : Entry.read (line ++ ['\r']) = Entry.read line := by
  simp only [Entry.read, lineFields, Text.dropReturn_append_return, h.dropReturn_eq]

/-- A return behind a line changes nothing: it is blank, and the reader takes it off. -/
theorem lineOutcome?_append_return {line : Text} (h : IsLine line) (n : Nat) :
    lineOutcome? (line ++ ['\r']) n = lineOutcome? line n := by
  have hblank : isAllBlank (line ++ ['\r']) = isAllBlank line := by
    rw [isAllBlank, List.all_append]
    exact Bool.and_true _
  rw [lineOutcome?, lineOutcome?, hblank, Entry.read_append_return h]

/-! ## All lines of a text -/

/-- Counted on from any number, the lines of the text become what the lines that it holds become. -/
theorem filterMap_lines_of_holdsLines {lines : List Text} {text : Text} (h : HoldsLines lines text)
    (hlines : ∀ line ∈ lines, IsLine line) (n : Nat) :
    (((Text.lines text).zipIdx n).filterMap fun (line, n) => lineOutcome? line n) =
      (lines.zipIdx n).filterMap fun (line, n) => lineOutcome? line n := by
  induction h generalizing n with
  | none => rfl
  | @last line ending hending =>
    have hline := hlines line (List.mem_cons_self ..)
    rcases List.mem_pair.mp hending with rfl | rfl
    · rw [List.append_nil, Text.lines_of_not_mem hline.no_feed]
      split
      · -- An empty line without an end is no line at all, and with one it is blank.
        rename_i hempty
        rw [hempty]
        rfl
      · rfl
    · have hfeed : '\n' ∉ line ++ ['\r'] := by simp [hline.no_feed]
      rw [Text.lines_of_not_mem hfeed, if_neg (by simp)]
      simp only [List.zipIdx_cons, List.zipIdx_nil, List.filterMap_cons, lineOutcome?_append_return hline]
  | @next line lines rest ending hending _ ih =>
    have hline := hlines line (List.mem_cons_self ..)
    have hrest := ih (fun line hmem => hlines line (List.mem_cons_of_mem _ hmem)) (n + 1)
    rw [hline.lines_append hending, List.zipIdx_cons, List.zipIdx_cons, List.filterMap_cons, List.filterMap_cons, hrest]

/-- What becomes of the lines of a text does not depend on how they end. -/
theorem readLines_of_holdsLines {lines : List Text} {text : Text} (h : HoldsLines lines text)
    (hlines : ∀ line ∈ lines, IsLine line) : readLines text = readLines (lines.flatMap fun line => line ++ ['\n']) := by
  rw [readLines_eq, readLines_eq, filterMap_lines_of_holdsLines h hlines,
    filterMap_lines_of_holdsLines (Text.holdsLines_terminated lines) hlines]

/-! ## Files -/

/-- The items have one name, and the same becomes of their lines. -/
structure Item.ReadsAs (a b : Item) : Prop where
  name : a.name = b.name
  isFile : a.content.isFile = b.content.isFile
  outcomes : a.content.text?.map readLines = b.content.text?.map readLines

theorem Store.readFile_congr {a b : Item} (h : a.ReadsAs b) (s : Store) : s.readFile a = s.readFile b := by
  obtain ⟨hname, -, houtcomes⟩ := h
  cases ha : a.content.text? with
  | none =>
    rw [ha, Option.map_none, eq_comm, Option.map_eq_none_iff] at houtcomes
    simp only [readFile, ha, houtcomes, hname]
  | some text =>
    rw [ha, Option.map_some, eq_comm] at houtcomes
    obtain ⟨text', hb, hsame⟩ := Option.map_eq_some_iff.mp houtcomes
    simp only [readFile, ha, hb, hname, hsame]

theorem Store.foldl_readFile_congr {found found' : List Item} (h : List.Forall₂ Item.ReadsAs found found') (s : Store) :
    found.foldl readFile s = found'.foldl readFile s := by
  induction h generalizing s with
  | nil => rfl
  | cons hitem _ ih => rw [List.foldl_cons, List.foldl_cons, readFile_congr hitem, ih]

/-- Log files are chosen by their names. -/
theorem Source.forall₂_found {items items' : List Item} (h : List.Forall₂ Item.ReadsAs items items') (src : Source) :
    List.Forall₂ Item.ReadsAs (src.found items) (src.found items') := by
  induction h with
  | nil => exact .nil
  | @cons a b items items' hitem _ ih =>
    simp only [found, List.filter_cons, hitem.name, hitem.isFile] at ih ⊢
    split
    · exact .cons hitem ih
    · exact ih

theorem Store.load_congr {items items' : List Item} (h : List.Forall₂ Item.ReadsAs items items') (src : Source) :
    load src (.ok items) = load src (.ok items') := by
  have hfound := src.forall₂_found h
  have hempty : src.found items = [] ↔ src.found items' = [] := by
    rw [← List.length_eq_zero_iff, hfound.length_eq, List.length_eq_zero_iff]
  simp only [load_ok, hempty, foldl_readFile_congr hfound]

/-! ## Folders -/

/-- The same item, or the same file with a line feed behind every line. -/
inductive Item.SameButLineEnds : Item → Item → Prop where
  | same (item : Item) : SameButLineEnds item item
  | file (name : Bytes) {lines : List Text} (hlines : ∀ line ∈ lines, IsLine line) {text : Text}
      (h : HoldsLines lines text) :
      SameButLineEnds ⟨name, .file (Text.encode text)⟩
        ⟨name, .file (Text.encode (lines.flatMap fun line => line ++ ['\n']))⟩

theorem Item.SameButLineEnds.readsAs {a b : Item} (h : a.SameButLineEnds b) : a.ReadsAs b := by
  cases h with
  | same => exact ⟨rfl, rfl, rfl⟩
  | file name hlines h =>
    refine ⟨rfl, rfl, ?_⟩
    simp only [Content.text?, Text.decode?_encode, Option.map_some, readLines_of_holdsLines h hlines]

/-- How the lines of its files end makes no difference to what a folder is loaded as: with a line feed behind
    every line loading fails alike or gives the same store, with the same entries in the same order and the
    same report on the lines that are none, their numbers and errors included. -/
theorem line_ends_never_show {items items' : List Item} (h : List.Forall₂ Item.SameButLineEnds items items')
    (src : Source) : Store.load src (.ok items) = Store.load src (.ok items') :=
  Store.load_congr (List.Forall₂.imp (fun _ _ => Item.SameButLineEnds.readsAs) h) src

/-- A file with ends of all kinds: one behind a tab, one behind nothing, and at its end a return alone. -/
theorem line_ends_never_show_mixed : ∃ (src : Source) (name : Bytes) (text terminated : Text) (s : Store),
    List.Forall₂ Item.SameButLineEnds [⟨name, .file (Text.encode text)⟩] [⟨name, .file (Text.encode terminated)⟩] ∧
    text = "::1\tAnn\t1.1.20 10:0:0\tLOGIN\tOK\t\r\n\r\nAnn\n::1\tAnn\t1.1.20 10:0:0\tLOGIN a b\tOK\r".toList ∧
    terminated = "::1\tAnn\t1.1.20 10:0:0\tLOGIN\tOK\t\n\nAnn\n::1\tAnn\t1.1.20 10:0:0\tLOGIN a b\tOK\n".toList ∧
    Store.load src (.ok [⟨name, .file (Text.encode text)⟩]) = .ok s ∧
    Store.load src (.ok [⟨name, .file (Text.encode terminated)⟩]) = .ok s ∧
    s.entries = [⟨"::1".toList, "Ann".toList, ⟨20, 1, 1, 10, 0, 0, by decide⟩, .login, 0, .ok⟩] ∧
    s.report.rejected = [⟨name, 3, .fieldCount 1⟩, ⟨name, 4, .eventShape "LOGIN a b".toList⟩] := by
  let first := "::1\tAnn\t1.1.20 10:0:0\tLOGIN\tOK\t".toList
  let last := "::1\tAnn\t1.1.20 10:0:0\tLOGIN a b\tOK".toList
  let src : Source := ⟨"logs".toList, ".log".toList⟩
  let name : Bytes := Text.encode "a.log".toList
  let s : Store := {
    entries := [⟨"::1".toList, "Ann".toList, ⟨20, 1, 1, 10, 0, 0, by decide⟩, .login, 0, .ok⟩]
    report := { files := [name], accepted := 1,
                rejected := [⟨name, 3, .fieldCount 1⟩, ⟨name, 4, .eventShape "LOGIN a b".toList⟩] } }
  have hholds : HoldsLines [first, [], "Ann".toList, last] _ :=
    .next ['\r', '\n'] (by decide) (.next ['\r', '\n'] (by decide) (.next ['\n'] (by decide)
      (.last ['\r'] (by decide))))
  have hsame := List.Forall₂.cons (Item.SameButLineEnds.file name (by decide) hholds) .nil
  have hload : Store.load src (.ok [⟨name, .file (Text.encode
      ([first, [], "Ann".toList, last].flatMap fun line => line ++ ['\n']))⟩]) = .ok s := by decide +kernel
  exact ⟨src, name, _, _, s, hsame, by decide +kernel, by decide +kernel,
    (line_ends_never_show hsame src).trans hload, hload, rfl, rfl⟩

end ActivityLog
