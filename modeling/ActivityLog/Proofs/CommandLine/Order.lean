/-
  ActivityLog.Proofs.CommandLine.Order — a run does not show how its folder was listed.

  In surroundings that only answer, it makes no difference when something is asked, or
  whether the answer is used. So the process, which asks for as little as it needs, runs
  as `run` does, which is given everything at once (`runIn_eq_run`).

  A folder is listed in whatever order the file system gives. Two listings of one
  folder lead to stores with the same entries in different orders (`load_of_perm`), and no
  answer and no total tells them apart. The remarks on unreadable files and dropped lines
  follow the order of reading; everything else that a process leaves behind is the same
  (`listing_order_unseen`): its standard output, its error lines and its exit code,
  in either format.

  Behind the loading two runs do exactly the same (`answerAll_congr`), so they differ in the
  remarks at the beginning of the error stream only (`Outcome.LooksLike`).
-/

import ActivityLog.CommandLine.Process
import ActivityLog.Proofs.Ingest.Account
import ActivityLog.Proofs.Store.Join
import ActivityLog.Query.Answer

namespace ActivityLog

/-! ## Loading -/

/-- The stores hold the same, each in an order of its own. -/
structure Store.Reordered (s t : Store) : Prop where
  entries : s.entries.Perm t.entries
  files : s.report.files.Perm t.report.files
  unreadable : s.report.unreadable.Perm t.report.unreadable
  rejected : s.report.rejected.Perm t.report.rejected

theorem linesOf_perm {found₁ found₂ : List Item} (h : found₁.Perm found₂) : (linesOf found₁).Perm (linesOf found₂) :=
  (h.filter _).flatMap_right _

theorem Accounts.reordered {found₁ found₂ : List Item} {s t : Store} (hs : Accounts found₁ s)
    (ht : Accounts found₂ t) (h : found₁.Perm found₂) : s.Reordered t where
  entries := by
    rw [hs.entries, ht.entries]
    exact (linesOf_perm h).filterMap _
  files := by
    rw [hs.files, ht.files]
    exact (h.filter _).map _
  unreadable := by
    rw [hs.unreadable, ht.unreadable]
    exact (h.filter _).map _
  rejected := by
    rw [hs.rejected, ht.rejected]
    exact (linesOf_perm h).filterMap _

/-- The listings hold the same in orders of their own, or there is none for the same reason. -/
inductive Listing.Reordered {α : Type} : Listing α → Listing α → Prop where
  | error (fault : ListFault) : Reordered (.error fault) (.error fault)
  | ok {xs ys : List α} (h : xs.Perm ys) : Reordered (.ok xs) (.ok ys)

/-- Loading a listing in another order fails alike, or gives a store that holds the same. -/
theorem Store.load_of_perm {listing₁ listing₂ : Listing Item} (h : listing₁.Reordered listing₂) (src : Source) :
    (∃ e, load src listing₁ = .error e ∧ load src listing₂ = .error e) ∨
    ∃ s t, load src listing₁ = .ok s ∧ load src listing₂ = .ok t ∧ s.Reordered t := by
  cases h with
  | error fault =>
    cases fault with
    | notAFolder => exact Or.inl ⟨_, rfl, rfl⟩
    | broken fault => exact Or.inl ⟨_, rfl, rfl⟩
  | @ok items₁ items₂ h =>
    have hfound : (src.found items₁).Perm (src.found items₂) := h.filter _
    have hempty : src.found items₁ = [] ↔ src.found items₂ = [] := by
      rw [← List.length_eq_zero_iff, hfound.length_eq, List.length_eq_zero_iff]
    by_cases hnil : src.found items₂ = []
    · refine Or.inl ⟨.noLogFiles src.folder src.extension, ?_, ?_⟩
      · rw [load_ok, if_pos (hempty.mpr hnil)]
      · rw [load_ok, if_pos hnil]
    · have hs := load_ok src items₁
      have ht := load_ok src items₂
      rw [if_neg (fun h => hnil (hempty.mp h))] at hs
      rw [if_neg hnil] at ht
      exact Or.inr ⟨_, _, hs, ht, (accounts_of_load hs).reordered (accounts_of_load ht) hfound⟩

namespace Query

/-! ## Answers -/

variable {s t : Store} (h : ∀ e, e ∈ s.entries ↔ e ∈ t.entries)
include h

theorem valuesOf_congr (f : Field) : valuesOf s f = valuesOf t f := by
  cases f <;> exact congrArg _ (Store.values_congr h _ _ _)

theorem Route.follow_congr (route : Route) (x : Operand) (p : Period) : route.follow s x p = route.follow t x p := by
  unfold follow
  split
  -- Where the value is of another type than the question takes, the store is not asked at all.
  all_goals first | exact congrArg _ (Store.values_congr h _ _ _) | rfl

theorem answerNoted_congr (r : Request) : answerNoted s r = answerNoted t r := by
  cases r with
  | all f => simp only [answerNoted, valuesOf_congr h]
  | lookup l => simp only [answerNoted, Route.follow_congr h]

theorem executeNoted_congr (q : Text) : executeNoted s q = executeNoted t q := by
  simp only [executeNoted, answerNoted_congr h]

end Query

namespace CommandLine

/-! ## What is asked for -/

/-- The items that the folder holds under the wanted names. -/
theorem listItems_eq (world : Surroundings Id) (folder : Bytes) (wanted : Bytes → Bool) :
    (listItems world folder wanted).run = (world.listFolder folder).run.map fun names =>
      (names.filter wanted).map fun name => ⟨name, (world.contentAt (joinPath 0x2F folder name)).run⟩ := by
  simp only [listItems, Id.run_bind]
  cases (world.listFolder folder).run with
  | error fault => rfl
  | ok names => simp [Except.map]

/-- The listing that a run asks for; none where it stops before. -/
def listingOf (world : Surroundings Id) (o : Options) : Listing Item :=
  match (findConfig world o).run.settings with
  | .error _ => .error .notAFolder
  | .ok config =>
    match o.source config with
    | .error _ => .error .notAFolder
    | .ok source => (listSource world source).run

theorem answerAll_of_not_readsInput {o : Options} (h : o.readsInput = false) (s : Store) (format : Display.Format)
    (input₁ input₂ : Except ReadFault Bytes) : answerAll o s format input₁ = answerAll o s format input₂ := by
  simp only [answerAll, Options.queryTexts, h, Bool.false_eq_true, if_false]

/-- Asking only for what is needed does not change the run. -/
theorem runIn_eq_run (world : Surroundings Id) (o : Options) :
    (runIn world o).run = run o (findConfig world o).run (listingOf world o) world.readInput.run := by
  simp only [runIn, Id.run_bind]
  cases hsettings : (findConfig world o).run.settings with
  | error failure => simp only [run, hsettings, Id.run_pure]
  | ok config =>
    cases hsource : o.source config with
    | error failure => simp only [run, hsettings, hsource, Id.run_pure]
    | ok source =>
      have hlisting : listingOf world o = (listSource world source).run := by
        simp only [listingOf, hsettings, hsource]
      simp only [run, hsettings, hsource, hlisting, Id.run_bind]
      cases loadStore source (listSource world source).run with
      | error failure => rfl
      | ok s =>
        by_cases hinput : o.readsInput = true
        · simp [hinput]
        · rw [Bool.not_eq_true] at hinput
          simp only [hinput, Bool.false_eq_true, if_false, Id.run_bind, Id.run_pure]
          rw [answerAll_of_not_readsInput hinput]

/-! ## The error stream -/

def isErrorLine (line : Text) : Bool := "Error: ".toList.isPrefixOf line

/-- The lines that tell of failures are those of the failures, in their order. -/
theorem filter_isErrorLine_ofOutcome (o : Outcome) : (Exit.ofOutcome o).errors.filter isErrorLine =
    o.failures.map fun failure => "Error: ".toList ++ failure.message := by
  simp only [Exit.ofOutcome, Outcome.failures]
  induction o.log with
  | nil => rfl
  | cons remark log ih =>
    cases remark with
    | notice text => exact ih
    | error failure => exact congrArg (_ :: ·) ih

/-! ## Totals -/

theorem summary_of_reordered {s t : Store} (h : s.Reordered t) :
    Display.Summary.ofStore s = Display.Summary.ofStore t := by
  have hagree := Store.agree_of_perm h.entries
  have hips : s.ipCount .all = t.ipCount .all := hagree.sizes .ipCount .all
  have husers : s.userCount .all = t.userCount .all := hagree.sizes .userCount .all
  have hevents : s.events .all = t.events .all := hagree.sets .events .all
  have hattempts : s.attemptTally .all = t.attemptTally .all := hagree.tallies .attemptTally .all
  have hfinishes : s.finishTally .all = t.finishTally .all := hagree.tallies .finishTally .all
  simp only [Display.Summary.ofStore, Store.size, h.entries.length_eq, h.files.length_eq, h.rejected.length_eq,
    hips, husers, hevents, hattempts, hfinishes]

/-! ## Two runs -/

/-- The outcomes differ at most in the order of the remarks on loading, which come first. -/
def Outcome.LooksLike (a b : Outcome) : Prop :=
  ∃ (o : Outcome) (notices₁ notices₂ : List Text), notices₁.Perm notices₂ ∧
    a = o.precededBy notices₁ ∧ b = o.precededBy notices₂

theorem Outcome.LooksLike.refl (a : Outcome) : a.LooksLike a := ⟨a, [], [], .refl _, rfl, rfl⟩

theorem loadNotices_ok (src : Source) (items : List Item) :
    loadNotices src (.ok items) = (src.found items).flatMap fileNotices := by
  rw [loadNotices, src.logFiles_ok]
  by_cases h : src.found items = []
  · rw [if_pos h, h]
    rfl
  · rw [if_neg h]

theorem loadNotices_perm {listing₁ listing₂ : Listing Item} (h : listing₁.Reordered listing₂) (src : Source) :
    (loadNotices src listing₁).Perm (loadNotices src listing₂) := by
  cases h with
  | error fault => exact .refl _
  | ok h =>
    rw [loadNotices_ok, loadNotices_ok]
    exact (h.filter _).flatMap_right _

section
variable {s t : Store} (h : s.Reordered t)
include h

theorem answerQuery_congr (format : Display.Format) : answerQuery s format = answerQuery t format := by
  funext o query
  simp only [answerQuery, Query.executeNoted_congr (fun _ => h.entries.mem_iff) query]

/-- Behind the loading nothing depends on the order of the entries. -/
theorem answerAll_congr (o : Options) (format : Display.Format) (input : Except ReadFault Bytes) :
    answerAll o s format input = answerAll o t format input := by
  have hopening : opening o s format = opening o t format := by simp only [opening, summary_of_reordered h]
  simp only [answerAll, hopening, answerQuery_congr h]

end

theorem looksLike_run {listing₁ listing₂ : Listing Item} (h : listing₁.Reordered listing₂) (o : Options)
    (file : ConfigFile) (input : Except ReadFault Bytes) :
    (run o file listing₁ input).LooksLike (run o file listing₂ input) := by
  cases hsettings : file.settings with
  | error failure => simp only [run, hsettings, Outcome.LooksLike.refl]
  | ok config =>
    cases hsource : o.source config with
    | error failure => simp only [run, hsettings, hsource, Outcome.LooksLike.refl]
    | ok source =>
      rcases Store.load_of_perm h source with ⟨e, h₁, h₂⟩ | ⟨s, t, h₁, h₂, hst⟩
      · simp only [run, hsettings, hsource, loadStore, h₁, h₂, Except.mapError, Outcome.LooksLike.refl]
      · simp only [run, hsettings, hsource, loadStore, h₁, h₂, Except.mapError, answerAll_congr hst]
        exact ⟨_, _, _, loadNotices_perm h source, rfl, rfl⟩

/-! ## Two processes -/

/-- The surroundings differ at most in the order in which they list a folder. -/
structure Surroundings.SameButOrder (world₁ world₂ : Surroundings Id) : Prop where
  environment : world₁.environment = world₂.environment
  isThere : world₁.isThere = world₂.isThere
  readFile : world₁.readFile = world₂.readFile
  listFolder : ∀ path, (world₁.listFolder path).run.Reordered (world₂.listFolder path).run
  contentAt : world₁.contentAt = world₂.contentAt
  readInput : world₁.readInput = world₂.readInput

namespace Surroundings.SameButOrder

variable {world₁ world₂ : Surroundings Id} (h : world₁.SameButOrder world₂)
include h

theorem findConfig_eq (o : Options) : findConfig world₁ o = findConfig world₂ o := by
  simp only [findConfig, h.environment, h.isThere, h.readFile]

theorem listItems_reordered (folder : Bytes) (wanted : Bytes → Bool) :
    (listItems world₁ folder wanted).run.Reordered (listItems world₂ folder wanted).run := by
  rw [listItems_eq, listItems_eq, h.contentAt]
  have hnames := h.listFolder folder
  generalize (world₁.listFolder folder).run = names₁, (world₂.listFolder folder).run = names₂ at hnames
  cases hnames with
  | error fault => exact .error fault
  | ok hnames => exact .ok ((hnames.filter _).map _)

theorem listingOf_reordered (o : Options) : (listingOf world₁ o).Reordered (listingOf world₂ o) := by
  unfold listingOf
  rw [h.findConfig_eq o]
  split
  · exact .error _
  · split
    · exact .error _
    · exact h.listItems_reordered ..

theorem looksLike_runIn (o : Options) : (runIn world₁ o).run.LooksLike (runIn world₂ o).run := by
  rw [runIn_eq_run, runIn_eq_run, h.findConfig_eq o, h.readInput]
  exact looksLike_run (h.listingOf_reordered o) ..

end Surroundings.SameButOrder

structure Exit.LooksLike (a b : Exit) : Prop where
  code : a.code = b.code
  stdout : a.stdout = b.stdout
  errors : a.errors.Perm b.errors
  errorLines : a.errors.filter isErrorLine = b.errors.filter isErrorLine

theorem Exit.LooksLike.refl (a : Exit) : a.LooksLike a := ⟨rfl, rfl, .refl _, rfl⟩

theorem filterMap_failure?_notices (notices : List Text) :
    (notices.map Remark.notice).filterMap Remark.failure? = [] := by
  rw [List.filterMap_map]
  exact List.filterMap_eq_nil_iff.mpr fun _ _ => rfl

theorem Outcome.failures_precededBy (o : Outcome) (notices : List Text) :
    (o.precededBy notices).failures = o.failures := by
  rw [failures, precededBy, List.filterMap_append, filterMap_failure?_notices]
  rfl

theorem Outcome.LooksLike.exit {a b : Outcome} (h : a.LooksLike b) :
    (Exit.ofOutcome a).LooksLike (Exit.ofOutcome b) := by
  obtain ⟨o, notices₁, notices₂, hperm, rfl, rfl⟩ := h
  refine ⟨rfl, rfl, ?_, ?_⟩
  · exact ((hperm.map _).append_right o.log).map _
  · rw [filter_isErrorLine_ofOutcome, filter_isErrorLine_ofOutcome, failures_precededBy, failures_precededBy]

theorem Surroundings.SameButOrder.looksLike_process {world₁ world₂ : Surroundings Id}
    (h : world₁.SameButOrder world₂) (words : List Text) :
    (process world₁ words).run.LooksLike (process world₂ words).run := by
  unfold process
  cases Command.read words with
  | error e => exact .refl _
  | ok command =>
    cases command with
    | help => exact .refl _
    | version => exact .refl _
    | run o => exact (h.looksLike_runIn o).exit

/-- A folder listed in another order fails to load alike, or gives a store with the same entries and
    rejections, on which every query and the summary come out the same. A process in surroundings
    that differ in such orders only leaves the same behind, but for the order of its remarks. -/
theorem listing_order_unseen :
    (∀ (src : Source) (listing₁ listing₂ : Listing Item), listing₁.Reordered listing₂ →
      (∃ e, Store.load src listing₁ = .error e ∧ Store.load src listing₂ = .error e) ∨
      ∃ s t, Store.load src listing₁ = .ok s ∧ Store.load src listing₂ = .ok t ∧
        s.entries.Perm t.entries ∧ s.report.rejected.Perm t.report.rejected ∧
        (∀ q, Query.execute s q = Query.execute t q) ∧
        Display.Summary.ofStore s = Display.Summary.ofStore t) ∧
    ∀ (world₁ world₂ : Surroundings Id) (words : List Text), world₁.SameButOrder world₂ →
      (process world₁ words).run.LooksLike (process world₂ words).run := by
  constructor
  · intro src listing₁ listing₂ h
    rcases Store.load_of_perm h src with hfailed | ⟨s, t, hs, ht, hst⟩
    · exact Or.inl hfailed
    · refine Or.inr ⟨s, t, hs, ht, hst.entries, hst.rejected, fun q => ?_, summary_of_reordered hst⟩
      exact congrArg (·.value) (Query.executeNoted_congr (fun _ => hst.entries.mem_iff) q)
  · intro world₁ world₂ words h
    exact h.looksLike_process words

/-- Two files with a log line and a line that is none in each, listed either way round. The later time comes
    first in one of the two listings, and an unknown word is asked for as well. -/
theorem listing_order_unseen_two_files : ∃ (world₁ world₂ : Surroundings Id) (words : List Text),
    world₁.listFolder (Text.encode "logs".toList) ≠ world₂.listFolder (Text.encode "logs".toList) ∧
    world₁.SameButOrder world₂ ∧
    (process world₁ words).run.LooksLike (process world₂ words).run ∧
    (process world₁ words).run = {
      code := 1
      stdout := "31.12.2019 10:00:00\n01.01.2020 10:00:00\n".toList
      errors := ["WARN dropping malformed log line a.log:2: expected 5 tab-separated fields, found 1".toList,
        "WARN dropping malformed log line b.log:1: expected 5 tab-separated fields, found 3".toList,
        "Error: get ip for event = X: unknown event \"X\"".toList] } := by
  let a : Bytes := Text.encode "a.log".toList
  let b : Bytes := Text.encode "b.log".toList
  let first := "1.1.1.1\tbob\t01.01.2020 10:00:00\tLOGIN\tOK\nbob".toList
  let second := "x\ty\tz\n1.1.1.2\tann\t31.12.2019 10:00:00\tLOGIN\tOK".toList
  let world (names : List Bytes) : Surroundings Id :=
    { environment := fun _ => none
      isThere := fun _ => false
      readFile := fun _ => .error .notFound
      listFolder := fun _ => .ok names
      contentAt := fun path => .file (Text.encode (if a.isSuffixOf path then first else second))
      readInput := .ok [] }
  let words := ["-q".toList, "get date".toList, "-q".toList, "get ip for event = X".toList, "logs".toList]
  have hsame : (world [a, b]).SameButOrder (world [b, a]) :=
    ⟨rfl, rfl, rfl, fun _ => .ok (.swap ..), rfl, rfl⟩
  refine ⟨world [a, b], world [b, a], words, fun h => ?_, hsame, listing_order_unseen.2 _ _ words hsame, ?_⟩
  · exact absurd (Except.ok.inj h) (by decide)
  · decide +kernel

end CommandLine
end ActivityLog
