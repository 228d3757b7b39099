/-
  ActivityLog.Proofs.CommandLine.Script — queries from the command line and from the input.

  Queries can be given as options or, one on a line, in the standard input. In the plain
  format it makes no difference which (`queries_from_either_source`). The input is cut at
  its line feeds, each line is trimmed, and blank lines and comments are left out. As
  options the same texts are taken as they are. But blanks around a query do not count, and
  a text that the input would leave out is no query, so that it shows nothing and fails
  nothing.

  An error names the query it belongs to, from the input without the blanks around it. In
  the JSON format an answer holds the text of its query, and a text that is no query has an
  answer too. There the two ways can be told apart.
-/

import ActivityLog.Proofs.CommandLine.Course
import ActivityLog.Proofs.Query.Trim

namespace ActivityLog.CommandLine

open Query (isQueryLine queryLines)

/-! ## One query -/

/-- What a query shows in the plain format depends on its answer only. -/
theorem writeAnswers_plain_congr {s : Store} {q q' : Text} (h : Query.execute s q = Query.execute s q') :
    Display.writeAnswers .plain (Display.answered s [q]) = Display.writeAnswers .plain (Display.answered s [q']) := by
  simp only [Display.answered, List.filterMap_cons, List.filterMap_nil, h]
  cases Query.execute s q' <;> rfl

theorem writeAnswers_plain_of_noMatch {s : Store} {q : Text} (h : Query.execute s q = .ok .noMatch) :
    Display.writeAnswers .plain (Display.answered s [q]) = [] := by
  simp only [Display.answered, List.filterMap_cons, List.filterMap_nil, h]
  rfl

def Failure.trimQuery : Failure → Failure
  | .badQuery query e => .badQuery (Text.trim query) e
  | failure => failure

theorem queryFailures_trim (s : Store) (q : Text) :
    queryFailures s [Text.trim q] = (queryFailures s [q]).map Failure.trimQuery := by
  simp only [queryFailures, List.filterMap_cons, List.filterMap_nil, Query.execute_trim]
  cases Query.execute s q <;> rfl

theorem queryFailures_of_noMatch {s : Store} {q : Text} (h : Query.execute s q = .ok .noMatch) :
    queryFailures s [q] = [] := by
  rw [queryFailures_eq_nil_iff]
  intro query hquery
  exact ⟨.noMatch, List.mem_singleton.mp hquery ▸ h⟩

/-! ## All queries -/

/-- What the input leaves out shows nothing, and trimming changes no answer. -/
theorem writeAnswers_queryLines (s : Store) (queries : List Text) :
    Display.writeAnswers .plain (Display.answered s (queryLines queries)) =
      Display.writeAnswers .plain (Display.answered s queries) := by
  have append : ∀ answers more, Display.writeAnswers .plain (answers ++ more) =
      Display.writeAnswers .plain answers ++ Display.writeAnswers .plain more := fun _ _ => List.flatMap_append
  induction queries with
  | nil => rfl
  | cons q queries ih =>
    rw [Query.queryLines_cons, Display.answered_cons s q, append, ← ih]
    by_cases hq : isQueryLine (Text.trim q) = true
    · rw [if_pos hq, List.singleton_append, Display.answered_cons, append,
        writeAnswers_plain_congr (Query.execute_trim s q)]
    · rw [Bool.not_eq_true] at hq
      rw [hq, writeAnswers_plain_of_noMatch (Query.execute_of_not_isQueryLine hq s)]
      rfl

/-- What the input leaves out fails nothing. -/
theorem queryFailures_queryLines (s : Store) (queries : List Text) :
    queryFailures s (queryLines queries) = (queryFailures s queries).map Failure.trimQuery := by
  induction queries with
  | nil => rfl
  | cons q queries ih =>
    rw [Query.queryLines_cons, queryFailures_cons s q, List.map_append, ← ih]
    by_cases hq : isQueryLine (Text.trim q) = true
    · rw [if_pos hq, List.singleton_append, queryFailures_cons, queryFailures_trim]
    · rw [Bool.not_eq_true] at hq
      rw [hq, queryFailures_of_noMatch (Query.execute_of_not_isQueryLine hq s)]
      rfl

/-! ## Two runs -/

def Failure.queryError? : Failure → Option Query.QueryError
  | .badQuery _ e => some e
  | _ => none

theorem queryError?_trimQuery (failure : Failure) : failure.trimQuery.queryError? = failure.queryError? := by
  cases failure <;> rfl

/-- The second outcome shows what the first one does: the same text, the same exit code and the same
    errors of queries. Its failures differ at most by the blanks around a query. -/
structure Outcome.AnswersAs (a b : Outcome) : Prop where
  stdout : b.stdout = a.stdout
  exitCode : b.exitCode = a.exitCode
  errors : b.failures.filterMap Failure.queryError? = a.failures.filterMap Failure.queryError?
  failures : b.failures = a.failures.map Failure.trimQuery

theorem Outcome.AnswersAs.of_extends {start a b : Outcome} {text : Text} {failures : List Failure}
    (ha : start.Extends a text failures) (hb : start.Extends b text (failures.map Failure.trimQuery))
    (hstart : start.failures = []) : a.AnswersAs b := by
  have hfailures : b.failures = a.failures.map Failure.trimQuery := by
    rw [hb.failures, ha.failures, hstart, List.nil_append, List.nil_append]
  refine ⟨?_, ?_, ?_, hfailures⟩
  · rw [hb.stdout, ha.stdout]
  · simp only [Outcome.exitCode, hb.succeeded, ha.succeeded, List.isEmpty_map]
  · rw [hfailures, List.filterMap_map]
    exact List.filterMap_congr fun failure _ => queryError?_trimQuery failure

theorem Outcome.AnswersAs.of_failure {failure : Failure} (h : failure.trimQuery = failure) :
    (Outcome.fail {} failure).AnswersAs (Outcome.fail {} failure) := by
  refine ⟨rfl, rfl, rfl, ?_⟩
  show [failure] = [failure.trimQuery]
  rw [h]

theorem Outcome.AnswersAs.precededBy {a b : Outcome} (h : a.AnswersAs b) (notices : List Text) :
    (a.precededBy notices).AnswersAs (b.precededBy notices) := by
  obtain ⟨hstdout, hcode, herrors, hfailures⟩ := h
  refine ⟨hstdout, hcode, ?_, ?_⟩
  · rw [failures_precededBy, failures_precededBy, herrors]
  · rw [failures_precededBy, failures_precededBy, hfailures]

/-! ## Either source -/

/-- Up to the queries no step has a failure that names one. -/
theorem trimQuery_of_settings_error {file : ConfigFile} {failure : Failure} (h : file.settings = .error failure) :
    failure.trimQuery = failure := by
  cases file with
  | absent => cases h
  | unreadable path fault => cases h; rfl
  | found path bytes =>
    simp only [ConfigFile.settings] at h
    split at h
    · cases h; rfl
    · rename_i text _
      cases hread : Config.read text with
      | ok config => rw [hread] at h; cases h
      | error e => rw [hread] at h; cases h; rfl

theorem trimQuery_of_source_error {o : Options} {config : Config} {failure : Failure}
    (h : o.source config = .error failure) : failure.trimQuery = failure := by
  unfold Options.source at h
  split at h
  · cases h; rfl
  · cases h

theorem trimQuery_of_loadStore_error {source : Source} {listing : Listing Item} {failure : Failure}
    (h : loadStore source listing = .error failure) : failure.trimQuery = failure := by
  unfold loadStore at h
  cases hload : Store.load source listing with
  | ok s => rw [hload] at h; cases h
  | error e => rw [hload] at h; cases h; rfl

theorem queryTexts_options {queries : List Text} (hne : queries ≠ []) (o : Options)
    (input : Except ReadFault Bytes) : Options.queryTexts { o with queries := queries } input = .ok queries := by
  have hreads : Options.readsInput { o with queries := queries } = false := by simp [Options.readsInput, hne]
  simp only [Options.queryTexts, hreads, Bool.false_eq_true, if_false]

section Sources

variable {queries : List Text} (hne : queries ≠ []) (hfeeds : ∀ query ∈ queries, '\n' ∉ query)
  {o : Options} (hsummary : o.summary = false)
include hne hfeeds hsummary

theorem queryTexts_input :
    Options.queryTexts { o with queries := [] } (.ok (Text.encode (Text.joinWith ['\n'] queries))) =
      .ok (queryLines queries) := by
  have hreads : Options.readsInput { o with queries := [] } = true := by simp [Options.readsInput, hsummary]
  simp only [Options.queryTexts, hreads, if_true, Query.readScript?_joinWith hne hfeeds]

/-- A loaded store answers the queries of the input as it answers them as options. -/
theorem answersAs_answerAll (s : Store) (input : Except ReadFault Bytes) :
    (answerAll { o with queries := queries } s .plain input).AnswersAs
      (answerAll { o with queries := [] } s .plain (.ok (Text.encode (Text.joinWith ['\n'] queries)))) := by
  have hopening : opening { o with queries := [] } s .plain = opening { o with queries := queries } s .plain := rfl
  simp only [answerAll, queryTexts_options hne, queryTexts_input hne hfeeds hsummary, hopening]
  refine .of_extends (extends_foldl_answerQuery s .plain queries _) ?_ rfl
  rw [← writeAnswers_queryLines, ← queryFailures_queryLines]
  exact extends_foldl_answerQuery s .plain (queryLines queries) _

/-- So does a whole run. Where it fails before the queries, their source makes no difference at all. -/
theorem answersAs_run {file : ConfigFile} (hplain : ∀ config, file.settings = .ok config → o.format config = .plain)
    (listing : Listing Item) (input : Except ReadFault Bytes) :
    (run { o with queries := queries } file listing input).AnswersAs
      (run { o with queries := [] } file listing (.ok (Text.encode (Text.joinWith ['\n'] queries)))) := by
  have hsource : ∀ (more : List Text) config, Options.source { o with queries := more } config = o.source config :=
    fun _ _ => rfl
  cases hsettings : file.settings with
  | error failure =>
    simp only [run, hsettings]
    exact .of_failure (trimQuery_of_settings_error hsettings)
  | ok config =>
    have hformat : ∀ more : List Text, Options.format { o with queries := more } config = .plain := fun _ =>
      hplain config hsettings
    cases h : o.source config with
    | error failure =>
      simp only [run, hsettings, hsource, h]
      exact .of_failure (trimQuery_of_source_error h)
    | ok source =>
      cases hstore : loadStore source listing with
      | error failure =>
        simp only [run, hsettings, hsource, h, hstore]
        exact .of_failure (trimQuery_of_loadStore_error hstore)
      | ok s =>
        simp only [run, hsettings, hsource, h, hstore, hformat]
        exact (answersAs_answerAll hne hfeeds hsummary s input).precededBy _

end Sources

/-- Queries without line feeds are answered the same as options and as the lines of the input, in the plain
    format and without a summary: over any store, and in any run from its first step. And any text at
    all is read as the request that it is without the blanks around it. -/
theorem queries_from_either_source :
    (∀ queries : List Text, queries ≠ [] → (∀ query ∈ queries, '\n' ∉ query) →
      ∀ o : Options, o.summary = false →
      (∀ (s : Store) (input : Except ReadFault Bytes),
        (answerAll { o with queries := queries } s .plain input).AnswersAs
          (answerAll { o with queries := [] } s .plain (.ok (Text.encode (Text.joinWith ['\n'] queries))))) ∧
      ∀ (file : ConfigFile) (listing : Listing Item) (input : Except ReadFault Bytes),
        (∀ config, file.settings = .ok config → o.format config = .plain) →
        (run { o with queries := queries } file listing input).AnswersAs
          (run { o with queries := [] } file listing (.ok (Text.encode (Text.joinWith ['\n'] queries))))) ∧
    ∀ query : Text, Query.Request.read? query = Query.Request.read? (Text.trim query) := by
  refine ⟨?_, ?_⟩
  · intro queries hne hfeeds o hsummary
    refine ⟨fun s input => answersAs_answerAll hne hfeeds hsummary s input, ?_⟩
    intro file listing input hplain
    exact answersAs_run hne hfeeds hsummary hplain listing input
  · intro query
    rw [Query.Request.read?, Query.Request.read?, Query.readNoted?_trim]

/-- A comment, a blank text, a query between blanks of two kinds and one with an error. -/
theorem queries_from_either_source_comment :
    ∃ (o : Options) (s : Store) (queries : List Text), o.summary = false ∧ queries ≠ [] ∧
      (∀ query ∈ queries, '\n' ∉ query) ∧
      (answerAll { o with queries := queries } s .plain (.ok [])).stdout = "1.1.1.1\n".toList ∧
      (answerAll { o with queries := queries } s .plain (.ok [])).failures =
        [.badQuery " get user for event = X\r".toList (.unknownEvent "X".toList)] ∧
      (answerAll { o with queries := [] } s .plain (.ok (Text.encode (Text.joinWith ['\n'] queries)))).stdout =
        "1.1.1.1\n".toList ∧
      (answerAll { o with queries := [] } s .plain (.ok (Text.encode (Text.joinWith ['\n'] queries)))).failures =
        [.badQuery "get user for event = X".toList (.unknownEvent "X".toList)] := by
  let e : Entry := ⟨"1.1.1.1".toList, "bob".toList, ⟨2020, 1, 1, 10, 0, 0, by decide⟩, .login, 0, .ok⟩
  let s : Store := .ofEntries [e]
  let queries : List Text :=
    ["# get user".toList, [], "\u3000get ip\t".toList, " get user for event = X\r".toList]
  have hne : queries ≠ [] := List.cons_ne_nil _ _
  have hfeeds : ∀ query ∈ queries, '\n' ∉ query := by decide
  have hstdout : (answerAll { queries := queries } s .plain (.ok [])).stdout = "1.1.1.1\n".toList := by decide +kernel
  have hfailures : (answerAll { queries := queries } s .plain (.ok [])).failures =
      [.badQuery " get user for event = X\r".toList (.unknownEvent "X".toList)] := by decide +kernel
  have hsame := (queries_from_either_source.1 queries hne hfeeds {} rfl).1 s (.ok [])
  refine ⟨{}, s, queries, rfl, hne, hfeeds, hstdout, hfailures, ?_, ?_⟩
  · exact hsame.stdout.trans hstdout
  · refine hsame.failures.trans ?_
    rw [hfailures]
    decide

/-- In the JSON format a comment among the options is answered, and one in the input is not. -/
example : (answerAll { queries := ["#".toList] } (.ofEntries []) .json (.ok [])).stdout ≠ [] ∧
    (answerAll {} (.ofEntries []) .json (.ok (Text.encode "#".toList))).stdout = [] := by decide +kernel

end ActivityLog.CommandLine
