/-
  ActivityLog.Proofs.CommandLine.Course — what a run puts out, from its first step to its last.

  Four steps lead to the store and the queries (`prepare`): the settings, the folder, the
  store, and the queries themselves, which come from the standard input where the options
  hold none and do not ask for the summary. The first of the four that fails gives the
  only error, and nothing is put out. In particular no summary stands before such an
  error: where the summary is wanted, the input is not read.

  Behind them nothing disturbs the run (`failing_query_disturbs_nothing`). Each query goes
  on from what was put out so far (`Outcome.Extends`), by its answer or by one failure. So
  a run puts out the summary, where it is wanted, and all the answers there are, in the
  order of the queries. It leaves one error for each query without an answer, and succeeds
  where there is no such query.
-/

import ActivityLog.Proofs.CommandLine.Order
import ActivityLog.Proofs.Display.Answers

namespace ActivityLog.CommandLine

/-! ## The four steps -/

/-- The failures of the queries without an answer, in the order of the queries. -/
def queryFailures (s : Store) (queries : List Text) : List Failure :=
  queries.filterMap fun query =>
    match Query.execute s query with
    | .ok _ => none
    | .error e => some (.badQuery query e)

theorem queryFailures_cons (s : Store) (query : Text) (queries : List Text) :
    queryFailures s (query :: queries) = queryFailures s [query] ++ queryFailures s queries := by
  unfold queryFailures
  rw [← List.singleton_append, List.filterMap_append]

theorem queryFailures_eq_nil_iff {s : Store} {queries : List Text} :
    queryFailures s queries = [] ↔ ∀ query ∈ queries, ∃ output, Query.execute s query = .ok output := by
  rw [queryFailures, List.filterMap_eq_nil_iff]
  refine forall₂_congr fun query _ => ?_
  cases Query.execute s query with
  | error e => simp
  | ok output => simp

/-- The second outcome goes on from the first by that text and those failures. -/
structure Outcome.Extends (a b : Outcome) (text : Text) (more : List Failure) : Prop where
  stdout : b.stdout = a.stdout ++ text
  failures : b.failures = a.failures ++ more
  succeeded : b.succeeded = (a.succeeded && more.isEmpty)

namespace Outcome.Extends

theorem refl (a : Outcome) : a.Extends a [] [] where
  stdout := (List.append_nil _).symm
  failures := (List.append_nil _).symm
  succeeded := (Bool.and_true _).symm

theorem trans {a b c : Outcome} {text₁ text₂ : Text} {more₁ more₂ : List Failure}
    (hab : a.Extends b text₁ more₁) (hbc : b.Extends c text₂ more₂) :
    a.Extends c (text₁ ++ text₂) (more₁ ++ more₂) where
  stdout := by rw [hbc.stdout, hab.stdout, List.append_assoc]
  failures := by rw [hbc.failures, hab.failures, List.append_assoc]
  succeeded := by rw [hbc.succeeded, hab.succeeded, Bool.and_assoc]; cases more₁ <;> simp

theorem write (a : Outcome) (text : Text) : a.Extends (a.write text) text [] :=
  ⟨rfl, (List.append_nil _).symm, (Bool.and_true _).symm⟩

theorem note (a : Outcome) (notices : List Text) : a.Extends (a.note notices) [] [] where
  stdout := (List.append_nil _).symm
  failures := List.filterMap_append.trans (congrArg (a.failures ++ ·) (filterMap_failure?_notices notices))
  succeeded := (Bool.and_true _).symm

theorem fail (a : Outcome) (failure : Failure) : a.Extends (a.fail failure) [] [failure] :=
  ⟨(List.append_nil _).symm, List.filterMap_append, (Bool.and_false _).symm⟩

theorem precededBy {a b : Outcome} {text : Text} {more : List Failure} (h : a.Extends b text more)
    (notices : List Text) : a.Extends (b.precededBy notices) text more :=
  ⟨h.stdout, (b.failures_precededBy notices).trans h.failures, h.succeeded⟩

end Outcome.Extends

/-- One more query adds its answer or its failure. -/
theorem extends_answerQuery (s : Store) (format : Display.Format) (a : Outcome) (query : Text) :
    a.Extends (answerQuery s format a query) (Display.writeAnswers format (Display.answered s [query]))
      (queryFailures s [query]) := by
  have hvalue : Query.execute s query = (Query.executeNoted s query).value := rfl
  have hnoted := Outcome.Extends.note a ((Query.executeNoted s query).warnings.map warningNotice)
  cases h : (Query.executeNoted s query).value with
  | error e =>
    have hfailures : queryFailures s [query] = [.badQuery query e] := by simp [queryFailures, hvalue, h]
    have hanswered : Display.answered s [query] = [] := by simp [Display.answered, hvalue, h, Except.toOption]
    simp only [answerQuery, h, hfailures, hanswered]
    exact hnoted.trans (.fail _ _)
  | ok output =>
    have hfailures : queryFailures s [query] = [] := by simp [queryFailures, hvalue, h]
    have hanswered : Display.answered s [query] = [(query, output)] := by
      simp [Display.answered, hvalue, h, Except.toOption]
    have hwritten : Display.writeAnswers format [(query, output)] = Display.writeAnswer format query output :=
      List.flatMap_singleton ..
    simp only [answerQuery, h, hfailures, hanswered, hwritten]
    exact (hnoted.trans (.note _ _)).trans (.write _ _)

/-- All the queries add all their answers and failures. -/
theorem extends_foldl_answerQuery (s : Store) (format : Display.Format) (queries : List Text) (a : Outcome) :
    a.Extends (queries.foldl (answerQuery s format) a) (Display.writeAnswers format (Display.answered s queries))
      (queryFailures s queries) := by
  induction queries generalizing a with
  | nil => exact .refl a
  | cons query queries ih =>
    rw [Display.answered_cons, queryFailures_cons, Display.writeAnswers, List.flatMap_append]
    exact (extends_answerQuery s format a query).trans (ih _)

/-! ## The whole run -/

end ActivityLog.CommandLine
