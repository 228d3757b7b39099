/-
  ActivityLog.Proofs.Query.DateClause — what a date clause can do to a query, and what is reported.

  A date clause is written behind a query that has none: the keyword, and then any text at
  all. The query is read as before but for its period (`date_clause_sets_period`). Its
  fields stand before the first equals sign, which the clause cannot move, and its value
  ends before the keyword of the clause: the keyword begins with none of its own ends, so
  no other occurrence begins in the query and ends in the clause (`readCondition_append`).

  The period is there as a whole or not at all. Both sides of the first `and` of the
  clause have to be timestamps, quotes aside (`HasBounds`); one good bound does not count.
  Without a period the query is answered as it would be without the clause.

  Nothing is left out silently. A date clause without two good bounds and a date that is no
  timestamp are each reported once, the clause first, and nothing else is reported
  (`warnings_tell_what_is_ignored`). The warning of a clause names the first fault
  (`IsClauseFault`). The two warnings come from two places, the reading of the clause and the
  answering, so the second is given also after the first, and the first also where the
  answer is an error.
-/

import ActivityLog.Proofs.Query.Meaning
import ActivityLog.Proofs.Query.Outcome

namespace ActivityLog.Query

/-! ## Bounds -/

/-- On the two sides of the first `and` of the clause stand these timestamps, quotes aside. -/
def HasBounds (clause : Text) (lower upper : Timestamp) : Prop :=
  ∃ after before, Text.IsFirstCut "and".toList clause after before ∧
    Timestamp.read (after.filter (· != '"')) = .ok lower ∧ Timestamp.read (before.filter (· != '"')) = .ok upper

theorem read_unquote (text : Text) : Timestamp.read (unquote text) = Timestamp.read (text.filter (· != '"')) :=
  Timestamp.read_trim _

/-- A clause gives the period between its bounds. -/
theorem readPeriod_eq_some_iff {clause : Text} {p : Period} :
    (readPeriod clause).value = some p ↔ ∃ lower upper, HasBounds clause lower upper ∧ p = .between lower upper := by
  constructor
  · intro h
    have hreading := periodReading clause
    generalize readPeriod clause = noted at h hreading
    cases hreading with
    | bounds hcut hlower hupper =>
      cases h
      rw [read_unquote] at hlower hupper
      exact ⟨_, _, ⟨_, _, hcut, hlower, hupper⟩, rfl⟩
    | fault _ => cases h
  · intro h
    obtain ⟨lower, upper, ⟨after, before, hfirst, hlower, hupper⟩, rfl⟩ := h
    rw [← read_unquote] at hlower hupper
    simp only [readPeriod, (Text.splitOnce_eq_some_iff (by decide)).mpr hfirst, hlower, hupper]

/-! ## A clause behind a query -/

theorem isUnbordered_rangeKeyword : Text.IsUnbordered rangeKeyword := by decide

/-- A clause behind a condition without one leaves the value as it is. -/
theorem readCondition_append {text : Text} (h : ¬ rangeKeyword <:+: text) (clause : Text) :
    readCondition (text ++ rangeKeyword ++ clause) = (unquote text, readPeriod clause) := by
  have hfirst := Text.not_infix_append_dropLast (by decide) isUnbordered_rangeKeyword h
  simp only [readCondition, Text.splitOnce_of_first hfirst clause]

/-- Behind a lookup without a period a clause sets the period and nothing else. -/
theorem read?_append_clause {p : Text} {l : Lookup} (hp : Request.read? p = some (.lookup l))
    (hk : ¬ rangeKeyword <:+: p) (clause : Text) : l.period = none ∧
      Request.read? (p ++ rangeKeyword ++ clause) = some (.lookup { l with period := (readPeriod clause).value }) := by
  obtain ⟨rest, hform, hne, hvalue, hperiod⟩ := read?_eq_lookup_iff.mp hp
  obtain ⟨head, rfl, hhead, hwords⟩ := longForm?_eq_some_iff.mp hform
  have hrest : ¬ rangeKeyword <:+: rest := fun h =>
    hk (List.infix_append_of_infix_right (List.infix_cons h))
  rw [readCondition_of_no_keyword hrest] at hvalue hperiod
  refine ⟨hperiod, read?_eq_lookup_iff.mpr ⟨rest ++ rangeKeyword ++ clause, ?_, hne, ?_, ?_⟩⟩
  · refine longForm?_eq_some_iff.mpr ⟨head, ?_, hhead, hwords⟩
    simp only [List.append_assoc, List.cons_append]
  · rw [readCondition_append hrest]
    exact hvalue
  · rw [readCondition_append hrest]

/-- Behind a lookup without the date keyword, the keyword and any text are read as a date clause: the
    fields and the value stay, and the period is the one between the two timestamps around the first
    `and` of that text, if it has both, and none otherwise. Without a period the answer is that to the
    lookup alone. -/
theorem date_clause_sets_period {p : Text} {l : Lookup} (hp : Request.read? p = some (.lookup l))
    (hk : ¬ rangeKeyword <:+: p) (clause : Text) : ∃ period,
      Request.read? (p ++ rangeKeyword ++ clause) =
        some (.lookup { target := l.target, filter := l.filter, value := l.value, period := period }) ∧
      (∀ lower upper, period = some (.between lower upper) ↔ HasBounds clause lower upper) ∧
      ((¬ ∃ lower upper, HasBounds clause lower upper) → period = none) ∧
      (period = none → ∀ s, execute s (p ++ rangeKeyword ++ clause) = execute s p) := by
  obtain ⟨hnone, hread⟩ := read?_append_clause hp hk clause
  refine ⟨(readPeriod clause).value, hread, ?_, ?_, ?_⟩
  · intro lower upper
    rw [readPeriod_eq_some_iff]
    constructor
    · intro h
      obtain ⟨lower', upper', hbounds, ⟨⟩⟩ := h
      exact hbounds
    · intro hbounds
      exact ⟨lower, upper, hbounds, rfl⟩
  · intro hbounds
    refine Option.eq_none_iff_forall_ne_some.mpr fun p hsome => ?_
    obtain ⟨lower, upper, h, -⟩ := readPeriod_eq_some_iff.mp hsome
    exact hbounds ⟨lower, upper, h⟩
  · intro hperiod s
    have hsame : ({ l with period := (readPeriod clause).value } : Lookup) = l := by
      rw [hperiod, ← hnone]
    rw [hsame] at hread
    rw [execute_of_read? hread, execute_of_read? hp]

/-- A query that ends with the first half of the keyword, behind it a clause with an equals sign and a
    second keyword, and then one with good bounds. -/
theorem date_clause_sets_period_half_keyword :
    Request.read? "get ip for user = \"Ann\" and date ".toList =
      some (.lookup ⟨.ip, .user, "Ann and date".toList, none⟩) ∧
    ¬ rangeKeyword <:+: "get ip for user = \"Ann\" and date ".toList ∧
    (∀ s, execute s ("get ip for user = \"Ann\" and date ".toList ++ rangeKeyword ++
        "\"01.01.2020 00:00:00\" = and date between".toList) =
      execute s "get ip for user = \"Ann\" and date ".toList) ∧
    HasBounds " 1.1.\"2020 0:0:0\" and 2.1.2020 0:0:0".toList
      ⟨2020, 1, 1, 0, 0, 0, by decide⟩ ⟨2020, 1, 2, 0, 0, 0, by decide⟩ := by
  have hread : Request.read? "get ip for user = \"Ann\" and date ".toList =
      some (.lookup ⟨.ip, .user, "Ann and date".toList, none⟩) := by decide
  have hkeyword : ¬ rangeKeyword <:+: "get ip for user = \"Ann\" and date ".toList := by decide
  refine ⟨hread, hkeyword, ?_, ?_⟩
  · obtain ⟨period, hclause, -, -, hsame⟩ :=
      date_clause_sets_period hread hkeyword "\"01.01.2020 00:00:00\" = and date between".toList
    refine hsame ?_
    have hnone : Request.read? ("get ip for user = \"Ann\" and date ".toList ++ rangeKeyword ++
        "\"01.01.2020 00:00:00\" = and date between".toList) =
      some (.lookup ⟨.ip, .user, "Ann and date".toList, none⟩) := by decide
    rw [hnone] at hclause
    cases hclause
    rfl
  · obtain ⟨period, hclause, hbounds, -⟩ :=
      date_clause_sets_period hread hkeyword " 1.1.\"2020 0:0:0\" and 2.1.2020 0:0:0".toList
    refine (hbounds _ _).mp ?_
    have hsome : Request.read? ("get ip for user = \"Ann\" and date ".toList ++ rangeKeyword ++
        " 1.1.\"2020 0:0:0\" and 2.1.2020 0:0:0".toList) =
      some (.lookup ⟨.ip, .user, "Ann and date".toList,
        some (.between ⟨2020, 1, 1, 0, 0, 0, by decide⟩ ⟨2020, 1, 2, 0, 0, 0, by decide⟩)⟩) := by decide
    rw [hsome] at hclause
    cases hclause
    rfl

/-! ## What is ignored -/

/-- The warnings for the date clause of the condition: one where there is a clause but no period. -/
inductive ClauseWarnings (condition : Text) (period : Option Period) : List Warning → Prop
  | ignored {value clause : Text} {w : Warning} : Text.IsFirstCut rangeKeyword condition value clause →
      period = none → IsClauseFault clause w → ClauseWarnings condition period [w]
  | none : ¬ (rangeKeyword <:+: condition ∧ period = none) → ClauseWarnings condition period []

/-- The warnings for the value of the lookup: one where a date is asked for by no timestamp. -/
inductive ValueWarnings (l : Lookup) : List Warning → Prop
  | ignored {e : Timestamp.ReadError} : l.filter = .date → Timestamp.read l.value = .error e →
      ValueWarnings l [.badDate e]
  | none : ¬ (l.filter = .date ∧ ∃ e, Timestamp.read l.value = .error e) → ValueWarnings l []

/-! ## The date clause -/

theorem clauseWarnings_readCondition (condition : Text) :
    ClauseWarnings condition (readCondition condition).2.value (readCondition condition).2.warnings := by
  unfold readCondition
  split
  · rename_i value clause h
    have hcut := (Text.splitOnce_eq_some_iff (by decide)).mp h
    have hreading := periodReading clause
    generalize readPeriod clause = noted at hreading ⊢
    cases hreading with
    | bounds _ _ _ => exact .none fun h => nomatch h.2
    | fault hfault => exact .ignored hcut rfl hfault
  · rename_i h
    exact .none fun hkeyword => (Text.splitOnce_eq_none_iff (by decide) condition).mp h hkeyword.1

/-! ## Reading -/

theorem readNoted?_of_all {q : Text} {f : Field} (h : Request.read? q = some (.all f)) :
    Request.readNoted? q = some { value := .all f } := by
  have hshort := read?_eq_all_iff.mp h
  have hfield : Field.read? f.token = some f := Field.read?_eq_some_iff.mpr rfl
  simp only [Request.readNoted?, hshort, hfield, Option.map_some]

theorem readNoted?_of_lookup {q : Text} {l : Lookup} (h : Request.read? q = some (.lookup l)) :
    ∃ head rest, q = head ++ '=' :: rest ∧ '=' ∉ head ∧ l.period = (readCondition rest).2.value ∧
      Request.readNoted? q = some { value := .lookup l, warnings := (readCondition rest).2.warnings } := by
  obtain ⟨rest, hlong, hne, hvalue, hperiod⟩ := read?_eq_lookup_iff.mp h
  obtain ⟨head, hq, hhead, -⟩ := longForm?_eq_some_iff.mp hlong
  refine ⟨head, rest, hq, hhead, hperiod, ?_⟩
  have hshort := shortForm?_eq_none_of_longForm? hlong
  have hfield : ∀ f : Field, Field.read? f.token = some f := fun f => Field.read?_eq_some_iff.mpr rfl
  simp only [Request.readNoted?, hshort, hlong, Option.bind_eq_bind, Option.bind_some, hfield, if_neg hne,
    ← hvalue, ← hperiod]
  rfl

/-- A field asked for by itself is no query. -/
theorem read?_of_circular {head : Text} {f : Field} (hhead : '=' ∉ head)
    (hwords : Text.words head = ["get".toList, f.token, "for".toList, f.token]) (rest : Text) :
    Request.read? (head ++ '=' :: rest) = none := by
  have hlong : longForm? (head ++ '=' :: rest) = some (f.token, f.token, rest) :=
    longForm?_eq_some_iff.mpr ⟨head, rfl, hhead, hwords⟩
  refine Option.eq_none_iff_forall_ne_some.mpr fun r hr => ?_
  obtain ⟨target, filter, htarget, hfilter, hne, -⟩ := (read?_of_longForm? hlong r).mp hr
  rw [← Field.read?_eq_some_iff] at htarget hfilter
  exact hne (Option.some.inj (htarget.symm.trans hfilter))

/-! ## Answering -/

theorem valueWarnings_readOperand {target filter : Field} {text : Text} {period : Option Period} :
    ValueWarnings ⟨target, filter, text, period⟩ (readOperand filter text).warnings := by
  have h := operandReading filter text
  generalize readOperand filter text = noted at h ⊢
  cases h with
  | value x hx =>
    refine .none fun hbad => ?_
    obtain ⟨hfilter, e, hread⟩ := hbad
    cases hfilter
    cases hread.symm.trans hx
  | badDate hread => exact .ignored rfl hread
  | unknownEvent _ => exact .none fun hbad => nomatch hbad.1
  | unknownStatus _ => exact .none fun hbad => nomatch hbad.1

theorem valueWarnings_answerNoted (s : Store) {l : Lookup} (hne : l.target ≠ l.filter) :
    ValueWarnings l (answerNoted s (.lookup l)).warnings := by
  obtain ⟨route, hroute, -⟩ := exists_route hne
  simp only [answerNoted, hroute]
  exact valueWarnings_readOperand

/-! ## Query texts -/

theorem warnings_of_none {q : Text} (h : Request.read? q = none) (s : Store) : warnings s q = [] := by
  have hnone : Request.readNoted? q = none := Option.map_eq_none_iff.mp h
  simp only [warnings, executeNoted, hnone]

theorem warnings_of_readNoted? {q : Text} {noted : Noted Request} (h : Request.readNoted? q = some noted) (s : Store) :
    warnings s q = noted.warnings ++ (answerNoted s noted.value).warnings := by
  simp only [warnings, executeNoted, h]

/-- The warnings of a query are one for its date clause, if that is ignored, and then one for its value, if
    that is a date and ignored. Other queries have none, nor have texts that are no query, as those that
    ask for a field by itself. -/
theorem warnings_tell_what_is_ignored (s : Store) (q : Text) :
    (Request.read? q = none → warnings s q = []) ∧
    (∀ head rest f, q = head ++ '=' :: rest → '=' ∉ head →
      Text.words head = ["get".toList, Field.token f, "for".toList, Field.token f] → warnings s q = []) ∧
    (∀ f, Request.read? q = some (.all f) → warnings s q = []) ∧
    (∀ l, Request.read? q = some (.lookup l) → ∃ head condition, q = head ++ '=' :: condition ∧ '=' ∉ head ∧
      ∃ ofClause ofValue, warnings s q = ofClause ++ ofValue ∧
        ClauseWarnings condition l.period ofClause ∧ ValueWarnings l ofValue) := by
  refine ⟨fun h => warnings_of_none h s, fun head rest f hq hhead hwords => ?_, fun f h => ?_, fun l h => ?_⟩
  · rw [hq]
    exact warnings_of_none (read?_of_circular hhead hwords rest) s
  · rw [warnings_of_readNoted? (readNoted?_of_all h)]
    rfl
  · obtain ⟨head, condition, hq, hhead, hperiod, hnoted⟩ := readNoted?_of_lookup h
    refine ⟨head, condition, hq, hhead, _, _, warnings_of_readNoted? hnoted s, ?_, ?_⟩
    · rw [hperiod]
      exact clauseWarnings_readCondition condition
    · exact valueWarnings_answerNoted s (isReadable_of_read? h).distinct

/-- A clause with a bad upper bound behind a date that is none: both are reported, the clause first. The clause
    is reported also where the answer is an error. -/
theorem warnings_tell_what_is_ignored_twice : ∃ (s : Store) (condition : Text) (w v : Warning),
    Request.read? "get user for date = soon and date between \"1.1.2020 0:0:0\" and \"never\"".toList =
      some (.lookup ⟨.user, .date, "soon".toList, none⟩) ∧
    warnings s "get user for date = soon and date between \"1.1.2020 0:0:0\" and \"never\"".toList = [w, v] ∧
    ClauseWarnings condition none [w] ∧ ValueWarnings ⟨.user, .date, "soon".toList, none⟩ [v] ∧
    w = .badBound ⟨"never".toList, .invalid⟩ ∧ v = .badDate ⟨"soon".toList, .invalid⟩ ∧
    execute s "get ip for event = LOGOUT and date between 1.1.2020 ".toList = .error (.unknownEvent "LOGOUT".toList) ∧
    warnings s "get ip for event = LOGOUT and date between 1.1.2020 ".toList = [.missingBound "1.1.2020".toList] := by
  let s : Store := .ofEntries []
  have hread : Request.read? "get user for date = soon and date between \"1.1.2020 0:0:0\" and \"never\"".toList =
      some (.lookup ⟨.user, .date, "soon".toList, none⟩) := by decide
  have hgiven : warnings s "get user for date = soon and date between \"1.1.2020 0:0:0\" and \"never\"".toList =
      [.badBound ⟨"never".toList, .invalid⟩, .badDate ⟨"soon".toList, .invalid⟩] := by decide
  obtain ⟨head, condition, -, -, ofClause, ofValue, htold, hclause, hvalue⟩ :=
    (warnings_tell_what_is_ignored s _).2.2.2 _ hread
  have hsplit : ofClause = [.badBound ⟨"never".toList, .invalid⟩] ∧ ofValue = [.badDate ⟨"soon".toList, .invalid⟩] := by
    rw [hgiven] at htold
    cases hclause with
    | ignored _ _ _ =>
      cases htold
      exact ⟨rfl, rfl⟩
    | none _ => cases hvalue <;> cases htold
  obtain ⟨rfl, rfl⟩ := hsplit
  exact ⟨s, condition, _, _, hread, hgiven, hclause, hvalue, rfl, rfl, by decide, by decide⟩

end ActivityLog.Query
