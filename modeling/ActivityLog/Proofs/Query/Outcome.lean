/-
  ActivityLog.Proofs.Query.Outcome — the request alone decides how it is answered.

  Three things can become of a request: no match, an error, or a set of values of the target
  field (`Answered`). Which of them it is stands in the request (`answer_eq_noMatch_iff`,
  `answer_eq_error_iff`), also where it was put together by hand and no text could be read as
  it. A field asked for by itself is no match, whatever its value. Otherwise an event or a
  status that no word names is the error. Otherwise there are values, and none of them where a
  date was asked for and the value is no timestamp.

  The store only says which values (`outcome_of_request`). For a text this means that any two
  stores answer it with the same error or with answers of the same kind. On a single route the
  kind is that of the target for any value, also for one that the filter cannot have.

  What the value of a filter is read as is told by a relation next to the reader
  (`OperandReading`), so that the cases of an answer are the cases of a reading.
-/

import Mathlib.Tactic.FinCases
import ActivityLog.Proofs.Query.Meaning

namespace ActivityLog.Query

/-! ## Reading the value -/

def Field.Reads : (f : Field) → Text → f.Value → Prop
  | .ip, text, x | .user, text, x => x = text
  | .date, text, x => Timestamp.read text = .ok x
  | .event, text, x => Event.token x = text
  | .status, text, x => Status.token x = text

/-- What the text can be read as, as a value of the field. -/
inductive OperandReading (text : Text) : Field → Noted (Except QueryError (Option Operand)) → Prop
  | value {f : Field} (x : f.Value) : f.Reads text x → OperandReading text f { value := .ok (some (f.operand x)) }
  | badDate {e : Timestamp.ReadError} : Timestamp.read text = .error e →
      OperandReading text .date { value := .ok none, warnings := [.badDate e] }
  | unknownEvent : (∀ x : Event, x.token ≠ text) → OperandReading text .event { value := .error (.unknownEvent text) }
  | unknownStatus : (∀ x : Status, x.token ≠ text) →
      OperandReading text .status { value := .error (.unknownStatus text) }

theorem operandReading (f : Field) (text : Text) : OperandReading text f (readOperand f text) := by
  cases f with
  | ip => exact .value (f := .ip) text rfl
  | user => exact .value (f := .user) text rfl
  | date =>
    simp only [readOperand]
    split
    · rename_i t h
      exact .value (f := .date) t h
    · rename_i e h
      exact .badDate h
  | event =>
    simp only [readOperand]
    split
    · rename_i x h
      exact .value (f := .event) x (readToken_eq_ok_iff.mp h)
    · rename_i err h
      exact .unknownEvent (readToken_eq_error_iff.mp h).1
  | status =>
    simp only [readOperand]
    split
    · rename_i x h
      exact .value (f := .status) x (readToken_eq_ok_iff.mp h)
    · rename_i err h
      exact .unknownStatus (readToken_eq_error_iff.mp h).1

/-! ## Classes of requests -/

namespace Request

def target : Request → Field
  | .all field => field
  | .lookup l => l.target

/-- A field is asked for by itself. -/
def IsCircular (r : Request) : Prop := ∃ l, r = .lookup l ∧ l.target = l.filter

/-- An event or a status is asked for by a word that names none. -/
inductive Fails : Request → QueryError → Prop
  | unknownEvent {l : Lookup} : l.target ≠ l.filter → l.filter = .event → (∀ x : Event, x.token ≠ l.value) →
      Fails (.lookup l) (.unknownEvent l.value)
  | unknownStatus {l : Lookup} : l.target ≠ l.filter → l.filter = .status → (∀ x : Status, x.token ≠ l.value) →
      Fails (.lookup l) (.unknownStatus l.value)

/-- A date is asked for by a text that is no timestamp. -/
def HasBadDate (r : Request) : Prop :=
  ∃ l e, r = .lookup l ∧ l.filter = .date ∧ Timestamp.read l.value = .error e

section
variable {l : Lookup} {e : QueryError}

theorem isCircular_lookup_iff : (lookup l).IsCircular ↔ l.target = l.filter := by
  refine ⟨fun h => ?_, fun h => ⟨l, rfl, h⟩⟩
  obtain ⟨_, ⟨⟩, heq⟩ := h
  exact heq

theorem hasBadDate_lookup_iff :
    (lookup l).HasBadDate ↔ l.filter = .date ∧ ∃ e, Timestamp.read l.value = .error e := by
  constructor
  · intro h
    obtain ⟨_, e, ⟨⟩, hfilter, hread⟩ := h
    exact ⟨hfilter, e, hread⟩
  · intro h
    obtain ⟨hfilter, e, hread⟩ := h
    exact ⟨l, e, rfl, hfilter, hread⟩

end

theorem not_isCircular_of_fails {r : Request} {e : QueryError} (h : r.Fails e) : ¬ r.IsCircular := by
  cases h with
  | unknownEvent hne _ _ => exact fun h => hne (isCircular_lookup_iff.mp h)
  | unknownStatus hne _ _ => exact fun h => hne (isCircular_lookup_iff.mp h)

theorem fails_unique {r : Request} {e e' : QueryError} (h : r.Fails e) (h' : r.Fails e') : e = e' := by
  cases h with
  | unknownEvent _ hfilter _ =>
    cases h' with
    | unknownEvent _ _ _ => rfl
    | unknownStatus _ hfilter' _ => cases hfilter.symm.trans hfilter'
  | unknownStatus _ hfilter _ =>
    cases h' with
    | unknownEvent _ hfilter' _ => cases hfilter.symm.trans hfilter'
    | unknownStatus _ _ _ => rfl

theorem not_fails_all {f : Field} (e : QueryError) : ¬ (all f).Fails e := by
  intro hfails
  cases hfails

theorem not_fails_of_date {l : Lookup} (h : l.filter = .date) (e : QueryError) : ¬ (lookup l).Fails e := by
  intro hfails
  cases hfails with
  | unknownEvent _ hfilter _ => cases h.symm.trans hfilter
  | unknownStatus _ hfilter _ => cases h.symm.trans hfilter

/-- A request does not fail where its value is read. -/
theorem not_fails_of_reads {target filter : Field} {text : Text} {period : Option Period} {x : filter.Value}
    (h : filter.Reads text x) (e : QueryError) : ¬ (lookup ⟨target, filter, text, period⟩).Fails e := by
  intro hfails
  cases hfails with
  | unknownEvent _ hfilter hno =>
    cases hfilter
    exact hno x h
  | unknownStatus _ hfilter hno =>
    cases hfilter
    exact hno x h

end Request

/-! ## Kinds -/

theorem Field.kind_output (f : Field) (values : SortedSet f.Value) :
    (f.output values).kind = (Output.emptyFor f).kind := by
  cases f <;> rfl

theorem Field.output_empty (f : Field) : f.output .empty = .emptyFor f := by
  cases f <;> rfl

theorem Field.output_ne_noMatch (f : Field) (values : SortedSet f.Value) : f.output values ≠ .noMatch := by
  cases f <;> nofun

/-! ## Answers -/

inductive Answered (r : Request) : Except QueryError Output → Prop
  | noMatch : r.IsCircular → Answered r (.ok .noMatch)
  | error {e : QueryError} : r.Fails e → Answered r (.error e)
  | values (values : SortedSet r.target.Value) : ¬ r.IsCircular → (∀ e, ¬ r.Fails e) →
      (r.HasBadDate → values = .empty) → Answered r (.ok (r.target.output values))

theorem answered_all (s : Store) (f : Field) : Answered (.all f) (answer s (.all f)) := by
  simp only [answer, answerNoted, valuesOf_eq_output]
  refine .values (r := .all f) _ ?_ Request.not_fails_all ?_
  · rintro ⟨_, ⟨⟩, -⟩
  · rintro ⟨_, _, ⟨⟩, -⟩

theorem answer_of_circular {l : Lookup} (h : l.target = l.filter) (s : Store) :
    answer s (.lookup l) = .ok .noMatch := by
  have hnone : Route.find? l.target l.filter = none := by
    rw [h]
    cases l.filter <;> rfl
  simp only [answer, answerNoted, hnone]

theorem answered_lookup (s : Store) (l : Lookup) : Answered (.lookup l) (answer s (.lookup l)) := by
  by_cases hne : l.target = l.filter
  · rw [answer_of_circular hne]
    exact .noMatch ⟨l, rfl, hne⟩
  have hcircular : ¬ (Request.lookup l).IsCircular := fun h => hne (Request.isCircular_lookup_iff.mp h)
  obtain ⟨route, hroute, -, -, hfollow⟩ := exists_route hne
  have hreading := operandReading l.filter l.value
  simp only [answer, answerNoted, hroute]
  obtain ⟨target, filter, text, period⟩ := l
  dsimp only at *
  generalize readOperand filter text = noted at hreading
  cases hreading with
  | value x hx =>
    simp only [Except.map, hfollow]
    refine .values (r := .lookup _) _ hcircular (Request.not_fails_of_reads hx) fun hbad => ?_
    obtain ⟨hfilter, e, hread⟩ := Request.hasBadDate_lookup_iff.mp hbad
    cases hfilter
    cases hread.symm.trans hx
  | badDate hread =>
    simp only [Except.map, ← Field.output_empty]
    exact .values (r := .lookup _) _ hcircular (Request.not_fails_of_date rfl) fun _ => rfl
  | unknownEvent hno => exact .error (.unknownEvent (l := ⟨_, _, _, _⟩) hne rfl hno)
  | unknownStatus hno => exact .error (.unknownStatus (l := ⟨_, _, _, _⟩) hne rfl hno)

theorem answered (s : Store) (r : Request) : Answered r (answer s r) := by
  cases r with
  | all f => exact answered_all s f
  | lookup l => exact answered_lookup s l

section
variable {s : Store} {r : Request}

theorem answer_eq_noMatch_iff : answer s r = .ok .noMatch ↔ r.IsCircular := by
  have h := answered s r
  generalize answer s r = a at h ⊢
  cases h with
  | noMatch hcircular => exact iff_of_true rfl hcircular
  | error hfails => exact iff_of_false nofun (Request.not_isCircular_of_fails hfails)
  | values values hcircular _ _ =>
    exact iff_of_false (fun h => r.target.output_ne_noMatch values (Except.ok.inj h)) hcircular

theorem answer_eq_error_iff {e : QueryError} : answer s r = .error e ↔ r.Fails e := by
  have h := answered s r
  generalize answer s r = a at h ⊢
  cases h with
  | noMatch hcircular => exact iff_of_false nofun fun h => Request.not_isCircular_of_fails h hcircular
  | error hfails =>
    refine ⟨fun h => ?_, fun h => congrArg _ (Request.fails_unique hfails h)⟩
    cases h
    exact hfails
  | values _ _ hno _ => exact iff_of_false nofun (hno e)

/-- In all other cases there is an answer of the kind that the target has. -/
theorem exists_answer (s : Store) (hcircular : ¬ r.IsCircular) (hfails : ∀ e, ¬ r.Fails e) :
    ∃ o, answer s r = .ok o ∧ o.kind = (Output.emptyFor r.target).kind ∧
      (r.HasBadDate → o = .emptyFor r.target) := by
  have h := answered s r
  generalize answer s r = a at h ⊢
  cases h with
  | noMatch h => exact absurd h hcircular
  | error h => exact absurd h (hfails _)
  | values values _ _ hbad =>
    refine ⟨_, rfl, r.target.kind_output values, fun h => ?_⟩
    rw [hbad h, Field.output_empty]

/-- All stores answer the request with the same error or with answers of one kind. -/
theorem map_kind_answer (s t : Store) (r : Request) :
    (answer s r).map Output.kind = (answer t r).map Output.kind := by
  by_cases hcircular : r.IsCircular
  · rw [answer_eq_noMatch_iff.mpr hcircular, answer_eq_noMatch_iff.mpr hcircular]
  by_cases hfails : ∃ e, r.Fails e
  · obtain ⟨e, he⟩ := hfails
    rw [answer_eq_error_iff.mpr he, answer_eq_error_iff.mpr he]
  · obtain ⟨o, ho, hkind, -⟩ := exists_answer s hcircular (not_exists.mp hfails)
    obtain ⟨o', ho', hkind', -⟩ := exists_answer t hcircular (not_exists.mp hfails)
    simp only [ho, ho', Except.map, hkind, hkind']

end

/-- A text is answered as the request that it is read as. -/
theorem execute_eq (s : Store) (q : Text) : execute s q =
    match Request.read? q with
    | some r => answer s r
    | none => .ok .noMatch := by
  cases h : Request.read? q with
  | some r => exact execute_of_read? h s
  | none =>
    have hnone : Request.readNoted? q = none := Option.map_eq_none_iff.mp h
    simp only [execute, executeNoted, hnone]

theorem map_kind_execute (s t : Store) (q : Text) :
    (execute s q).map Output.kind = (execute t q).map Output.kind := by
  simp only [execute_eq]
  cases Request.read? q with
  | some r => exact map_kind_answer s t r
  | none => rfl

/-! ## Single routes -/

/-- The routes are those that lookups take. -/
theorem find?_of_mem_all {route : Route} (h : route ∈ Route.all) :
    route.target ≠ route.filter ∧ Route.find? route.target route.filter = some route := by
  have hall : ∀ route ∈ Route.all,
      route.target ≠ route.filter ∧ Route.find? route.target route.filter = some route := by decide
  exact hall route h

/-- A value of another field leads nowhere. -/
theorem follow_of_other {route : Route} (h : route ∈ Route.all) {v : Operand}
    (hv : ∀ x, v ≠ route.filter.operand x) (s : Store) (p : Period) : route.follow s v p = .emptyFor route.target := by
  unfold Route.all at h
  fin_cases h <;> cases v
  all_goals first
    | rfl
    | exact absurd rfl (hv _)

theorem kind_follow {route : Route} (h : route ∈ Route.all) (s : Store) (v : Operand) (p : Period) :
    (route.follow s v p).kind = (Output.emptyFor route.target).kind := by
  by_cases hv : ∃ x, v = route.filter.operand x
  · obtain ⟨x, rfl⟩ := hv
    obtain ⟨hne, hfind⟩ := find?_of_mem_all h
    obtain ⟨route', hfind', -, -, hfollow⟩ := exists_route hne
    cases hfind.symm.trans hfind'
    rw [hfollow]
    exact route.target.kind_output _
  · rw [follow_of_other h (not_exists.mp hv)]

/-- A request is answered with no match exactly when it asks for a field by itself, and with an error
    exactly when the fields differ and no event or status has the word. In all other cases the answer is of
    the target's kind, and empty if a date is asked for by no timestamp. A text is answered as the request
    it is read as, if it is one, so that no two stores differ over it in error or kind. Every route gives an
    answer of its target's kind, an empty one to a value of another field. -/
theorem outcome_of_request :
    (∀ s r, answer s r = .ok .noMatch ↔ r.IsCircular) ∧
    (∀ s r e, answer s r = .error e ↔ r.Fails e) ∧
    (∀ s r, ¬ r.IsCircular → (∀ e, ¬ r.Fails e) → ∃ o, answer s r = .ok o ∧
      o.kind = (Output.emptyFor r.target).kind ∧ (r.HasBadDate → o = .emptyFor r.target)) ∧
    (∀ s q, execute s q =
      match Request.read? q with
      | some r => answer s r
      | none => .ok .noMatch) ∧
    (∀ s t q, (execute s q).map Output.kind = (execute t q).map Output.kind) ∧
    (∀ route ∈ Route.all, ∀ s v p, (route.follow s v p).kind = (Output.emptyFor route.target).kind ∧
      ((∀ x, v ≠ route.filter.operand x) → route.follow s v p = .emptyFor route.target)) := by
  refine ⟨fun s r => answer_eq_noMatch_iff, fun s r e => answer_eq_error_iff, fun s r => exists_answer s, execute_eq,
    map_kind_execute, fun route h s v p => ⟨kind_follow h s v p, fun hv => follow_of_other h hv s p⟩⟩

/-- A field by itself with a word that is no event, an event between quotes and blanks, a day that its month
    does not have, and a route with a value that its filter cannot have. -/
theorem outcome_of_request_odd_values : ∃ s : Store,
    answer s (.lookup ⟨.event, .event, "login".toList, none⟩) = .ok .noMatch ∧
    answer s (.lookup ⟨.ip, .event, " LOGIN\"".toList, some ⟨none, none⟩⟩) =
      .error (.unknownEvent " LOGIN\"".toList) ∧
    answer s (.lookup ⟨.user, .date, "29.02.2023 00:00:00".toList, none⟩) = .ok (.texts .empty) ∧
    (Route.mk .ip .event .ipsOfEvent .both).follow s (.text "LOGIN".toList) .all = .texts .empty := by
  let s : Store := .ofEntries [⟨"10.0.0.1".toList, "ann".toList, ⟨2021, 5, 1, 8, 30, 0, by decide⟩, .login, 0, .ok⟩]
  obtain ⟨hnoMatch, herror, hanswer, -, -, hroutes⟩ := outcome_of_request
  refine ⟨s, (hnoMatch s _).mpr ⟨_, rfl, rfl⟩, ?_, ?_, (hroutes _ (by decide) s _ _).2 nofun⟩
  · exact (herror s _ _).mpr (.unknownEvent (l := ⟨.ip, .event, _, _⟩) (by decide) rfl fun x => by cases x <;> decide)
  · have hcircular : ¬ (Request.lookup ⟨.user, .date, "29.02.2023 00:00:00".toList, none⟩).IsCircular := fun h =>
      absurd (Request.isCircular_lookup_iff.mp h) (by decide)
    have hbad : (Request.lookup ⟨.user, .date, "29.02.2023 00:00:00".toList, none⟩).HasBadDate :=
      ⟨_, ⟨"29.02.2023 00:00:00".toList, .outOfRange⟩, rfl, rfl, by decide⟩
    obtain ⟨o, ho, -, hempty⟩ := hanswer s _ hcircular (Request.not_fails_of_date rfl)
    rw [ho, hempty hbad]
    rfl

end ActivityLog.Query
