/-
  ActivityLog.Proofs.Query.Meaning — what a query text means.

  A lookup asks for the target parts of the entries whose filter part is a given value
  and whose time lies in a given period (`Field.part`).

  That is what it is answered with, by way of its text (`execute_write_lookup`): the
  value is written, found again in the query, read by its type, sent along one of
  twenty routes and compared with the entries, and at the end the values listed are
  the ones asked for, each once and in order. One pair departs from it: the users
  behind an address are those after the lower bound, whatever the upper one
  (`exists_route`).

  An address or a user is written as it is, so it has to be a text that comes back
  from between the quotes (`Field.IsWritable`). What is written for the other fields
  always does (`isQuotable_writeValue`).
-/

import ActivityLog.Proofs.Entry.Reader
import ActivityLog.Proofs.Store.Question
import ActivityLog.Proofs.Query.RoundTrip
import ActivityLog.Query.Answer

namespace ActivityLog.Query

open Text (IsTrimmed)

/-- A text that comes back from between the quotes of a query. -/
structure IsQuotable (value : Text) : Prop where
  trimmed : IsTrimmed value
  unquoted : '"' ∉ value
  no_keyword : ¬ rangeKeyword <:+: value

/-! ## The values of a field -/

namespace Field

def output : (f : Field) → SortedSet f.Value → Output
  | .ip, values | .user, values => .texts values
  | .date, values => .dates values
  | .event, values => .events values
  | .status, values => .statuses values

def operand : (f : Field) → f.Value → Operand
  | .ip, x | .user, x => .text x
  | .date, x => .date x
  | .event, x => .event x
  | .status, x => .status x

def writeValue : (f : Field) → f.Value → Text
  | .ip, x | .user, x => x
  | .date, x => Timestamp.write x
  | .event, x => Event.token x
  | .status, x => Status.token x

/-- The value can stand in a query; only an address or a user may not be able to. -/
def IsWritable : (f : Field) → f.Value → Prop
  | .ip, x | .user, x => IsQuotable x
  | .date, _ | .event, _ | .status, _ => True

end Field

/-! ## Values in a query -/

theorem isQuotable_write (t : Timestamp) : IsQuotable t.write where
  trimmed := t.isTrimmed_write
  unquoted := Timestamp.not_mem_write (by decide) t
  no_keyword h := Timestamp.not_mem_write (c := 'a') (by decide) t (h.subset (by decide))

theorem isQuotable_token_event (event : Event) : IsQuotable event.token := by
  cases event <;> exact ⟨Text.trim_eq_self_iff.mp (by decide), by decide, by decide⟩

theorem isQuotable_token_status (status : Status) : IsQuotable status.token := by
  cases status <;> exact ⟨Text.trim_eq_self_iff.mp (by decide), by decide, by decide⟩

/-- What is written for a value comes back from the query. -/
theorem isQuotable_writeValue {f : Field} {x : f.Value} (hx : f.IsWritable x) : IsQuotable (f.writeValue x) :=
  match f, x, hx with
  | .ip, _, hx | .user, _, hx => hx
  | .date, t, _ => isQuotable_write t
  | .event, e, _ => isQuotable_token_event e
  | .status, s, _ => isQuotable_token_status s

theorem readOperand_date {text : Text} {t : Timestamp} (h : Timestamp.read text = .ok t) :
    (readOperand .date text).value = .ok (some (.date t)) := by
  simp only [readOperand, h]

theorem readOperand_event {text : Text} {e : Event} (h : Event.read text = .ok e) :
    (readOperand .event text).value = .ok (some (.event e)) := by
  simp only [readOperand, h]

theorem readOperand_status {text : Text} {s : Status} (h : Status.read text = .ok s) :
    (readOperand .status text).value = .ok (some (.status s)) := by
  simp only [readOperand, h]

/-- What is written for a value is read as that value. -/
theorem readOperand_writeValue (f : Field) (x : f.Value) :
    (readOperand f (f.writeValue x)).value = .ok (some (f.operand x)) :=
  match f, x with
  | .ip, _ | .user, _ => rfl
  | .date, t => readOperand_date (Timestamp.read_write t)
  | .event, e => readOperand_event (readToken_token (α := Event) e)
  | .status, s => readOperand_status (readToken_token (α := Status) s)

/-! ## Routes -/

/-- Different fields have a route between them. It lists the target parts of the entries whose filter
    part is the value. Only from addresses to users the upper bound does not count. -/
theorem exists_route {target filter : Field} (hne : target ≠ filter) :
    ∃ route, Route.find? target filter = some route ∧
      (∀ p, (target, filter) = (.user, .ip) → route.effective p = p.dropUpper) ∧
      (∀ p, (target, filter) ≠ (.user, .ip) → route.effective p = p) ∧
      ∀ s x p, route.follow s (filter.operand x) p =
        target.output (s.values (route.effective p) (fun e => filter.part e = x) target.part) := by
  cases target <;> cases filter
  case user.ip => exact ⟨_, rfl, fun _ _ => rfl, fun _ h => absurd rfl h, fun _ _ _ => rfl⟩
  all_goals first
    | exact absurd rfl hne
    | exact ⟨_, rfl, fun _ h => absurd h (by decide), fun _ _ => rfl, fun _ _ _ => rfl⟩

def periodOf (range : Option (Timestamp × Timestamp)) : Option Period :=
  range.map fun (lower, upper) => .between lower upper

theorem isWhole_periodOf (range : Option (Timestamp × Timestamp)) : IsWhole (periodOf range) := by
  cases range with
  | none => exact .always
  | some bounds => exact .between _ _

/-- The moments that count on a route lie in the period, as far as its upper bound counts. -/
theorem contains_effective_iff {target filter : Field} {route : Route} {range : Option (Timestamp × Timestamp)}
    (hone : ∀ p, (target, filter) = (.user, .ip) → route.effective p = p.dropUpper)
    (hboth : ∀ p, (target, filter) ≠ (.user, .ip) → route.effective p = p) (t : Timestamp) :
    (route.effective ((periodOf range).getD .all)).contains t = true ↔
      ∀ lower upper, range = some (lower, upper) → lower < t ∧ ((target, filter) ≠ (.user, .ip) → t < upper) := by
  rw [Period.contains_iff]
  by_cases h : (target, filter) = (.user, .ip)
  · rw [hone _ h]
    cases range with
    | none => simp [periodOf, Period.dropUpper, Period.all]
    | some bounds =>
      obtain ⟨lower, upper⟩ := bounds
      simp [periodOf, Period.dropUpper, Period.between, h]
  · rw [hboth _ h]
    cases range with
    | none => simp [periodOf, Period.all]
    | some bounds =>
      obtain ⟨lower, upper⟩ := bounds
      simp [periodOf, Period.between, h]

/-! ## Answers -/

theorem valuesOf_eq_output (s : Store) (f : Field) :
    valuesOf s f = f.output (s.values .all (fun _ => true) f.part) := by
  cases f <;> rfl

theorem execute_of_read? {q : Text} {r : Request} (h : Request.read? q = some r) (s : Store) :
    execute s q = answer s r := by
  obtain ⟨noted, hnoted, rfl⟩ := Option.map_eq_some_iff.mp h
  simp only [execute, executeNoted, hnoted, answer]

theorem answer_lookup {l : Lookup} {route : Route} {x : Operand} (hroute : Route.find? l.target l.filter = some route)
    (hx : (readOperand l.filter l.value).value = .ok (some x)) (s : Store) :
    answer s (.lookup l) = .ok (route.follow s x (l.period.getD .all)) := by
  simp only [answer, answerNoted, hroute, hx]
  rfl

/-- A written lookup is answered with the target parts of the entries whose filter part is the value
    and whose time lies strictly in the range, each once and in ascending order. Only for the users
    behind an address the upper bound does not count. -/
theorem execute_write_lookup (s : Store) {target filter : Field} (hne : target ≠ filter) {x : filter.Value}
    (hx : filter.IsWritable x) (range : Option (Timestamp × Timestamp)) :
    ∃ values : SortedSet target.Value,
      execute s (Request.lookup ⟨target, filter, filter.writeValue x, periodOf range⟩).write =
        .ok (target.output values) ∧
      (∀ y, y ∈ values.toList ↔ ∃ e ∈ s.entries, filter.part e = x ∧
        (∀ lower upper, range = some (lower, upper) →
          lower < e.time ∧ ((target, filter) ≠ (.user, .ip) → e.time < upper)) ∧
        target.part e = y) ∧
      values.toList.Nodup ∧ values.toList.Pairwise fun a b => compare a b = .lt := by
  obtain ⟨route, hroute, hone, hboth, hfollow⟩ := exists_route hne
  obtain ⟨htrimmed, hunquoted, hkeyword⟩ := isQuotable_writeValue hx
  have hread : Request.read? (Request.lookup ⟨target, filter, filter.writeValue x, periodOf range⟩).write =
      some (.lookup ⟨target, filter, filter.writeValue x, periodOf range⟩) :=
    read?_write (r := .lookup _) ⟨hne, htrimmed, hunquoted, isWhole_periodOf range⟩ hkeyword
  let period := (periodOf range).getD .all
  let values := s.values (route.effective period) (fun e => filter.part e = x) target.part
  refine ⟨values, ?_, ?_, values.nodup_toList, values.ascending⟩
  · rw [execute_of_read? hread, answer_lookup hroute (readOperand_writeValue filter x), hfollow]
  · intro y
    refine Store.mem_values.trans (exists_congr fun e => and_congr_right fun _ => ?_)
    rw [contains_effective_iff hone hboth, decide_eq_true_iff]
    exact and_left_comm

/-- A user behind an address is listed although the upper bound is passed. -/
theorem execute_write_lookup_late_user : ∃ values : SortedSet Text,
    execute (.ofEntries [⟨"10.0.0.1".toList, "ann".toList, ⟨2021, 5, 1, 8, 30, 0, by decide⟩, .login, 0, .ok⟩])
      (Request.lookup ⟨.user, .ip, "10.0.0.1".toList,
        some (.between ⟨2019, 1, 1, 0, 0, 0, by decide⟩ ⟨2020, 1, 1, 0, 0, 0, by decide⟩)⟩).write =
      .ok (.texts values) ∧ "ann".toList ∈ values.toList := by
  have hwritable : Field.IsWritable .ip "10.0.0.1".toList :=
    ⟨Text.trim_eq_self_iff.mp (by decide), by decide, by decide⟩
  obtain ⟨values, hanswer, hmem, -⟩ := execute_write_lookup
    (.ofEntries [⟨"10.0.0.1".toList, "ann".toList, ⟨2021, 5, 1, 8, 30, 0, by decide⟩, .login, 0, .ok⟩])
    (show Field.user ≠ Field.ip by decide) hwritable
    (some (⟨2019, 1, 1, 0, 0, 0, by decide⟩, ⟨2020, 1, 1, 0, 0, 0, by decide⟩))
  refine ⟨values, hanswer, (hmem _).mpr ⟨_, List.mem_cons_self .., rfl, ?_, rfl⟩⟩
  rintro lower upper ⟨⟩
  exact ⟨by decide, fun h => absurd rfl h⟩

end ActivityLog.Query
