/-
  ActivityLog.Proofs.Query.Listing — what answers list, and in which order.

  An answer has as many lines as values (`length_lines`), no two of them alike
  (`nodup_lines`), and the lines show the values: answers of one kind with the same lines
  are the same (`lines_inj`), as no two times, events or statuses are worded alike. The
  values are on record: each belongs to an entry of the store (`isOnRecord_of_execute`). If
  the addresses and users on record are tidy, all lines of all answers are
  (`isTidy_of_mem_lines`).

  Addresses and users are listed as they are, in the order of their code points. The other
  lines are wordings, which do not sort by themselves: in that of a time the day comes first.
  There the values that the lines are read as are in order (`Output.IsInOrder`): a later time
  comes after an earlier one, and events and statuses come in the order of their vocabularies.
  This holds of every answer, whether it was given to a text or to a request put together by
  hand (`answers_list_in_order`).
-/

import Mathlib.Data.List.Nodup
import ActivityLog.Proofs.Entry.Reader
import ActivityLog.Proofs.Query.Meaning
import ActivityLog.Proofs.Store.Question
import ActivityLog.Proofs.Text.Lines
import ActivityLog.Proofs.Timestamp
import ActivityLog.Query.Answer

namespace ActivityLog

open Text (IsTidy)

/-! ## Wordings -/

theorem Timestamp.write_injective : Function.Injective Timestamp.write := fun _ _ => Timestamp.write_inj.mp

theorem Timestamp.isTidy_write (t : Timestamp) : IsTidy t.write where
  ne_nil := by
    intro h
    have hread := t.read_write
    rw [h] at hread
    cases hread
  trimmed := t.isTrimmed_write
  no_feed := Timestamp.not_mem_write (by decide) t

namespace Query

/-! ## Lines of an answer -/

@[simp] theorem Output.kind_texts (values : SortedSet Text) : (texts values).kind = "strings".toList := rfl
@[simp] theorem Output.kind_dates (values : SortedSet Timestamp) : (dates values).kind = "dates".toList := rfl
@[simp] theorem Output.kind_events (values : SortedSet Event) : (events values).kind = "events".toList := rfl
@[simp] theorem Output.kind_statuses (values : SortedSet Status) : (statuses values).kind = "statuses".toList := rfl
@[simp] theorem Output.kind_noMatch : noMatch.kind = "no_match".toList := rfl

theorem Output.length_lines (o : Output) : o.lines.length = o.size := by
  cases o <;> simp only [lines, size, SortedSet.size, List.length_map, List.length_nil]

theorem Output.nodup_lines (o : Output) : o.lines.Nodup := by
  cases o with
  | texts values => exact values.nodup_toList
  | dates values => exact values.nodup_toList.map Timestamp.write_injective
  | events values => exact values.nodup_toList.map Worded.token_injective
  | statuses values => exact values.nodup_toList.map Worded.token_injective
  | noMatch => exact List.nodup_nil

theorem Output.lines_inj {a b : Output} (hkind : a.kind = b.kind) (hlines : a.lines = b.lines) : a = b := by
  cases a with
  | texts x =>
    cases b with
    | texts y => exact congrArg Output.texts (SortedSet.toList_inj hlines)
    | _ => simp at hkind
  | dates x =>
    cases b with
    | dates y => exact congrArg Output.dates (SortedSet.toList_inj (Timestamp.write_injective.list_map hlines))
    | _ => simp at hkind
  | events x =>
    cases b with
    | events y => exact congrArg Output.events (SortedSet.toList_inj (Worded.token_injective.list_map hlines))
    | _ => simp at hkind
  | statuses x =>
    cases b with
    | statuses y => exact congrArg Output.statuses (SortedSet.toList_inj (Worded.token_injective.list_map hlines))
    | _ => simp at hkind
  | noMatch =>
    cases b with
    | noMatch => rfl
    | _ => simp at hkind

/-! ## Where the values come from -/

/-- Every value of the answer is on record: some entry has it. -/
def Output.IsOnRecord (s : Store) : Output → Prop
  | .texts values => ∀ x ∈ values, ∃ e ∈ s.entries, e.ip = x ∨ e.user = x
  | .dates values => ∀ x ∈ values, ∃ e ∈ s.entries, e.time = x
  | .events values => ∀ x ∈ values, ∃ e ∈ s.entries, e.event = x
  | .statuses values => ∀ x ∈ values, ∃ e ∈ s.entries, e.status = x
  | .noMatch => True

theorem exists_entry_of_mem_values {α : Type} [Ord α] [Std.TransOrd α] [Std.LawfulEqOrd α] {s : Store} {p : Period}
    {keep : Entry → Bool} {project : Entry → α} {x : α} (h : x ∈ s.values p keep project) :
    ∃ e ∈ s.entries, project e = x := by
  obtain ⟨e, he, -, -, hx⟩ := Store.mem_values.mp h
  exact ⟨e, he, hx⟩

theorem exists_named_of_mem_values {s : Store} {p : Period} {keep : Entry → Bool} {project : Entry → Text}
    (hproject : project = Entry.ip ∨ project = Entry.user) {x : Text} (h : x ∈ s.values p keep project) :
    ∃ e ∈ s.entries, e.ip = x ∨ e.user = x := by
  obtain ⟨e, he, hx⟩ := exists_entry_of_mem_values h
  rcases hproject with rfl | rfl
  · exact ⟨e, he, Or.inl hx⟩
  · exact ⟨e, he, Or.inr hx⟩

theorem Output.isOnRecord_emptyFor (s : Store) (field : Field) : (emptyFor field).IsOnRecord s := by
  cases field <;> exact fun _ hx => nomatch hx

theorem isOnRecord_valuesOf (s : Store) (field : Field) : (valuesOf s field).IsOnRecord s := by
  cases field with
  | ip => exact fun x hx => exists_named_of_mem_values (Or.inl rfl) hx
  | user => exact fun x hx => exists_named_of_mem_values (Or.inr rfl) hx
  | _ => exact fun x hx => exists_entry_of_mem_values hx

theorem isOnRecord_follow (s : Store) (route : Route) (x : Operand) (p : Period) :
    (route.follow s x p).IsOnRecord s := by
  unfold Route.follow
  split
  all_goals first
    | exact fun x hx => exists_entry_of_mem_values hx
    | exact fun x hx => exists_named_of_mem_values (Or.inl rfl) hx
    | exact fun x hx => exists_named_of_mem_values (Or.inr rfl) hx
    | exact Output.isOnRecord_emptyFor s route.target

theorem isOnRecord_answerNoted {s : Store} {request : Request} {o : Output}
    (h : (answerNoted s request).value = .ok o) : o.IsOnRecord s := by
  cases request with
  | all field =>
    cases h
    exact isOnRecord_valuesOf s field
  | lookup l =>
    cases hroute : Route.find? l.target l.filter with
    | none =>
      simp only [answerNoted, hroute, Except.ok.injEq] at h
      rw [← h]
      exact trivial
    | some route =>
      simp only [answerNoted, hroute] at h
      cases hvalue : (readOperand l.filter l.value).value with
      | error e =>
        rw [hvalue] at h
        cases h
      | ok operand =>
        rw [hvalue] at h
        cases operand with
        | none =>
          cases h
          exact Output.isOnRecord_emptyFor s l.target
        | some x =>
          cases h
          exact isOnRecord_follow s route x _

theorem isOnRecord_of_execute {s : Store} {query : Text} {o : Output} (h : execute s query = .ok o) :
    o.IsOnRecord s := by
  unfold execute executeNoted at h
  cases hrequest : Request.readNoted? query with
  | none =>
    rw [hrequest] at h
    cases h
    exact trivial
  | some request =>
    rw [hrequest] at h
    exact isOnRecord_answerNoted h

/-- Where the addresses and users on record are tidy, so is every line of an answer. -/
theorem isTidy_of_mem_lines {s : Store} {o : Output} (ho : o.IsOnRecord s)
    (hs : ∀ e ∈ s.entries, IsTidy e.ip ∧ IsTidy e.user) {line : Text} (hline : line ∈ o.lines) : IsTidy line := by
  cases o with
  | texts values =>
    obtain ⟨e, he, rfl | rfl⟩ := ho line hline
    · exact (hs e he).1
    · exact (hs e he).2
  | dates values =>
    obtain ⟨t, -, rfl⟩ := List.mem_map.mp hline
    exact t.isTidy_write
  | events values =>
    obtain ⟨event, -, rfl⟩ := List.mem_map.mp hline
    exact event.isWord_token.isTidy
  | statuses values =>
    obtain ⟨status, -, rfl⟩ := List.mem_map.mp hline
    exact status.isWord_token.isTidy
  | noMatch => cases hline

end Query

/-! ## Orders -/

/-- Texts are ordered by code points, the first that differs deciding. -/
theorem Text.compare_eq_lt_iff {a b : Text} : compare a b = .lt ↔ a.map Char.toNat < b.map Char.toNat := by
  induction a generalizing b with
  | nil =>
    cases b with
    | nil => simp [Std.ReflCmp.compare_self]
    | cons y ys => exact iff_of_true rfl (List.nil_lt_cons ..)
  | cons x xs ih =>
    cases b with
    | nil => exact iff_of_false nofun (List.not_lt_nil _)
    | cons y ys =>
      have hlt : compare x y = .lt ↔ x.toNat < y.toNat := compareOfLessAndEq_eq_lt
      have heq : compare x y = .eq ↔ x.toNat = y.toNat := by
        rw [Std.LawfulEqCmp.compare_eq_iff_eq, Char.toNat_inj]
      have hcons : compare (x :: xs) (y :: ys) = (compare x y).then (compare xs ys) := List.compareLex_cons_cons
      rw [hcons, Ordering.then_eq_lt, hlt, heq, ih, List.map_cons, List.map_cons, List.cons_lt_cons_iff]

theorem Event.compare_eq_lt_iff {a b : Event} : compare a b = .lt ↔ a.index < b.index := Nat.compare_eq_lt

theorem Status.compare_eq_lt_iff {a b : Status} : compare a b = .lt ↔ a.index < b.index := Nat.compare_eq_lt

namespace Query

/-! ## Lines in order -/

/-- The lines are in strictly ascending order: those of texts by code points, the others by the values
    that they are read as. -/
def Output.IsInOrder (o : Output) : Prop :=
  match o with
  | .texts _ => o.lines.Pairwise fun a b => a.map Char.toNat < b.map Char.toNat
  | .dates _ => ∃ times : List Timestamp, o.lines.map Timestamp.read = times.map .ok ∧
      times.Pairwise fun a b => a < b
  | .events _ => ∃ events : List Event, o.lines.map Event.read = events.map .ok ∧
      events.Pairwise fun a b => a.index < b.index
  | .statuses _ => ∃ statuses : List Status, o.lines.map Status.read = statuses.map .ok ∧
      statuses.Pairwise fun a b => a.index < b.index
  | .noMatch => o.lines = []

/-- What is read back line by line is what was written line by line. -/
theorem map_read_map_write {α ε : Type} {write : α → Text} {read : Text → Except ε α}
    (h : ∀ x, read (write x) = .ok x) (xs : List α) : (xs.map write).map read = xs.map .ok := by
  rw [List.map_map]
  exact List.map_congr_left fun x _ => h x

theorem Output.isInOrder (o : Output) : o.IsInOrder := by
  cases o with
  | texts values => exact values.ascending.imp Text.compare_eq_lt_iff.mp
  | dates values => exact ⟨values.toList, map_read_map_write Timestamp.read_write _, values.ascending⟩
  | events values =>
    exact ⟨values.toList, map_read_map_write readToken_token _, values.ascending.imp Event.compare_eq_lt_iff.mp⟩
  | statuses values =>
    exact ⟨values.toList, map_read_map_write readToken_token _, values.ascending.imp Status.compare_eq_lt_iff.mp⟩
  | noMatch => rfl

/-! ## Lines of answers -/

/-- The store gives the answer, to some query text or to some request. -/
def Gives (s : Store) (o : Output) : Prop := (∃ q, execute s q = .ok o) ∨ ∃ r, answer s r = .ok o

theorem isOnRecord_of_gives {s : Store} {o : Output} (h : Gives s o) : o.IsOnRecord s := by
  rcases h with ⟨q, h⟩ | ⟨r, h⟩
  · exact isOnRecord_of_execute h
  · exact isOnRecord_answerNoted h

structure ListsInOrder (s : Store) (o : Output) : Prop where
  length_eq : o.lines.length = o.size
  nodup : o.lines.Nodup
  in_order : o.IsInOrder
  on_record : ∀ line ∈ o.lines, ∃ e ∈ s.entries, ∃ f : Field, f.writeValue (f.part e) = line

theorem exists_part_of_mem_lines {s : Store} {o : Output} (ho : o.IsOnRecord s) {line : Text} (h : line ∈ o.lines) :
    ∃ e ∈ s.entries, ∃ f : Field, f.writeValue (f.part e) = line := by
  cases o with
  | texts values =>
    obtain ⟨e, he, hip | huser⟩ := ho line h
    · exact ⟨e, he, .ip, hip⟩
    · exact ⟨e, he, .user, huser⟩
  | dates values =>
    obtain ⟨t, ht, rfl⟩ := List.mem_map.mp h
    obtain ⟨e, he, rfl⟩ := ho t ht
    exact ⟨e, he, .date, rfl⟩
  | events values =>
    obtain ⟨event, hevent, rfl⟩ := List.mem_map.mp h
    obtain ⟨e, he, rfl⟩ := ho event hevent
    exact ⟨e, he, .event, rfl⟩
  | statuses values =>
    obtain ⟨status, hstatus, rfl⟩ := List.mem_map.mp h
    obtain ⟨e, he, rfl⟩ := ho status hstatus
    exact ⟨e, he, .status, rfl⟩
  | noMatch => cases h

/-- An answer has as many lines as values, no two alike, in ascending order, and all of them wordings of
    what is on record. Of two answers of one kind, also of different stores, the lines tell whether they
    are the same. -/
theorem answers_list_in_order {s : Store} {o : Output} (h : Gives s o) : ListsInOrder s o ∧
    ∀ t o', Gives t o' → o.kind = o'.kind → o.lines = o'.lines → o = o' := by
  refine ⟨⟨o.length_lines, o.nodup_lines, o.isInOrder, fun line hline => ?_⟩, fun _ _ _ => Output.lines_inj⟩
  exact exists_part_of_mem_lines (isOnRecord_of_gives h) hline

/-- New year comes after the leap second before it, although its line would sort before it. -/
theorem answers_list_in_order_new_year : ∃ (s : Store) (o : Output), execute s "get date".toList = .ok o ∧
    o.lines = ["31.12.2016 23:59:60".toList, "01.01.2017 00:00:00".toList] ∧ ListsInOrder s o := by
  let login (t : Timestamp) : Entry := ⟨"10.0.0.1".toList, "ann".toList, t, .login, 0, .ok⟩
  let s : Store := .ofEntries [login ⟨2017, 1, 1, 0, 0, 0, by decide⟩, login ⟨2016, 12, 31, 23, 59, 60, by decide⟩]
  have hdates : execute s "get date".toList = .ok (.dates s.dates) := by decide +kernel
  exact ⟨s, .dates s.dates, hdates, by decide, (answers_list_in_order (Or.inl ⟨_, hdates⟩)).1⟩

end Query
end ActivityLog
