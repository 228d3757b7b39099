/-
  ActivityLog.Proofs.Store.Join — stores put together, and periods cut in two.

  Putting entries behind others joins the answers (`Joins`): sets are united, of two
  earliest times the earlier one counts, numbers of entries add up and so do those for
  each task. A number of distinct values is not a sum; it is the size of the union. So
  nothing that can be asked shows the order of the entries (`agree_of_perm`), and
  only the questions that count entries show whether one stands there twice
  (`agreeOnValues_of_mem`).

  What is asked about a period is answered from the entries in it (`Narrows`). A moment of the
  period cuts it into the part before and the part after; as bounds do not belong to periods,
  the entries at the moment itself are in neither (`during_perm`). So every answer that depends
  on the period is joined from three: those for the two parts, and that of the entries at the
  moment alone (`SplitsAt`). Nothing is lost at the cut, and nothing counts twice.

  Where the bounds leave no moment between them there is nothing to tell (`TellsNothing`). And
  what is asked about the entries at one moment is told in full or not at all, as the moment
  lies in the period or not (`answers_split`).
-/

import ActivityLog.Proofs.Ordered
import ActivityLog.Proofs.Store.Question

namespace ActivityLog

namespace Store

open Query (Field)

/-! ## Stores that answer alike -/

/-- The stores answer every question alike that counts no entries. -/
structure AgreeOnValues (s t : Store) : Prop where
  sets : ∀ {f : Field} (q : SetQuestion f) (p : Period), q.ask s p = q.ask t p
  times : ∀ (q : TimeQuestion) (p : Period), q.ask s p = q.ask t p
  sizes : ∀ (q : SizeQuestion) (p : Period), q.ask s p = q.ask t p

structure Agree (s t : Store) : Prop extends AgreeOnValues s t where
  counts : ∀ (q : CountQuestion) (p : Period), q.ask s p = q.ask t p
  tallies : ∀ (q : TallyQuestion) (p : Period), q.ask s p = q.ask t p

section
variable {s t : Store}

theorem mem_map_within_congr {α : Type} (h : ∀ e, e ∈ s.entries ↔ e ∈ t.entries) (p : Period)
    (keep : Entry → Bool) (project : Entry → α) (y : α) :
    y ∈ (s.within p keep).map project ↔ y ∈ (t.within p keep).map project := by
  simp only [mem_map_within, h]

theorem values_congr {α : Type} [Ord α] [Std.TransOrd α] [Std.LawfulEqOrd α]
    (h : ∀ e, e ∈ s.entries ↔ e ∈ t.entries) (p : Period) (keep : Entry → Bool) (project : Entry → α) :
    s.values p keep project = t.values p keep project :=
  SortedSet.ofList_congr (mem_map_within_congr h p keep project)

/-- Values and earliest times tell only which entries there are. -/
theorem agreeOnValues_of_mem (h : ∀ e, e ∈ s.entries ↔ e ∈ t.entries) : AgreeOnValues s t where
  sets q p := by
    obtain ⟨period, keep, hq⟩ := q.exists_values p
    rw [hq, hq, values_congr h]
  times q p := by
    obtain ⟨keep, hq⟩ := q.exists_earliest
    rw [hq, hq]
    exact least?_congr (mem_map_within_congr h p keep _)
  sizes q p := by
    obtain ⟨keep, hq⟩ := q.exists_values
    rw [q.ask_eq_size, q.ask_eq_size, hq, hq, values_congr h]

/-- No question tells the order of the entries. -/
theorem agree_of_perm (h : s.entries.Perm t.entries) : Agree s t where
  toAgreeOnValues := agreeOnValues_of_mem fun _ => h.mem_iff
  counts q p := by
    obtain ⟨keep, hq⟩ := q.exists_within
    rw [hq, hq]
    exact (h.filter _).length_eq
  tallies q p := by
    obtain ⟨event, hq⟩ := q.exists_taskTally
    rw [hq, hq]
    exact Tally.ofKeys_perm ((h.filter _).map _)

end

/-! ## Entries behind others -/

/-- The answers of `u` are those of `s` and `t` joined. -/
structure Joins (s t u : Store) : Prop where
  sets : ∀ {f : Field} (q : SetQuestion f) (p : Period), q.ask u p = q.ask s p ∪ q.ask t p
  times : ∀ (q : TimeQuestion) (p : Period), q.ask u p = Option.merge leastOf (q.ask s p) (q.ask t p)
  counts : ∀ (q : CountQuestion) (p : Period), q.ask u p = q.ask s p + q.ask t p
  tallies : ∀ (q : TallyQuestion) (p : Period), q.ask u p = q.ask s p + q.ask t p
  sizes : ∀ (q : SizeQuestion) (p : Period), q.ask u p = (q.values s p ∪ q.values t p).size

section
variable {s t u : Store} (h : u.entries = s.entries ++ t.entries)
include h

theorem within_append (p : Period) (keep : Entry → Bool) : u.within p keep = s.within p keep ++ t.within p keep := by
  rw [within, h, List.filter_append]
  rfl

theorem values_append {α : Type} [Ord α] [Std.TransOrd α] [Std.LawfulEqOrd α] (p : Period)
    (keep : Entry → Bool) (project : Entry → α) :
    u.values p keep project = s.values p keep project ∪ t.values p keep project := by
  rw [values, within_append h, List.map_append, SortedSet.ofList_append]
  rfl

theorem joins_of_append : Joins s t u where
  sets q p := by
    obtain ⟨period, keep, hq⟩ := q.exists_values p
    rw [hq, hq, hq, values_append h]
  times q p := by
    obtain ⟨keep, hq⟩ := q.exists_earliest
    rw [hq, hq, hq, earliest, within_append h, List.map_append, least?_append]
    rfl
  counts q p := by
    obtain ⟨keep, hq⟩ := q.exists_within
    rw [hq, hq, hq, within_append h, List.length_append]
  tallies q p := by
    obtain ⟨event, hq⟩ := q.exists_taskTally
    rw [hq, hq, hq, taskTally, within_append h, List.map_append, Tally.ofKeys_append]
    rfl
  sizes q p := by
    obtain ⟨keep, hq⟩ := q.exists_values
    rw [q.ask_eq_size, hq, hq, hq, values_append h]

end

/-- No entry takes a value out of a set. -/
theorem mem_ask_mono {s t : Store} (h : s.entries ⊆ t.entries) {f : Field} (q : SetQuestion f) (p : Period)
    {y : f.Value} (hy : y ∈ q.ask s p) : y ∈ q.ask t p := by
  obtain ⟨period, keep, hq⟩ := q.exists_values p
  rw [hq] at hy ⊢
  obtain ⟨e, he, hrest⟩ := mem_values.mp hy
  exact mem_values.mpr ⟨e, h he, hrest⟩

/-- The answers of two lists of entries together are the answers of each, joined. So their order is
    never told, further entries keep the listed values, and an entry that is there already changes
    only what counts entries. -/
theorem answers_join (xs ys : List Entry) :
    Joins (ofEntries xs) (ofEntries ys) (ofEntries (xs ++ ys)) ∧
    (∀ zs : List Entry, xs.Perm zs → Agree (ofEntries xs) (ofEntries zs)) ∧
    (∀ zs : List Entry, xs ⊆ zs → ∀ {f : Field} (q : SetQuestion f) (p : Period) (y : f.Value),
      y ∈ q.ask (ofEntries xs) p → y ∈ q.ask (ofEntries zs) p) ∧
    (∀ e ∈ xs ++ ys, AgreeOnValues (ofEntries (xs ++ e :: ys)) (ofEntries (xs ++ ys))) := by
  refine ⟨joins_of_append rfl, fun zs h => agree_of_perm h, fun zs h f q p y hy => mem_ask_mono h q p hy,
    fun e he => agreeOnValues_of_mem fun e' => ?_⟩
  show e' ∈ xs ++ e :: ys ↔ e' ∈ xs ++ ys
  rw [List.perm_middle.mem_iff, List.mem_cons, or_iff_right_of_imp]
  rintro rfl
  exact he

/-- An attempt that is on record twice counts twice, and nothing else tells. -/
theorem answers_join_repeated_attempt : ∃ e : Entry,
    AgreeOnValues (ofEntries [e, e]) (ofEntries [e]) ∧
    (ofEntries [e]).attemptCount 18 .all = 1 ∧ (ofEntries [e, e]).attemptCount 18 .all = 2 := by
  let e : Entry := ⟨"10.0.0.1".toList, "ann".toList, ⟨2021, 10, 14, 11, 38, 21, by decide⟩, .solveTask, 18, .ok⟩
  exact ⟨e, (answers_join [e] []).2.2.2 e (List.mem_cons_self ..), by decide, by decide⟩

end Store

section
variable {p : Period} {t : Timestamp}

theorem Timestamp.lt_trichotomy (t u : Timestamp) : t < u ∨ u < t ∨ t = u := by
  cases h : compare t u with
  | lt => exact Or.inl h
  | eq => exact Or.inr (Or.inr (Std.LawfulEqCmp.eq_of_compare h))
  | gt => exact Or.inr (Or.inl (Std.OrientedCmp.lt_of_gt h))

theorem Timestamp.lt_asymm {t u : Timestamp} (h : t < u) : ¬ u < t :=
  Std.OrientedCmp.not_lt_of_lt h

/-- The part of the period before one of its moments. -/
theorem Period.contains_with_before (ht : p.contains t = true) (u : Timestamp) :
    Period.contains { p with before := some t } u = true ↔ p.contains u = true ∧ u < t := by
  obtain ⟨-, hupper⟩ := Period.contains_iff.mp ht
  simp only [Period.contains_iff, Option.some.injEq, forall_eq']
  constructor
  · intro h
    exact ⟨⟨h.1, fun upper hu => Std.TransCmp.lt_trans h.2 (hupper upper hu)⟩, h.2⟩
  · intro h
    exact ⟨h.1.1, h.2⟩

/-- The part of the period after one of its moments. -/
theorem Period.contains_with_after (ht : p.contains t = true) (u : Timestamp) :
    Period.contains { p with after := some t } u = true ↔ p.contains u = true ∧ t < u := by
  obtain ⟨hlower, -⟩ := Period.contains_iff.mp ht
  simp only [Period.contains_iff, Option.some.injEq, forall_eq']
  constructor
  · intro h
    exact ⟨⟨fun lower hl => Std.TransCmp.lt_trans (hlower lower hl) h.1, h.2⟩, h.1⟩
  · intro h
    exact ⟨h.2, h.1.2⟩

end

namespace Store

open Query (Field)

/-! ## The entries of a period -/

def during (s : Store) (p : Period) : Store := ofEntries (s.entries.filter fun e => p.contains e.time)

def stamped (s : Store) (t : Timestamp) : Store := ofEntries (s.entries.filter fun e => e.time = t)

/-- What `s` answers about the period, `t` answers about all time. -/
structure Narrows (s : Store) (p : Period) (t : Store) : Prop where
  sets : ∀ {f : Field} (q : SetQuestion f), q.IsRanged → q.ask s p = q.ask t .all
  times : ∀ q : TimeQuestion, q.ask s p = q.ask t .all
  counts : ∀ q : CountQuestion, q.ask s p = q.ask t .all
  tallies : ∀ q : TallyQuestion, q.ask s p = q.ask t .all

theorem within_during (s : Store) (p : Period) (keep : Entry → Bool) :
    (s.during p).within .all keep = s.within p keep := by
  show (s.entries.filter fun e => p.contains e.time).filter keep = s.within p keep
  rw [List.filter_filter, within]
  exact List.filter_congr fun e _ => Bool.and_comm ..

/-- Entries outside the period do not tell. -/
theorem narrows_during (s : Store) (p : Period) : Narrows s p (s.during p) where
  sets q h := by
    obtain ⟨keep, hq⟩ := SetQuestion.exists_keep h
    rw [hq, hq, values, values, within_during]
  times q := by
    obtain ⟨keep, hq⟩ := q.exists_earliest
    rw [hq, hq, earliest, earliest, within_during]
  counts q := by
    obtain ⟨keep, hq⟩ := q.exists_within
    rw [hq, hq, within_during]
  tallies q := by
    obtain ⟨event, hq⟩ := q.exists_taskTally
    rw [hq, hq, taskTally, taskTally, within_during]

/-! ## The cut -/

/-- Every entry is before the moment, after it or at it. -/
theorem perm_cut (t : Timestamp) (xs : List Entry) :
    xs.Perm ((xs.filter fun e => e.time < t) ++ (xs.filter fun e => t < e.time) ++ xs.filter fun e => e.time = t) := by
  induction xs with
  | nil => exact .nil
  | cons e xs ih =>
    rcases Timestamp.lt_trichotomy e.time t with h | h | h
    · have hgt : ¬ t < e.time := Timestamp.lt_asymm h
      have hne : e.time ≠ t := ne_of_compare_lt h
      simp only [List.filter_cons, h, hgt, hne, decide_true, decide_false, if_true, Bool.false_eq_true, if_false]
      exact ih.cons e
    · have hlt : ¬ e.time < t := Timestamp.lt_asymm h
      have hne : e.time ≠ t := (ne_of_compare_lt h).symm
      simp only [List.filter_cons, h, hlt, hne, decide_true, decide_false, if_true, Bool.false_eq_true, if_false]
      exact (ih.cons e).trans (List.perm_middle.symm.append_right _)
    · have hself : ¬ t < t := fun hlt => ne_of_compare_lt hlt rfl
      simp only [List.filter_cons, h, hself, decide_true, decide_false, if_true, Bool.false_eq_true, if_false]
      exact (ih.cons e).trans List.perm_middle.symm

/-- A narrower period has those entries of the wider one that it keeps. -/
theorem entries_during (s : Store) {p part : Period} (keep : Timestamp → Bool)
    (h : ∀ u, part.contains u = true ↔ p.contains u = true ∧ keep u = true) :
    (s.during part).entries = (s.during p).entries.filter fun e => keep e.time := by
  simp only [during, ofEntries, List.filter_filter]
  refine List.filter_congr fun e _ => ?_
  rw [Bool.eq_iff_iff, h, Bool.and_eq_true, and_comm]

theorem entries_stamped (s : Store) {p : Period} {t : Timestamp} (ht : p.contains t = true) :
    (s.stamped t).entries = (s.during p).entries.filter fun e => e.time = t := by
  simp only [stamped, during, ofEntries, List.filter_filter]
  refine List.filter_congr fun e _ => ?_
  rw [Bool.eq_iff_iff, Bool.and_eq_true, decide_eq_true_iff]
  exact ⟨fun h => ⟨h, h ▸ ht⟩, And.left⟩

/-- The entries of a period are those before one of its moments, those after it and those at it. -/
theorem during_perm (s : Store) {p : Period} {t : Timestamp} (ht : p.contains t = true) :
    (s.during p).entries.Perm ((s.during { p with before := some t }).entries ++
      (s.during { p with after := some t }).entries ++ (s.stamped t).entries) := by
  have hbefore : (s.during { p with before := some t }).entries = (s.during p).entries.filter fun e => e.time < t :=
    s.entries_during (fun u => u < t) fun u => by rw [Period.contains_with_before ht, decide_eq_true_iff]
  have hafter : (s.during { p with after := some t }).entries = (s.during p).entries.filter fun e => t < e.time :=
    s.entries_during (fun u => t < u) fun u => by rw [Period.contains_with_after ht, decide_eq_true_iff]
  rw [hbefore, hafter, s.entries_stamped ht]
  exact perm_cut t (s.during p).entries

/-- The answers for the period are those for its part before `t`, those for its part after `t` and those
    about the entries at `t`, joined. -/
structure SplitsAt (s : Store) (p : Period) (t : Timestamp) : Prop where
  sets : ∀ {f : Field} (q : SetQuestion f), q.IsRanged →
    q.ask s p = q.ask s { p with before := some t } ∪ q.ask s { p with after := some t } ∪ q.ask (s.stamped t) .all
  times : ∀ q : TimeQuestion, q.ask s p = Option.merge leastOf
    (Option.merge leastOf (q.ask s { p with before := some t }) (q.ask s { p with after := some t }))
    (q.ask (s.stamped t) .all)
  counts : ∀ q : CountQuestion,
    q.ask s p = q.ask s { p with before := some t } + q.ask s { p with after := some t } + q.ask (s.stamped t) .all
  tallies : ∀ q : TallyQuestion,
    q.ask s p = q.ask s { p with before := some t } + q.ask s { p with after := some t } + q.ask (s.stamped t) .all

theorem splitsAt (s : Store) {p : Period} {t : Timestamp} (ht : p.contains t = true) : SplitsAt s p t := by
  let before := s.during { p with before := some t }
  let after := s.during { p with after := some t }
  let parts := ofEntries (before.entries ++ after.entries)
  let whole := ofEntries (before.entries ++ after.entries ++ (s.stamped t).entries)
  -- All of it is asked about all time, so that only the entries of the stores differ.
  have hparts : Joins before after parts := joins_of_append rfl
  have hwhole : Joins parts (s.stamped t) whole := joins_of_append rfl
  have hperm : Agree (s.during p) whole := agree_of_perm (during_perm s ht)
  have hp := narrows_during s p
  have hbefore := narrows_during s { p with before := some t }
  have hafter := narrows_during s { p with after := some t }
  constructor
  · intro f q hq
    rw [hp.sets q hq, hperm.sets, hwhole.sets, hparts.sets, hbefore.sets q hq, hafter.sets q hq]
  · intro q
    rw [hp.times, hperm.times, hwhole.times, hparts.times, hbefore.times, hafter.times]
  · intro q
    rw [hp.counts, hperm.counts, hwhole.counts, hparts.counts, hbefore.counts, hafter.counts]
  · intro q
    rw [hp.tallies, hperm.tallies, hwhole.tallies, hparts.tallies, hbefore.tallies, hafter.tallies]

/-! ## Periods without moments -/

/-- Nothing is told about the period. -/
structure TellsNothing (s : Store) (p : Period) : Prop where
  sets : ∀ {f : Field} (q : SetQuestion f), q.IsRanged → q.ask s p = .empty
  times : ∀ q : TimeQuestion, q.ask s p = none
  counts : ∀ q : CountQuestion, q.ask s p = 0
  tallies : ∀ q : TallyQuestion, q.ask s p = .empty

theorem within_eq_nil {s : Store} {p : Period} (h : ∀ t, ¬ p.contains t = true) (keep : Entry → Bool) :
    s.within p keep = [] :=
  List.eq_nil_iff_forall_not_mem.mpr fun e he => h e.time (mem_within.mp he).2.1

theorem tellsNothing (s : Store) {p : Period} (h : ∀ t, ¬ p.contains t = true) : TellsNothing s p where
  sets q hq := by
    obtain ⟨keep, hask⟩ := SetQuestion.exists_keep hq
    rw [hask, values, within_eq_nil h]
    rfl
  times q := by
    obtain ⟨keep, hask⟩ := q.exists_earliest
    rw [hask, earliest, within_eq_nil h]
    rfl
  counts q := by
    obtain ⟨keep, hask⟩ := q.exists_within
    rw [hask, within_eq_nil h]
    rfl
  tallies q := by
    obtain ⟨event, hask⟩ := q.exists_taskTally
    rw [hask, taskTally, within_eq_nil h]
    rfl

/-! ## Single moments -/

/-- About the entries at one moment a period tells everything or nothing. -/
theorem ask_eq_ite_of_date? {f : Field} {q : SetQuestion f} {t : Timestamp} (hq : q.date? = some t) (s : Store)
    (p : Period) : q.ask s p = if p.contains t = true then q.ask s .all else .empty := by
  rw [SetQuestion.ask_of_date? hq, SetQuestion.ask_of_date? hq]
  refine SortedSet.ext fun y => ?_
  split
  · rename_i ht
    simp only [mem_values, decide_eq_true_eq]
    refine exists_congr fun e => and_congr_right fun _ => and_congr_left fun h => ?_
    rw [h.1]
    exact iff_of_true ht (Period.contains_all t)
  · rename_i ht
    simp only [mem_values, decide_eq_true_eq]
    refine iff_of_false ?_ nofun
    rintro ⟨e, -, htime, rfl, -⟩
    exact ht htime

/-- Where a moment of a period cuts it in two, every answer for the period is joined from those for the
    parts and that of the entries at the moment. A period whose lower bound is not below its upper one
    tells nothing. About the entries at one moment a period tells everything if the moment is in it,
    and nothing otherwise. -/
theorem answers_split (s : Store) (p : Period) :
    (∀ t, p.contains t = true → SplitsAt s p t) ∧
    (∀ lower upper, p.after = some lower → p.before = some upper → ¬ lower < upper → TellsNothing s p) ∧
    ∀ {f : Field} (q : SetQuestion f) (t : Timestamp), q.date? = some t →
      q.ask s p = if p.contains t = true then q.ask s .all else .empty := by
  refine ⟨fun t => splitsAt s, ?_, fun q t hq => ask_eq_ite_of_date? hq s p⟩
  intro lower upper hlower hupper hle
  refine tellsNothing s fun t ht => hle ?_
  obtain ⟨hafter, hbefore⟩ := Period.contains_iff.mp ht
  exact Std.TransCmp.lt_trans (hafter lower hlower) (hbefore upper hupper)

/-- Two attempts in a leap second are counted with it and not with either side of it, and there is nothing
    between the leap second and itself. -/
theorem answers_split_at_leap_second : ∃ (s : Store) (t : Timestamp), t.second = 60 ∧
    s.attemptCount 18 .all = s.attemptCount 18 (.upTo t) + s.attemptCount 18 (.since t) + 2 ∧
    s.attemptCount 18 (.between t t) = 0 ∧ s.usersAt t (.since t) = .empty := by
  let t : Timestamp := ⟨2016, 12, 31, 23, 59, 60, by decide⟩
  let attempt (t : Timestamp) : Entry := ⟨"10.0.0.1".toList, "ann".toList, t, .solveTask, 18, .failed⟩
  let s : Store := .ofEntries [attempt t, attempt ⟨2017, 1, 1, 0, 0, 0, by decide⟩, attempt t,
    attempt ⟨2016, 12, 31, 23, 59, 59, by decide⟩]
  refine ⟨s, t, rfl, ?_, ?_, ?_⟩
  · exact ((answers_split s .all).1 t rfl).counts (.attemptCount 18)
  · exact ((answers_split s (.between t t)).2.1 t t rfl rfl (by decide)).counts (.attemptCount 18)
  · exact (answers_split s (.since t)).2.2 (.usersAt t) t rfl

end Store
end ActivityLog
