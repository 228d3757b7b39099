/-
  ActivityLog.Proofs.Ordered — laws of sets, tallies and least values.

  The set of some values depends on which values there are, not on their order or number
  (`SortedSet.ofList_congr`), and the set of two lists together is the union of the set of
  each (`ofList_append`). Any number of sets have a union (`unions`).

  The least of some values is one of them, and none of them is below it
  (`least?_eq_some_iff`). It is the first member of their set (`least?_eq_head?`), and the
  least value of two lists together is the lesser of the least of each (`least?_append`).

  A tally is known by the keys it lists and the count of each (`Tally.ext`). A tally of
  some keys counts each as often as it occurs (`count_ofKeys`), so its counts add up to the
  number of the keys (`total_ofKeys`). Tallies add up key by key (`s + t`), and counting two
  lists together adds up their tallies (`ofKeys_append`).
-/

import Mathlib.Data.List.Nodup
import ActivityLog.Ordered

namespace ActivityLog

/-! ## Sets -/

variable {α : Type} [Ord α]

theorem SortedSet.toList_inj {s t : SortedSet α} (h : s.toList = t.toList) : s = t := by
  cases s
  cases t
  congr

variable [Std.TransOrd α]

theorem ne_of_compare_lt {a b : α} (h : compare a b = .lt) : a ≠ b := by
  rintro rfl
  have hself : compare a a = .eq := Std.ReflCmp.compare_self
  rw [hself] at h
  cases h

namespace SortedSet

theorem nodup_toList (s : SortedSet α) : s.toList.Nodup := s.ascending.imp ne_of_compare_lt

variable [Std.LawfulEqOrd α]

theorem ofList_congr {xs ys : List α} (h : ∀ a, a ∈ xs ↔ a ∈ ys) : ofList xs = ofList ys :=
  ext fun a => by rw [mem_ofList, mem_ofList, h]

theorem ofList_append (xs ys : List α) : ofList (xs ++ ys) = ofList xs ∪ ofList ys :=
  ext fun a => by rw [mem_ofList, mem_union, mem_ofList, mem_ofList, List.mem_append]

theorem size_ofList_le (xs : List α) : (ofList xs).size ≤ xs.length :=
  (ofList xs).nodup_toList.length_le_of_subset fun _ ha => mem_ofList.mp ha

theorem size_ofList_eq_zero_iff {xs : List α} : (ofList xs).size = 0 ↔ xs = [] := by
  rw [size, List.length_eq_zero_iff, List.eq_nil_iff_forall_not_mem, List.eq_nil_iff_forall_not_mem]
  exact forall_congr' fun a => not_congr mem_ofList

def unions (sets : List (SortedSet α)) : SortedSet α := sets.foldr (· ∪ ·) empty

theorem mem_unions {a : α} {sets : List (SortedSet α)} : a ∈ unions sets ↔ ∃ s ∈ sets, a ∈ s := by
  induction sets with
  | nil => simp [unions, empty, mem_def]
  | cons s sets ih =>
    simp only [List.mem_cons, exists_eq_or_imp, ← ih]
    exact mem_union

end SortedSet

/-! ## Least values -/

variable {α : Type} [Ord α]

theorem leastOf_eq_or (a b : α) : leastOf a b = a ∨ leastOf a b = b := by
  unfold leastOf
  split <;> simp

@[simp] theorem least?_eq_none_iff {xs : List α} : least? xs = none ↔ xs = [] := by
  cases xs <;> simp [least?]

variable [Std.TransOrd α]

theorem isLE_iff_not_lt {a b : α} : (compare a b).isLE = true ↔ ¬ compare b a = .lt :=
  ⟨Std.OrientedCmp.not_lt_of_isLE, fun h => Classical.byContradiction fun hn => h (Std.OrientedCmp.lt_of_not_isLE hn)⟩

theorem leastOf_isLE_left (a b : α) : (compare (leastOf a b) a).isLE = true := by
  unfold leastOf
  split
  · rename_i h
    rw [h]
    rfl
  · exact Std.ReflOrd.isLE_rfl

theorem leastOf_isLE_right (a b : α) : (compare (leastOf a b) b).isLE = true := by
  unfold leastOf
  split
  · exact Std.ReflOrd.isLE_rfl
  · rename_i h
    exact isLE_iff_not_lt.mpr h

/-- One more value keeps the running least a least one. -/
theorem foldl_leastOf (x : α) (xs : List α) : xs.foldl leastOf x ∈ x :: xs ∧
    ∀ y ∈ x :: xs, (compare (xs.foldl leastOf x) y).isLE = true := by
  induction xs generalizing x with
  | nil => simp
  | cons z zs ih =>
    obtain ⟨hmem, hle⟩ := ih (leastOf x z)
    have hhead := hle _ (List.mem_cons_self ..)
    rw [List.foldl_cons]
    constructor
    · rcases List.mem_cons.mp hmem with h | h
      · rcases leastOf_eq_or x z with hx | hz
        · exact List.mem_cons.mpr (Or.inl (h.trans hx))
        · exact List.mem_cons_of_mem _ (List.mem_cons.mpr (Or.inl (h.trans hz)))
      · exact List.mem_cons_of_mem _ (List.mem_cons_of_mem _ h)
    · intro y hy
      rcases List.mem_cons.mp hy with rfl | hy
      · exact Std.TransOrd.isLE_trans hhead (leastOf_isLE_left y z)
      rcases List.mem_cons.mp hy with rfl | hy
      · exact Std.TransOrd.isLE_trans hhead (leastOf_isLE_right x y)
      · exact hle y (List.mem_cons_of_mem _ hy)

variable [Std.LawfulEqOrd α]

theorem least?_eq_some_iff {xs : List α} {m : α} :
    least? xs = some m ↔ m ∈ xs ∧ ∀ x ∈ xs, (compare m x).isLE = true := by
  cases xs with
  | nil => simp [least?]
  | cons x xs =>
    obtain ⟨hmem, hle⟩ := foldl_leastOf x xs
    rw [least?, Option.some_inj]
    constructor
    · rintro rfl
      exact ⟨hmem, hle⟩
    · rintro ⟨hm, hlem⟩
      exact Std.LawfulEqCmp.eq_of_compare (Std.OrientedCmp.isLE_antisymm (hle m hm) (hlem _ hmem))

theorem least?_congr {xs ys : List α} (h : ∀ x, x ∈ xs ↔ x ∈ ys) : least? xs = least? ys := by
  ext m
  simp only [least?_eq_some_iff, h]

/-- A set begins with its least member. -/
theorem SortedSet.head?_eq_some_iff {s : SortedSet α} {m : α} :
    s.toList.head? = some m ↔ m ∈ s ∧ ∀ x ∈ s, (compare m x).isLE = true := by
  obtain ⟨xs, hxs⟩ := s
  cases xs with
  | nil => simp [mem_def]
  | cons x xs =>
    have hx : ∀ y ∈ x :: xs, (compare x y).isLE = true := by
      intro y hy
      rcases List.mem_cons.mp hy with rfl | hy
      · exact Std.ReflOrd.isLE_rfl
      · exact Ordering.isLE_of_eq_lt ((List.pairwise_cons.mp hxs).1 y hy)
    rw [List.head?_cons, Option.some_inj]
    constructor
    · rintro rfl
      exact ⟨List.mem_cons_self .., hx⟩
    · intro h
      obtain ⟨hm, hle⟩ := h
      exact Std.LawfulEqCmp.eq_of_compare (Std.OrientedCmp.isLE_antisymm (hx m hm) (hle x (List.mem_cons_self ..)))

/-- The least of the values comes first in the set of them. -/
theorem least?_eq_head? (xs : List α) : least? xs = (SortedSet.ofList xs).toList.head? := by
  ext m
  simp only [least?_eq_some_iff, SortedSet.head?_eq_some_iff, SortedSet.mem_ofList]

theorem least?_append (xs ys : List α) :
    least? (xs ++ ys) = Option.merge leastOf (least? xs) (least? ys) := by
  cases hx : least? xs with
  | none => simp [least?_eq_none_iff.mp hx]
  | some a =>
    cases hy : least? ys with
    | none => simp [least?_eq_none_iff.mp hy, hx]
    | some b =>
      obtain ⟨ha, hlea⟩ := least?_eq_some_iff.mp hx
      obtain ⟨hb, hleb⟩ := least?_eq_some_iff.mp hy
      rw [Option.merge_some_some, least?_eq_some_iff]
      constructor
      · rcases leastOf_eq_or a b with h | h <;> rw [h]
        · exact List.mem_append_left ys ha
        · exact List.mem_append_right xs hb
      · intro z hz
        rcases List.mem_append.mp hz with hz | hz
        · exact Std.TransOrd.isLE_trans (leastOf_isLE_left a b) (hlea z hz)
        · exact Std.TransOrd.isLE_trans (leastOf_isLE_right a b) (hleb z hz)

namespace Tally

/-! ## Tallies -/

variable {κ : Type} [Ord κ]

theorem toList_inj {s t : Tally κ} (h : s.toList = t.toList) : s = t := by
  cases s
  cases t
  congr

def keySet (t : Tally κ) : SortedSet κ := ⟨t.keys, List.pairwise_map.mpr t.ascending⟩

variable [Std.LawfulEqOrd κ]

/-! ## Reading a count -/

theorem count_of_not_mem {t : Tally κ} {k : κ} (h : k ∉ t.keySet) : t.count k = 0 := by
  have hfind : (t.toList.find? fun e => compare e.1 k = .eq) = none := by
    simp only [List.find?_eq_none, decide_eq_true_eq]
    intro e he hcompare
    exact h (List.mem_map.mpr ⟨e, he, Std.LawfulEqCmp.eq_of_compare hcompare⟩)
  simp only [count, hfind]

variable [Std.TransOrd κ]

theorem count_of_mem {t : Tally κ} {k : κ} {n : Nat} (h : (k, n) ∈ t.toList) : t.count k = n := by
  unfold count
  split
  · rename_i e hfind
    have hmem := List.mem_of_find?_eq_some hfind
    have hkey : e.1 = k := by simpa using List.find?_some hfind
    rw [List.inj_on_of_nodup_map t.keySet.nodup_toList hmem h hkey]
  · rename_i hfind
    simp only [List.find?_eq_none, decide_eq_true_eq] at hfind
    exact absurd Std.ReflCmp.compare_self (hfind _ h)

theorem toList_eq (t : Tally κ) : t.toList = t.keySet.toList.map fun k => (k, t.count k) := by
  simp only [keySet, keys, List.map_map]
  refine (List.map_id _).symm.trans (List.map_congr_left fun e he => ?_)
  exact Prod.ext rfl (count_of_mem he).symm

/-- A listed key stands there with its count and with no other number. -/
theorem mem_toList_iff {t : Tally κ} {k : κ} {n : Nat} : (k, n) ∈ t.toList ↔ k ∈ t.keySet ∧ t.count k = n := by
  constructor
  · intro h
    exact ⟨List.mem_map.mpr ⟨(k, n), h, rfl⟩, count_of_mem h⟩
  · intro h
    obtain ⟨hk, rfl⟩ := h
    rw [toList_eq]
    exact List.mem_map.mpr ⟨k, hk, rfl⟩

theorem ext {s t : Tally κ} (hkeys : ∀ k, k ∈ s.keySet ↔ k ∈ t.keySet) (hcount : ∀ k, s.count k = t.count k) :
    s = t := by
  have hset : s.keySet = t.keySet := SortedSet.ext hkeys
  refine toList_inj ?_
  rw [toList_eq s, toList_eq t, hset]
  exact List.map_congr_left fun k _ => by rw [hcount k]

/-! ## Counting on -/

theorem mem_keySet_add {key k : κ} {t : Tally κ} : k ∈ (t.add key).keySet ↔ k = key ∨ k ∈ t.keySet := keys_bump

omit [Std.TransOrd κ] in
theorem find?_bump_of_ne {key k : κ} (h : k ≠ key) (entries : List (κ × Nat)) :
    ((bump key entries).find? fun e => compare e.1 k = .eq) = entries.find? fun e => compare e.1 k = .eq := by
  have hkey : compare key k ≠ .eq := fun hc => h (Std.LawfulEqCmp.eq_of_compare hc).symm
  induction entries with
  | nil => simp [bump, hkey]
  | cons e more ih =>
    unfold bump
    split
    · simp [hkey]
    · rename_i heq
      have he : compare e.1 k ≠ .eq := Std.LawfulEqCmp.eq_of_compare heq ▸ hkey
      simp [he]
    · simp only [List.find?_cons, ih]

theorem count_add_of_ne {key k : κ} (h : k ≠ key) (t : Tally κ) : (t.add key).count k = t.count k := by
  simp only [count, add, find?_bump_of_ne h]

/-- A key that is listed is counted up, any other one is put in with a count of one. -/
theorem mem_bump_self (key : κ) {entries : List (κ × Nat)}
    (h : entries.Pairwise fun a b => compare a.1 b.1 = .lt) :
    (∃ n, (key, n) ∈ entries ∧ (key, n + 1) ∈ bump key entries) ∨
    (key ∉ entries.map (·.1) ∧ (key, 1) ∈ bump key entries) := by
  induction entries with
  | nil => simp [bump]
  | cons e more ih =>
    obtain ⟨k, n⟩ := e
    obtain ⟨hk, hmore⟩ := List.pairwise_cons.mp h
    unfold bump
    split
    · rename_i hlt
      refine Or.inr ⟨fun hmem => ?_, List.mem_cons_self ..⟩
      -- The key is below the first one, so it is below all of them.
      obtain ⟨e, he, hekey⟩ := List.mem_map.mp hmem
      have hbelow : compare key e.1 = .lt := by
        rcases List.mem_cons.mp he with rfl | he
        · exact hlt
        · exact Std.TransCmp.lt_trans hlt (hk e he)
      exact ne_of_compare_lt hbelow hekey.symm
    · rename_i heq
      obtain rfl := Std.LawfulEqCmp.eq_of_compare heq
      exact Or.inl ⟨n, List.mem_cons_self .., List.mem_cons_self ..⟩
    · rename_i hgt
      rcases ih hmore with ⟨m, hm, hbump⟩ | ⟨hno, hbump⟩
      · exact Or.inl ⟨m, List.mem_cons_of_mem _ hm, List.mem_cons_of_mem _ hbump⟩
      · refine Or.inr ⟨fun hmem => ?_, List.mem_cons_of_mem _ hbump⟩
        rcases List.mem_cons.mp hmem with hkey | hmem
        · exact ne_of_compare_lt (Std.OrientedCmp.lt_of_gt hgt) hkey.symm
        · exact hno hmem

theorem count_add_self (key : κ) (t : Tally κ) : (t.add key).count key = t.count key + 1 := by
  rcases mem_bump_self key t.ascending with ⟨n, hn, hbump⟩ | ⟨hno, hbump⟩
  · rw [count_of_mem hn, count_of_mem (t := t.add key) hbump]
  · rw [count_of_not_mem (t := t) hno, count_of_mem (t := t.add key) hbump]

omit [Std.LawfulEqOrd κ] [Std.TransOrd κ] in
/-- One more occurrence adds one to the counts taken together, whether the key is new or not. -/
theorem total_bump (key : κ) (entries : List (κ × Nat)) :
    (bump key entries).foldr (fun e sum => e.2 + sum) 0 = entries.foldr (fun e sum => e.2 + sum) 0 + 1 := by
  induction entries with
  | nil => rfl
  | cons e more ih =>
    unfold bump
    split
    · simp only [List.foldr_cons]
      omega
    · simp only [List.foldr_cons]
      omega
    · simp only [List.foldr_cons, ih]
      omega

theorem total_add (key : κ) (t : Tally κ) : (t.add key).total = t.total + 1 := total_bump key t.toList

/-! ## A tally of keys -/

@[simp] theorem mem_keySet_ofKeys {k : κ} {keys : List κ} : k ∈ (ofKeys keys).keySet ↔ k ∈ keys := by
  induction keys with
  | nil => simp [ofKeys, empty, keySet, Tally.keys, SortedSet.mem_def]
  | cons key keys ih => exact mem_keySet_add.trans (by rw [List.mem_cons]; exact or_congr_right ih)

@[simp] theorem count_ofKeys [DecidableEq κ] (k : κ) (keys : List κ) : (ofKeys keys).count k = keys.count k := by
  induction keys with
  | nil => rfl
  | cons key keys ih =>
    by_cases h : k = key
    · subst h
      rw [List.count_cons_self, ← ih]
      exact count_add_self k _
    · rw [List.count_cons_of_ne (Ne.symm h), ← ih]
      exact count_add_of_ne h _

theorem mem_toList_ofKeys [DecidableEq κ] {k : κ} {n : Nat} {keys : List κ} :
    (k, n) ∈ (ofKeys keys).toList ↔ n = keys.count k ∧ 0 < n := by
  rw [mem_toList_iff, mem_keySet_ofKeys, count_ofKeys, ← List.count_pos_iff]
  omega

theorem toList_ofKeys_eq_nil_iff {keys : List κ} : (ofKeys keys).toList = [] ↔ keys = [] := by
  have hset : (ofKeys keys).keySet.toList = [] ↔ (ofKeys keys).toList = [] := List.map_eq_nil_iff
  rw [← hset, List.eq_nil_iff_forall_not_mem, List.eq_nil_iff_forall_not_mem]
  exact forall_congr' fun k => not_congr mem_keySet_ofKeys

theorem total_ofKeys (keys : List κ) : (ofKeys keys).total = keys.length := by
  induction keys with
  | nil => rfl
  | cons key keys ih =>
    calc (ofKeys (key :: keys)).total = (ofKeys keys).total + 1 := total_add key _
      _ = (key :: keys).length := by rw [ih, List.length_cons]

/-! ## Sums -/

/-- The keys of both tallies, each with the sum of its counts. -/
def plus (s t : Tally κ) : Tally κ where
  toList := (s.keySet ∪ t.keySet).toList.map fun k => (k, s.count k + t.count k)
  ascending := List.pairwise_map.mpr (s.keySet ∪ t.keySet).ascending

instance : Add (Tally κ) := ⟨plus⟩

@[simp] theorem keySet_plus (s t : Tally κ) : (s + t).keySet = s.keySet ∪ t.keySet := by
  refine SortedSet.ext fun k => ?_
  show k ∈ (plus s t).toList.map (·.1) ↔ _
  simp [plus, SortedSet.mem_def]

@[simp] theorem count_plus (s t : Tally κ) (k : κ) : (s + t).count k = s.count k + t.count k := by
  by_cases h : k ∈ s.keySet ∪ t.keySet
  · exact count_of_mem (List.mem_map.mpr ⟨k, h, rfl⟩)
  · have hs : k ∉ s.keySet := fun hs => h (SortedSet.mem_union.mpr (Or.inl hs))
    have ht : k ∉ t.keySet := fun ht => h (SortedSet.mem_union.mpr (Or.inr ht))
    rw [count_of_not_mem (t := s + t) (by rwa [keySet_plus]), count_of_not_mem hs, count_of_not_mem ht]

theorem ofKeys_append [DecidableEq κ] (xs ys : List κ) : ofKeys (xs ++ ys) = ofKeys xs + ofKeys ys :=
  ext (fun k => by simp) fun k => by simp [List.count_append]

theorem ofKeys_perm [DecidableEq κ] {xs ys : List κ} (h : xs.Perm ys) : ofKeys xs = ofKeys ys :=
  ext (fun k => by simp [h.mem_iff]) fun k => by simp [h.count_eq]

example : (ofKeys [3, (1 : Int)] + ofKeys [3, 2]).toList = [(1, 1), (2, 1), (3, 2)] := by decide

end Tally
end ActivityLog
