/-
  ActivityLog.Ordered — sets, tallies and least values of ordered types.

  A `SortedSet` is the strictly ascending list of its members, so a member stands in
  it once and two sets with the same members are the same list (`ext`). A `Tally` is a
  list of keys with their counts, in strictly ascending order of the keys; `count`
  reads 0 for a key that is not listed. Both are built by inserting one value after
  another.
-/

namespace ActivityLog

/-! ## Orders by a key -/

/-- The order of values by a key that each of them has. -/
abbrev orderBy {α κ : Type} [Ord κ] (key : α → κ) : Ord α := ⟨fun a b => compare (key a) (key b)⟩

theorem transOrd_orderBy {α κ : Type} [Ord κ] [Std.TransOrd κ] (key : α → κ) : @Std.TransOrd α (orderBy key) :=
  letI := orderBy key
  { eq_swap := fun {a b} => by
      show compare (key a) (key b) = (compare (key b) (key a)).swap
      exact Std.OrientedCmp.eq_swap
    isLE_trans := fun {a b c} hab hbc => by
      show (compare (key a) (key c)).isLE = true
      exact Std.TransCmp.isLE_trans (b := key b) hab hbc }

theorem lawfulEqOrd_orderBy {α κ : Type} [Ord κ] [Std.LawfulEqOrd κ] {key : α → κ}
    (hkey : ∀ {a b : α}, key a = key b → a = b) : @Std.LawfulEqOrd α (orderBy key) :=
  letI := orderBy key
  { compare_self := fun {a} => by
      show compare (key a) (key a) = .eq
      exact Std.ReflCmp.compare_self
    eq_of_compare := fun h => hkey (Std.LawfulEqOrd.eq_of_compare h) }

/-! ## Sets -/

/-- A strictly ascending list. -/
structure SortedSet (α : Type) [Ord α] where
  toList : List α
  ascending : toList.Pairwise fun a b => compare a b = .lt

namespace SortedSet

variable {α : Type} [Ord α]

instance [DecidableEq α] : DecidableEq (SortedSet α) := fun s t =>
  decidable_of_iff (s.toList = t.toList) (by cases s; cases t; simp)

instance [Repr α] : Repr (SortedSet α) := ⟨fun s n => reprPrec s.toList n⟩

instance : Membership α (SortedSet α) := ⟨fun s x => x ∈ s.toList⟩

theorem mem_def {s : SortedSet α} {x : α} : x ∈ s ↔ x ∈ s.toList := Iff.rfl

def empty : SortedSet α := ⟨[], .nil⟩

def size (s : SortedSet α) : Nat := s.toList.length

/-! ## Insertion -/

/-- Puts `x` into its place in an ascending list, unless it is there. -/
def place (x : α) : List α → List α
  | [] => [x]
  | y :: ys =>
    match compare x y with
    | .lt => x :: y :: ys
    | .eq => y :: ys
    | .gt => y :: place x ys

theorem mem_place [Std.LawfulEqOrd α] {x a : α} {ys : List α} : a ∈ place x ys ↔ a = x ∨ a ∈ ys := by
  induction ys with
  | nil => simp [place]
  | cons y ys ih =>
    unfold place
    split
    · simp
    · rename_i h
      have := Std.LawfulEqCmp.eq_of_compare h
      simp [this]
    · simp only [List.mem_cons, ih]
      exact ⟨fun h => by rcases h with h | h | h <;> simp [h], fun h => by rcases h with h | h | h <;> simp [h]⟩

variable [Std.TransOrd α] [Std.LawfulEqOrd α]

theorem place_ascending {x : α} {ys : List α} (h : ys.Pairwise fun a b => compare a b = .lt) :
    (place x ys).Pairwise fun a b => compare a b = .lt := by
  induction ys with
  | nil => simp [place]
  | cons y ys ih =>
    obtain ⟨hy, hys⟩ := List.pairwise_cons.mp h
    unfold place
    split
    · rename_i hx
      refine List.pairwise_cons.mpr ⟨fun a ha => ?_, h⟩
      rcases List.mem_cons.mp ha with rfl | ha
      · exact hx
      · exact Std.TransCmp.lt_trans hx (hy a ha)
    · exact h
    · rename_i hx
      refine List.pairwise_cons.mpr ⟨fun a ha => ?_, ih hys⟩
      rcases mem_place.mp ha with rfl | ha
      · exact Std.OrientedCmp.lt_of_gt hx
      · exact hy a ha

def insert (x : α) (s : SortedSet α) : SortedSet α := ⟨place x s.toList, place_ascending s.ascending⟩

def ofList (xs : List α) : SortedSet α := xs.foldr insert empty

def union (s t : SortedSet α) : SortedSet α := s.toList.foldr insert t

instance : Union (SortedSet α) := ⟨union⟩

/-! ## Members -/

theorem mem_insert {x a : α} {s : SortedSet α} : a ∈ s.insert x ↔ a = x ∨ a ∈ s := mem_place

@[simp] theorem mem_ofList {a : α} {xs : List α} : a ∈ ofList xs ↔ a ∈ xs := by
  induction xs with
  | nil => simp [ofList, empty, mem_def]
  | cons x xs ih => exact mem_insert.trans (by rw [List.mem_cons]; exact or_congr_right ih)

@[simp] theorem mem_union {a : α} {s t : SortedSet α} : a ∈ s ∪ t ↔ a ∈ s ∨ a ∈ t := by
  show a ∈ union s t ↔ _
  obtain ⟨xs, h⟩ := s
  simp only [union, mem_def (s := ⟨xs, h⟩)]
  clear h
  induction xs with
  | nil => simp
  | cons x xs ih => exact mem_insert.trans (by simp [ih, or_assoc])

theorem ext {s t : SortedSet α} (h : ∀ a, a ∈ s ↔ a ∈ t) : s = t := by
  obtain ⟨xs, hxs⟩ := s
  obtain ⟨ys, hys⟩ := t
  simp only [mem_def] at h
  congr
  induction xs generalizing ys with
  | nil =>
    cases ys with
    | nil => rfl
    | cons y ys => simpa using h y
  | cons x xs ih =>
    cases ys with
    | nil => simpa using h x
    | cons y ys =>
      obtain ⟨hx, hxs'⟩ := List.pairwise_cons.mp hxs
      obtain ⟨hy, hys'⟩ := List.pairwise_cons.mp hys
      have hirrefl : ∀ a : α, compare a a ≠ .lt := fun a => by simp [Std.ReflCmp.compare_self]
      have hxy : x = y := by
        rcases List.mem_cons.mp ((h x).mp (List.mem_cons_self ..)) with rfl | hxy
        · rfl
        rcases List.mem_cons.mp ((h y).mpr (List.mem_cons_self ..)) with rfl | hyx
        · rfl
        exact absurd (Std.TransCmp.lt_trans (hx y hyx) (hy x hxy)) (hirrefl x)
      subst hxy
      congr 1
      refine ih hxs' ys hys' fun a => ⟨fun ha => ?_, fun ha => ?_⟩
      · rcases List.mem_cons.mp ((h a).mp (List.mem_cons_of_mem _ ha)) with rfl | h'
        · exact absurd (hx a ha) (hirrefl a)
        · exact h'
      · rcases List.mem_cons.mp ((h a).mpr (List.mem_cons_of_mem _ ha)) with rfl | h'
        · exact absurd (hy a ha) (hirrefl a)
        · exact h'

end SortedSet

/-! ## Least values -/

variable {α : Type} [Ord α]

/-- The least of two values, the first where they are equal. -/
def leastOf (a b : α) : α := if compare b a = .lt then b else a

def least? (xs : List α) : Option α :=
  match xs with
  | [] => none
  | x :: xs => some (xs.foldl leastOf x)

example : least? [3, 1, 2, (1 : Int)] = some 1 := by decide

/-! ## Tallies -/

/-- Keys and their counts, the keys strictly ascending. -/
structure Tally (κ : Type) [Ord κ] where
  toList : List (κ × Nat)
  ascending : toList.Pairwise fun a b => compare a.1 b.1 = .lt

namespace Tally

variable {κ : Type} [Ord κ]

instance [DecidableEq κ] : DecidableEq (Tally κ) := fun s t =>
  decidable_of_iff (s.toList = t.toList) (by cases s; cases t; simp)

instance [Repr κ] : Repr (Tally κ) := ⟨fun s n => reprPrec s.toList n⟩

def empty : Tally κ := ⟨[], .nil⟩

def keys (t : Tally κ) : List κ := t.toList.map (·.1)

/-- The count of the key, 0 where it is not listed. -/
def count (key : κ) (t : Tally κ) : Nat :=
  match t.toList.find? fun entry => compare entry.1 key = .eq with
  | some entry => entry.2
  | none => 0

def total (t : Tally κ) : Nat := t.toList.foldr (fun entry sum => entry.2 + sum) 0

/-! ## Counting on -/

/-- Counts the key once more, putting it into its place where it is new. -/
def bump (key : κ) : List (κ × Nat) → List (κ × Nat)
  | [] => [(key, 1)]
  | (k, n) :: more =>
    match compare key k with
    | .lt => (key, 1) :: (k, n) :: more
    | .eq => (k, n + 1) :: more
    | .gt => (k, n) :: bump key more

variable [Std.LawfulEqOrd κ]

theorem keys_bump {key k : κ} {entries : List (κ × Nat)} :
    k ∈ (bump key entries).map (·.1) ↔ k = key ∨ k ∈ entries.map (·.1) := by
  induction entries with
  | nil => simp [bump]
  | cons e more ih =>
    unfold bump
    split
    · simp
    · rename_i h
      have := Std.LawfulEqCmp.eq_of_compare h
      simp [this]
    · simp only [List.map_cons, List.mem_cons, ih]
      exact ⟨fun h => by rcases h with h | h | h <;> simp [h], fun h => by rcases h with h | h | h <;> simp [h]⟩

variable [Std.TransOrd κ]

theorem bump_ascending {key : κ} {entries : List (κ × Nat)}
    (h : entries.Pairwise fun a b => compare a.1 b.1 = .lt) :
    (bump key entries).Pairwise fun a b => compare a.1 b.1 = .lt := by
  induction entries with
  | nil => simp [bump]
  | cons e more ih =>
    obtain ⟨he, hmore⟩ := List.pairwise_cons.mp h
    unfold bump
    split
    · rename_i hk
      refine List.pairwise_cons.mpr ⟨fun a ha => ?_, h⟩
      rcases List.mem_cons.mp ha with rfl | ha
      · exact hk
      · exact Std.TransCmp.lt_trans hk (he a ha)
    · exact List.pairwise_cons.mpr ⟨he, hmore⟩
    · rename_i hk
      refine List.pairwise_cons.mpr ⟨fun a ha => ?_, ih hmore⟩
      rcases keys_bump.mp (List.mem_map_of_mem (f := (·.1)) ha) with hkey | hkey
      · simpa only [hkey] using Std.OrientedCmp.lt_of_gt hk
      · obtain ⟨b, hb, hba⟩ := List.mem_map.mp hkey
        exact hba ▸ he b hb

def add (key : κ) (t : Tally κ) : Tally κ := ⟨bump key t.toList, bump_ascending t.ascending⟩

def ofKeys (keys : List κ) : Tally κ := keys.foldr add empty

example : (ofKeys [3, -1, 3, (2 : Int)]).toList = [(-1, 1), (2, 1), (3, 2)] := by decide

end Tally
end ActivityLog
