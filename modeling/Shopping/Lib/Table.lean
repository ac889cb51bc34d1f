import Mathlib.Algebra.BigOperators.Group.List.Lemmas
import Mathlib.Algebra.Order.BigOperators.Group.List
import Mathlib.Data.List.Sort
import Mathlib.Tactic.Linarith

/-!
# Tables with primary keys

A `Table` is the list of the rows of one database table, each under its
primary key, in key order.  The two fields `sorted` and `bounded` say that
the keys are distinct and that the next key is fresh, so no operation can
build a table with two rows under one key.

The operations are the ones the object-relational layer uses: a fetch by
key, an insert under the next key, an update of every row or of one row, a
write of a whole row under a given key, and a delete.  Aggregates are sums
over the rows.  The lemmas follow the operations: what a fetch sees after
each write, and what each write does to a sum.
-/

namespace Shopping

/-- Rows under their primary keys, oldest first. -/
structure Table (α : Type) where
  rows : List (Nat × α)
  next : Nat
  sorted : (rows.map Prod.fst).Pairwise (· < ·)
  bounded : ∀ k ∈ rows.map Prod.fst, k < next

namespace Table

variable {α : Type}

/-! ## Operations -/

/-- The table with no row.  The first key is 1. -/
def empty : Table α := ⟨[], 1, by simp, by simp⟩

/-- The row under the key `k`. -/
def get? (t : Table α) (k : Nat) : Option α :=
  (t.rows.find? fun p => p.1 == k).map Prod.snd

/-- Add a row under the next key. -/
def insert (t : Table α) (a : α) : Table α where
  rows := t.rows ++ [(t.next, a)]
  next := t.next + 1
  sorted := by
    rw [List.map_append, List.pairwise_append]
    refine ⟨t.sorted, by simp, fun j hj k hk => ?_⟩
    simp only [List.map_cons, List.map_nil, List.mem_singleton] at hk
    exact hk ▸ t.bounded j hj
  bounded := by
    intro k hk
    rw [List.map_append, List.mem_append] at hk
    rcases hk with hk | hk
    · exact Nat.lt_succ_of_lt (t.bounded k hk)
    · simp only [List.map_cons, List.map_nil, List.mem_singleton] at hk
      omega

/-- Take the next key, for a row that is not in the table yet. -/
def reserve (t : Table α) : Table α :=
  { t with next := t.next + 1, bounded := fun k hk => Nat.lt_succ_of_lt (t.bounded k hk) }

/-- Update every row. -/
def mapRows (t : Table α) (f : Nat → α → α) : Table α where
  rows := t.rows.map fun p => (p.1, f p.1 p.2)
  next := t.next
  sorted := by
    rw [List.map_map]
    exact t.sorted
  bounded := by
    rw [List.map_map]
    exact t.bounded

/-- Update the row under the key `k`. -/
def modify (t : Table α) (k : Nat) (f : α → α) : Table α :=
  t.mapRows fun j a => if j = k then f a else a

/-- Write a whole row under the key `k`: replace the row that is there, or
put it back when it is gone. -/
def put (t : Table α) (k : Nat) (a : α) : Table α where
  rows := t.rows.filter (·.1 < k) ++ (k, a) :: t.rows.filter (k < ·.1)
  next := max t.next (k + 1)
  sorted := by
    have hsub : ∀ p : Nat × α → Bool, ((t.rows.filter p).map Prod.fst).Pairwise (· < ·) :=
      fun p => t.sorted.sublist (List.filter_sublist.map _)
    rw [List.map_append, List.pairwise_append, List.map_cons, List.pairwise_cons]
    refine ⟨hsub _, ⟨?_, hsub _⟩, ?_⟩
    · intro j hj
      simp only [List.mem_map, List.mem_filter, decide_eq_true_eq] at hj
      obtain ⟨p, ⟨_, hp⟩, rfl⟩ := hj
      exact hp
    · intro i hi j hj
      simp only [List.mem_map, List.mem_filter, decide_eq_true_eq, List.mem_cons] at hi hj
      obtain ⟨p, ⟨_, hp⟩, rfl⟩ := hi
      rcases hj with rfl | ⟨q, ⟨_, hq⟩, rfl⟩ <;> omega
  bounded := by
    intro j hj
    simp only [List.map_append, List.map_cons, List.mem_append, List.mem_map, List.mem_filter,
      List.mem_cons] at hj
    rcases hj with ⟨p, ⟨hp, _⟩, rfl⟩ | rfl | ⟨p, ⟨hp, _⟩, rfl⟩
    · exact lt_of_lt_of_le (t.bounded _ (List.mem_map_of_mem hp)) (le_max_left _ _)
    · exact lt_of_lt_of_le (Nat.lt_succ_self _) (le_max_right _ _)
    · exact lt_of_lt_of_le (t.bounded _ (List.mem_map_of_mem hp)) (le_max_left _ _)

/-- Delete the rows that `p` picks. -/
def delete (t : Table α) (p : Nat → α → Bool) : Table α where
  rows := t.rows.filter fun q => !p q.1 q.2
  next := t.next
  sorted := t.sorted.sublist (List.filter_sublist.map _)
  bounded := by
    intro k hk
    obtain ⟨q, hq, rfl⟩ := List.mem_map.mp hk
    exact t.bounded _ (List.mem_map_of_mem (List.mem_of_mem_filter hq))

/-- Whether some row satisfies `p`. -/
def any (t : Table α) (p : Nat → α → Bool) : Bool := t.rows.any fun q => p q.1 q.2

/-- The first row that satisfies `p`, with its key. -/
def find? (t : Table α) (p : Nat → α → Bool) : Option (Nat × α) :=
  t.rows.find? fun q => p q.1 q.2

/-- The rows that satisfy `p`, in key order. -/
def select (t : Table α) (p : Nat → α → Bool) : List (Nat × α) :=
  t.rows.filter fun q => p q.1 q.2

/-- The sum of `f` over the rows. -/
def sum (t : Table α) (f : Nat → α → Int) : Int := (t.rows.map fun p => f p.1 p.2).sum

theorem insert_rows (t : Table α) (a : α) : (t.insert a).rows = t.rows ++ [(t.next, a)] := rfl

theorem mapRows_rows (t : Table α) (f : Nat → α → α) :
    (t.mapRows f).rows = t.rows.map fun p => (p.1, f p.1 p.2) := rfl

/-! ## Keys -/

theorem nodup_keys (t : Table α) : (t.rows.map Prod.fst).Nodup :=
  t.sorted.imp Nat.ne_of_lt

/-- Two rows under one key are the same row. -/
theorem eq_of_mem {t : Table α} {k : Nat} {a b : α}
    (ha : (k, a) ∈ t.rows) (hb : (k, b) ∈ t.rows) : a = b := by
  have h := List.inj_on_of_nodup_map t.nodup_keys ha hb rfl
  exact congrArg Prod.snd h

/-- A fetch finds exactly the rows of the table. -/
theorem get?_eq_some {t : Table α} {k : Nat} {a : α} :
    t.get? k = some a ↔ (k, a) ∈ t.rows := by
  rw [get?, Option.map_eq_some_iff]
  constructor
  · rintro ⟨⟨j, b⟩, hf, rfl⟩
    have hk : j = k := by simpa using List.find?_some hf
    exact hk ▸ List.mem_of_find?_eq_some hf
  · intro hmem
    cases hf : t.rows.find? (fun p => p.1 == k) with
    | none => exact absurd (List.find?_eq_none.mp hf _ hmem) (by simp)
    | some p =>
      obtain ⟨j, b⟩ := p
      have hk : j = k := by simpa using List.find?_some hf
      subst hk
      exact ⟨_, rfl, eq_of_mem (List.mem_of_find?_eq_some hf) hmem⟩

theorem get?_eq_none {t : Table α} {k : Nat} :
    t.get? k = none ↔ ∀ a, (k, a) ∉ t.rows := by
  rw [Option.eq_none_iff_forall_ne_some]
  exact forall_congr' fun a => not_congr get?_eq_some

theorem lt_next {t : Table α} {k : Nat} {a : α} (h : t.get? k = some a) : k < t.next :=
  t.bounded k (List.mem_map_of_mem (get?_eq_some.mp h))

@[simp] theorem get?_next (t : Table α) : t.get? t.next = none := by
  rw [get?_eq_none]
  intro a ha
  exact absurd (t.bounded _ (List.mem_map_of_mem ha)) (lt_irrefl _)

/-! ## What a fetch sees after a write -/

@[simp] theorem get?_empty (k : Nat) : (empty : Table α).get? k = none := rfl

@[simp] theorem next_empty : (empty : Table α).next = 1 := rfl

theorem get?_insert (t : Table α) (a : α) (k : Nat) :
    (t.insert a).get? k = if k = t.next then some a else t.get? k := by
  split
  · rename_i h
    subst h
    exact get?_eq_some.mpr (by simp [insert])
  · rename_i h
    ext b
    simp only [get?_eq_some, insert, List.mem_append, List.mem_singleton, Prod.mk.injEq]
    exact ⟨fun hb => hb.resolve_right fun hc => h hc.1, Or.inl⟩

@[simp] theorem get?_reserve (t : Table α) (k : Nat) : t.reserve.get? k = t.get? k := rfl

@[simp] theorem next_reserve (t : Table α) : t.reserve.next = t.next + 1 := rfl

@[simp] theorem get?_insert_next (t : Table α) (a : α) : (t.insert a).get? t.next = some a := by
  rw [get?_insert, if_pos rfl]

theorem get?_insert_of_some {t : Table α} {k : Nat} {b : α} (h : t.get? k = some b) (a : α) :
    (t.insert a).get? k = some b := by
  rw [get?_insert, if_neg (Nat.ne_of_lt (lt_next h)), h]

/-- A row of the table after an insert is the new one, or one from before. -/
theorem insert_cases {t : Table α} {a b : α} {k : Nat} (h : (t.insert a).get? k = some b) :
    k = t.next ∧ b = a ∨ t.get? k = some b := by
  rw [get?_insert] at h
  by_cases hk : k = t.next
  · rw [if_pos hk] at h
    exact Or.inl ⟨hk, (Option.some.inj h).symm⟩
  · rw [if_neg hk] at h
    exact Or.inr h

@[simp] theorem get?_mapRows (t : Table α) (f : Nat → α → α) (k : Nat) :
    (t.mapRows f).get? k = (t.get? k).map (f k) := by
  ext b
  simp only [get?_eq_some, mapRows, List.mem_map, Prod.mk.injEq, Option.map_eq_some_iff]
  constructor
  · rintro ⟨p, hp, rfl, rfl⟩
    exact ⟨p.2, hp, rfl⟩
  · rintro ⟨a, ha, rfl⟩
    exact ⟨(k, a), ha, rfl, rfl⟩

theorem get?_modify (t : Table α) (k j : Nat) (f : α → α) :
    (t.modify k f).get? j = if j = k then (t.get? j).map f else t.get? j := by
  rw [modify, get?_mapRows]
  split
  · rfl
  · simp

@[simp] theorem get?_modify_self (t : Table α) (k : Nat) (f : α → α) :
    (t.modify k f).get? k = (t.get? k).map f := by
  rw [get?_modify, if_pos rfl]

/-- A row after an update of one row was there before, and is it or its
update. -/
theorem modify_cases {t : Table α} {k j : Nat} {f : α → α} {b : α}
    (h : (t.modify k f).get? j = some b) :
    (∃ a, j = k ∧ t.get? j = some a ∧ b = f a) ∨ j ≠ k ∧ t.get? j = some b := by
  rw [get?_modify] at h
  by_cases hj : j = k
  · rw [if_pos hj] at h
    obtain ⟨a, ha, rfl⟩ := Option.map_eq_some_iff.mp h
    exact Or.inl ⟨a, hj, ha, rfl⟩
  · rw [if_neg hj] at h
    exact Or.inr ⟨hj, h⟩

/-- A row is still there after an update of one row, with what it keeps. -/
theorem modify_keeps {t : Table α} {j : Nat} {a : α} {P : α → Prop} (h : t.get? j = some a)
    (ha : P a) (k : Nat) {f : α → α} (hf : P (f a)) :
    ∃ b, (t.modify k f).get? j = some b ∧ P b := by
  rw [get?_modify, h]
  split
  · exact ⟨f a, rfl, hf⟩
  · exact ⟨a, rfl, ha⟩

/-- A row after an update of one row was there before, with what the update
keeps. -/
theorem modify_from {t : Table α} {k j : Nat} {f : α → α} {b : α} {P : α → Prop}
    (h : (t.modify k f).get? j = some b) (hb : P b) (hf : ∀ a, P (f a) → P a) :
    ∃ a, t.get? j = some a ∧ P a := by
  rcases modify_cases h with ⟨a, _, ha, rfl⟩ | ⟨_, hold⟩
  · exact ⟨a, ha, hf a hb⟩
  · exact ⟨b, hold, hb⟩

theorem get?_put (t : Table α) (k j : Nat) (a : α) :
    (t.put k a).get? j = if j = k then some a else t.get? j := by
  split
  · rename_i h
    subst h
    exact get?_eq_some.mpr (by simp [put])
  · rename_i h
    ext b
    simp only [get?_eq_some, put, List.mem_append, List.mem_cons, List.mem_filter,
      Prod.mk.injEq, decide_eq_true_eq]
    constructor
    · rintro (⟨hb, _⟩ | ⟨hc, _⟩ | ⟨hb, _⟩)
      · exact hb
      · exact absurd hc h
      · exact hb
    · intro hb
      rcases Nat.lt_or_gt_of_ne h with hlt | hgt
      · exact Or.inl ⟨hb, hlt⟩
      · exact Or.inr (Or.inr ⟨hb, hgt⟩)

theorem get?_delete (t : Table α) (p : Nat → α → Bool) (k : Nat) :
    (t.delete p).get? k = (t.get? k).filter fun a => !p k a := by
  ext b
  simp only [get?_eq_some, delete, List.mem_filter, Option.filter_eq_some_iff]

/-- A row after a delete was there before. -/
theorem of_get?_delete {t : Table α} {p : Nat → α → Bool} {k : Nat} {a : α}
    (h : (t.delete p).get? k = some a) : t.get? k = some a := by
  rw [get?_delete, Option.filter_eq_some_iff] at h
  exact h.1

theorem any_eq_true {t : Table α} {p : Nat → α → Bool} :
    t.any p = true ↔ ∃ k a, t.get? k = some a ∧ p k a = true := by
  simp only [any, List.any_eq_true, get?_eq_some]
  exact ⟨fun ⟨q, hq, hp⟩ => ⟨q.1, q.2, hq, hp⟩, fun ⟨k, a, hq, hp⟩ => ⟨(k, a), hq, hp⟩⟩

theorem any_eq_false {t : Table α} {p : Nat → α → Bool} :
    t.any p = false ↔ ∀ k a, t.get? k = some a → p k a = false := by
  simp only [any, List.any_eq_false, get?_eq_some, Bool.not_eq_true]
  exact ⟨fun h k a hk => h (k, a) hk, fun h q hq => h q.1 q.2 hq⟩

theorem find?_eq_some_get {t : Table α} {p : Nat → α → Bool} {k : Nat} {a : α}
    (h : t.find? p = some (k, a)) : t.get? k = some a ∧ p k a = true := by
  rw [find?] at h
  have hp := List.find?_some h
  exact ⟨get?_eq_some.mpr (List.mem_of_find?_eq_some h), hp⟩

theorem find?_eq_none {t : Table α} {p : Nat → α → Bool} :
    t.find? p = none ↔ ∀ k a, t.get? k = some a → p k a = false := by
  simp only [find?, List.find?_eq_none, get?_eq_some, Bool.not_eq_true]
  exact ⟨fun h k a hk => h (k, a) hk, fun h q hq => h q.1 q.2 hq⟩

theorem find?_insert (t : Table α) (a : α) (p : Nat → α → Bool) :
    (t.insert a).find? p = (t.find? p).or (if p t.next a then some (t.next, a) else none) := by
  unfold find?
  rw [insert_rows, List.find?_append, List.find?_singleton]

/-- The one row that answers a search. -/
theorem find?_of_unique {t : Table α} {p : Nat → α → Bool} {k : Nat} {a : α}
    (hget : t.get? k = some a) (hp : p k a = true)
    (hunique : ∀ j b, t.get? j = some b → p j b = true → j = k) : t.find? p = some (k, a) := by
  cases hfind : t.find? p with
  | none => exact absurd hp (by simp [find?_eq_none.mp hfind k a hget])
  | some q =>
    obtain ⟨j, b⟩ := q
    obtain ⟨hj, hb⟩ := find?_eq_some_get hfind
    have hjk : j = k := hunique j b hj hb
    subst hjk
    rw [hget, Option.some.injEq] at hj
    rw [hj]

theorem mem_select {t : Table α} {p : Nat → α → Bool} {k : Nat} {a : α} :
    (k, a) ∈ t.select p ↔ t.get? k = some a ∧ p k a = true := by
  rw [select, List.mem_filter, get?_eq_some]

/-- The new row comes last. -/
theorem select_insert (t : Table α) (p : Nat → α → Bool) (a : α) :
    (t.insert a).select p = t.select p ++ if p t.next a = true then [(t.next, a)] else [] := by
  unfold select
  rw [insert_rows, List.filter_append, List.filter_cons, List.filter_nil]

theorem select_nodup (t : Table α) (p : Nat → α → Bool) :
    ((t.select p).map Prod.fst).Nodup :=
  t.nodup_keys.sublist (List.filter_sublist.map _)

theorem select_insertionSort_nodup (t : Table α) (p : Nat → α → Bool)
    (le : Nat × α → Nat × α → Prop) [DecidableRel le] :
    (((t.select p).insertionSort le).map Prod.fst).Nodup :=
  ((List.perm_insertionSort le _).map Prod.fst).nodup_iff.mpr (t.select_nodup p)

/-! ## Updates of updates -/

theorem mapRows_mapRows (t : Table α) (f g : Nat → α → α) :
    (t.mapRows f).mapRows g = t.mapRows fun k a => g k (f k a) := by
  simp [mapRows, Function.comp_def]

theorem mapRows_congr {t : Table α} {f g : Nat → α → α}
    (h : ∀ k a, t.get? k = some a → f k a = g k a) : t.mapRows f = t.mapRows g := by
  have hrows : t.rows.map (fun p => (p.1, f p.1 p.2)) = t.rows.map fun p => (p.1, g p.1 p.2) :=
    List.map_congr_left fun p hp => by rw [h p.1 p.2 (get?_eq_some.mpr hp)]
  simp only [mapRows, hrows]

@[simp] theorem mapRows_id (t : Table α) : (t.mapRows fun _ a => a) = t := by
  simp [mapRows]

theorem mapRows_insert (t : Table α) (f : Nat → α → α) (a : α) :
    (t.insert a).mapRows f = (t.mapRows f).insert (f t.next a) := by
  simp [mapRows, insert]

/-- Two updates that do not see each other come in any order. -/
theorem mapRows_modify (t : Table α) {f g : α → α} (h : ∀ a, f (g a) = g (f a)) (k : Nat) :
    (t.modify k g).mapRows (fun _ a => f a) = (t.mapRows fun _ a => f a).modify k g := by
  unfold modify
  rw [mapRows_mapRows, mapRows_mapRows]
  refine mapRows_congr fun j a _ => ?_
  split
  · exact h a
  · rfl

theorem select_mapRows (t : Table α) (f : Nat → α → α) (p : Nat → α → Bool) :
    (t.mapRows f).select p
      = (t.select fun k a => p k (f k a)).map fun q => (q.1, f q.1 q.2) := by
  unfold select mapRows
  rw [List.filter_map]
  rfl

/-- The rows that an update takes out of a selection. -/
theorem select_mapRows_except {t : Table α} {f : Nat → α → α} {p : Nat → α → Bool}
    {gone : Nat → Prop} [DecidablePred gone] (hgone : ∀ k a, gone k → p k (f k a) = false)
    (hkept : ∀ k a, ¬ gone k → f k a = a) :
    (t.mapRows f).select p = (t.select p).filter fun q => decide (¬ gone q.1) := by
  unfold select mapRows
  dsimp only
  induction t.rows with
  | nil => rfl
  | cons q rows ih =>
    rw [List.map_cons, List.filter_cons, List.filter_cons]
    by_cases hq : gone q.1
    · rw [if_neg (by rw [hgone q.1 q.2 hq]; exact Bool.noConfusion), ih]
      split
      · rw [List.filter_cons, if_neg (by simpa using hq)]
      · rfl
    · rw [hkept q.1 q.2 hq]
      split
      · rw [List.filter_cons, if_pos (decide_eq_true hq), ih]
      · exact ih

theorem find?_mapRows (t : Table α) (f : Nat → α → α) (p : Nat → α → Bool) :
    (t.mapRows f).find? p = (t.find? fun k a => p k (f k a)).map fun e => (e.1, f e.1 e.2) := by
  unfold find?
  rw [mapRows_rows, List.find?_map]
  rfl

theorem any_mapRows (t : Table α) (f : Nat → α → α) (p : Nat → α → Bool) :
    (t.mapRows f).any p = t.any fun k a => p k (f k a) := by
  simp [any, mapRows, Function.comp_def]

/-! ## Sums -/

@[simp] theorem sum_empty (f : Nat → α → Int) : (empty : Table α).sum f = 0 := rfl

@[simp] theorem sum_insert (t : Table α) (a : α) (f : Nat → α → Int) :
    (t.insert a).sum f = t.sum f + f t.next a := by
  simp [sum, insert]

theorem sum_mapRows (t : Table α) (g : Nat → α → α) (f : Nat → α → Int) :
    (t.mapRows g).sum f = t.sum fun k a => f k (g k a) := by
  simp [sum, mapRows, Function.comp_def]

theorem sum_congr {t : Table α} {f g : Nat → α → Int}
    (h : ∀ k a, t.get? k = some a → f k a = g k a) : t.sum f = t.sum g := by
  rw [sum, sum]
  exact congrArg List.sum
    (List.map_congr_left fun p hp => h p.1 p.2 (get?_eq_some.mpr hp))

theorem sum_add (t : Table α) (f g : Nat → α → Int) :
    (t.sum fun k a => f k a + g k a) = t.sum f + t.sum g :=
  List.sum_map_add

theorem sum_sub (t : Table α) (f g : Nat → α → Int) :
    (t.sum fun k a => f k a - g k a) = t.sum f - t.sum g := by
  have h := t.sum_add (fun k a => f k a - g k a) g
  simp only [sub_add_cancel] at h
  linarith

@[simp] theorem sum_zero (t : Table α) : (t.sum fun _ _ => 0) = 0 := by
  simp [sum]

theorem sum_le_sum {t : Table α} {f g : Nat → α → Int}
    (h : ∀ k a, t.get? k = some a → f k a ≤ g k a) : t.sum f ≤ t.sum g :=
  List.sum_le_sum fun p hp => h p.1 p.2 (get?_eq_some.mpr hp)

theorem sum_nonneg {t : Table α} {f : Nat → α → Int}
    (h : ∀ k a, t.get? k = some a → 0 ≤ f k a) : 0 ≤ t.sum f := by
  simpa using sum_le_sum (f := fun _ _ => 0) h

/-- A sum over the rows that are kept. -/
theorem sum_delete (t : Table α) (p : Nat → α → Bool) (f : Nat → α → Int) :
    (t.delete p).sum f = t.sum fun k a => if p k a = true then 0 else f k a := by
  unfold sum delete
  dsimp only
  induction t.rows with
  | nil => rfl
  | cons q l ih =>
    rw [List.map_cons, List.sum_cons, ← ih, List.filter_cons]
    by_cases h : p q.1 q.2 = true
    · rw [if_neg (by simp [h]), if_pos h, zero_add]
    · rw [if_pos (by simpa using h), if_neg h, List.map_cons, List.sum_cons]

/-- A sum that only looks at some rows is a sum over these. -/
theorem sum_select (t : Table α) (p : Nat → α → Bool) (f : Nat → α → Int) :
    (t.sum fun k a => if p k a = true then f k a else 0)
      = ((t.select p).map fun q => f q.1 q.2).sum := by
  unfold sum select
  induction t.rows with
  | nil => rfl
  | cons q l ih =>
    rw [List.map_cons, List.sum_cons, ih]
    dsimp only
    by_cases h : p q.1 q.2 = true
    · rw [if_pos h, List.filter_cons, if_pos h, List.map_cons, List.sum_cons]
    · rw [if_neg h, List.filter_cons, if_neg h, zero_add]

/-- The order in which the rows were fetched does not matter to a sum. -/
theorem sum_select_insertionSort (t : Table α) (p : Nat → α → Bool) (f : Nat → α → Int)
    (le : Nat × α → Nat × α → Prop) [DecidableRel le] :
    (((t.select p).insertionSort le).map fun q => f q.1 q.2).sum
      = t.sum fun k a => if p k a = true then f k a else 0 := by
  have hperm := (List.perm_insertionSort le (t.select p)).map fun q => f q.1 q.2
  rw [hperm.sum_eq, sum_select]

/-- A sum that only looks at one key sees the row under that key. -/
theorem sum_single {t : Table α} {k : Nat} {a : α} (h : t.get? k = some a) (f : α → Int) :
    (t.sum fun j b => if j = k then f b else 0) = f a := by
  obtain ⟨l₁, l₂, hl⟩ := List.append_of_mem (get?_eq_some.mp h)
  have hnd := t.nodup_keys
  have hother : ∀ l : List (Nat × α), k ∉ l.map Prod.fst →
      (l.map fun p => if p.1 = k then f p.2 else 0).sum = 0 := by
    intro l hk
    refine List.sum_eq_zero fun x hx => ?_
    obtain ⟨p, hp, rfl⟩ := List.mem_map.mp hx
    have hne : p.1 ≠ k := fun hc => hk (hc ▸ List.mem_map_of_mem hp)
    rw [if_neg hne]
  rw [hl, List.map_append, List.map_cons, List.nodup_append, List.nodup_cons] at hnd
  rw [sum, hl, List.map_append, List.map_cons, List.sum_append, List.sum_cons,
    hother l₁ fun hk => hnd.2.2 k hk k (by simp) rfl, hother l₂ hnd.2.1.1]
  simp

/-- An update of one row moves a sum by the difference of the two rows. -/
theorem sum_modify {t : Table α} {k : Nat} {a : α} (h : t.get? k = some a) (g : α → α)
    (f : Nat → α → Int) : (t.modify k g).sum f = t.sum f - f k a + f k (g a) := by
  have hsplit : (t.modify k g).sum f
      = t.sum f + t.sum fun j b => if j = k then f k (g b) - f k b else 0 := by
    rw [modify, sum_mapRows, ← sum_add]
    refine sum_congr fun j b _ => ?_
    by_cases hj : j = k
    · subst hj
      simp
    · simp [hj]
  rw [hsplit, sum_single h fun b => f k (g b) - f k b]
  omega

theorem modify_modify (t : Table α) (k : Nat) (f g : α → α) :
    (t.modify k f).modify k g = t.modify k fun a => g (f a) := by
  unfold modify
  rw [mapRows_mapRows]
  refine mapRows_congr fun j a _ => ?_
  split
  · rfl
  · rfl

/-! ## One row written -/

/-- Two tables with the same rows have the same sums. -/
theorem sum_eq_of_get? {t t' : Table α} (h : ∀ k, t.get? k = t'.get? k) (f : Nat → α → Int) :
    t.sum f = t'.sum f := by
  have hperm : t.rows.Perm t'.rows := by
    apply (List.perm_ext_iff_of_nodup (List.Nodup.of_map _ t.nodup_keys)
      (List.Nodup.of_map _ t'.nodup_keys)).mpr
    intro p
    show (p.1, p.2) ∈ t.rows ↔ (p.1, p.2) ∈ t'.rows
    rw [← get?_eq_some, ← get?_eq_some, h]
  exact (hperm.map fun p => f p.1 p.2).sum_eq

/-- The row under `k` was `a` and is `b`; the other rows are as before. -/
structure Updates (t t' : Table α) (k : Nat) (a b : α) : Prop where
  before : t.get? k = some a
  after : ∀ j, t'.get? j = if j = k then some b else t.get? j

theorem updates_modify {t : Table α} {k : Nat} {a : α} (h : t.get? k = some a) (g : α → α) :
    Updates t (t.modify k g) k a (g a) := by
  refine ⟨h, fun j => ?_⟩
  rw [get?_modify]
  split
  · rename_i hj
    rw [hj, h]
    rfl
  · rfl

theorem updates_put {t : Table α} {k : Nat} {a : α} (h : t.get? k = some a) (b : α) :
    Updates t (t.put k b) k a b := ⟨h, fun j => get?_put t k j b⟩

/-- A row of the table after the write is the one written, or one from before. -/
theorem Updates.cases {t t' : Table α} {k j : Nat} {a b c : α} (h : Updates t t' k a b)
    (hj : t'.get? j = some c) : j = k ∧ c = b ∨ j ≠ k ∧ t.get? j = some c := by
  rw [h.after] at hj
  by_cases hk : j = k
  · rw [if_pos hk] at hj
    exact Or.inl ⟨hk, (Option.some.inj hj).symm⟩
  · rw [if_neg hk] at hj
    exact Or.inr ⟨hk, hj⟩

/-- A sum moves by the difference of the two rows. -/
theorem Updates.sum {t t' : Table α} {k : Nat} {a b : α} (h : Updates t t' k a b)
    (f : Nat → α → Int) : t'.sum f = t.sum f - f k a + f k b := by
  have hsame : ∀ j, t'.get? j = (t.modify k fun _ => b).get? j := by
    intro j
    rw [h.after, (updates_modify h.before fun _ => b).after]
  rw [sum_eq_of_get? hsame, sum_modify h.before]

/-! ## Two tables with related rows -/

/-- The tables have rows under the same keys, and `r` relates the two rows of
each. -/
def Related {β : Type} (r : α → β → Prop) (t : Table α) (t' : Table β) : Prop :=
  ∀ k, Option.Rel r (t.get? k) (t'.get? k)

theorem Related.refl {r : α → α → Prop} (h : ∀ a, r a a) (t : Table α) : Related r t t := by
  intro k
  cases t.get? k with
  | none => exact .none
  | some a => exact .some (h a)

theorem Related.modify {β : Type} {r : α → β → Prop} {t : Table α} {t' : Table β}
    (h : Related r t t') {f : α → α} {g : β → β} (hf : ∀ a b, r a b → r (f a) (g b)) (k : Nat) :
    Related r (t.modify k f) (t'.modify k g) := by
  intro j
  rw [get?_modify, get?_modify]
  by_cases hj : j = k
  · rw [if_pos hj, if_pos hj]
    have hrel := h j
    generalize t.get? j = x at hrel ⊢
    generalize t'.get? j = y at hrel ⊢
    cases hrel with
    | none => exact .none
    | some hab => exact .some (hf _ _ hab)
  · rw [if_neg hj, if_neg hj]
    exact h j

/-- What the related rows agree on is the same in both tables. -/
theorem Related.map_get? {β γ : Type} {r : α → β → Prop} {t : Table α} {t' : Table β}
    (h : Related r t t') {f : α → γ} {g : β → γ} (hf : ∀ a b, r a b → f a = g b) (k : Nat) :
    (t.get? k).map f = (t'.get? k).map g := by
  have hrel := h k
  generalize t.get? k = x at hrel ⊢
  generalize t'.get? k = y at hrel ⊢
  cases hrel with
  | none => rfl
  | some hab => exact congrArg some (hf _ _ hab)

/-- A write of a whole row that stands for the other table's row. -/
theorem Related.put_right {β : Type} {r : α → β → Prop} {t : Table α} {t' : Table β}
    (h : Related r t t') {k : Nat} {b : β} (hb : ∀ a, t.get? k = some a → r a b)
    (hk : (t'.get? k).isSome = true) : Related r t (t'.put k b) := by
  intro j
  rw [get?_put]
  by_cases hj : j = k
  · rw [if_pos hj]
    have hrel := h k
    rw [hj]
    cases ha : t.get? k with
    | none =>
      rw [ha] at hrel
      cases hb' : t'.get? k with
      | none => simp [hb'] at hk
      | some b' =>
        rw [hb'] at hrel
        cases hrel
    | some a => exact .some (hb a ha)
  · rw [if_neg hj]
    exact h j

end Table

end Shopping
