import Mathlib.Data.List.Nodup

/-!
# Dictionaries in insertion order

A `Dict` is the list of its entries, oldest key first.  The field `nodup` says
that no key stands twice.  A write under a key that is there keeps its place
(`keys_set`), and a fetch sees the last write (`get?_set`).
-/

namespace Shopping

/-- A dictionary, with its keys in the order in which they came. -/
structure Dict (κ ν : Type) where
  entries : List (κ × ν)
  nodup : (entries.map Prod.fst).Nodup

namespace Dict

variable {κ ν : Type}

/-- `{}`. -/
def empty : Dict κ ν := ⟨[], by simp⟩

/-- The keys in order. -/
def keys (d : Dict κ ν) : List κ := d.entries.map Prod.fst

theorem nodup_keys (d : Dict κ ν) : d.keys.Nodup := d.nodup

@[simp] theorem keys_empty : (empty : Dict κ ν).keys = [] := rfl

section

variable [DecidableEq κ]

/-- `d.get(k)`. -/
def get? (d : Dict κ ν) (k : κ) : Option ν := (d.entries.find? fun e => e.1 = k).map Prod.snd

/-- The entries after `d[k] = v`. -/
def setEntries (k : κ) (v : ν) : List (κ × ν) → List (κ × ν)
  | [] => [(k, v)]
  | e :: rest => if e.1 = k then (k, v) :: rest else e :: setEntries k v rest

theorem map_fst_setEntries (k : κ) (v : ν) (entries : List (κ × ν)) :
    (setEntries k v entries).map Prod.fst =
      if k ∈ entries.map Prod.fst then entries.map Prod.fst else entries.map Prod.fst ++ [k] := by
  induction entries with
  | nil => simp [setEntries]
  | cons e rest ih =>
    by_cases he : e.1 = k
    · simp [setEntries, he]
    · have hne : ¬ k = e.1 := fun h => he h.symm
      simp only [setEntries, if_neg he, List.map_cons, ih, List.mem_cons, hne, false_or]
      split <;> rfl

/-- `d[k] = v`. -/
def set (d : Dict κ ν) (k : κ) (v : ν) : Dict κ ν where
  entries := setEntries k v d.entries
  nodup := by
    rw [map_fst_setEntries]
    split
    · exact d.nodup
    · next hk =>
      rw [← List.concat_eq_append]
      exact d.nodup.concat hk

/-- The dictionary of some entries; the last one of a key wins. -/
def ofList (entries : List (κ × ν)) : Dict κ ν := entries.foldl (fun d e => d.set e.1 e.2) empty

/-- A write keeps the place of a key, and adds a new key at the end. -/
theorem keys_set (d : Dict κ ν) (k : κ) (v : ν) :
    (d.set k v).keys = if k ∈ d.keys then d.keys else d.keys ++ [k] :=
  map_fst_setEntries k v d.entries

@[simp] theorem mem_keys_set {d : Dict κ ν} {k j : κ} {v : ν} :
    j ∈ (d.set k v).keys ↔ j = k ∨ j ∈ d.keys := by
  rw [keys_set]
  split
  · next hk => exact ⟨.inr, fun h => h.elim (fun e => e ▸ hk) id⟩
  · rw [List.mem_append, List.mem_singleton, or_comm]

@[simp] theorem get?_empty (k : κ) : (empty : Dict κ ν).get? k = none := rfl

theorem find?_setEntries (k j : κ) (v : ν) (entries : List (κ × ν)) :
    (setEntries k v entries).find? (fun e => e.1 = j) =
      if j = k then some (k, v) else entries.find? fun e => e.1 = j := by
  induction entries with
  | nil =>
    by_cases hj : j = k
    · simp [setEntries, hj]
    · simp [setEntries, hj, Ne.symm hj]
  | cons e rest ih =>
    by_cases he : e.1 = k
    · by_cases hj : j = k
      · simp [setEntries, he, hj]
      · simp [setEntries, he, hj, Ne.symm hj]
    · by_cases hej : e.1 = j
      · have hj : ¬ j = k := fun h => he (hej.trans h)
        simp [setEntries, hej, hj]
      · rw [setEntries, if_neg he, List.find?_cons_of_neg (by simpa using hej),
          List.find?_cons_of_neg (by simpa using hej), ih]

/-- A fetch sees the last write. -/
theorem get?_set (d : Dict κ ν) (k j : κ) (v : ν) :
    (d.set k v).get? j = if j = k then some v else d.get? j := by
  rw [get?, set, find?_setEntries]
  split <;> rfl

@[simp] theorem get?_set_self (d : Dict κ ν) (k : κ) (v : ν) : (d.set k v).get? k = some v := by
  rw [get?_set, if_pos rfl]

theorem get?_set_of_ne {d : Dict κ ν} {k j : κ} (h : j ≠ k) (v : ν) :
    (d.set k v).get? j = d.get? j := by
  rw [get?_set, if_neg h]

/-- A fetch finds exactly the entries. -/
theorem get?_eq_some {d : Dict κ ν} {k : κ} {v : ν} :
    d.get? k = some v ↔ (k, v) ∈ d.entries := by
  rw [get?, Option.map_eq_some_iff]
  constructor
  · rintro ⟨⟨j, w⟩, hf, rfl⟩
    have hj : j = k := by simpa using List.find?_some hf
    exact hj ▸ List.mem_of_find?_eq_some hf
  · intro hmem
    cases hf : d.entries.find? (fun e => e.1 = k) with
    | none => exact absurd (List.find?_eq_none.mp hf _ hmem) (by simp)
    | some e =>
      have he : e.1 = k := by simpa using List.find?_some hf
      have heq := List.inj_on_of_nodup_map d.nodup (List.mem_of_find?_eq_some hf) hmem he
      exact ⟨e, rfl, congrArg Prod.snd heq⟩

theorem setEntries_of_not_mem {k : κ} {v : ν} {entries : List (κ × ν)}
    (h : k ∉ entries.map Prod.fst) : setEntries k v entries = entries ++ [(k, v)] := by
  induction entries with
  | nil => rfl
  | cons e rest ih =>
    rw [List.map_cons, List.mem_cons, not_or] at h
    rw [setEntries, if_neg (Ne.symm h.1), ih h.2, List.cons_append]

theorem entries_foldl_set (d : Dict κ ν) {entries : List (κ × ν)}
    (h : ((d.entries ++ entries).map Prod.fst).Nodup) :
    (entries.foldl (fun d e => d.set e.1 e.2) d).entries = d.entries ++ entries := by
  induction entries generalizing d with
  | nil => simp
  | cons e rest ih =>
    have hnew : e.1 ∉ d.entries.map Prod.fst := by
      rw [List.map_append, List.nodup_append] at h
      exact fun he => h.2.2 e.1 he e.1 (by simp) rfl
    have hset : (d.set e.1 e.2).entries = d.entries ++ [e] := setEntries_of_not_mem hnew
    rw [List.foldl_cons, ih _ (by rwa [hset, List.append_assoc]), hset, List.append_assoc]
    rfl

/-- A dictionary of entries with distinct keys has just these. -/
theorem entries_ofList {entries : List (κ × ν)} (h : (entries.map Prod.fst).Nodup) :
    (ofList entries).entries = entries :=
  entries_foldl_set empty h

theorem mem_keys {d : Dict κ ν} {k : κ} : k ∈ d.keys ↔ ∃ v, d.get? k = some v := by
  rw [keys, List.mem_map]
  constructor
  · rintro ⟨⟨_, v⟩, he, rfl⟩
    exact ⟨v, get?_eq_some.mpr he⟩
  · rintro ⟨v, hv⟩
    exact ⟨(k, v), get?_eq_some.mp hv, rfl⟩

theorem get?_eq_none {d : Dict κ ν} {k : κ} : d.get? k = none ↔ k ∉ d.keys := by
  rw [mem_keys, Option.eq_none_iff_forall_ne_some, not_exists]

end

end Dict

end Shopping
