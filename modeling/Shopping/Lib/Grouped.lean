import Mathlib.Algebra.BigOperators.Group.List.Basic
import Mathlib.Algebra.Ring.Int.Defs
import Mathlib.Algebra.Ring.Nat
import Mathlib.Data.List.Dedup

/-!
# Rows in groups

`groupBy key rows` is what a query by `values(key)` reads: each key once, with
the rows that have it.  The groups hold each row once (`groupBy_perm`), so a
total over the groups is the total over the rows (`sum_groupBy`,
`length_groupBy`).
-/

namespace Shopping

section

variable {α κ : Type} [DecidableEq κ] (key : α → κ) (rows : List α)

/-- The rows under each key. -/
def groupBy : List (κ × List α) :=
  (rows.map key).dedup.map fun k => (k, rows.filter fun r => decide (key r = k))

theorem groupBy_keys : (groupBy key rows).map Prod.fst = (rows.map key).dedup := by
  unfold groupBy
  rw [List.map_map]
  exact List.map_id _

theorem nodup_groupBy : ((groupBy key rows).map Prod.fst).Nodup := by
  rw [groupBy_keys]
  exact List.nodup_dedup _

variable {rows}

/-- Keys that cover the rows split them up. -/
theorem perm_flatMap_filter {keys : List κ} (hkeys : keys.Nodup)
    (hcover : ∀ r ∈ rows, key r ∈ keys) :
    (keys.flatMap fun k => rows.filter fun r => decide (key r = k)).Perm rows := by
  induction keys generalizing rows with
  | nil =>
    have hnil : rows = [] := List.eq_nil_iff_forall_not_mem.mpr fun r hr => nomatch hcover r hr
    rw [hnil]
    exact List.Perm.refl _
  | cons k rest ih =>
    rw [List.nodup_cons] at hkeys
    -- The other keys do not see the rows of `k`.
    have hothers : ∀ k' ∈ rest, (rows.filter fun r => decide (key r = k'))
        = (rows.filter fun r => !decide (key r = k)).filter fun r => decide (key r = k') := by
      intro k' hk'
      rw [List.filter_filter]
      refine List.filter_congr fun r _ => ?_
      have hne : key r = k' → key r ≠ k := fun h hk => hkeys.1 ((h.symm.trans hk) ▸ hk')
      by_cases h : key r = k'
      · simp [h, h ▸ hne h]
      · simp [h]
    have hcover' : ∀ r ∈ rows.filter (fun r => !decide (key r = k)), key r ∈ rest := by
      intro r hr
      rw [List.mem_filter] at hr
      have hne : key r ≠ k := by simpa using hr.2
      exact (List.mem_cons.mp (hcover r hr.1)).resolve_left hne
    have hrest := ih hkeys.2 hcover'
    rw [List.flatMap_cons, List.flatMap_congr hothers]
    exact (hrest.append_left _).trans (List.filter_append_perm _ rows)

/-- The groups hold each row once. -/
theorem groupBy_perm : ((groupBy key rows).flatMap Prod.snd).Perm rows := by
  unfold groupBy
  rw [List.flatMap_map]
  refine perm_flatMap_filter key (List.nodup_dedup _) fun r hr => ?_
  rw [List.mem_dedup]
  exact List.mem_map_of_mem hr

theorem sum_groupBy (f : α → Int) :
    ((groupBy key rows).map fun g => (g.2.map f).sum).sum = (rows.map f).sum := by
  rw [← ((groupBy_perm key).map f).sum_eq, List.map_flatMap, List.flatMap_def, List.sum_flatten,
    List.map_map]
  rfl

theorem length_groupBy : ((groupBy key rows).map fun g => g.2.length).sum = rows.length := by
  rw [← (groupBy_perm key).length_eq, List.length_flatMap]

end

end Shopping
