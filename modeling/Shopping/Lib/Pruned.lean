import Shopping.Lib.Table

/-!
# A table without its dead rows

`Pruned dead t t'` says that `t` is `t'` without some of its dead rows.  Updates
that leave the dead ones dead keep it, and so does a delete of dead rows from
`t` alone.

A search whose hits are looked at afterwards comes to the same in both tables
when it can hit one row only, and no dead row gets through
(`Pruned.find?_filter`).
-/

namespace Shopping

namespace Table

/-- The tables have the same rows, up to dead ones that only the second has. -/
structure Pruned {α : Type} (dead : α → Prop) (t t' : Table α) : Prop where
  next : t.next = t'.next
  kept : ∀ k a, t.get? k = some a → t'.get? k = some a
  gone : ∀ k a, t'.get? k = some a → t.get? k = none → dead a

section

variable {α : Type} {dead dead' : α → Prop} {t t' : Table α}

theorem Pruned.refl (dead : α → Prop) (t : Table α) : Pruned dead t t := by
  refine ⟨rfl, fun _ _ h => h, fun k a h hnone => ?_⟩
  rw [h] at hnone
  cases hnone

theorem Pruned.mono (h : Pruned dead t t') (himp : ∀ a, dead a → dead' a) : Pruned dead' t t' :=
  ⟨h.next, h.kept, fun k a ha hnone => himp a (h.gone k a ha hnone)⟩

theorem Pruned.mapRows (h : Pruned dead t t') {f : Nat → α → α}
    (hf : ∀ k a, dead a → dead (f k a)) : Pruned dead (t.mapRows f) (t'.mapRows f) := by
  refine ⟨h.next, fun k a ha => ?_, fun k a ha hnone => ?_⟩
  · rw [get?_mapRows, Option.map_eq_some_iff] at ha ⊢
    obtain ⟨b, hb, rfl⟩ := ha
    exact ⟨b, h.kept k b hb, rfl⟩
  · rw [get?_mapRows, Option.map_eq_some_iff] at ha
    rw [get?_mapRows, Option.map_eq_none_iff] at hnone
    obtain ⟨b, hb, rfl⟩ := ha
    exact hf k b (h.gone k b hb hnone)

theorem Pruned.insert (h : Pruned dead t t') (a : α) : Pruned dead (t.insert a) (t'.insert a) := by
  refine ⟨congrArg (· + 1) h.next, fun k b hb => ?_, fun k b hb hnone => ?_⟩
  · rw [get?_insert] at hb ⊢
    rw [← h.next]
    split at hb
    · rw [if_pos ‹_›, hb]
    · rw [if_neg ‹_›]
      exact h.kept k b hb
  · rw [get?_insert] at hb hnone
    rw [← h.next] at hb
    split at hb
    · rw [if_pos ‹_›] at hnone
      cases hnone
    · rw [if_neg ‹_›] at hnone
      exact h.gone k b hb hnone

/-- Dead rows go. -/
theorem Pruned.delete (h : Pruned dead t t') {p : Nat → α → Bool}
    (hp : ∀ k a, p k a = true → dead a) : Pruned dead (t.delete p) t' := by
  refine ⟨h.next, fun k a ha => h.kept k a (of_get?_delete ha), fun k a ha hnone => ?_⟩
  cases hb : t.get? k with
  | none => exact h.gone k a ha hb
  | some b =>
    cases (h.kept k b hb).symm.trans ha
    rw [get?_delete, hb, Option.filter_eq_none_iff] at hnone
    exact hp k a (by simpa using hnone a rfl)

theorem Pruned.any (h : Pruned dead t t') {p : Nat → α → Bool} (hp : t'.any p = false) :
    t.any p = false :=
  any_eq_false.mpr fun k a ha => any_eq_false.mp hp k a (h.kept k a ha)

theorem Pruned.find?_filter (h : Pruned dead t t') {p : Nat → α → Bool} {q : Nat × α → Bool}
    (hunique : ∀ j k a b, t'.get? j = some a → t'.get? k = some b → p j a = true → p k b = true →
      j = k)
    (hdead : ∀ k a, dead a → p k a = true → q (k, a) = false) :
    (t.find? p).filter q = (t'.find? p).filter q := by
  cases hfind : t'.find? p with
  | none =>
    have hnone : t.find? p = none :=
      find?_eq_none.mpr fun k a ha => find?_eq_none.mp hfind k a (h.kept k a ha)
    rw [hnone]
  | some r =>
    obtain ⟨k, a⟩ := r
    obtain ⟨ha, hpa⟩ := find?_eq_some_get hfind
    cases hb : t.get? k with
    | none =>
      -- The hit is dead, and the other table has no other one.
      have hnone : t.find? p = none := by
        refine find?_eq_none.mpr fun j b hj => ?_
        by_contra hpj
        rw [Bool.not_eq_false] at hpj
        cases hunique j k b a (h.kept j b hj) ha hpj hpa
        rw [hb] at hj
        cases hj
      rw [hnone, Option.filter_none, eq_comm, Option.filter_eq_none_iff]
      intro r hr
      cases hr
      simpa using hdead k a (h.gone k a ha hb) hpa
    | some b =>
      cases (h.kept k b hb).symm.trans ha
      rw [find?_of_unique hb hpa fun j c hj hpj => hunique j k c a (h.kept j c hj) ha hpj hpa]

end

end Table

end Shopping
