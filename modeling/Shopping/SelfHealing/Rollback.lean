import Shopping.SelfHealing.Snapshots

/-!
# What the loop of a rollback restores

The snapshot does not come to the current state, so the loop writes to no object of
it.  `restoreAll_spec` is what the loop does: each target that the snapshot has is
copied, and each other one is set to `{}`, `ALL` as well.  `Restored.restores_iff` is
when this restores the snapshot on the keys that the targets stand for.
-/

namespace Shopping

namespace RollbackController

open Heap

variable {α : Type} [DecidableEq α]

/-! ## The loop over the targets -/

omit [DecidableEq α] in
theorem validObject_newDict (heap : Memory α) : ValidObject heap (newDict α) := by
  rintro e he
  cases he

/-- After the loop: `current` has a copy of each target that `saved` has, and `{}`
under each target that it does not have.  Nothing else has changed. -/
structure Restored (heap : Memory α) (current saved : Nat) (targets : List RollbackTarget)
    (heap' : Memory α) : Prop where
  length_le : heap.length ≤ heap'.length
  old : ∀ i, i < heap.length → i ≠ current → heap'[i]? = heap[i]?
  closed : heap'.Closed
  other : ∀ f, (∀ t ∈ targets, f ≠ .key t.value) → heap'.field? current f = heap.field? current f
  restored : ∀ t ∈ targets, ∀ r, heap.field? saved (.key t.value) = some r →
    AgreesAt heap' current heap' saved (.key t.value)
  missing : ∀ t ∈ targets, heap.field? saved (.key t.value) = none →
    ∃ j o, heap'.field? current (.key t.value) = some (.addr j) ∧ j ≠ current ∧
      heap'[j]? = some o ∧ o.kind = .dict ∧ o.fields.entries = []

section

variable {heap heap' : Memory α} {current saved : Nat}

omit [DecidableEq α] in
/-- The heap of the loop after the default `{}` was built. -/
theorem length_withDefault (heap : Memory α) : (heap ++ [newDict α]).length = heap.length + 1 :=
  List.length_append

theorem field?_withDefault (hsaved : saved < heap.length) (f : Slot α) :
    field? (heap ++ [newDict α]) saved f = heap.field? saved f :=
  field?_congr ((grows_append heap (newDict α)).old saved hsaved) f

theorem valid_stateOf (hh : heap.Closed) (hsaved : saved < heap.length)
    (target : RollbackTarget) :
    Valid (heap ++ [newDict α]) (stateOf (heap ++ [newDict α]) saved heap.length target) := by
  rw [stateOf, field?_withDefault hsaved]
  cases hkey : heap.field? saved (.key target.value) with
  | none =>
    rintro i hi
    cases hi
    rw [length_withDefault]
    omega
  | some r => exact (hh saved _ r hkey).mono (grows_append heap _).length_le

/-- The current state after the write of a copy. -/
theorem restored_of_copy (hh : heap.Closed) (hcurrent : current < heap.length)
    (hsaved : saved < heap.length) (hapart : ¬ heap.Reaches saved current)
    {target : RollbackTarget} {r' : Ref α} (hgrow : Grows (heap ++ [newDict α]) heap')
    (hh' : heap'.Closed) (hr' : heap'.Valid r')
    (hcopy : IsCopy (heap ++ [newDict α]) (stateOf (heap ++ [newDict α]) saved heap.length target)
      heap' r') :
    Restored heap current saved [target] (heap'.setField current (.key target.value) r') := by
  have hgrow₁ := grows_append heap (newDict α)
  have hgrow' : Grows heap heap' := hgrow₁.trans hgrow
  have hcurrent' : current < heap'.length := hcurrent.trans_le hgrow'.length_le
  have hlen := length_withDefault heap
  have hset : field? (heap'.setField current (.key target.value) r') current
      (.key target.value) = some r' := by
    rw [field?_setField hcurrent', if_pos rfl]
  have hnew : ∀ j, (heap ++ [newDict α]).length ≤ j →
      (heap'.setField current (.key target.value) r')[j]? = heap'[j]? := by
    intro j hj
    exact getElem?_setField_of_ne (by omega) _ _
  constructor
  case length_le =>
    rw [length_setField]
    exact hgrow'.length_le
  case old =>
    intro i hi hic
    rw [getElem?_setField_of_ne hic, hgrow'.old i hi]
  case closed => exact hh'.setField hr'
  case other =>
    intro f hf
    rw [field?_setField hcurrent', if_neg (hf target List.mem_cons_self)]
    exact field?_congr (hgrow'.old current hcurrent) f
  case restored =>
    intro t ht r hr
    obtain rfl := List.mem_singleton.mp ht
    rw [stateOf, field?_withDefault hsaved, hr, Option.getD_some] at hcopy
    refine hcopy.agreesAt (hcurrent.trans_le hgrow₁.length_le) hnew ?_
      ((field?_withDefault hsaved _).trans hr) hset
    intro i hi
    rw [hgrow₁.reaches_iff hh hsaved] at hi
    have hlt : i < (heap ++ [newDict α]).length := (hi.lt hh hsaved).trans_le hgrow₁.length_le
    have hic : i ≠ current := fun h => hapart (h ▸ hi)
    rw [getElem?_setField_of_ne hic, hgrow.old i hlt]
  case missing =>
    intro t ht hnone
    obtain rfl := List.mem_singleton.mp ht
    rw [stateOf, field?_withDefault hsaved, hnone, Option.getD_none] at hcopy
    obtain ⟨j, o, rfl, hle, ho, hkind, hnil⟩ :=
      hcopy.nil (o := newDict α) List.getElem?_concat_length rfl
    exact ⟨j, o, hset, by omega, (hnew j hle).trans ho, hkind, hnil⟩

theorem restore_spec (hh : heap.Closed) (hcurrent : current < heap.length)
    (hsaved : saved < heap.length) (hapart : ¬ heap.Reaches saved current)
    (target : RollbackTarget) :
    ∃ heap', restore current saved target heap = some heap' ∧
      Restored heap current saved [target] heap' := by
  obtain ⟨r', heap', hcopy, hgrow, hh', hr', hiscopy⟩ :=
    exists_deepcopy (hh.append (validObject_newDict heap)) (valid_stateOf hh hsaved target)
  refine ⟨heap'.setField current (.key target.value) r', ?_,
    restored_of_copy hh hcurrent hsaved hapart hgrow hh' hr' hiscopy⟩
  rw [restore, hcopy, Option.map_some]

/-- What a stored object comes to is as it was. -/
theorem Restored.reaches {targets : List RollbackTarget}
    (h : Restored heap current saved targets heap') (hh : heap.Closed) {root : Nat}
    (hroot : root < heap.length) (hapart : ¬ heap.Reaches root current) {i : Nat}
    (hi : heap.Reaches root i) : heap'[i]? = heap[i]? :=
  h.old i (hi.lt hh hroot) fun hic => hapart (hic ▸ hi)

/-- What stands in the current state under a key that is not restored is as it
was. -/
theorem Restored.framed {targets : List RollbackTarget}
    (h : Restored heap current saved targets heap') (hh : heap.Closed) {f : Slot α}
    (hf : ∀ t ∈ targets, f ≠ .key t.value) :
    Framed heap heap' current f fun i => i < heap.length ∧ i ≠ current where
  same i hi := h.old i hi.1 hi.2
  next i j _ hij := by
    by_cases hj : j = current
    · exact .inl hj
    · exact .inr ⟨hij.lt hh, hj⟩
  field := h.other f hf
  start i hi := by
    by_cases hic : i = current
    · exact .inl hic
    · exact .inr ⟨hh current f _ hi i rfl, hic⟩

/-- A snapshot is as it was. -/
theorem Restored.framed_saved {targets : List RollbackTarget}
    (h : Restored heap current saved targets heap') (hh : heap.Closed)
    (hsaved : saved < heap.length) (hapart : ¬ heap.Reaches saved current) (f : Slot α) :
    Framed heap heap' saved f (heap.Reaches saved) where
  same _ hi := h.reaches hh hsaved hapart hi
  next _ _ hi hij := .inr (hi.tail hij)
  field := field?_congr (h.reaches hh hsaved hapart .refl) f
  start _ hi := .inr (Relation.ReflTransGen.single ⟨f, hi⟩)

/-- Whether the current state agrees with a snapshot on a key that is not restored
is as it was. -/
theorem Restored.agreesAt_iff {targets : List RollbackTarget}
    (h : Restored heap current saved targets heap') (hh : heap.Closed)
    (hsaved : saved < heap.length) (hapart : ¬ heap.Reaches saved current) {f : Slot α}
    (hf : ∀ t ∈ targets, f ≠ .key t.value) :
    AgreesAt heap' current heap' saved f ↔ AgreesAt heap current heap saved f :=
  agreesAt_congr (h.framed hh hf) (h.framed_saved hh hsaved hapart f) .refl

/-- The current state has the value it had under a key that is not restored. -/
theorem Restored.unchanged {targets : List RollbackTarget}
    (h : Restored heap current saved targets heap') (hh : heap.Closed) {f : Slot α}
    (hf : ∀ t ∈ targets, f ≠ .key t.value) : AgreesAt heap current heap' current f :=
  agreesAt_of_framed (h.framed hh hf) fun _ hi => hi.1

omit [DecidableEq α] in
/-- A target is among the later ones, or it is the first one and no later one has its
value. -/
theorem later_or_first {target t : RollbackTarget} {targets : List RollbackTarget}
    (ht : t ∈ target :: targets) :
    t ∈ targets ∨ t ∈ [target] ∧ ∀ u ∈ targets, (.key t.value : Slot α) ≠ .key u.value := by
  by_cases hlater : t ∈ targets
  · exact .inl hlater
  · refine .inr ⟨List.mem_singleton.mpr ((List.mem_cons.mp ht).resolve_right hlater), ?_⟩
    rintro u hu heq
    cases RollbackTarget.value_injective (Slot.key.inj heq)
    exact hlater hu

/-- The first target, and then the others. -/
theorem Restored.cons {heap'' : Memory α} {target : RollbackTarget} {targets : List RollbackTarget}
    (h : Restored heap current saved [target] heap')
    (h' : Restored heap' current saved targets heap'') (hh : heap.Closed)
    (hsaved : saved < heap.length) (hapart : ¬ heap.Reaches saved current) :
    Restored heap current saved (target :: targets) heap'' := by
  have hreach : ∀ i, heap.Reaches saved i → heap'[i]? = heap[i]? :=
    fun i hi => h.reaches hh hsaved hapart hi
  have hfield : ∀ f, heap'.field? saved f = heap.field? saved f := field?_congr (hreach saved .refl)
  have hsaved' : saved < heap'.length := hsaved.trans_le h.length_le
  have hapart' : ¬ heap'.Reaches saved current := by
    rwa [reaches_congr hreach]
  constructor
  case length_le => exact h.length_le.trans h'.length_le
  case old =>
    intro i hi hic
    rw [h'.old i (hi.trans_le h.length_le) hic, h.old i hi hic]
  case closed => exact h'.closed
  case other =>
    intro f hf
    rw [h'.other f fun t ht => hf t (List.mem_cons_of_mem _ ht), h.other f fun t ht => ?_]
    exact hf t (List.mem_singleton.mp ht ▸ List.mem_cons_self)
  case restored =>
    intro t ht r hr
    rcases later_or_first ht with hlater | ⟨hfirst, hkey⟩
    · exact h'.restored t hlater r ((hfield _).trans hr)
    · rw [h'.agreesAt_iff h.closed hsaved' hapart' hkey]
      exact h.restored t hfirst r hr
  case missing =>
    intro t ht hnone
    rcases later_or_first ht with hlater | ⟨hfirst, hkey⟩
    · exact h'.missing t hlater ((hfield _).trans hnone)
    · obtain ⟨j, o, hj, hjc, ho, hkind, hnil⟩ := h.missing t hfirst hnone
      refine ⟨j, o, (h'.other _ hkey).trans hj, hjc, ?_, hkind, hnil⟩
      rw [h'.old j (List.getElem?_eq_some_iff.mp ho).1 hjc, ho]

theorem restoreAll_spec (hh : heap.Closed) (hcurrent : current < heap.length)
    (hsaved : saved < heap.length) (hapart : ¬ heap.Reaches saved current)
    (targets : List RollbackTarget) :
    ∃ heap', restoreAll current saved targets heap = some heap' ∧
      Restored heap current saved targets heap' := by
  induction targets generalizing heap with
  | nil =>
    refine ⟨heap, rfl, le_rfl, fun _ _ _ => rfl, hh, fun _ _ => rfl, ?_, ?_⟩
    · rintro t ht
      cases ht
    · rintro t ht
      cases ht
  | cons target targets ih =>
    obtain ⟨heap₁, hrestore, hfirst⟩ := restore_spec hh hcurrent hsaved hapart target
    have hapart₁ : ¬ heap₁.Reaches saved current := by
      rwa [reaches_congr fun i hi => hfirst.reaches hh hsaved hapart hi]
    obtain ⟨heap₂, hloop, hrest⟩ := ih hfirst.closed (hcurrent.trans_le hfirst.length_le)
      (hsaved.trans_le hfirst.length_le) hapart₁
    refine ⟨heap₂, ?_, hfirst.cons hrest hh hsaved hapart⟩
    rw [restoreAll, hrestore, Option.bind_some, hloop]

/-! ## When the loop restores a snapshot -/

/-- The keys that targets stand for; `ALL` stands for every key of the snapshot. -/
def Requested (heap : Memory α) (saved : Nat) (targets : List RollbackTarget) (f : Slot α) :
    Prop :=
  (∃ t ∈ targets, t ≠ .all ∧ f = .key t.value) ∨
    .all ∈ targets ∧ ∃ r, heap.field? saved f = some r

/-- The current state agrees with the snapshot on the keys that the targets stand
for, and has the value it had under every other key. -/
def Restores (heap heap' : Memory α) (current saved : Nat) (targets : List RollbackTarget) :
    Prop :=
  (∀ f, Requested heap saved targets f → AgreesAt heap' current heap' saved f) ∧
    ∀ f, ¬ Requested heap saved targets f → AgreesAt heap current heap' current f

/-- The snapshot has a value for every target but `ALL`.  Where `ALL` is among the
targets, a write of `{}` under its own value changes nothing that should stay, and
the keys of the snapshot that no target names agree already. -/
def Restorable (heap : Memory α) (current saved : Nat) (targets : List RollbackTarget) : Prop :=
  (∀ t ∈ targets, t ≠ .all → ∃ r, heap.field? saved (.key t.value) = some r) ∧
    (.all ∈ targets →
      ((∃ r, heap.field? saved (.key RollbackTarget.all.value) = some r) ∨
        HoldsEmpty heap current (.key RollbackTarget.all.value) .dict) ∧
      ∀ f r, heap.field? saved f = some r → (∀ t ∈ targets, f ≠ .key t.value) →
        AgreesAt heap current heap saved f)

/-- `ALL` itself is no key of a snapshot that does not have it. -/
theorem not_requested_all {targets : List RollbackTarget}
    (hnone : heap.field? saved (.key RollbackTarget.all.value) = none) :
    ¬ Requested heap saved targets (.key RollbackTarget.all.value) := by
  rintro (⟨t, -, hne, heq⟩ | ⟨-, r, hr⟩)
  · exact hne (RollbackTarget.value_injective (Slot.key.inj heq)).symm
  · rw [hnone] at hr
    cases hr

theorem Restored.restores_iff {targets : List RollbackTarget}
    (h : Restored heap current saved targets heap') (hh : heap.Closed)
    (hsaved : saved < heap.length) (hapart : ¬ heap.Reaches saved current) :
    Restores heap heap' current saved targets ↔ Restorable heap current saved targets := by
  have hiff := fun f => h.agreesAt_iff (f := f) hh hsaved hapart
  have hfield : ∀ f, heap'.field? saved f = heap.field? saved f :=
    field?_congr (h.reaches hh hsaved hapart .refl)
  constructor
  · rintro ⟨hrequested, hothers⟩
    refine ⟨?_, fun hall => ⟨?_, ?_⟩⟩
    · intro t ht hne
      have hagree := hrequested (.key t.value) (.inl ⟨t, ht, hne, rfl⟩)
      cases hkey : heap.field? saved (.key t.value) with
      | some r => exact ⟨r, rfl⟩
      | none =>
        obtain ⟨j, o, hj, -⟩ := h.missing t ht hkey
        obtain ⟨r, hr⟩ := hagree.exists_some hj
        exact ⟨r, (hkey ▸ hfield _).symm.trans hr⟩
    · cases hkey : heap.field? saved (.key RollbackTarget.all.value) with
      | some r => exact .inl ⟨r, rfl⟩
      | none =>
        obtain ⟨j, o, hj, hjc, ho, hkind, hnil⟩ := h.missing .all hall hkey
        have hagree := hothers _ (not_requested_all hkey)
        exact .inr (hkind ▸ (agreesAt_empty hj ho hnil hjc).mp hagree)
    · intro f r hr hf
      exact (hiff f hf).mp (hrequested f (.inr ⟨hall, r, hr⟩))
  · rintro ⟨hnamed, hall⟩
    refine ⟨?_, ?_⟩
    · rintro f (⟨t, ht, hne, rfl⟩ | ⟨hmem, r, hr⟩)
      · obtain ⟨r, hr⟩ := hnamed t ht hne
        exact h.restored t ht r hr
      · by_cases hf : ∃ t ∈ targets, f = .key t.value
        · obtain ⟨t, ht, rfl⟩ := hf
          exact h.restored t ht r hr
        · have hf' : ∀ t ∈ targets, f ≠ .key t.value := fun t ht heq => hf ⟨t, ht, heq⟩
          exact (hiff f hf').mpr ((hall hmem).2 f r hr hf')
    · intro f hnot
      by_cases hf : ∃ t ∈ targets, f = .key t.value
      · obtain ⟨t, ht, rfl⟩ := hf
        -- A target that was written and not requested is `ALL`.
        obtain rfl : t = .all := by
          by_contra hne
          exact hnot (.inl ⟨t, ht, hne, rfl⟩)
        have hnone : heap.field? saved (.key RollbackTarget.all.value) = none := by
          by_contra hsome
          obtain ⟨r, hr⟩ := Option.ne_none_iff_exists'.mp hsome
          exact hnot (.inr ⟨ht, r, hr⟩)
        obtain ⟨j, o, hj, hjc, ho, hkind, hnil⟩ := h.missing .all ht hnone
        refine (agreesAt_empty hj ho hnil hjc).mpr ?_
        rcases (hall ht).1 with ⟨r, hr⟩ | hempty
        · rw [hnone] at hr
          cases hr
        · exact hkind ▸ hempty
      · exact h.unchanged hh fun t ht heq => hf ⟨t, ht, heq⟩

end

end RollbackController

end Shopping
