import Mathlib.Data.Finset.Card
import Mathlib.Data.Finset.Range
import Shopping.Lib.Objects

/-!
# Deep copies

`Heap.deepcopy` copies a value together with every object it comes to, each of
them once: a memo keeps the copies that are there or under way.  In a closed heap
a copy never fails, adds objects and leaves those that are there as they were, and
is related to the original object by object (`Heap.exists_deepcopy`).

The copy of one object fills a new object with the copies of its fields, after a
loop that copies these.  `Copying.Extends` is what such a copy has done, and
`copyRef_spec` finds it by induction on the fuel, of which there is more than
there are objects that were not met (`Copying.unseen`).
-/

namespace Shopping

variable {κ φ α : Type} [DecidableEq φ]

/-- A copy under way: the heap with the copies so far, and the copy of each object
that was met. -/
structure Copying (κ φ α : Type) where
  heap : Heap κ φ α
  memo : Dict Nat Nat

namespace Copying

/-- The loop over the fields of an object; `copy` is the recursive call. -/
def copyFields (copy : Ref α → Copying κ φ α → Option (Ref α × Copying κ φ α)) :
    List (φ × Ref α) → Copying κ φ α → Option (List (φ × Ref α) × Copying κ φ α)
  | [], s => some ([], s)
  | e :: rest, s =>
    (copy e.2 s).bind fun p =>
      (copyFields copy rest p.2).map fun q => ((e.1, p.1) :: q.1, q.2)

/-- A new object for the one at `i`, with nothing in it yet. -/
def enter (s : Copying κ φ α) (i : Nat) (kind : κ) : Copying κ φ α where
  heap := s.heap ++ [⟨kind, Dict.empty⟩]
  memo := s.memo.set i s.heap.length

/-- Fill the object at `j`. -/
def fill (s : Copying κ φ α) (j : Nat) (kind : κ) (entries : List (φ × Ref α)) :
    Copying κ φ α :=
  { s with heap := s.heap.set j ⟨kind, Dict.ofList entries⟩ }

/-- The copy of a value; `none` is out of fuel, or an address with no object. -/
def copyRef : Nat → Ref α → Copying κ φ α → Option (Ref α × Copying κ φ α)
  | _, .atom a, s => some (.atom a, s)
  | 0, .addr _, _ => none
  | fuel + 1, .addr i, s =>
    match s.memo.get? i with
    | some j => some (.addr j, s)
    | none =>
      s.heap[i]?.bind fun o =>
        (copyFields (copyRef fuel) o.fields.entries (s.enter i o.kind)).map fun p =>
          (.addr s.heap.length, p.2.fill s.heap.length o.kind p.1)

end Copying

/-- The deep copy of a value, and the heap with it. -/
def Heap.deepcopy (h : Heap κ φ α) (r : Ref α) : Option (Ref α × Heap κ φ α) :=
  (Copying.copyRef (h.length + 1) r ⟨h, Dict.empty⟩).map fun p => (p.1, p.2.heap)

namespace Copying

/-- The object at `j` is the copy of the one at `i`. -/
def Copies (s : Copying κ φ α) (i j : Nat) : Prop := s.memo.get? i = some j

/-- The copy of the object at `i` is complete: its fields are copies. -/
def Copied (h : Heap κ φ α) (s : Copying κ φ α) (i j : Nat) : Prop :=
  ∃ o o', h[i]? = some o ∧ s.heap[j]? = some o' ∧ o.Rel s.Copies o'

/-- The objects of `h` are as they were, and the copies are new objects. -/
structure Sound (h : Heap κ φ α) (s : Copying κ φ α) : Prop where
  grows : Heap.Grows h s.heap
  copies : ∀ i j, s.Copies i j → i < h.length ∧ h.length ≤ j

/-- What the copy of one value has done: nothing that was there has changed, and
each new object is the complete copy of an object. -/
structure Extends (h : Heap κ φ α) (s s' : Copying κ φ α) : Prop where
  grows : Heap.Grows s.heap s'.heap
  copies : ∀ i j, s.Copies i j → s'.Copies i j
  complete : ∀ i j, s'.Copies i j →
    s.Copies i j ∨ s.heap.length ≤ j ∧ Copied h s' i j
  new : ∀ j, s.heap.length ≤ j → j < s'.heap.length → ∃ i, s'.Copies i j

section

variable {h : Heap κ φ α} {s s' s'' : Copying κ φ α}

theorem Copied.mono {i j : Nat} (hc : Copied h s i j) (hj : s'.heap[j]? = s.heap[j]?)
    (hmemo : ∀ i j, s.Copies i j → s'.Copies i j) : Copied h s' i j := by
  obtain ⟨o, o', ho, ho', hrel⟩ := hc
  exact ⟨o, o', ho, hj.trans ho', hrel.mono fun _ i j _ _ => hmemo i j⟩

theorem Copied.lt {i j : Nat} (hc : Copied h s i j) : i < h.length ∧ j < s.heap.length := by
  obtain ⟨o, o', ho, ho', -⟩ := hc
  exact ⟨(List.getElem?_eq_some_iff.mp ho).1, (List.getElem?_eq_some_iff.mp ho').1⟩

theorem Extends.refl (h : Heap κ φ α) (s : Copying κ φ α) : Extends h s s where
  grows := .refl s.heap
  copies _ _ hij := hij
  complete _ _ hij := .inl hij
  new j hle hlt := absurd hlt (by omega)

theorem Extends.trans (hs : Extends h s s') (hs' : Extends h s' s'') : Extends h s s'' where
  grows := hs.grows.trans hs'.grows
  copies i j hij := hs'.copies i j (hs.copies i j hij)
  complete i j hij := by
    rcases hs'.complete i j hij with hij | ⟨hle, hc⟩
    · rcases hs.complete i j hij with hij | ⟨hle, hc⟩
      · exact .inl hij
      · exact .inr ⟨hle, hc.mono (hs'.grows.old j hc.lt.2) hs'.copies⟩
    · exact .inr ⟨hs.grows.length_le.trans hle, hc⟩
  new j hle hlt := by
    by_cases hj : j < s'.heap.length
    · obtain ⟨i, hi⟩ := hs.new j hle hj
      exact ⟨i, hs'.copies i j hi⟩
    · exact hs'.new j (by omega) hlt

theorem Sound.extends (hs : Sound h s) (hext : Extends h s s') : Sound h s' where
  grows := hs.grows.trans hext.grows
  copies i j hij := by
    rcases hext.complete i j hij with hij | ⟨hle, hc⟩
    · exact hs.copies i j hij
    · exact ⟨hc.lt.1, hs.grows.length_le.trans hle⟩

/-! ### The loop over the fields -/

/-- An entry of an object and of its copy. -/
def EntryRel (R : Nat → Nat → Prop) (e e' : φ × Ref α) : Prop :=
  e'.1 = e.1 ∧ Ref.Rel R e.2 e'.2

theorem find?_rel {R : Nat → Nat → Prop} {es es' : List (φ × Ref α)}
    (hrel : List.Forall₂ (EntryRel R) es es') (f : φ) :
    Option.Rel (Ref.Rel R) ((es.find? fun e => e.1 = f).map Prod.snd)
      ((es'.find? fun e => e.1 = f).map Prod.snd) := by
  induction hrel with
  | nil => exact .none
  | @cons e e' es es' he _ ih =>
    obtain ⟨hname, hval⟩ := he
    by_cases hf : e.1 = f
    · rw [List.find?_cons_of_pos (by simpa using hf),
        List.find?_cons_of_pos (by simpa [hname] using hf)]
      exact .some hval
    · rw [List.find?_cons_of_neg (by simpa using hf),
        List.find?_cons_of_neg (by simpa [hname] using hf)]
      exact ih

omit [DecidableEq φ] in
theorem map_fst_of_rel {R : Nat → Nat → Prop} {es es' : List (φ × Ref α)}
    (hrel : List.Forall₂ (EntryRel R) es es') : es'.map Prod.fst = es.map Prod.fst := by
  induction hrel with
  | nil => rfl
  | cons he _ ih => rw [List.map_cons, List.map_cons, he.1, ih]

/-- An object filled with the copies of the entries of another one. -/
theorem rel_ofList {R : Nat → Nat → Prop} {o : Object κ φ α} {entries : List (φ × Ref α)}
    (hrel : List.Forall₂ (EntryRel R) o.fields.entries entries) :
    o.Rel R ⟨o.kind, Dict.ofList entries⟩ where
  kind := rfl
  fields f := by
    have hnodup : (entries.map Prod.fst).Nodup := map_fst_of_rel hrel ▸ o.fields.nodup
    rw [Dict.get?, Dict.get?, Dict.entries_ofList hnodup]
    exact find?_rel hrel f

theorem copyFields_spec {copy : Ref α → Copying κ φ α → Option (Ref α × Copying κ φ α)}
    {P : Copying κ φ α → Prop} (hP : ∀ s s', P s → Extends h s s' → P s')
    (hcopy : ∀ r s, h.Valid r → P s →
      ∃ p, copy r s = some p ∧ Extends h s p.2 ∧ Ref.Rel p.2.Copies r p.1)
    {es : List (φ × Ref α)} (hes : ∀ e ∈ es, h.Valid e.2) (hs : P s) :
    ∃ p, copyFields copy es s = some p ∧ Extends h s p.2 ∧
      List.Forall₂ (EntryRel p.2.Copies) es p.1 := by
  induction es generalizing s with
  | nil => exact ⟨([], s), rfl, .refl h s, .nil⟩
  | cons e es ih =>
    obtain ⟨p, hp, hext, hrel⟩ := hcopy e.2 s (hes e List.mem_cons_self) hs
    obtain ⟨q, hq, hext', hrels⟩ :=
      ih (fun e' he' => hes e' (List.mem_cons_of_mem e he')) (hP s p.2 hs hext)
    refine ⟨((e.1, p.1) :: q.1, q.2), ?_, hext.trans hext', .cons ⟨rfl, ?_⟩ hrels⟩
    · rw [copyFields, hp, Option.bind_some, hq, Option.map_some]
    · exact hrel.mono fun i j _ _ hij => hext'.copies i j hij

/-! ### Objects that were not met yet -/

/-- How many objects of `h` were not met yet. -/
def unseen (h : Heap κ φ α) (s : Copying κ φ α) : Nat :=
  ((Finset.range h.length).filter fun i => s.memo.get? i = none).card

theorem Extends.unseen_le (hext : Extends h s s') : unseen h s' ≤ unseen h s := by
  refine Finset.card_le_card fun i hi => ?_
  obtain ⟨hlt, hnone⟩ := Finset.mem_filter.mp hi
  refine Finset.mem_filter.mpr ⟨hlt, ?_⟩
  cases hj : s.memo.get? i with
  | none => rfl
  | some j => exact absurd (hext.copies i j hj) (by simp [Copies, hnone])

omit [DecidableEq φ] in
theorem unseen_enter {i : Nat} (hi : i < h.length) (hnone : s.memo.get? i = none) (kind : κ) :
    unseen h (s.enter i kind) < unseen h s := by
  refine Finset.card_lt_card (Finset.ssubset_iff_of_subset ?_ |>.mpr ⟨i, ?_, ?_⟩)
  · intro j hj
    obtain ⟨hlt, hj⟩ := Finset.mem_filter.mp hj
    refine Finset.mem_filter.mpr ⟨hlt, ?_⟩
    rw [enter, Dict.get?_set] at hj
    split at hj
    · cases hj
    · exact hj
  · exact Finset.mem_filter.mpr ⟨Finset.mem_range.mpr hi, hnone⟩
  · intro hmem
    have hnone' := (Finset.mem_filter.mp hmem).2
    rw [enter, Dict.get?_set_self] at hnone'
    cases hnone'

/-! ### The copy of a value -/

omit [DecidableEq φ] in
theorem length_enter (s : Copying κ φ α) (i : Nat) (kind : κ) :
    (s.enter i kind).heap.length = s.heap.length + 1 :=
  List.length_append

theorem extends_fill {i : Nat} {o : Object κ φ α} {entries : List (φ × Ref α)}
    (ho : h[i]? = some o) (hnone : s.memo.get? i = none)
    (hext : Extends h (s.enter i o.kind) s')
    (hrel : List.Forall₂ (EntryRel s'.Copies) o.fields.entries entries) :
    Extends h s (s'.fill s.heap.length o.kind entries) := by
  have hgrow : Heap.Grows s.heap s'.heap := (Heap.grows_append s.heap _).trans hext.grows
  have hlen : s.heap.length + 1 ≤ s'.heap.length := by
    have hle := hext.grows.length_le
    rwa [length_enter] at hle
  have hother : ∀ j, j ≠ s.heap.length →
      (s'.fill s.heap.length o.kind entries).heap[j]? = s'.heap[j]? := by
    intro j hj
    exact List.getElem?_set_ne (Ne.symm hj)
  constructor
  case grows =>
    refine ⟨?_, fun j hj => (hother j (by omega)).trans (hgrow.old j hj)⟩
    show s.heap.length ≤ (s'.heap.set _ _).length
    rw [List.length_set]
    omega
  case copies =>
    intro j k hjk
    have hji : j ≠ i := by
      rintro rfl
      rw [Copies, hnone] at hjk
      cases hjk
    exact hext.copies j k ((Dict.get?_set_of_ne hji _).trans hjk)
  case complete =>
    intro j k hjk
    rcases hext.complete j k hjk with henter | ⟨hle, hc⟩
    · rw [Copies, enter, Dict.get?_set] at henter
      by_cases hji : j = i
      · rw [if_pos hji] at henter
        cases henter
        subst hji
        exact .inr ⟨le_rfl, o, _, ho, List.getElem?_set_self hlen, rel_ofList hrel⟩
      · rw [if_neg hji] at henter
        exact .inl henter
    · rw [length_enter] at hle
      exact .inr ⟨by omega, hc.mono (hother k (by omega)) fun _ _ hij => hij⟩
  case new =>
    intro j hle hlt
    by_cases hj : j = s.heap.length
    · subst hj
      exact ⟨i, hext.copies i _ (Dict.get?_set_self _ _ _)⟩
    · refine hext.new j ?_ ?_
      · rw [length_enter]
        omega
      · simpa [fill] using hlt

omit [DecidableEq φ] in
theorem Sound.enter (hs : Sound h s) {i : Nat} (hi : i < h.length) (kind : κ) :
    Sound h (s.enter i kind) where
  grows := hs.grows.trans (Heap.grows_append s.heap _)
  copies j k hjk := by
    rw [Copies, Copying.enter, Dict.get?_set] at hjk
    split at hjk
    · next hji =>
      cases hjk
      exact ⟨hji ▸ hi, hs.grows.length_le⟩
    · exact hs.copies j k hjk

/-- With fuel for every object that was not met, a value of a closed heap is
copied. -/
theorem copyRef_spec (hh : h.Closed) {fuel : Nat} {r : Ref α} (hr : h.Valid r) (hs : Sound h s)
    (hfuel : unseen h s < fuel) :
    ∃ p, copyRef fuel r s = some p ∧ Extends h s p.2 ∧ Ref.Rel p.2.Copies r p.1 := by
  induction fuel generalizing r s with
  | zero => omega
  | succ fuel ih =>
    cases r with
    | atom a => exact ⟨(.atom a, s), rfl, .refl h s, .atom a⟩
    | addr i =>
      have hi : i < h.length := hr i rfl
      cases hmemo : s.memo.get? i with
      | some j =>
        refine ⟨(.addr j, s), ?_, .refl h s, .addr hmemo⟩
        rw [copyRef, hmemo]
      | none =>
        obtain ⟨o, ho⟩ : ∃ o, h[i]? = some o := ⟨h[i], List.getElem?_eq_getElem hi⟩
        have hvalid : ∀ e ∈ o.fields.entries, h.Valid e.2 := by
          intro e he
          refine hh i e.1 e.2 ?_
          rw [Heap.field?_of_getElem? ho]
          exact Dict.get?_eq_some.mpr he
        -- The loop meets no more objects than the recursive calls have fuel for.
        have hunseen : unseen h (s.enter i o.kind) < fuel := by
          have hlt := unseen_enter hi hmemo o.kind
          omega
        have hcopy : ∀ r t, h.Valid r → Sound h t ∧ unseen h t < fuel →
            ∃ p, copyRef fuel r t = some p ∧ Extends h t p.2 ∧ Ref.Rel p.2.Copies r p.1 :=
          fun r t hr ht => ih hr ht.1 ht.2
        obtain ⟨p, hp, hext, hrel⟩ := copyFields_spec
          (fun t t' ht hext => ⟨ht.1.extends hext, hext.unseen_le.trans_lt ht.2⟩) hcopy hvalid
          ⟨hs.enter hi o.kind, hunseen⟩
        refine ⟨(.addr s.heap.length, p.2.fill s.heap.length o.kind p.1), ?_,
          extends_fill ho hmemo hext hrel, .addr ?_⟩
        · rw [copyRef, hmemo]
          simp only [hs.grows.old i hi, ho, Option.bind_some, hp, Option.map_some]
        · exact hext.copies i _ (Dict.get?_set_self _ _ _)

end

end Copying

namespace Heap

/-- A value of a closed heap has a deep copy, in a closed heap. -/
theorem exists_deepcopy {h : Heap κ φ α} (hh : h.Closed) {r : Ref α} (hr : h.Valid r) :
    ∃ r' h', h.deepcopy r = some (r', h') ∧ Grows h h' ∧ h'.Closed ∧ h'.Valid r' ∧
      IsCopy h r h' r' := by
  have hsound : Copying.Sound h ⟨h, Dict.empty⟩ := by
    refine ⟨.refl h, fun i j hij => ?_⟩
    cases hij
  have hfuel : Copying.unseen h ⟨h, Dict.empty⟩ < h.length + 1 := by
    have hle := Finset.card_filter_le (Finset.range h.length)
      fun i => (⟨h, Dict.empty⟩ : Copying κ φ α).memo.get? i = none
    rw [Finset.card_range] at hle
    exact Nat.lt_succ_of_le hle
  obtain ⟨⟨r', s⟩, hcopy, hext, hrel⟩ := Copying.copyRef_spec hh hr hsound hfuel
  -- The memo was empty, so each copy of it is complete.
  have hcomplete : ∀ i j, s.Copies i j → h.length ≤ j ∧ Copying.Copied h s i j := by
    intro i j hij
    rcases hext.complete i j hij with hnone | hc
    · cases hnone
    · exact hc
  have hvalid : ∀ {r r' : Ref α}, Ref.Rel s.Copies r r' → Valid s.heap r' := by
    intro r r' hrel j hj
    subst hj
    cases hrel with
    | addr hij => exact (hcomplete _ j hij).2.lt.2
  refine ⟨r', s.heap, ?_, hext.grows, ?_, hvalid hrel, s.Copies, hrel, hcomplete⟩
  · rw [deepcopy, hcopy, Option.map_some]
  · intro j f r hf
    by_cases hj : j < h.length
    · rw [field?_congr (hext.grows.old j hj)] at hf
      exact (hh j f r hf).mono hext.grows.length_le
    · obtain ⟨i, hij⟩ := hext.new j (by simpa using hj) (lt_of_field? hf)
      obtain ⟨o, o', -, ho', hobj⟩ := (hcomplete i j hij).2
      have hfields := hobj.fields f
      rw [← field?_of_getElem? ho', hf] at hfields
      obtain ⟨r₀, -, hr⟩ := exists_rel_some hfields
      exact hvalid hr

/-- The deep copy of an object. -/
def deepcopyObject (h : Heap κ φ α) (i : Nat) : Option (Nat × Heap κ φ α) :=
  (h.deepcopy (.addr i)).bind fun p =>
    match p.1 with
    | .addr j => some (j, p.2)
    | .atom _ => none

theorem exists_deepcopyObject {h : Heap κ φ α} (hh : h.Closed) {i : Nat} (hi : i < h.length) :
    ∃ j h', h.deepcopyObject i = some (j, h') ∧ Grows h h' ∧ h'.Closed ∧ h.length ≤ j ∧
      j < h'.length := by
  have hvalid : h.Valid (.addr i) := fun j hj => by cases hj; exact hi
  obtain ⟨r', h', hcopy, hgrow, hh', hr', R, hrel, hR⟩ := exists_deepcopy hh hvalid
  cases hrel with
  | @addr _ j hij =>
    refine ⟨j, h', ?_, hgrow, hh', (hR i j hij).1, hr' j rfl⟩
    rw [deepcopyObject, hcopy]
    rfl

end Heap

end Shopping
