import Mathlib.Logic.Relation
import Mathlib.Order.Nat
import Shopping.Lib.Dict

/-!
# Mutable objects

A heap is the list of its objects, and an object is known by its address.  A
value is an atom or the address of an object, so two objects can share a third
one, and an object can come to stand in itself.

`Heap.AgreesAt` says that two objects hold the same value under a field: what
stands there is related object by object.  It does not depend on objects that the
two values do not come to (`Heap.agreesAt_congr`), it holds of a field under which
nothing has changed (`Heap.agreesAt_of_framed`), and it holds of a field that was
set to a copy (`Heap.IsCopy.agreesAt`).
-/

namespace Shopping

/-- A value: an atom, or the address of an object. -/
inductive Ref (α : Type) where
  | atom (a : α)
  | addr (i : Nat)
  deriving DecidableEq, Repr

/-- An object: its kind, and the values that stand in it. -/
structure Object (κ φ α : Type) where
  kind : κ
  fields : Dict φ (Ref α)

/-- The objects, each at its address. -/
abbrev Heap (κ φ α : Type) := List (Object κ φ α)

variable {κ φ α : Type}

/-! ## Related values -/

theorem rel_imp {β γ : Type} {R S : β → γ → Prop} {x : Option β} {y : Option γ}
    (h : Option.Rel R x y) (hRS : ∀ a b, x = some a → y = some b → R a b → S a b) :
    Option.Rel S x y := by
  cases h with
  | some hab => exact .some (hRS _ _ rfl rfl hab)
  | none => exact .none

theorem rel_flip {β γ : Type} {R : β → γ → Prop} {S : γ → β → Prop} {x : Option β}
    {y : Option γ} (h : Option.Rel R x y) (hRS : ∀ a b, R a b → S b a) : Option.Rel S y x := by
  cases h with
  | some hab => exact .some (hRS _ _ hab)
  | none => exact .none

theorem exists_rel_some {β γ : Type} {R : β → γ → Prop} {x : Option β} {b : γ}
    (h : Option.Rel R x (some b)) : ∃ a, x = some a ∧ R a b := by
  cases h with
  | some hab => exact ⟨_, rfl, hab⟩

/-- Equal atoms, or objects that `R` relates. -/
inductive Ref.Rel (R : Nat → Nat → Prop) : Ref α → Ref α → Prop
  | atom (a : α) : Ref.Rel R (.atom a) (.atom a)
  | addr {i j : Nat} : R i j → Ref.Rel R (.addr i) (.addr j)

theorem Ref.Rel.mono {R S : Nat → Nat → Prop} {r r' : Ref α} (h : Ref.Rel R r r')
    (hRS : ∀ i j, r = .addr i → r' = .addr j → R i j → S i j) : Ref.Rel S r r' := by
  cases h with
  | atom a => exact .atom a
  | addr hij => exact .addr (hRS _ _ rfl rfl hij)

theorem Ref.Rel.flip {R : Nat → Nat → Prop} {r r' : Ref α} (h : Ref.Rel R r r') :
    Ref.Rel (fun j i => R i j) r' r := by
  cases h with
  | atom a => exact .atom a
  | addr hij => exact .addr hij

variable [DecidableEq φ]

/-- Two objects of one kind, with related values under the same fields. -/
structure Object.Rel (R : Nat → Nat → Prop) (o o' : Object κ φ α) : Prop where
  kind : o'.kind = o.kind
  fields : ∀ f, Option.Rel (Ref.Rel R) (o.fields.get? f) (o'.fields.get? f)

theorem Object.Rel.mono {R S : Nat → Nat → Prop} {o o' : Object κ φ α} (h : o.Rel R o')
    (hRS : ∀ f i j, o.fields.get? f = some (.addr i) → o'.fields.get? f = some (.addr j) →
      R i j → S i j) : o.Rel S o' where
  kind := h.kind
  fields f := by
    refine rel_imp (h.fields f) fun r r' hr hr' hrel => hrel.mono fun i j hi hj hij => ?_
    subst hi hj
    exact hRS f i j hr hr' hij

theorem Object.Rel.flip {R : Nat → Nat → Prop} {o o' : Object κ φ α} (h : o.Rel R o') :
    o'.Rel (fun j i => R i j) o where
  kind := h.kind.symm
  fields f := rel_flip (h.fields f) fun _ _ hr => hr.flip

theorem Object.get?_of_nil {o : Object κ φ α} (hnil : o.fields.entries = []) (f : φ) :
    o.fields.get? f = none := by
  rw [Dict.get?, hnil]
  rfl

/-- An object that is related to one with nothing in it has nothing in it. -/
theorem Object.Rel.nil {R : Nat → Nat → Prop} {o o' : Object κ φ α} (h : o.Rel R o')
    (hnil : o'.fields.entries = []) : o.fields.entries = [] := by
  refine List.eq_nil_iff_forall_not_mem.mpr fun e he => ?_
  have hfields := h.fields e.1
  rw [Dict.get?_eq_some.mpr he, o'.get?_of_nil hnil] at hfields
  cases hfields

/-! ## Heaps -/

namespace Heap

/-- The value under the field `f` of the object at `i`. -/
def field? (h : Heap κ φ α) (i : Nat) (f : φ) : Option (Ref α) :=
  h[i]?.bind fun o => o.fields.get? f

/-- `i.f = r`. -/
def setField (h : Heap κ φ α) (i : Nat) (f : φ) (r : Ref α) : Heap κ φ α :=
  h.modify i fun o => { o with fields := o.fields.set f r }

/-- The object at `i` holds the object at `j`. -/
def Points (h : Heap κ φ α) (i j : Nat) : Prop := ∃ f, h.field? i f = some (.addr j)

/-- The object at `i` is or comes to the object at `j`. -/
def Reaches (h : Heap κ φ α) : Nat → Nat → Prop := Relation.ReflTransGen h.Points

/-- An atom, or the address of an object that is there. -/
def Valid (h : Heap κ φ α) (r : Ref α) : Prop := ∀ i, r = .addr i → i < h.length

/-- The objects hold objects that are there. -/
def Closed (h : Heap κ φ α) : Prop := ∀ i f r, h.field? i f = some r → h.Valid r

section

variable {h h' : Heap κ φ α}

theorem field?_of_getElem? {i : Nat} {o : Object κ φ α} (ho : h[i]? = some o) (f : φ) :
    h.field? i f = o.fields.get? f := by
  rw [field?, ho, Option.bind_some]

theorem field?_congr {i : Nat} (hi : h'[i]? = h[i]?) (f : φ) : h'.field? i f = h.field? i f := by
  rw [field?, field?, hi]

theorem lt_of_field? {i : Nat} {f : φ} {r : Ref α} (hf : h.field? i f = some r) :
    i < h.length := by
  obtain ⟨o, ho, -⟩ := Option.bind_eq_some_iff.mp hf
  exact (List.getElem?_eq_some_iff.mp ho).1

theorem Points.lt {i j : Nat} (hh : h.Closed) (hij : h.Points i j) : j < h.length := by
  obtain ⟨f, hf⟩ := hij
  exact hh i f _ hf j rfl

omit [DecidableEq φ] in
theorem Valid.mono {r : Ref α} (hr : h.Valid r) (hle : h.length ≤ h'.length) : h'.Valid r :=
  fun i hi => (hr i hi).trans_le hle

/-- In a closed heap an object comes to objects that are there. -/
theorem Reaches.lt {i j : Nat} (hij : h.Reaches i j) (hh : h.Closed) (hi : i < h.length) :
    j < h.length := by
  induction hij with
  | refl => exact hi
  | tail _ hjk _ => exact hjk.lt hh

/-- What an object comes to, where all of that stays as it was. -/
theorem reaches_congr {i j : Nat} (hsame : ∀ k, h.Reaches i k → h'[k]? = h[k]?) :
    h'.Reaches i j ↔ h.Reaches i j := by
  constructor
  · intro hij
    induction hij with
    | refl => exact .refl
    | tail _ hkj ih =>
      obtain ⟨f, hf⟩ := hkj
      exact ih.tail ⟨f, (field?_congr (hsame _ ih) f).symm.trans hf⟩
  · intro hij
    induction hij with
    | refl => exact .refl
    | tail hik hkj ih =>
      obtain ⟨f, hf⟩ := hkj
      exact ih.tail ⟨f, (field?_congr (hsame _ hik) f).trans hf⟩

/-! ### Heaps that change -/

/-- The values of an object are atoms and objects that are there. -/
def ValidObject (h : Heap κ φ α) (o : Object κ φ α) : Prop := ∀ e ∈ o.fields.entries, h.Valid e.2

/-- New objects came to `h`, and nothing else has changed. -/
structure Grows (h h' : Heap κ φ α) : Prop where
  length_le : h.length ≤ h'.length
  old : ∀ i, i < h.length → h'[i]? = h[i]?

omit [DecidableEq φ] in
theorem Grows.refl (h : Heap κ φ α) : Grows h h := ⟨le_rfl, fun _ _ => rfl⟩

omit [DecidableEq φ] in
theorem Grows.trans {h'' : Heap κ φ α} (hgrow : Grows h h') (hgrow' : Grows h' h'') :
    Grows h h'' where
  length_le := hgrow.length_le.trans hgrow'.length_le
  old i hi := (hgrow'.old i (hi.trans_le hgrow.length_le)).trans (hgrow.old i hi)

omit [DecidableEq φ] in
theorem grows_append (h : Heap κ φ α) (o : Object κ φ α) : Grows h (h ++ [o]) where
  length_le := by
    rw [List.length_append]
    omega
  old _ hi := List.getElem?_append_left hi

/-- What an object comes to does not change when new objects come. -/
theorem Grows.reaches_iff (hgrow : Grows h h') (hh : h.Closed) {i j : Nat} (hi : i < h.length) :
    h'.Reaches i j ↔ h.Reaches i j :=
  reaches_congr fun k hk => hgrow.old k (hk.lt hh hi)

/-- A new object that holds objects that are there. -/
theorem Closed.append (hh : h.Closed) {o : Object κ φ α} (ho : ValidObject h o) :
    Closed (h ++ [o]) := by
  intro i f r hf
  have hle := (grows_append h o).length_le
  by_cases hi : i < h.length
  · rw [field?_congr ((grows_append h o).old i hi)] at hf
    exact (hh i f r hf).mono hle
  · have hlast : i = h.length := by
      have hlt := lt_of_field? hf
      rw [List.length_append, List.length_singleton] at hlt
      omega
    rw [hlast, field?_of_getElem? List.getElem?_concat_length] at hf
    exact (ho _ (Dict.get?_eq_some.mp hf)).mono hle

/-- A write of a whole object. -/
theorem Closed.set (hh : h.Closed) {o : Object κ φ α} (ho : ValidObject h o) (i : Nat) :
    Closed (h.set i o) := by
  intro j f r hf
  have hlen : (h.set i o).length = h.length := List.length_set
  by_cases hj : j = i
  · subst hj
    have hlt := lt_of_field? hf
    rw [hlen] at hlt
    rw [field?_of_getElem? (List.getElem?_set_self hlt)] at hf
    exact (ho _ (Dict.get?_eq_some.mp hf)).mono hlen.ge
  · rw [field?_congr (List.getElem?_set_ne (Ne.symm hj))] at hf
    exact (hh j f r hf).mono hlen.ge

@[simp] theorem length_setField (h : Heap κ φ α) (i : Nat) (f : φ) (r : Ref α) :
    (h.setField i f r).length = h.length :=
  List.length_modify _ _ _

theorem getElem?_setField_of_ne {i j : Nat} (hj : j ≠ i) (f : φ) (r : Ref α) :
    (h.setField i f r)[j]? = h[j]? :=
  List.getElem?_modify_ne _ _ (Ne.symm hj)

theorem field?_setField {i : Nat} (hi : i < h.length) (f g : φ) (r : Ref α) :
    (h.setField i f r).field? i g = if g = f then some r else h.field? i g := by
  obtain ⟨o, ho⟩ : ∃ o, h[i]? = some o := ⟨_, List.getElem?_eq_getElem hi⟩
  have hset : (h.setField i f r)[i]? = some { o with fields := o.fields.set f r } := by
    rw [setField, List.getElem?_modify_eq, ho]
    rfl
  rw [field?_of_getElem? hset, field?_of_getElem? ho, Dict.get?_set]

theorem Closed.setField (hh : h.Closed) {i : Nat} {f : φ} {r : Ref α} (hr : h.Valid r) :
    (h.setField i f r).Closed := by
  intro j g r' hf
  have hlen : h.length ≤ (h.setField i f r).length := (length_setField h i f r).ge
  by_cases hj : j = i
  · subst hj
    have hlt := lt_of_field? hf
    rw [length_setField] at hlt
    rw [field?_setField hlt] at hf
    split at hf
    · cases hf
      exact hr.mono hlen
    · exact (hh j g r' hf).mono hlen
  · rw [field?_congr (getElem?_setField_of_ne hj f r)] at hf
    exact (hh j g r' hf).mono hlen

end

/-! ## Objects that agree at a field -/

/-- `R` relates the objects below the one at `c` with those below the one at `d`,
each with one of the same kind and related fields.  The two themselves stand for
each other and are not compared. -/
structure Matches (h : Heap κ φ α) (c : Nat) (k : Heap κ φ α) (d : Nat)
    (R : Nat → Nat → Prop) : Prop where
  root : ∀ j, R c j → j = d
  object : ∀ i j, R i j → i ≠ c → ∃ o o', h[i]? = some o ∧ k[j]? = some o' ∧ o.Rel R o'

/-- The object at `c` in the heap `h` and the one at `d` in `k` hold the same value
under `f`, or both hold none. -/
def AgreesAt (h : Heap κ φ α) (c : Nat) (k : Heap κ φ α) (d : Nat) (f : φ) : Prop :=
  ∃ R, Matches h c k d R ∧ Option.Rel (Ref.Rel R) (h.field? c f) (k.field? d f)

section

variable {h h' k k' : Heap κ φ α} {c d : Nat} {f : φ}

theorem AgreesAt.exists_rel {r : Ref α} (hagree : AgreesAt h c k d f)
    (hc : h.field? c f = some r) : ∃ R r', k.field? d f = some r' ∧ Ref.Rel R r' r := by
  obtain ⟨R, -, hf⟩ := hagree
  rw [hc] at hf
  obtain ⟨r', hr', hrel⟩ := exists_rel_some (rel_flip hf fun _ _ hrel => hrel.flip)
  exact ⟨_, r', hr', hrel⟩

theorem AgreesAt.exists_some {r : Ref α} (hagree : AgreesAt h c k d f)
    (hc : h.field? c f = some r) : ∃ r', k.field? d f = some r' := by
  obtain ⟨-, r', hr', -⟩ := hagree.exists_rel hc
  exact ⟨r', hr'⟩

theorem AgreesAt.atom {a : α} (hagree : AgreesAt h c k d f)
    (hc : h.field? c f = some (.atom a)) : k.field? d f = some (.atom a) := by
  obtain ⟨R, r', hr', hrel⟩ := hagree.exists_rel hc
  cases hrel
  exact hr'

/-- The field `f` of the object at `c` is in `h'` as it is in `h`, and so is what it
comes to: `S` holds these objects, as far as `c` itself. -/
structure Framed (h h' : Heap κ φ α) (c : Nat) (f : φ) (S : Nat → Prop) : Prop where
  same : ∀ i, S i → h'[i]? = h[i]?
  next : ∀ i j, S i → h.Points i j → j = c ∨ S j
  field : h'.field? c f = h.field? c f
  start : ∀ i, h.field? c f = some (.addr i) → i = c ∨ S i

theorem Framed.symm {S : Nat → Prop} (hS : Framed h h' c f S) : Framed h' h c f S where
  same i hi := (hS.same i hi).symm
  next i j hi hij := by
    obtain ⟨g, hg⟩ := hij
    exact hS.next i j hi ⟨g, (field?_congr (hS.same i hi) g).symm.trans hg⟩
  field := hS.field.symm
  start i hi := hS.start i (hS.field ▸ hi)

/-- Objects agree also after a change that does not touch what they are compared
on. -/
theorem AgreesAt.congr {S T : Nat → Prop} (hagree : AgreesAt h c k d f)
    (hS : Framed h h' c f S) (hT : Framed k k' d f T) (hd : T d) : AgreesAt h' c k' d f := by
  have hmem : ∀ j, j = d ∨ T j → T j := fun j hj => hj.elim (fun h => h ▸ hd) id
  obtain ⟨R, hR, hf⟩ := hagree
  refine ⟨fun i j => R i j ∧ (i = c ∨ S i) ∧ T j, ⟨fun j hj => hR.root j hj.1, ?_⟩, ?_⟩
  · rintro i j ⟨hij, hi, hj⟩ hic
    have hi := hi.resolve_left hic
    obtain ⟨o, o', ho, ho', hrel⟩ := hR.object i j hij hic
    refine ⟨o, o', (hS.same i hi).trans ho, (hT.same j hj).trans ho', hrel.mono ?_⟩
    intro g i' j' hi' hj' hij'
    rw [← field?_of_getElem? ho] at hi'
    rw [← field?_of_getElem? ho'] at hj'
    exact ⟨hij', hS.next i i' hi ⟨g, hi'⟩, hmem j' (hT.next j j' hj ⟨g, hj'⟩)⟩
  · rw [hS.field, hT.field]
    refine rel_imp hf fun r r' hr hr' hrel => hrel.mono fun i j hi hj hij => ?_
    subst hi hj
    exact ⟨hij, hS.start i hr, hmem j (hT.start j hr')⟩

/-- Whether two objects agree does not depend on what they are not compared on. -/
theorem agreesAt_congr {S T : Nat → Prop} (hS : Framed h h' c f S) (hT : Framed k k' d f T)
    (hd : T d) : AgreesAt h' c k' d f ↔ AgreesAt h c k d f := by
  constructor
  · intro hagree
    exact hagree.congr hS.symm hT.symm hd
  · intro hagree
    exact hagree.congr hS hT hd

theorem rel_refl {S : Nat → Prop} {x : Option (Ref α)} (hx : ∀ i, x = some (.addr i) → S i) :
    Option.Rel (Ref.Rel fun i j => i = j ∧ S i) x x := by
  cases x with
  | none => exact .none
  | some r =>
    cases r with
    | atom a => exact .some (.atom a)
    | addr i => exact .some (.addr ⟨rfl, hx i rfl⟩)

/-- A field under which nothing has changed. -/
theorem agreesAt_of_framed {S : Nat → Prop} (hS : Framed h h' c f S)
    (hlt : ∀ i, S i → i < h.length) : AgreesAt h c h' c f := by
  refine ⟨fun i j => i = j ∧ (i = c ∨ S i), ⟨fun j hj => hj.1.symm, ?_⟩, ?_⟩
  · rintro i _ ⟨rfl, hi⟩ hic
    have hi := hi.resolve_left hic
    obtain ⟨o, ho⟩ : ∃ o, h[i]? = some o := ⟨_, List.getElem?_eq_getElem (hlt i hi)⟩
    refine ⟨o, o, ho, (hS.same i hi).trans ho, rfl, fun g => rel_refl fun j hj => ?_⟩
    exact hS.next i j hi ⟨g, (field?_of_getElem? ho g).trans hj⟩
  · rw [hS.field]
    exact rel_refl hS.start

/-- The value `r'` of `h'` is a copy of the value `r` of `h`, object by object, in
objects that are not in `h`. -/
def IsCopy (h : Heap κ φ α) (r : Ref α) (h' : Heap κ φ α) (r' : Ref α) : Prop :=
  ∃ R : Nat → Nat → Prop, Ref.Rel R r r' ∧
    ∀ i j, R i j → h.length ≤ j ∧
      ∃ o o', h[i]? = some o ∧ h'[j]? = some o' ∧ o.Rel R o'

/-- A field that was set to a copy of the field of another object. -/
theorem IsCopy.agreesAt {r r' : Ref α} (hcopy : IsCopy h r k r') (hc : c < h.length)
    (hnew : ∀ j, h.length ≤ j → h'[j]? = k[j]?) (hold : ∀ i, h.Reaches d i → h'[i]? = h[i]?)
    (hd : h.field? d f = some r) (hcf : h'.field? c f = some r') : AgreesAt h' c h' d f := by
  obtain ⟨R, hr, hR⟩ := hcopy
  refine ⟨fun j i => R i j ∧ h.Reaches d i, ⟨?_, ?_⟩, ?_⟩
  · rintro i ⟨hic, -⟩
    exact absurd (hR i c hic).1 (by omega)
  · rintro j i ⟨hij, hi⟩ -
    obtain ⟨hle, o, o', ho, ho', hrel⟩ := hR i j hij
    refine ⟨o', o, (hnew j hle).trans ho', (hold i hi).trans ho, hrel.flip.mono ?_⟩
    intro g j' i' _ hi' hij'
    exact ⟨hij', hi.tail ⟨g, (field?_of_getElem? ho g).trans hi'⟩⟩
  · rw [hcf, field?_congr (hold d .refl), hd]
    refine .some (hr.flip.mono fun j i _ hi hij => ⟨hij, ?_⟩)
    subst hi
    exact Relation.ReflTransGen.single ⟨f, hd⟩

/-- The copy of an object with nothing in it. -/
theorem IsCopy.nil {i : Nat} {r' : Ref α} (hcopy : IsCopy h (.addr i) k r') {o : Object κ φ α}
    (ho : h[i]? = some o) (hnil : o.fields.entries = []) :
    ∃ j o', r' = .addr j ∧ h.length ≤ j ∧ k[j]? = some o' ∧ o'.kind = o.kind ∧
      o'.fields.entries = [] := by
  obtain ⟨R, hrel, hR⟩ := hcopy
  cases hrel with
  | @addr _ j hij =>
    obtain ⟨hle, o₁, o', ho₁, ho', hobj⟩ := hR i j hij
    obtain rfl : o = o₁ := Option.some.inj (ho.symm.trans ho₁)
    exact ⟨j, o', rfl, hle, ho', hobj.kind, hobj.flip.nil hnil⟩

/-- A field that holds an object with nothing in it. -/
def HoldsEmpty (h : Heap κ φ α) (c : Nat) (f : φ) (kind : κ) : Prop :=
  ∃ i o, h.field? c f = some (.addr i) ∧ h[i]? = some o ∧ o.kind = kind ∧ o.fields.entries = []

/-- What agrees with an object that has nothing in it. -/
theorem agreesAt_empty {j : Nat} {o' : Object κ φ α} (hd : k.field? d f = some (.addr j))
    (ho' : k[j]? = some o') (hempty : o'.fields.entries = []) (hjd : j ≠ d) :
    AgreesAt h c k d f ↔ HoldsEmpty h c f o'.kind := by
  constructor
  · rintro ⟨R, hR, hf⟩
    rw [hd] at hf
    obtain ⟨r, hr, hrel⟩ := exists_rel_some hf
    cases hrel with
    | @addr i _ hij =>
      have hic : i ≠ c := by
        rintro rfl
        exact hjd (hR.root j hij)
      obtain ⟨o, o₁, ho, ho₁, hobj⟩ := hR.object i j hij hic
      obtain rfl : o' = o₁ := Option.some.inj (ho'.symm.trans ho₁)
      exact ⟨i, o, hr, ho, hobj.kind.symm, hobj.nil hempty⟩
  · rintro ⟨i, o, hi, ho, hkind, hnil⟩
    refine ⟨fun i' j' => i' = i ∧ j' = j, ⟨?_, ?_⟩, ?_⟩
    · rintro j' ⟨rfl, -⟩
      rw [field?_of_getElem? ho, o.get?_of_nil hnil] at hi
      cases hi
    · rintro _ _ ⟨rfl, rfl⟩ -
      refine ⟨o, o', ho, ho', hkind.symm, fun g => ?_⟩
      rw [o.get?_of_nil hnil, o'.get?_of_nil hempty]
      exact .none
    · rw [hi, hd]
      exact .some (.addr ⟨rfl, rfl⟩)

end

end Heap

end Shopping
