import Mathlib.Data.List.Forall2

/-!
# JSON values and redaction

A JSON value, the induction on it (`Json.induction`) and the redaction of the
values under secret keys.  `Redacted` says what a redaction is: the value under
a secret key is the marker and everything else is the same.  `redact` is the
only one (`redacted_iff`), and `isRedacted` tests for the values it leaves
alone (`redact_eq_self_iff`).
-/

namespace Shopping

/-- A JSON value; an object is the list of its members in order. -/
inductive Json where
  | null
  | bool (b : Bool)
  | number (lexeme : String)
  | string (s : String)
  | array (items : List Json)
  | object (fields : List (String × Json))

namespace Json

/-- A value that is neither an array nor an object. -/
def isLeaf : Json → Bool
  | .array _ | .object _ => false
  | _ => true

/-- Induction over the members of arrays and objects. -/
@[elab_as_elim]
theorem induction {P : Json → Prop} (leaf : ∀ v, v.isLeaf = true → P v)
    (array : ∀ items, (∀ v ∈ items, P v) → P (.array items))
    (object : ∀ fields, (∀ f ∈ fields, P f.2) → P (.object fields)) (v : Json) : P v := by
  refine @Json.rec P (fun items => ∀ v ∈ items, P v) (fun fields => ∀ f ∈ fields, P f.2)
    (fun f => P f.2) (leaf _ rfl) (fun _ => leaf _ rfl) (fun _ => leaf _ rfl)
    (fun _ => leaf _ rfl) array object ?_ ?_ ?_ ?_ (fun _ _ h => h) v
  · exact fun v h => absurd h List.not_mem_nil
  · intro head tail hhead htail v hv
    rcases List.mem_cons.mp hv with rfl | hv
    · exact hhead
    · exact htail v hv
  · exact fun f h => absurd h List.not_mem_nil
  · intro head tail hhead htail f hf
    rcases List.mem_cons.mp hf with rfl | hf
    · exact hhead
    · exact htail f hf

section

variable (secret : String → Bool) (marker : Json)

mutual

/-- `w` is `v` with the marker under every secret key. -/
inductive Redacted : Json → Json → Prop where
  | leaf {v : Json} (h : v.isLeaf = true) : Redacted v v
  | array {items items' : List Json} (h : List.Forall₂ Redacted items items') :
      Redacted (.array items) (.array items')
  | object {fields fields' : List (String × Json)}
      (h : List.Forall₂ RedactedField fields fields') :
      Redacted (.object fields) (.object fields')

/-- A member of an object, with the same key. -/
inductive RedactedField : String × Json → String × Json → Prop where
  | secret {key : String} {v : Json} (h : secret key = true) :
      RedactedField (key, v) (key, marker)
  | plain {key : String} {v w : Json} (h : secret key = false) (hv : Redacted v w) :
      RedactedField (key, v) (key, w)

end

mutual

/-- The redaction of a value. -/
def redact : Json → Json
  | .array items => .array (redactItems items)
  | .object fields => .object (redactFields fields)
  | v => v

def redactItems : List Json → List Json
  | [] => []
  | v :: rest => redact v :: redactItems rest

def redactFields : List (String × Json) → List (String × Json)
  | [] => []
  | (key, v) :: rest => (key, if secret key then marker else redact v) :: redactFields rest

end

mutual

/-- Whether only the marker stands under a secret key; `isMarker` tests for
the marker. -/
def isRedacted (isMarker : Json → Bool) : Json → Bool
  | .array items => isRedactedItems isMarker items
  | .object fields => isRedactedFields isMarker fields
  | _ => true

def isRedactedItems (isMarker : Json → Bool) : List Json → Bool
  | [] => true
  | v :: rest => isRedacted isMarker v && isRedactedItems isMarker rest

def isRedactedFields (isMarker : Json → Bool) : List (String × Json) → Bool
  | [] => true
  | (key, v) :: rest =>
    (if secret key then isMarker v else isRedacted isMarker v) && isRedactedFields isMarker rest

end

variable {secret marker}

theorem redactItems_eq_map (items : List Json) :
    redactItems secret marker items = items.map (redact secret marker) := by
  induction items with
  | nil => rfl
  | cons v rest ih => rw [redactItems, ih, List.map_cons]

theorem redactFields_eq_map (fields : List (String × Json)) :
    redactFields secret marker fields =
      fields.map fun f => (f.1, if secret f.1 then marker else redact secret marker f.2) := by
  induction fields with
  | nil => rfl
  | cons f rest ih => rw [redactFields, ih, List.map_cons]

theorem redact_of_isLeaf {v : Json} (h : v.isLeaf = true) : redact secret marker v = v := by
  cases v with
  | array | object => cases h
  | null | bool | number | string => rfl

theorem isRedactedItems_iff {isMarker : Json → Bool} {items : List Json} :
    isRedactedItems secret isMarker items = true ↔
      ∀ v ∈ items, isRedacted secret isMarker v = true := by
  induction items with
  | nil => simp [isRedactedItems]
  | cons v rest ih => rw [isRedactedItems, Bool.and_eq_true, ih, List.forall_mem_cons]

theorem isRedactedFields_iff {isMarker : Json → Bool} {fields : List (String × Json)} :
    isRedactedFields secret isMarker fields = true ↔
      ∀ f ∈ fields,
        (if secret f.1 then isMarker f.2 else isRedacted secret isMarker f.2) = true := by
  induction fields with
  | nil => simp [isRedactedFields]
  | cons f rest ih => rw [isRedactedFields, Bool.and_eq_true, ih, List.forall_mem_cons]

/-- The redaction is redacted. -/
theorem redacted_redact (v : Json) : Redacted secret marker v (redact secret marker v) := by
  induction v using induction with
  | leaf v h =>
    rw [redact_of_isLeaf h]
    exact .leaf h
  | array items ih =>
    rw [redact, redactItems_eq_map]
    exact .array (List.forall₂_map_right_iff.mpr (List.forall₂_same.mpr ih))
  | object fields ih =>
    rw [redact, redactFields_eq_map]
    refine .object (List.forall₂_map_right_iff.mpr (List.forall₂_same.mpr fun f hf => ?_))
    cases hkey : secret f.1 with
    | true => exact .secret hkey
    | false => exact .plain hkey (ih f hf)

theorem eq_map_of_forall₂ {α β : Type} {R : α → β → Prop} {f : α → β} {l : List α} {l' : List β}
    (hR : ∀ a ∈ l, ∀ b, R a b → b = f a) (h : List.Forall₂ R l l') : l' = l.map f := by
  induction h with
  | nil => rfl
  | @cons a b l l' hab _ ih =>
    rw [hR a List.mem_cons_self b hab, ih fun c hc => hR c (List.mem_cons_of_mem a hc),
      List.map_cons]

/-- A value has one redaction. -/
theorem redacted_iff {v w : Json} :
    Redacted secret marker v w ↔ w = redact secret marker v := by
  refine ⟨fun h => ?_, fun h => h ▸ redacted_redact v⟩
  induction v using induction generalizing w with
  | leaf v hleaf =>
    cases h with
    | leaf _ => exact (redact_of_isLeaf hleaf).symm
    | array _ | object _ => cases hleaf
  | array items ih =>
    cases h with
    | leaf h => cases h
    | array h =>
      rw [redact, redactItems_eq_map, eq_map_of_forall₂ (fun v hv w hw => ih v hv hw) h]
  | object fields ih =>
    cases h with
    | leaf h => cases h
    | object h =>
      rw [redact, redactFields_eq_map, eq_map_of_forall₂ (fun f hf g hfg => ?_) h]
      cases hfg with
      | secret hkey => simp [hkey]
      | plain hkey hv => simp [hkey, ← ih _ hf hv]

theorem map_eq_self_iff {α : Type} {f : α → α} {l : List α} :
    l.map f = l ↔ ∀ a ∈ l, f a = a := by
  have h : l.map f = l.map id ↔ ∀ a ∈ l, f a = a := List.map_inj_left
  rwa [List.map_id] at h

/-- What has only the marker under secret keys is its own redaction. -/
theorem redact_eq_self_iff {isMarker : Json → Bool}
    (hmarker : ∀ v, isMarker v = true ↔ v = marker) {v : Json} :
    redact secret marker v = v ↔ isRedacted secret isMarker v = true := by
  induction v using induction with
  | leaf v h =>
    rw [redact_of_isLeaf h]
    cases v with
    | array | object => cases h
    | null | bool | number | string => exact iff_of_true rfl rfl
  | array items ih =>
    rw [redact, redactItems_eq_map, isRedacted, isRedactedItems_iff, array.injEq,
      map_eq_self_iff]
    exact forall₂_congr ih
  | object fields ih =>
    rw [redact, redactFields_eq_map, isRedacted, isRedactedFields_iff, object.injEq,
      map_eq_self_iff]
    refine forall₂_congr fun f hf => ?_
    cases hkey : secret f.1 with
    | true => simp [hmarker, Prod.ext_iff, eq_comm]
    | false => simp [← ih f hf, Prod.ext_iff]

end

end Json

end Shopping
