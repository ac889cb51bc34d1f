import Shopping.Lib.Json

/-!
# `Payment.sanitize_raw_response`

The response is redacted member by member.  An array that is an element of an
array is kept as it is, so what is stored is redacted exactly when those arrays
are redacted already (`sanitizeRawResponse_iff`).
-/

namespace Shopping

namespace Payment

/-- `sensitive_fields`. -/
def sensitiveFields : List String := ["cardNumber", "cvv", "cvc", "password", "pin"]

/-- `key in sensitive_fields`. -/
def isSensitive (key : String) : Bool := decide (key ∈ sensitiveFields)

/-- What stands for a sensitive value. -/
def redactionMarker : Json := .string "***REDACTED***"

mutual

/-- The members of `_sanitize(data)`. -/
def sanitize : List (String × Json) → List (String × Json)
  | [] => []
  | (key, value) :: rest =>
    (key, if isSensitive key then redactionMarker else sanitizeValue value) :: sanitize rest

/-- The value under a key that is not sensitive. -/
def sanitizeValue : Json → Json
  | .object fields => .object (sanitize fields)
  | .array items => .array (sanitizeItems items)
  | value => value

def sanitizeItems : List Json → List Json
  | [] => []
  | item :: rest => sanitizeItem item :: sanitizeItems rest

/-- An element of an array: `_sanitize(item) if isinstance(item, dict) else item`. -/
def sanitizeItem : Json → Json
  | .object fields => .object (sanitize fields)
  | item => item

end

/-- `sanitize_raw_response`. -/
def sanitizeRawResponse (response : List (String × Json)) : List (String × Json) :=
  sanitize response

/-- A value is the marker. -/
def isMarker : Json → Bool
  | .string s => decide (s = "***REDACTED***")
  | _ => false

/-- A value has no sensitive value but the marker. -/
def isClean (value : Json) : Bool := value.isRedacted isSensitive isMarker

mutual

/-- The arrays directly in an array, below the members that are not sensitive,
are clean. -/
def fieldsNestClean : List (String × Json) → Bool
  | [] => true
  | (key, value) :: rest => (isSensitive key || nestsClean value) && fieldsNestClean rest

def nestsClean : Json → Bool
  | .object fields => fieldsNestClean fields
  | .array items => itemsNestClean items
  | _ => true

def itemsNestClean : List Json → Bool
  | [] => true
  | item :: rest => itemNestsClean item && itemsNestClean rest

def itemNestsClean : Json → Bool
  | .object fields => fieldsNestClean fields
  | .array items => isClean (.array items)
  | _ => true

end

/-! ## What is sanitized -/

theorem isMarker_iff (value : Json) : isMarker value = true ↔ value = redactionMarker := by
  cases value with
  | string s => simp [isMarker, redactionMarker]
  | null | bool | number | array | object => simp [isMarker, redactionMarker]

theorem sanitize_eq_map (fields : List (String × Json)) :
    sanitize fields =
      fields.map fun f =>
        (f.1, if isSensitive f.1 then redactionMarker else sanitizeValue f.2) := by
  induction fields with
  | nil => rfl
  | cons f rest ih => rw [sanitize, ih, List.map_cons]

theorem sanitizeItems_eq_map (items : List Json) :
    sanitizeItems items = items.map sanitizeItem := by
  induction items with
  | nil => rfl
  | cons item rest ih => rw [sanitizeItems, ih, List.map_cons]

theorem fieldsNestClean_iff {fields : List (String × Json)} :
    fieldsNestClean fields = true ↔
      ∀ f ∈ fields, (isSensitive f.1 || nestsClean f.2) = true := by
  induction fields with
  | nil => simp [fieldsNestClean]
  | cons f rest ih => rw [fieldsNestClean, Bool.and_eq_true, ih, List.forall_mem_cons]

theorem itemsNestClean_iff {items : List Json} :
    itemsNestClean items = true ↔ ∀ item ∈ items, itemNestsClean item = true := by
  induction items with
  | nil => simp [itemsNestClean]
  | cons item rest ih => rw [itemsNestClean, Bool.and_eq_true, ih, List.forall_mem_cons]

/-- An element that is no array is sanitized like the value of a key. -/
theorem sanitizeItem_cases (item : Json) :
    sanitizeItem item = sanitizeValue item ∧ itemNestsClean item = nestsClean item ∨
      ∃ items, item = .array items ∧ sanitizeItem item = item ∧
        itemNestsClean item = isClean item := by
  cases item with
  | array items => exact .inr ⟨items, rfl, rfl, rfl⟩
  | null | bool | number | string | object => exact .inl ⟨rfl, rfl⟩

theorem sanitizeValue_of_isLeaf {value : Json} (h : value.isLeaf = true) :
    sanitizeValue value = value ∧ nestsClean value = true := by
  cases value with
  | array | object => cases h
  | null | bool | number | string => exact ⟨rfl, rfl⟩

/-- What is under a key is redacted exactly when its nested arrays are clean. -/
theorem sanitizeValue_eq_redact_iff (value : Json) :
    sanitizeValue value = Json.redact isSensitive redactionMarker value ↔
      nestsClean value = true := by
  induction value using Json.induction with
  | leaf value h =>
    obtain ⟨hvalue, hclean⟩ := sanitizeValue_of_isLeaf h
    rw [hvalue, Json.redact_of_isLeaf h]
    exact iff_of_true rfl hclean
  | array items ih =>
    rw [sanitizeValue, sanitizeItems_eq_map, Json.redact, Json.redactItems_eq_map, nestsClean,
      itemsNestClean_iff, Json.array.injEq, List.map_inj_left]
    refine forall₂_congr fun item hitem => ?_
    rcases sanitizeItem_cases item with ⟨hitem', hclean⟩ | ⟨_, _, hitem', hclean⟩
    · rw [hitem', hclean]
      exact ih item hitem
    · rw [hitem', hclean, isClean, ← Json.redact_eq_self_iff isMarker_iff, eq_comm]
  | object fields ih =>
    rw [sanitizeValue, sanitize_eq_map, Json.redact, Json.redactFields_eq_map, nestsClean,
      fieldsNestClean_iff, Json.object.injEq, List.map_inj_left]
    refine forall₂_congr fun f hf => ?_
    cases hkey : isSensitive f.1 with
    | true => simp
    | false => simp [← ih f hf]

/-- Sanitizing what is sanitized changes nothing. -/
theorem sanitizeValue_idem (value : Json) :
    sanitizeValue (sanitizeValue value) = sanitizeValue value := by
  induction value using Json.induction with
  | leaf value h => rw [(sanitizeValue_of_isLeaf h).1, (sanitizeValue_of_isLeaf h).1]
  | array items ih =>
    rw [sanitizeValue, sanitizeValue, sanitizeItems_eq_map, sanitizeItems_eq_map, List.map_map,
      Json.array.injEq, List.map_inj_left]
    intro item hitem
    cases item with
    | object fields => exact ih _ hitem
    | null | bool | number | string | array => rfl
  | object fields ih =>
    rw [sanitizeValue, sanitizeValue, sanitize_eq_map, sanitize_eq_map, List.map_map,
      Json.object.injEq, List.map_inj_left]
    intro f hf
    cases hkey : isSensitive f.1 with
    | true => simp [hkey]
    | false => simp [hkey, ih f hf]

/-- A response is stored with the marker under every sensitive key and otherwise
as it is, and stays so, exactly when the arrays directly in its arrays are
clean. -/
theorem sanitizeRawResponse_iff (response : List (String × Json)) :
    (Json.Redacted isSensitive redactionMarker (.object response)
        (.object (sanitizeRawResponse response)) ∧
      sanitizeRawResponse (sanitizeRawResponse response) = sanitizeRawResponse response) ↔
        fieldsNestClean response = true := by
  have hidem : sanitizeRawResponse (sanitizeRawResponse response) = sanitizeRawResponse response :=
    Json.object.inj (sanitizeValue_idem (.object response))
  rw [and_iff_left hidem, Json.redacted_iff]
  exact sanitizeValue_eq_redact_iff (.object response)

/-- A card verification value two arrays deep is stored. -/
theorem sanitizeRawResponse_nested :
    sanitizeRawResponse [("a", .array [.array [.object [("cvv", .string "123")]]])] =
        [("a", .array [.array [.object [("cvv", .string "123")]]])] ∧
      ¬ Json.Redacted isSensitive redactionMarker
        (.object [("a", .array [.array [.object [("cvv", .string "123")]]])])
        (.object (sanitizeRawResponse
          [("a", .array [.array [.object [("cvv", .string "123")]]])])) := by
  have hkept : sanitizeRawResponse [("a", .array [.array [.object [("cvv", .string "123")]]])] =
      [("a", .array [.array [.object [("cvv", .string "123")]]])] := rfl
  refine ⟨hkept, ?_⟩
  rw [hkept, Json.redacted_iff, eq_comm, Json.redact_eq_self_iff isMarker_iff]
  decide

end Payment

end Shopping
