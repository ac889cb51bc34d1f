import Mathlib.Data.Finset.Card
import Mathlib.Logic.Relation
import Shopping.Lib.Dict
import Shopping.Lib.Table
import Shopping.Models.Payment

/-!
# `build_full_paths` and `CategorySerializer.get_full_path`

Both walk up from a category and join the names on the way.  The batched walk
looks the parents up in the rows of the requested trees, the other one fetches
them.  Along a chain of ancestors the two loops do the same
(`climb_eq_followParents`), and neither runs out of fuel once it is more than
the number of categories.
-/

namespace Shopping

/-- A row of the categories. -/
structure Category where
  name : String
  parent : Option Nat
  treeId : Nat
  deriving DecidableEq, Repr

/-- `" > ".join(reversed(parts))`. -/
def joinPath (parts : List String) : String := String.intercalate " > " parts.reverse

/-- What `build_full_paths` reads: the rows of the trees. -/
def treeNodes (t : Table Category) (treeIds : List Nat) : Dict Nat (String × Option Nat) :=
  Dict.ofList
    ((t.select fun _ c => c.treeId ∈ treeIds).map fun q => (q.1, q.2.name, q.2.parent))

/-- The loop of `build_full_paths`; `none` is out of fuel. -/
def climb (nodes : Dict Nat (String × Option Nat)) :
    Nat → Option Nat → List String → Option (List String)
  | 0, _, _ => none
  | fuel + 1, current, parts =>
    match current.bind nodes.get? with
    | none => some parts
    | some (name, parent) => climb nodes fuel parent (parts ++ [name])

/-- The paths of the categories, one after the other. -/
def buildPaths (fuel : Nat) (nodes : Dict Nat (String × Option Nat)) :
    List (Nat × Category) → Dict Nat String → Option (Dict Nat String)
  | [], paths => some paths
  | category :: rest, paths => do
    let parts ← climb nodes fuel (some category.1) []
    buildPaths fuel nodes rest (paths.set category.1 (joinPath parts))

/-- `build_full_paths`. -/
def buildFullPaths (fuel : Nat) (t : Table Category) (categories : List (Nat × Category)) :
    Option (Dict Nat String) :=
  if categories = [] then some Dict.empty
  else buildPaths fuel (treeNodes t (categories.map fun q => q.2.treeId)) categories Dict.empty

/-- `current.parent`. -/
def parentOf (t : Table Category) (c : Category) : Except DbError (Option (Nat × Category)) :=
  match c.parent with
  | none => .ok none
  | some p =>
    match t.get? p with
    | none => .error .doesNotExist
    | some row => .ok (some (p, row))

/-- The loop of `get_full_path`; `none` is out of fuel. -/
def followParents (t : Table Category) :
    Nat → Option (Nat × Category) → List String → Option (Except DbError (List String))
  | 0, _, _ => none
  | _ + 1, none, parts => some (.ok parts)
  | fuel + 1, some current, parts =>
    match parentOf t current.2 with
    | .error e => some (.error e)
    | .ok parent => followParents t fuel parent (parts ++ [current.2.name])

/-- `get_full_path`; `paths` is the `category_paths` of the context. -/
def getFullPath (fuel : Nat) (t : Table Category) (paths : Option (Dict Nat String))
    (category : Nat × Category) : Option (Except DbError String) :=
  match paths.bind fun d => d.get? category.1 with
  | some path => some (.ok path)
  | none => (followParents t fuel (some category) []).map fun r => r.map joinPath

/-! ## Forests -/

/-- `j` is the parent of `i`. -/
def IsParent (t : Table Category) (j i : Nat) : Prop :=
  ∃ c, t.get? i = some c ∧ c.parent = some j

/-- The rows are a forest: a parent is there, in the same tree, and no category
is above itself. -/
structure IsForest (t : Table Category) : Prop where
  parent : ∀ {i j c}, t.get? i = some c → c.parent = some j →
    ∃ d, t.get? j = some d ∧ d.treeId = c.treeId
  acyclic : ∀ i, ¬ Relation.TransGen (IsParent t) i i

/-- The keys of the table. -/
def ids (t : Table Category) : Finset Nat := (t.rows.map Prod.fst).toFinset

open Classical in
/-- The categories above a category. -/
noncomputable def ancestors (t : Table Category) (i : Nat) : Finset Nat :=
  (ids t).filter fun j => Relation.TransGen (IsParent t) j i

variable {t : Table Category}

theorem card_ids (t : Table Category) : (ids t).card = t.rows.length := by
  rw [ids, List.toFinset_card_of_nodup t.nodup_keys, List.length_map]

theorem mem_ids {i : Nat} : i ∈ ids t ↔ ∃ c, t.get? i = some c := by
  rw [ids, List.mem_toFinset, List.mem_map]
  constructor
  · rintro ⟨⟨_, c⟩, hc, rfl⟩
    exact ⟨c, Table.get?_eq_some.mpr hc⟩
  · rintro ⟨c, hc⟩
    exact ⟨(i, c), Table.get?_eq_some.mp hc, rfl⟩

open Classical in
theorem mem_ancestors {i j : Nat} :
    j ∈ ancestors t i ↔ j ∈ ids t ∧ Relation.TransGen (IsParent t) j i := by
  rw [ancestors, Finset.mem_filter]

/-- A parent has fewer categories above it. -/
theorem card_ancestors_lt (h : IsForest t) {i j : Nat} (hij : IsParent t j i) :
    (ancestors t j).card < (ancestors t i).card := by
  obtain ⟨c, hc, hparent⟩ := id hij
  obtain ⟨d, hd, _⟩ := h.parent hc hparent
  have hj : j ∈ ids t := mem_ids.mpr ⟨d, hd⟩
  refine Finset.card_lt_card ((Finset.ssubset_iff_of_subset fun k hk => ?_).mpr ⟨j, ?_, ?_⟩)
  · obtain ⟨hk, habove⟩ := mem_ancestors.mp hk
    exact mem_ancestors.mpr ⟨hk, habove.tail hij⟩
  · exact mem_ancestors.mpr ⟨hj, .single hij⟩
  · exact fun hself => h.acyclic j (mem_ancestors.mp hself).2

theorem card_ancestors_le (t : Table Category) (i : Nat) :
    (ancestors t i).card ≤ t.rows.length := by
  rw [← card_ids]
  exact Finset.card_le_card fun j hj => (mem_ancestors.mp hj).1

/-! ## The two walks -/

/-- The nodes are the categories of the trees. -/
theorem get?_treeNodes {treeIds : List Nat} {i : Nat} {c : Category} (hc : t.get? i = some c)
    (htree : c.treeId ∈ treeIds) : (treeNodes t treeIds).get? i = some (c.name, c.parent) := by
  have hkeys : ((t.select fun _ c => c.treeId ∈ treeIds).map
      fun q => (q.1, q.2.name, q.2.parent)).map Prod.fst =
        (t.select fun _ c => c.treeId ∈ treeIds).map Prod.fst := by
    rw [List.map_map]
    rfl
  have hnodup := t.nodup_keys.sublist
    (List.filter_sublist.map Prod.fst :
      ((t.select fun _ c => c.treeId ∈ treeIds).map Prod.fst).Sublist (t.rows.map Prod.fst))
  rw [Dict.get?_eq_some, treeNodes, Dict.entries_ofList (hkeys ▸ hnodup), List.mem_map]
  refine ⟨(i, c), List.mem_filter.mpr ⟨Table.get?_eq_some.mp hc, ?_⟩, rfl⟩
  exact decide_eq_true htree

/-- From a category of the loaded trees the two loops collect the same names;
the number of categories above it bounds the fuel. -/
theorem climb_eq_followParents (h : IsForest t) {treeIds : List Nat} {fuel i : Nat} {c : Category}
    (hc : t.get? i = some c) (htree : c.treeId ∈ treeIds)
    (hfuel : (ancestors t i).card + 1 < fuel) (parts : List String) :
    ∃ names, climb (treeNodes t treeIds) fuel (some i) parts = some names ∧
      followParents t fuel (some (i, c)) parts = some (.ok names) := by
  induction fuel generalizing i c parts with
  | zero => omega
  | succ fuel ih =>
    have hnode := get?_treeNodes hc htree
    rw [climb, Option.bind_some, hnode, followParents, parentOf]
    cases hparent : c.parent with
    | none =>
      obtain ⟨fuel, rfl⟩ : ∃ k, fuel = k + 1 := ⟨fuel - 1, by omega⟩
      exact ⟨parts ++ [c.name], rfl, rfl⟩
    | some p =>
      obtain ⟨d, hd, htree'⟩ := h.parent hc hparent
      have hless := card_ancestors_lt h ⟨c, hc, hparent⟩
      have hnext := ih hd (htree' ▸ htree) (by omega) (parts ++ [c.name])
      simp only [hd]
      exact hnext

/-- The paths of a list of categories of the loaded trees. -/
theorem buildPaths_eq (h : IsForest t) {treeIds : List Nat} {fuel : Nat}
    (hfuel : t.rows.length + 1 < fuel) {categories : List (Nat × Category)}
    (hrows : ∀ q ∈ categories, t.get? q.1 = some q.2 ∧ q.2.treeId ∈ treeIds)
    (paths : Dict Nat String) :
    ∃ result, buildPaths fuel (treeNodes t treeIds) categories paths = some result ∧
      (∀ i, i ∈ result.keys ↔ i ∈ paths.keys ∨ i ∈ categories.map Prod.fst) ∧
      (∀ i, i ∉ categories.map Prod.fst → result.get? i = paths.get? i) ∧
      ∀ q ∈ categories, ∃ path, result.get? q.1 = some path ∧
        getFullPath fuel t none q = some (.ok path) := by
  induction categories generalizing paths with
  | nil => exact ⟨paths, rfl, by simp, fun _ _ => rfl, by simp⟩
  | cons q rest ih =>
    obtain ⟨hq, htree⟩ := hrows q List.mem_cons_self
    have habove := card_ancestors_le t q.1
    obtain ⟨names, hclimb, hfollow⟩ := climb_eq_followParents h hq htree
      (show (ancestors t q.1).card + 1 < fuel by omega) []
    obtain ⟨result, hresult, hkeys, hother, hpaths⟩ :=
      ih (fun p hp => hrows p (List.mem_cons_of_mem q hp)) (paths.set q.1 (joinPath names))
    have hfull : getFullPath fuel t none q = some (.ok (joinPath names)) := by
      rw [getFullPath, Option.bind_none, hfollow]
      rfl
    refine ⟨result, ?_, fun i => ?_, fun i hi => ?_, fun p hp => ?_⟩
    · rw [buildPaths, hclimb]
      exact hresult
    · rw [hkeys, Dict.mem_keys_set, List.map_cons, List.mem_cons]
      tauto
    · rw [List.map_cons, List.mem_cons, not_or] at hi
      rw [hother i hi.2, Dict.get?_set_of_ne hi.1]
    · by_cases hrest : p.1 ∈ rest.map Prod.fst
      · obtain ⟨p', hp', he⟩ := List.mem_map.mp hrest
        have hsame : p = p' := by
          have hrow := (hrows p hp).1
          rw [← he, (hrows p' (List.mem_cons_of_mem q hp')).1] at hrow
          exact Prod.ext he.symm (Option.some.inj hrow).symm
        exact hsame ▸ hpaths p' hp'
      · rcases List.mem_cons.mp hp with rfl | hp
        · exact ⟨joinPath names, by rw [hother p.1 hrest, Dict.get?_set_self], hfull⟩
        · exact absurd (List.mem_map_of_mem hp) hrest

/-- `build_full_paths` answers every list of categories of a forest with the
path that `get_full_path` finds for each of them. -/
theorem buildFullPaths_eq_getFullPath (t : Table Category) (h : IsForest t)
    (categories : List (Nat × Category)) (hrows : ∀ q ∈ categories, t.get? q.1 = some q.2)
    (fuel : Nat) (hfuel : t.rows.length + 1 < fuel) :
    ∃ paths, buildFullPaths fuel t categories = some paths ∧
      (∀ i, i ∈ paths.keys ↔ i ∈ categories.map Prod.fst) ∧
      ∀ q ∈ categories, ∃ path, paths.get? q.1 = some path ∧
        getFullPath fuel t none q = some (.ok path) := by
  by_cases hnil : categories = []
  · subst hnil
    exact ⟨Dict.empty, rfl, by simp, by simp⟩
  · obtain ⟨paths, hpaths, hkeys, _, hsame⟩ := buildPaths_eq h hfuel
      (fun q hq => ⟨hrows q hq, List.mem_map_of_mem (f := fun q => q.2.treeId) hq⟩) Dict.empty
    refine ⟨paths, ?_, fun i => ?_, hsame⟩
    · rw [buildFullPaths, if_neg hnil]
      exact hpaths
    · rw [hkeys, Dict.keys_empty]
      simp

/-- Two trees, one with a category below its root. -/
def shopCategories : Table Category :=
  ((Table.empty.insert ⟨"전자제품", none, 1⟩).insert ⟨"컴퓨터", some 1, 1⟩).insert ⟨"도서", none, 2⟩

theorem isForest_shopCategories : IsForest shopCategories := by
  have hrows : ∀ i c, shopCategories.get? i = some c → ∀ j, c.parent = some j →
      j < i ∧ ∃ d, shopCategories.get? j = some d ∧ d.treeId = c.treeId := by
    intro i c hc j hj
    have hmem : (i, c) ∈ [(1, (⟨"전자제품", none, 1⟩ : Category)), (2, ⟨"컴퓨터", some 1, 1⟩),
        (3, ⟨"도서", none, 2⟩)] := Table.get?_eq_some.mp hc
    simp only [List.mem_cons, List.not_mem_nil, or_false, Prod.mk.injEq] at hmem
    rcases hmem with ⟨rfl, rfl⟩ | ⟨rfl, rfl⟩ | ⟨rfl, rfl⟩
    · cases hj
    · cases hj
      exact ⟨by decide, ⟨"전자제품", none, 1⟩, by decide, rfl⟩
    · cases hj
  refine ⟨fun hc hj => (hrows _ _ hc _ hj).2, fun i hi => ?_⟩
  have hlt : ∀ j k, Relation.TransGen (IsParent shopCategories) j k → j < k := by
    intro j k hjk
    induction hjk with
    | single h =>
      obtain ⟨c, hc, hparent⟩ := h
      exact (hrows _ c hc _ hparent).1
    | tail _ h ih =>
      obtain ⟨c, hc, hparent⟩ := h
      exact lt_trans ih (hrows _ c hc _ hparent).1
  exact lt_irrefl i (hlt i i hi)

theorem buildFullPaths_shopCategories :
    ∃ paths, buildFullPaths 5 shopCategories [(2, ⟨"컴퓨터", some 1, 1⟩)] = some paths ∧
      (∀ i, i ∈ paths.keys ↔ i ∈ [((2 : Nat), (⟨"컴퓨터", some 1, 1⟩ : Category))].map Prod.fst) ∧
      ∀ q ∈ [((2 : Nat), (⟨"컴퓨터", some 1, 1⟩ : Category))], ∃ path, paths.get? q.1 = some path ∧
        getFullPath 5 shopCategories none q = some (.ok path) :=
  buildFullPaths_eq_getFullPath shopCategories isForest_shopCategories
    [(2, ⟨"컴퓨터", some 1, 1⟩)] (by decide) 5 (by decide)

example : getFullPath 5 shopCategories none (2, ⟨"컴퓨터", some 1, 1⟩) =
    some (.ok "전자제품 > 컴퓨터") := by decide

end Shopping
