import Shopping.Lib.CacheAside
import Shopping.Lib.Rose
import Shopping.Lib.Table

/-!
# The category tree and its cache

`CategoryViewSet.tree` of `shopping/views/product_views.py`, with the signals of
`shopping/models/product.py` that drop the copy in the cache.  A signal is sent
while the row is saved, before or after the commit.

`cacheTreeChildren` is `cache_tree_children` of mptt: it nests rows that are in
tree order, and keeps their order (`NestsInOrder`).
-/

namespace Shopping

/-- A row of the categories, with the columns of mptt that order them. -/
structure TreeCategory where
  name : String
  slug : String
  isActive : Bool := true
  treeId : Nat
  lft : Nat
  level : Nat
  deriving DecidableEq, Repr

/-- What the tree reads of a product. -/
structure TreeProduct where
  category : Nat
  isActive : Bool := true
  deriving DecidableEq, Repr

structure Catalog where
  categories : Table TreeCategory
  products : Table TreeProduct

/-- A category of the query, with `products_count`. -/
structure CountedCategory where
  id : Nat
  row : TreeCategory
  productsCount : Nat
  deriving DecidableEq, Repr

/-- A category of the answer; its children are those of the node. -/
structure TreeItem where
  id : Nat
  name : String
  slug : String
  productCount : Nat
  deriving DecidableEq, Repr

namespace CategoryTree

/-- `cache.set(cache_key, tree, 60 * 60)`. -/
def treeTtl : Nat := 60 * 60

/-- `Count("products", filter=Q(products__is_active=True))`. -/
def productsCount (db : Catalog) (category : Nat) : Nat :=
  (db.products.select fun _ p => decide (p.category = category) && p.isActive).length

/-- The manager of mptt orders by `tree_id` and `lft`. -/
def treeOrder (p q : Nat × TreeCategory) : Prop :=
  p.2.treeId < q.2.treeId ∨ p.2.treeId = q.2.treeId ∧ p.2.lft ≤ q.2.lft

instance : DecidableRel treeOrder := fun p q =>
  inferInstanceAs (Decidable (p.2.treeId < q.2.treeId ∨
    p.2.treeId = q.2.treeId ∧ p.2.lft ≤ q.2.lft))

/-- The active categories with their counts. -/
def categories (db : Catalog) : List CountedCategory :=
  ((db.categories.select fun _ c => c.isActive).insertionSort treeOrder).map fun q =>
    { id := q.1, row := q.2, productsCount := productsCount db q.1 }

/-- `serialize_category`, of one node. -/
def serializeCategory (category : CountedCategory) : TreeItem :=
  { id := category.id
    name := category.row.name
    slug := category.row.slug
    productCount := category.productsCount }

/-- The tree that a cache miss makes; `none` is an exception. -/
def tree (cacheTreeChildren : List CountedCategory → Option (List (Rose CountedCategory)))
    (db : Catalog) : Option (List (Rose TreeItem)) :=
  (cacheTreeChildren (categories db)).map (Rose.mapAll serializeCategory)

/-- The nodes of the trees are the rows, in the same order. -/
def NestsInOrder
    (cacheTreeChildren : List CountedCategory → Option (List (Rose CountedCategory))) : Prop :=
  ∀ rows roots, cacheTreeChildren rows = some roots → Rose.valuesAll roots = rows

/-- The tree has every active category once, with its active products. -/
structure ListsActive (db : Catalog) (roots : List (Rose TreeItem)) : Prop where
  items : ∀ item, item ∈ Rose.valuesAll roots ↔ ∃ id c, db.categories.get? id = some c ∧
    c.isActive = true ∧ item = ⟨id, c.name, c.slug, productsCount db id⟩
  once : ((Rose.valuesAll roots).map TreeItem.id).Nodup

section

variable {cacheTreeChildren : List CountedCategory → Option (List (Rose CountedCategory))}
  {db : Catalog} {roots : List (Rose TreeItem)}

theorem mem_categories {category : CountedCategory} : category ∈ categories db ↔
    ∃ id c, db.categories.get? id = some c ∧ c.isActive = true ∧
      category = ⟨id, c, productsCount db id⟩ := by
  unfold categories
  rw [List.mem_map]
  constructor
  · rintro ⟨⟨id, c⟩, hmem, rfl⟩
    obtain ⟨hget, hactive⟩ := Table.mem_select.mp ((List.mem_insertionSort treeOrder).mp hmem)
    exact ⟨id, c, hget, hactive, rfl⟩
  · rintro ⟨id, c, hget, hactive, rfl⟩
    exact ⟨(id, c), (List.mem_insertionSort treeOrder).mpr (Table.mem_select.mpr ⟨hget, hactive⟩),
      rfl⟩

theorem categories_nodup (db : Catalog) : ((categories db).map CountedCategory.id).Nodup := by
  unfold categories
  rw [List.map_map]
  exact Table.select_insertionSort_nodup db.categories _ treeOrder

theorem tree_listsActive (hmptt : NestsInOrder cacheTreeChildren)
    (h : tree cacheTreeChildren db = some roots) : ListsActive db roots := by
  obtain ⟨nested, hnested, rfl⟩ := Option.map_eq_some_iff.mp h
  have hvalues : Rose.valuesAll (Rose.mapAll serializeCategory nested)
      = (categories db).map serializeCategory := by
    rw [Rose.valuesAll_mapAll, hmptt _ _ hnested]
  constructor
  · intro item
    rw [hvalues, List.mem_map]
    constructor
    · rintro ⟨category, hmem, rfl⟩
      obtain ⟨id, c, hget, hactive, rfl⟩ := mem_categories.mp hmem
      exact ⟨id, c, hget, hactive, rfl⟩
    · rintro ⟨id, c, hget, hactive, rfl⟩
      exact ⟨⟨id, c, productsCount db id⟩, mem_categories.mpr ⟨id, c, hget, hactive, rfl⟩, rfl⟩
  · rw [hvalues, List.map_map]
    exact categories_nodup db

/-! ## The cache -/

/-- The catalog, the copy of the tree, and the requests. -/
abbrev TreeDesk := CacheAside Catalog (List (Rose TreeItem))

/-- A request asks, reads or stores; a row is saved; or a signal drops the copy. -/
abbrev TreeEvent := CacheEvent Catalog

def step (cacheTreeChildren : List CountedCategory → Option (List (Rose CountedCategory))) :
    TreeDesk → TreeEvent → Option TreeDesk :=
  CacheAside.step (tree cacheTreeChildren) treeTtl

/-! ## A nesting -/

/-- What follows a row and is deeper is below it. -/
def nest : Nat → List CountedCategory → Option (List (Rose CountedCategory))
  | _, [] => some []
  | 0, _ :: _ => none
  | fuel + 1, category :: rest => do
    let children ← nest fuel (rest.takeWhile fun c => decide (category.row.level < c.row.level))
    let siblings ← nest fuel (rest.dropWhile fun c => decide (category.row.level < c.row.level))
    some (.node category children :: siblings)

theorem valuesAll_nest {fuel : Nat} {rows : List CountedCategory}
    {nested : List (Rose CountedCategory)} (h : nest fuel rows = some nested) :
    Rose.valuesAll nested = rows := by
  induction fuel generalizing rows nested with
  | zero =>
    cases rows with
    | nil =>
      cases h
      rfl
    | cons category rest => cases h
  | succ fuel ih =>
    cases rows with
    | nil =>
      cases h
      rfl
    | cons category rest =>
      rw [nest] at h
      obtain ⟨children, hchildren, h⟩ := Option.bind_eq_some_iff.mp h
      obtain ⟨siblings, hsiblings, h⟩ := Option.bind_eq_some_iff.mp h
      cases h
      rw [Rose.valuesAll, Rose.values, ih hchildren, ih hsiblings, List.cons_append,
        List.takeWhile_append_dropWhile]

theorem nest_nestsInOrder : NestsInOrder fun rows => nest rows.length rows :=
  fun _ _ h => valuesAll_nest h

end

end CategoryTree

open CategoryTree

section

variable {cacheTreeChildren : List CountedCategory → Option (List (Rose CountedCategory))}
  {delay : Nat} {db : Catalog} {es fs : List TreeEvent} {w w' : TreeDesk}

/-- Every tree that is served was the tree of the catalog when it was read, with
every active category once.  That is at most an hour ago, and the time that its
request took to store it. -/
theorem category_tree_served (hmptt : NestsInOrder cacheTreeChildren)
    (h : Run (CategoryTree.step cacheTreeChildren) (CacheAside.StoresWithin delay)
      { source := db } es w) :
    ∀ a ∈ w.answers, a.1.readAt ≤ a.2 ∧ a.2 ≤ a.1.readAt + delay + treeTtl ∧
      Passed (CategoryTree.step cacheTreeChildren) (CacheAside.StoresWithin delay)
        { source := db } es fun u => u.now = a.1.readAt ∧
          tree cacheTreeChildren u.source = some a.1.value ∧ ListsActive u.source a.1.value := by
  intro a ha
  obtain ⟨hread, hage, _, es₁, es₂, u, hes, hrun, hnow, hshowed⟩ :=
    (CacheAside.served h).answers a ha
  exact ⟨hread, hage, es₁, es₂, u, hes, hrun, hnow, hshowed, tree_listsActive hmptt hshowed⟩

/-- A category with two others below it, one of them inactive. -/
def smallCatalog (isActive : Bool) : Catalog where
  categories := ((Table.empty.insert
    { name := "전자제품", slug := "전자제품", treeId := 1, lft := 1, level := 0 }).insert
    { name := "노트북", slug := "노트북", isActive, treeId := 1, lft := 4, level := 1 }).insert
    { name := "카메라", slug := "카메라", isActive := false, treeId := 1, lft := 2, level := 1 }
  products := (Table.empty.insert { category := 2 }).insert { category := 2, isActive := false }

/-- A request reads, the category 2 is put away, and the request stores what it
read after the signal. -/
def overtakenRead : List TreeEvent :=
  [.ask, .read 0, .tick 2, .commit (smallCatalog false), .signal, .store 0, .tick 60, .ask]

/-- The names and the counts of the trees that were served, and when. -/
def servedTrees (w : TreeDesk) : List (List (String × Nat) × Nat) :=
  w.answers.map fun a =>
    ((Rose.valuesAll a.1.value).map fun item => (item.name, item.productCount), a.2)

theorem overtaken_run : ∃ w : TreeDesk,
    Run (CategoryTree.step fun rows => nest rows.length rows) (CacheAside.StoresWithin 2)
      { source := smallCatalog true } overtakenRead w ∧
    servedTrees w = [([("전자제품", 0), ("노트북", 1)], 2), ([("전자제품", 0), ("노트북", 1)], 62)] := by
  obtain ⟨w, hrun, hserved⟩ := Run.exists_of_execIf (by decide +kernel :
    (execIf (CategoryTree.step fun rows => nest rows.length rows)
      (fun w e => decide (CacheAside.StoresWithin 2 w e)) { source := smallCatalog true }
      overtakenRead).any (fun w => decide (servedTrees w
        = [([("전자제품", 0), ("노트북", 1)], 2), ([("전자제품", 0), ("노트북", 1)], 62)])) = true)
  exact ⟨w, hrun.mono fun _ _ hok => of_decide_eq_true hok, of_decide_eq_true hserved⟩

/-- The tree that was served last is an hour old at most. -/
theorem category_tree_served_overtaken : ∃ w : TreeDesk,
    servedTrees w = [([("전자제품", 0), ("노트북", 1)], 2), ([("전자제품", 0), ("노트북", 1)], 62)] ∧
      ∀ a ∈ w.answers, a.2 ≤ a.1.readAt + 2 + treeTtl := by
  obtain ⟨w, hrun, hserved⟩ := overtaken_run
  exact ⟨w, hserved, fun a ha => (category_tree_served nest_nestsInOrder hrun a ha).2.1⟩

/-- An hour after the last change, and the time of a request, every tree that is
served is that of the catalog, whichever signals came. -/
theorem category_tree_settles
    (h : Run (CategoryTree.step cacheTreeChildren) (CacheAside.StoresWithin delay)
      { source := db } es w)
    (hquiet : Run (CategoryTree.step cacheTreeChildren)
      (fun w e => CacheAside.StoresWithin delay w e ∧ CacheAside.NoCommit e) w fs w') :
    ∀ a ∈ w'.answers, w.now + delay + treeTtl < a.2 →
      tree cacheTreeChildren w'.source = some a.1.value :=
  fun _ ha hlate => CacheAside.settled h hquiet ha hlate

/-- More than an hour later the category 2 is gone. -/
theorem category_tree_settles_overtaken : ∃ w : TreeDesk, ∃ a ∈ w.answers,
    tree (fun rows => nest rows.length rows) w.source = some a.1.value ∧
      (Rose.valuesAll a.1.value).map TreeItem.name = ["전자제품"] := by
  have hexec : ((execIf (CategoryTree.step fun rows => nest rows.length rows)
      (fun w e => decide (CacheAside.StoresWithin 2 w e)) { source := smallCatalog true }
      overtakenRead).any fun w =>
    (execIf (CategoryTree.step fun rows => nest rows.length rows)
      (fun w e => decide (CacheAside.StoresWithin 2 w e ∧ CacheAside.NoCommit e)) w
      [.tick 3605, .ask, .read 0, .store 0]).any fun w' =>
    w'.answers.any fun a => decide (w.now + 2 + treeTtl < a.2) &&
      decide ((Rose.valuesAll a.1.value).map TreeItem.name = ["전자제품"])) = true := by
    decide +kernel
  obtain ⟨w, hw, hlater⟩ := (Option.any_eq_true _ _).mp hexec
  obtain ⟨w', hw', hanswer⟩ := (Option.any_eq_true _ _).mp hlater
  obtain ⟨a, ha, hright⟩ := List.any_eq_true.mp hanswer
  obtain ⟨hlate, hnames⟩ := (Bool.and_eq_true _ _).mp hright
  exact ⟨w', a, ha, category_tree_settles
    ((Run.of_execIf hw).mono fun _ _ hok => of_decide_eq_true hok)
    ((Run.of_execIf hw').mono fun _ _ hok => of_decide_eq_true hok) a ha
    (of_decide_eq_true hlate), of_decide_eq_true hnames⟩

end

end Shopping
