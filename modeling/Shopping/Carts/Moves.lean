import Shopping.Carts.Bulk
import Shopping.Carts.Wishlist

/-!
# What `move_to_cart` takes off the wishlist

The loop keeps the names of the products that it put into the cart, and the
wishlist loses every product with one of these names.  `MovesTo` says which
products the call puts into the cart, `moved_hasItem_iff` that it does put
these, and `moveLoop_addedItems` which names it keeps.  The call removes what
it put exactly when no other product of the wishlist has such a name
(`move_to_cart_removes_iff`).
-/

namespace Shopping

namespace WishlistService

/-- Whether the cart has an item of the product. -/
def hasItem (db : Db) (cartId : CartId) (k : ProductId) : Bool :=
  ((db.carts.get? cartId).bind fun c => c.item? k).isSome

/-- The cart that the call works on. -/
def activeCart (db : Db) (user : UserId) : CartId :=
  (CartService.getOrCreateActiveCart db user).1

/-- The wishlist and the database after `move_to_cart` with
`remove_from_wishlist=True`; a call that raises changes neither. -/
def moved (db : Db) (wishlist : List ProductId) (user : UserId) (productIds : List ProductId) :
    List ProductId × Db :=
  match moveToCart db wishlist user productIds true with
  | .ok out => out.2
  | .error _ => (wishlist, db)

/-- The product is one to put into the cart: wished, asked for, in stock, and
not in the cart yet. -/
def MovesTo (db : Db) (wishlist : List ProductId) (user : UserId) (productIds : List ProductId)
    (k : ProductId) : Prop :=
  k ∈ wishlist ∧ k ∈ productIds ∧
    (∃ product, db.products.get? k = some product ∧ 0 < product.stock) ∧
    hasItem db (activeCart db user) k = false

/-! ## The loop -/

section

variable {db : Db} {cartId : CartId} {k j : ProductId}

theorem getOrCreateItem_fst (db : Db) (cartId : CartId) (k : ProductId) :
    (getOrCreateItem db cartId k).1 = !hasItem db cartId k := by
  unfold getOrCreateItem hasItem
  split
  · rename_i h
    rw [h]
    rfl
  · rename_i h
    rw [h]
    rfl

theorem getOrCreateItem_products (db : Db) (cartId : CartId) (k : ProductId) :
    (getOrCreateItem db cartId k).2.products = db.products := by
  unfold getOrCreateItem
  split
  · rfl
  · rfl

/-- The cart has the item then, and no other new one. -/
theorem hasItem_getOrCreateItem (hcart : (db.carts.get? cartId).isSome = true) :
    hasItem (getOrCreateItem db cartId k).2 cartId j = (hasItem db cartId j || decide (j = k)) := by
  obtain ⟨cart, hcart⟩ := Option.isSome_iff_exists.mp hcart
  unfold getOrCreateItem
  rw [hcart, Option.bind_some]
  cases hitem : cart.item? k with
  | some it =>
    by_cases hj : j = k
    · simp [hasItem, hcart, hj, hitem]
    · simp [hj]
  | none =>
    unfold hasItem CartService.saveCart
    dsimp only
    rw [Table.get?_modify_self, hcart, Option.map_some, Option.bind_some, Option.bind_some]
    unfold Cart.createItem Cart.item?
    dsimp only
    rw [List.find?_append, List.find?_singleton]
    by_cases hj : j = k
    · simp [hj]
    · simp [hj, Ne.symm hj]

theorem isSome_getOrCreateItem (hcart : (db.carts.get? cartId).isSome = true) :
    ((getOrCreateItem db cartId k).2.carts.get? cartId).isSome = true := by
  unfold getOrCreateItem
  split
  · exact hcart
  · unfold CartService.saveCart
    dsimp only
    rw [Table.get?_modify_self, Option.isSome_map]
    exact hcart

/-- The database after one round of the loop. -/
def moveOne (cartId : CartId) (db : Db) (k : ProductId) (product : Product) : Db :=
  if product.stock ≤ 0 then db else (getOrCreateItem db cartId k).2

theorem moveOne_products (cartId : CartId) (db : Db) (k : ProductId) (product : Product) :
    (moveOne cartId db k product).products = db.products := by
  unfold moveOne
  split
  · rfl
  · exact getOrCreateItem_products db cartId k

theorem isSome_moveOne {product : Product} (hcart : (db.carts.get? cartId).isSome = true) :
    ((moveOne cartId db k product).carts.get? cartId).isSome = true := by
  unfold moveOne
  split
  · exact hcart
  · exact isSome_getOrCreateItem hcart

theorem hasItem_moveOne {product : Product} (hcart : (db.carts.get? cartId).isSome = true) :
    hasItem (moveOne cartId db k product) cartId j = true ↔
      hasItem db cartId j = true ∨ j = k ∧ 0 < product.stock := by
  unfold moveOne
  split
  · rename_i hstock
    simp [not_lt.mpr hstock]
  · rename_i hstock
    rw [hasItem_getOrCreateItem hcart, Bool.or_eq_true, decide_eq_true_eq]
    simp [not_le.mp hstock]

theorem moveLoop_snd {product : Product} {rest : List (ProductId × Product)} :
    (moveLoop cartId db ((k, product) :: rest)).2
      = (moveLoop cartId (moveOne cartId db k product) rest).2 := by
  rw [moveLoop]
  unfold moveOne
  split
  · rfl
  · dsimp only
    split
    · rfl
    · rfl

theorem moveLoop_fst {product : Product} {rest : List (ProductId × Product)} :
    (moveLoop cartId db ((k, product) :: rest)).1.addedItems
      = if 0 < product.stock ∧ hasItem db cartId k = false then
          product.name :: (moveLoop cartId (moveOne cartId db k product) rest).1.addedItems
        else (moveLoop cartId (moveOne cartId db k product) rest).1.addedItems := by
  rw [moveLoop]
  unfold moveOne
  by_cases hstock : product.stock ≤ 0
  · rw [if_pos hstock, if_pos hstock, if_neg fun h => not_lt.mpr hstock h.1]
  · rw [if_neg hstock, if_neg hstock]
    dsimp only
    rw [getOrCreateItem_fst]
    cases hasItem db cartId k with
    | false => rw [Bool.not_false, if_pos rfl, if_pos ⟨not_le.mp hstock, rfl⟩]
    | true =>
      rw [Bool.not_true, if_neg Bool.false_ne_true, if_neg fun h => Bool.noConfusion h.2]

theorem moveLoop_products (cartId : CartId) (products : List (ProductId × Product)) (db : Db) :
    (moveLoop cartId db products).2.products = db.products := by
  induction products generalizing db with
  | nil => rfl
  | cons p rest ih =>
    rw [moveLoop_snd, ih, moveOne_products]

/-- After the loop the cart has what it had, and the products in stock. -/
theorem hasItem_moveLoop (products : List (ProductId × Product)) (db : Db)
    (hcart : (db.carts.get? cartId).isSome = true) :
    hasItem (moveLoop cartId db products).2 cartId k = true ↔
      hasItem db cartId k = true ∨ ∃ p ∈ products, p.1 = k ∧ 0 < p.2.stock := by
  induction products generalizing db with
  | nil => simp [moveLoop]
  | cons p rest ih =>
    rw [moveLoop_snd, ih _ (isSome_moveOne hcart), hasItem_moveOne hcart, or_assoc,
      List.exists_mem_cons_iff, @eq_comm _ k]

/-- The names that the loop keeps: of the products in stock that the cart did
not have. -/
theorem mem_addedItems_moveLoop {name : String} (products : List (ProductId × Product)) (db : Db)
    (hcart : (db.carts.get? cartId).isSome = true)
    (hrows : ∀ p ∈ products, ∀ q ∈ products, p.1 = q.1 → p = q) :
    name ∈ (moveLoop cartId db products).1.addedItems ↔
      ∃ p ∈ products, 0 < p.2.stock ∧ hasItem db cartId p.1 = false ∧ p.2.name = name := by
  induction products generalizing db with
  | nil => simp [moveLoop]
  | cons p rest ih =>
    obtain ⟨k, product⟩ := p
    have hrest := ih (moveOne cartId db k product) (isSome_moveOne hcart) fun p hp q hq =>
      hrows p (List.mem_cons_of_mem _ hp) q (List.mem_cons_of_mem _ hq)
    -- A later row of the same product is the same row.
    have hsame : ∀ p ∈ rest, p.1 = k → p = (k, product) := fun p hp hk =>
      hrows p (List.mem_cons_of_mem _ hp) (k, product) List.mem_cons_self hk
    have hnew : ∀ p : ProductId × Product,
        hasItem (moveOne cartId db k product) cartId p.1 = false ↔
          hasItem db cartId p.1 = false ∧ ¬(p.1 = k ∧ 0 < product.stock) := by
      intro p
      rw [← Bool.not_eq_true, hasItem_moveOne hcart, not_or, Bool.not_eq_true]
    rw [moveLoop_fst, List.exists_mem_cons_iff]
    by_cases hadded : 0 < product.stock ∧ hasItem db cartId k = false
    · rw [if_pos hadded, List.mem_cons, hrest]
      constructor
      · rintro (hname | ⟨p, hp, hstock, hitem, hname⟩)
        · exact Or.inl ⟨hadded.1, hadded.2, hname.symm⟩
        · exact Or.inr ⟨p, hp, hstock, ((hnew p).mp hitem).1, hname⟩
      · rintro (⟨_, _, hname⟩ | ⟨p, hp, hstock, hitem, hname⟩)
        · exact Or.inl hname.symm
        · by_cases hk : p.1 = k
          · rw [hsame p hp hk] at hname
            exact Or.inl hname.symm
          · exact Or.inr ⟨p, hp, hstock, (hnew p).mpr ⟨hitem, fun h => hk h.1⟩, hname⟩
    · rw [if_neg hadded, hrest]
      constructor
      · rintro ⟨p, hp, hstock, hitem, hname⟩
        exact Or.inr ⟨p, hp, hstock, ((hnew p).mp hitem).1, hname⟩
      · rintro (⟨hstock, hitem, _⟩ | ⟨p, hp, hstock, hitem, hname⟩)
        · exact absurd ⟨hstock, hitem⟩ hadded
        · refine ⟨p, hp, hstock, (hnew p).mpr ⟨hitem, fun h => hadded ⟨h.2, ?_⟩⟩, hname⟩
          rw [← h.1]
          exact hitem

/-! ## The call -/

variable {wishlist productIds : List ProductId} {user : UserId}

theorem mem_wishedProducts {p : ProductId × Product} :
    p ∈ wishedProducts db wishlist productIds ↔
      p.1 ∈ wishlist ∧ p.1 ∈ productIds ∧ db.products.get? p.1 = some p.2 := by
  unfold wishedProducts
  rw [List.mem_filterMap]
  constructor
  · rintro ⟨k, hk, hp⟩
    split at hp
    · rename_i hids
      obtain ⟨product, hproduct, rfl⟩ := Option.map_eq_some_iff.mp hp
      exact ⟨hk, hids, hproduct⟩
    · cases hp
  · rintro ⟨hk, hids, hproduct⟩
    refine ⟨p.1, hk, ?_⟩
    rw [if_pos hids, hproduct]
    rfl

theorem movesTo_iff : MovesTo db wishlist user productIds k ↔
    (∃ p ∈ wishedProducts db wishlist productIds, p.1 = k ∧ 0 < p.2.stock) ∧
      hasItem db (activeCart db user) k = false := by
  unfold MovesTo
  constructor
  · rintro ⟨hk, hids, ⟨product, hproduct, hstock⟩, hitem⟩
    exact ⟨⟨(k, product), mem_wishedProducts.mpr ⟨hk, hids, hproduct⟩, rfl, hstock⟩, hitem⟩
  · rintro ⟨⟨p, hp, rfl, hstock⟩, hitem⟩
    obtain ⟨hk, hids, hproduct⟩ := mem_wishedProducts.mp hp
    exact ⟨hk, hids, ⟨p.2, hproduct, hstock⟩, hitem⟩

/-- The cart of the member is there, with the items that it had. -/
theorem getOrCreateActiveCart_spec (db : Db) (user : UserId) (k : ProductId) :
    ((CartService.getOrCreateActiveCart db user).2.carts.get? (activeCart db user)).isSome = true ∧
    hasItem (CartService.getOrCreateActiveCart db user).2 (activeCart db user) k
      = hasItem db (activeCart db user) k := by
  unfold activeCart CartService.getOrCreateActiveCart
  split
  · rename_i cartId cart hfind
    refine ⟨?_, rfl⟩
    rw [(Table.find?_eq_some_get hfind).1]
    rfl
  · unfold hasItem
    rw [Table.get?_insert_next, Table.get?_next]
    exact ⟨rfl, rfl⟩

theorem removeByName_nil : removeByName db wishlist [] = wishlist := by
  unfold removeByName
  refine List.filter_eq_self.mpr fun k _ => ?_
  cases db.products.get? k with
  | none => rfl
  | some product => simp

/-- A call that does not raise. -/
theorem moved_eq (hids : productIds ≠ [])
    (hproducts : wishedProducts db wishlist productIds ≠ []) :
    moved db wishlist user productIds =
      let out := moveLoop (activeCart db user) (CartService.getOrCreateActiveCart db user).2
        (wishedProducts db wishlist productIds)
      (removeByName out.2 wishlist out.1.addedItems, out.2) := by
  unfold moved moveToCart
  rw [if_neg hids, if_neg hproducts]
  unfold activeCart
  dsimp only
  by_cases hadded : (moveLoop (CartService.getOrCreateActiveCart db user).1
      (CartService.getOrCreateActiveCart db user).2
      (wishedProducts db wishlist productIds)).1.addedItems = []
  · rw [if_neg fun h => h.2 hadded, hadded, removeByName_nil]
  · rw [if_pos ⟨rfl, hadded⟩]

theorem mem_removeByName {names : List String} : k ∈ removeByName db wishlist names ↔
    k ∈ wishlist ∧ ∀ product, db.products.get? k = some product → product.name ∉ names := by
  unfold removeByName
  rw [List.mem_filter]
  refine and_congr_right fun _ => ?_
  cases db.products.get? k with
  | none => simp
  | some product => simp

end

/-- Which products the call puts into the cart, and which it leaves on the
wishlist. -/
theorem moved_spec (db : Db) (wishlist : List ProductId) (user : UserId)
    (productIds : List ProductId) (k : ProductId) :
    (hasItem (moved db wishlist user productIds).2 (activeCart db user) k = true ↔
      hasItem db (activeCart db user) k = true ∨ MovesTo db wishlist user productIds k) ∧
    (k ∈ (moved db wishlist user productIds).1 ↔
      k ∈ wishlist ∧ ∀ product, db.products.get? k = some product →
        ∀ j other, MovesTo db wishlist user productIds j → db.products.get? j = some other →
          other.name ≠ product.name) := by
  by_cases hnone : wishedProducts db wishlist productIds = []
  · -- The call raises, and there is nothing to move.
    have hmoves : ∀ j, ¬MovesTo db wishlist user productIds j := by
      intro j hj
      obtain ⟨⟨p, hp, _⟩, _⟩ := movesTo_iff.mp hj
      rw [hnone] at hp
      cases hp
    have hmoved : moved db wishlist user productIds = (wishlist, db) := by
      unfold moved moveToCart
      by_cases hids : productIds = []
      · rw [if_pos hids]
      · rw [if_neg hids, if_pos hnone]
    rw [hmoved]
    simp [hmoves]
  · have hids : productIds ≠ [] := by
      rintro rfl
      exact hnone (List.filterMap_eq_nil_iff.mpr fun k _ => if_neg List.not_mem_nil)
    obtain ⟨hcart, _⟩ := getOrCreateActiveCart_spec db user k
    have hproducts : (CartService.getOrCreateActiveCart db user).2.products = db.products := by
      obtain ⟨carts, hcarts⟩ : CartService.OnlyCarts db _ :=
        CartService.getOrCreateActiveCart_onlyCarts user
      rw [hcarts]
    have hbefore := fun j => (getOrCreateActiveCart_spec db user j).2
    rw [moved_eq hids hnone]
    constructor
    · rw [hasItem_moveLoop _ _ hcart, hbefore, movesTo_iff]
      cases hasItem db (activeCart db user) k with
      | false => simp
      | true => simp
    · rw [mem_removeByName, moveLoop_products, hproducts]
      refine and_congr_right fun _ => forall_congr' fun product => imp_congr_right fun _ => ?_
      rw [mem_addedItems_moveLoop _ _ hcart fun p hp q hq hpq => ?_]
      · constructor
        · intro hname j other hmoves hother heq
          obtain ⟨⟨p, hp, rfl, hstock⟩, hitem⟩ := movesTo_iff.mp hmoves
          have hrow : p.2 = other :=
            Option.some.inj ((mem_wishedProducts.mp hp).2.2.symm.trans hother)
          refine hname ⟨p, hp, hstock, ?_, ?_⟩
          · rw [hbefore]
            exact hitem
          · rw [hrow]
            exact heq
        · rintro hname ⟨p, hp, hstock, hitem, heq⟩
          rw [hbefore] at hitem
          exact hname p.1 p.2 (movesTo_iff.mpr ⟨⟨p, hp, rfl, hstock⟩, hitem⟩)
            (mem_wishedProducts.mp hp).2.2 heq
      · have hp' := (mem_wishedProducts.mp hp).2.2
        rw [hpq, (mem_wishedProducts.mp hq).2.2, Option.some.injEq] at hp'
        exact Prod.ext hpq hp'.symm

/-- The call takes off the wishlist what it put into the cart, and nothing
else, exactly when every product of the wishlist with the name of one that it
put is one that it put. -/
theorem move_to_cart_removes_iff (db : Db) (wishlist : List ProductId) (user : UserId)
    (productIds : List ProductId) :
    (∀ k, k ∈ (moved db wishlist user productIds).1 ↔
      k ∈ wishlist ∧
        ¬(hasItem db (activeCart db user) k = false ∧
          hasItem (moved db wishlist user productIds).2 (activeCart db user) k = true)) ↔
    ∀ j k other product, MovesTo db wishlist user productIds j →
      db.products.get? j = some other → k ∈ wishlist → db.products.get? k = some product →
        other.name = product.name → MovesTo db wishlist user productIds k := by
  have hnew : ∀ k, hasItem db (activeCart db user) k = false ∧
      hasItem (moved db wishlist user productIds).2 (activeCart db user) k = true ↔
        MovesTo db wishlist user productIds k := by
    intro k
    rw [(moved_spec db wishlist user productIds k).1]
    constructor
    · rintro ⟨hbefore, hafter | hmoves⟩
      · rw [hbefore] at hafter
        cases hafter
      · exact hmoves
    · intro hmoves
      exact ⟨hmoves.2.2.2, Or.inr hmoves⟩
  simp only [hnew, (moved_spec db wishlist user productIds _).2]
  constructor
  · intro h j k other product hj hother hk hproduct hname
    by_contra hstays
    exact ((h k).mpr ⟨hk, hstays⟩).2 product hproduct j other hj hother hname
  · intro h k
    constructor
    · rintro ⟨hk, hkept⟩
      refine ⟨hk, fun hmoves => ?_⟩
      obtain ⟨product, hproduct, _⟩ := hmoves.2.2.1
      exact hkept product hproduct k product hmoves hproduct rfl
    · rintro ⟨hk, hstays⟩
      exact ⟨hk, fun product hproduct j other hj hother hname =>
        hstays (h j k other product hj hother hk hproduct hname)⟩

/-- Two cups of one name on the wishlist, the second out of stock. -/
def twoCups : Db :=
  { CartService.fiveInStock with
    products := CartService.fiveInStock.products.insert
      { name := "컵", price := 12000, stock := 0 } }

/-- The first is moved, and both are taken off the wishlist. -/
theorem move_to_cart_removes_namesake :
    (moved twoCups [1, 2] 7 [1, 2]).1 = [] ∧
    hasItem (moved twoCups [1, 2] 7 [1, 2]).2 (activeCart twoCups 7) 1 = true ∧
    hasItem (moved twoCups [1, 2] 7 [1, 2]).2 (activeCart twoCups 7) 2 = false := by
  decide +kernel

end WishlistService

end Shopping
