import Shopping.Carts.Merge
import Shopping.Carts.Prices
import Shopping.Carts.Wishlist
import Shopping.Lib.Run

/-!
# The price gate

Everything that puts items into a cart, moves them or changes their prices, as
the events of one machine.  Beside the database it keeps, for every item, the
price of the product when the item was put into a cart, or when the customer
last accepted it.  The code keeps that price in `price_at_add`.

`move_to_cart` and `Cart.merge_anonymous_cart` create items without it, and the
gate does not see their prices change (`price_gate_missed`).  `keepsPrice` says
that a step creates no such item, and `price_gate` is about the runs of such
steps.
-/

namespace Shopping

/-- `put` are the prices that the customers know. -/
structure PriceGate where
  db : Db
  wishlists : UserId → List ProductId
  put : CartId → ProductId → Option Int

/-- What can happen to carts and prices. -/
inductive CartEvent where
  | memberCart (user : UserId)
  | sessionCart (sessionKey : String)
  | addItem (cart : CartId) (product : ProductId) (quantity : Int)
  | bulkAddItems (cart : CartId) (items : List CartService.BulkItem)
  | updateItemQuantity (cart : CartId) (product : ProductId) (quantity : Int)
  | updateItemPrices (cart : CartId)
  | serviceMerge (user : UserId) (sessionKey : String)
  | modelMerge (user : UserId) (sessionKey : String)
  | moveToCart (user : UserId) (productIds : List ProductId) (removeFromWishlist : Bool)
  | wish (user : UserId) (products : List ProductId)
  | editProduct (product : ProductId) (row : Product)

namespace PriceGate

/-- The database after the event.  A call that raises changes nothing. -/
def result (s : PriceGate) : CartEvent → Db
  | .memberCart user => (CartService.getOrCreateActiveCart s.db user).2
  | .sessionCart sessionKey => (CartService.getOrCreateSessionCart s.db sessionKey).2
  | .addItem cart k quantity =>
    match CartService.addItem s.db s.db.products cart k quantity with
    | .error _ => s.db
    | .ok (_, db) => db
  | .bulkAddItems cart items =>
    match CartService.bulkAddItems s.db s.db.products cart items with
    | .error _ => s.db
    | .ok (_, db) => db
  | .updateItemQuantity cart k quantity =>
    match CartService.updateItemQuantity s.db cart k quantity with
    | .error _ => s.db
    | .ok (_, db) => db
  | .updateItemPrices cart => (CartService.updateItemPrices s.db cart).2
  | .serviceMerge user sessionKey => (CartService.mergeAnonymousCart s.db user sessionKey).2
  | .modelMerge user sessionKey => (Cart.mergeAnonymousCart s.db user sessionKey).2
  | .moveToCart user ids remove =>
    match WishlistService.moveToCart s.db (s.wishlists user) user ids remove with
    | .error _ => s.db
    | .ok (_, _, db) => db
  | .wish _ _ => s.db
  | .editProduct k row => { s.db with products := s.db.products.modify k fun _ => row }

/-- The wishlists after the event. -/
def wishlistsAfter (s : PriceGate) : CartEvent → UserId → List ProductId
  | .moveToCart user ids remove =>
    match WishlistService.moveToCart s.db (s.wishlists user) user ids remove with
    | .error _ => s.wishlists
    | .ok (_, wishlist, _) => Function.update s.wishlists user wishlist
  | .wish user products => Function.update s.wishlists user products
  | _ => s.wishlists

/-- The cart that a merge takes items from. -/
def source (s : PriceGate) : CartEvent → Option CartId
  | .serviceMerge _ sessionKey => (CartService.anonymousCart? s.db sessionKey).map Prod.fst
  | .modelMerge _ sessionKey => (CartService.anonymousCart? s.db sessionKey).map Prod.fst
  | _ => none

/-- The cart has an item of the product. -/
def has (db : Db) (c : CartId) (k : ProductId) : Bool :=
  ((db.carts.get? c).bind fun cart => cart.item? k).isSome

/-- The price that the customer knows of an item after the event.  He accepts
the prices of a cart with `update_item_prices`; an item that a merge takes over
was put into a cart before; one that is new is put into a cart now. -/
def known (s : PriceGate) (e : CartEvent) (c : CartId) (k : ProductId) : Option Int :=
  let price : Option Int := ((result s e).products.get? k).map Product.price
  match e with
  | .updateItemPrices cart => if c = cart ∧ price.isSome then price else s.put c k
  | _ =>
    if has s.db c k then s.put c k
    else
      match s.source e with
      | none => price
      | some a => if has s.db a k then s.put a k else price

def step (s : PriceGate) (e : CartEvent) : Option PriceGate :=
  some { db := result s e, wishlists := wishlistsAfter s e, put := known s e }

/-- No carts yet. -/
def start (db : Db) (wishlists : UserId → List ProductId) : PriceGate where
  db := { db with carts := Table.empty }
  wishlists := wishlists
  put := fun _ _ => none

/-- The step creates no item without a price: a product that is moved from a
wishlist is sold out or in the cart, and an item that the login merges is of a
product in the cart of the member. -/
def keepsPrice (s : PriceGate) : CartEvent → Bool
  | .moveToCart user ids _ =>
    (WishlistService.wishedProducts s.db (s.wishlists user) ids).all fun p =>
      decide (p.2.stock ≤ 0) || has s.db (CartService.getOrCreateActiveCart s.db user).1 p.1
  | .modelMerge user sessionKey =>
    (CartService.anonymousCart? s.db sessionKey).all fun p => p.2.items.all fun it =>
      has s.db (CartService.getOrCreateActiveCart s.db user).1 it.product
  | _ => true

end PriceGate

/-- Every item whose price is not the one that the customer knows is reported,
and no order is made of its cart. -/
def Gated (s : PriceGate) : Prop :=
  ∀ c cart, s.db.carts.get? c = some cart → ∀ it ∈ cart.items, ∀ product,
    s.db.products.get? it.product = some product → s.put c it.product ≠ some product.price →
      (∃ change ∈ CartService.checkPriceChanges s.db cart,
        change.productId = it.product ∧ change.currentPrice = product.price ∧
        change.originalPrice = s.put c it.product) ∧
      ∀ user isEmailVerified,
        s.db.carts.find? (fun _ c => decide (c.user = some user) && c.isActive) = some (c, cart) →
        ∃ e, OrderCreateSerializer.validate s.db user isEmailVerified = .error e

/-! ## The items of the carts -/

/-- The item is in the cart. -/
def Holds (db : Db) (c : CartId) (it : CartItem) : Prop :=
  ∃ cart, db.carts.get? c = some cart ∧ it ∈ cart.items

/-- The same product at the same price. -/
def SameEntry (it it' : CartItem) : Prop :=
  it'.product = it.product ∧ it'.priceAtAdd = it.priceAtAdd

/-- Where an item comes from: from its cart, from the cart that is merged, or
it is new and has the price of its product. -/
inductive Origin (db : Db) (source : Option CartId) (c : CartId) (it' : CartItem) : Prop
  | kept {it : CartItem} (h : Holds db c it) (hsame : SameEntry it it')
  | moved {a : CartId} {it : CartItem} (hnew : PriceGate.has db c it'.product = false)
      (ha : source = some a) (h : Holds db a it) (hsame : SameEntry it it')
  | created {product : Product} (hnew : PriceGate.has db c it'.product = false)
      (hsource : source = none) (hproduct : db.products.get? it'.product = some product)
      (hprice : it'.priceAtAdd = some product.price)

/-- Every item of `db'` has its origin in `db`. -/
structure Traced (db db' : Db) (source : Option CartId) : Prop where
  products : db'.products = db.products
  origin : ∀ c it, Holds db' c it → Origin db source c it

section

open PriceGate CartService

variable {db db₀ : Db} {source : Option CartId} {c cartId : CartId} {k : ProductId}
  {it it' : CartItem}

theorem Origin.same (h : Origin db source c it) (hsame : SameEntry it it') :
    Origin db source c it' := by
  obtain ⟨hproduct, hprice⟩ := hsame
  cases h with
  | kept h hs => exact .kept h ⟨hproduct.trans hs.1, hprice.trans hs.2⟩
  | moved hnew ha h hs =>
    refine .moved ?_ ha h ⟨hproduct.trans hs.1, hprice.trans hs.2⟩
    rwa [hproduct]
  | created hnew hsource hp hs =>
    refine .created ?_ hsource ?_ (hprice.trans hs)
    · rwa [hproduct]
    · rwa [hproduct]

theorem has_of_holds (h : Holds db c it) : has db c it.product = true := by
  obtain ⟨cart, hget, hit⟩ := h
  unfold has Cart.item?
  rw [hget, Option.bind_some, List.find?_isSome]
  exact ⟨it, hit, decide_eq_true rfl⟩

/-- An edit keeps the items of a product when it keeps them in its cart. -/
theorem has_saveCart {f : Cart → Cart}
    (hf : ∀ cart, (cart.item? k).isSome = true → ((f cart).item? k).isSome = true)
    (h : has db c k = true) : has (saveCart db cartId f) c k = true := by
  unfold has saveCart at *
  rw [Table.get?_modify]
  by_cases hc : c = cartId
  · rw [if_pos hc]
    cases hget : db.carts.get? c with
    | none =>
      rw [hget] at h
      cases h
    | some cart =>
      rw [hget] at h
      exact hf cart h
  · rw [if_neg hc]
    exact h

theorem Traced.refl (db : Db) (source : Option CartId) : Traced db db source :=
  ⟨rfl, fun _ _ h => .kept h ⟨rfl, rfl⟩⟩

/-- After an edit of one cart whose items are those from before, or have an
origin of their own. -/
theorem Traced.edit (h : Traced db₀ db source) {f : Cart → Cart}
    (hf : ∀ cart, db.carts.get? cartId = some cart → ∀ it' ∈ (f cart).items,
      (∃ it ∈ cart.items, SameEntry it it') ∨ Origin db₀ source cartId it') :
    Traced db₀ (saveCart db cartId f) source := by
  refine ⟨h.products, fun c it' hit' => ?_⟩
  obtain ⟨cart', hsaved, hit'⟩ := hit'
  have hget : (db.carts.modify cartId f).get? c = some cart' := hsaved
  rcases Table.modify_cases hget with ⟨cart, rfl, hcart, rfl⟩ | ⟨_, hget⟩
  · rcases hf cart hcart it' hit' with ⟨it, hit, hsame⟩ | horigin
    · exact (h.origin c it ⟨cart, hcart, hit⟩).same hsame
    · exact horigin
  · exact h.origin c it' ⟨cart', hget, hit'⟩

/-! ## The edits -/

theorem item?_isSome {cart : Cart} :
    (cart.item? k).isSome = true ↔ ∃ it ∈ cart.items, it.product = k := by
  unfold Cart.item?
  simp [List.find?_isSome]

/-- An item with another quantity is the same item. -/
theorem sameEntry_quantity {cart : Cart} {q : CartItem → Nat}
    (h : it' ∈ cart.items.map fun it =>
      if it.product = k then { it with quantity := q it } else it) :
    ∃ it ∈ cart.items, SameEntry it it' := by
  obtain ⟨it, hit, rfl⟩ := List.mem_map.mp h
  refine ⟨it, hit, ?_⟩
  by_cases hk : it.product = k
  · rw [if_pos hk]
    exact ⟨rfl, rfl⟩
  · rw [if_neg hk]
    exact ⟨rfl, rfl⟩

/-- A cart keeps the products whose items are the same. -/
theorem item?_of_map {cart : Cart} {f : CartItem → CartItem} {j : ProductId}
    (hf : ∀ it, (f it).product = it.product) (h : (cart.item? j).isSome = true) :
    (({ cart with items := cart.items.map f } : Cart).item? j).isSome = true := by
  rw [item?_isSome] at h ⊢
  obtain ⟨it, hit, hk⟩ := h
  exact ⟨f it, List.mem_map_of_mem hit, (hf it).trans hk⟩

theorem item?_createItem {cart : Cart} {j : ProductId} (h : (cart.item? j).isSome = true) :
    ((Cart.createItem it cart).item? j).isSome = true := by
  rw [item?_isSome] at h ⊢
  obtain ⟨it', hit, hk⟩ := h
  exact ⟨it', List.mem_append_left _ hit, hk⟩

theorem quantity_product (q : CartItem → Nat) (it : CartItem) :
    (if it.product = k then { it with quantity := q it } else it).product = it.product := by
  split
  · rfl
  · rfl

theorem has_eq_false {cart : Cart} (hget : db.carts.get? c = some cart)
    (h : cart.item? k = none) : has db c k = false := by
  unfold has
  rw [hget, Option.bind_some, h]
  rfl

/-- An edit that keeps the products and prices of the items. -/
theorem Traced.increase (h : Traced db₀ db source) (quantity : Nat) :
    Traced db₀ (saveCart db cartId (Cart.increaseQuantity k quantity)) source :=
  h.edit fun _ _ _ hit' => Or.inl (sameEntry_quantity (q := fun it => it.quantity + quantity) hit')

theorem Traced.setQuantity (h : Traced db₀ db source) (quantity : Nat) :
    Traced db₀ (saveCart db cartId (Cart.setQuantity k quantity)) source :=
  h.edit fun _ _ _ hit' => Or.inl (sameEntry_quantity (q := fun _ => quantity) hit')

theorem Traced.delete (h : Traced db₀ db source) :
    Traced db₀ (saveCart db cartId (Cart.deleteItem k)) source :=
  h.edit fun _ _ it' hit' => Or.inl ⟨it', List.mem_of_mem_filter hit', rfl, rfl⟩

theorem Traced.create (h : Traced db₀ db source) (horigin : Origin db₀ source cartId it) :
    Traced db₀ (saveCart db cartId (Cart.createItem it)) source := by
  refine h.edit fun cart _ it' hit' => ?_
  rcases List.mem_append.mp hit' with hold | hnew
  · exact Or.inl ⟨it', hold, rfl, rfl⟩
  · rw [List.mem_singleton] at hnew
    rw [hnew]
    exact Or.inr horigin

/-- A new cart is empty. -/
theorem Traced.newCart (h : Traced db₀ db source) {cart : Cart} (hempty : cart.items = []) :
    Traced db₀ { db with carts := db.carts.insert cart } source := by
  refine ⟨h.products, fun c it hit => ?_⟩
  obtain ⟨found, hget, hit⟩ := hit
  have hget : (db.carts.insert cart).get? c = some found := hget
  rcases Table.insert_cases hget with ⟨_, rfl⟩ | hget
  · rw [hempty] at hit
    cases hit
  · exact h.origin c it ⟨found, hget, hit⟩

theorem Traced.memberCart (h : Traced db₀ db source) (user : UserId) :
    Traced db₀ (getOrCreateActiveCart db user).2 source := by
  unfold CartService.getOrCreateActiveCart
  split
  · exact h
  · exact h.newCart rfl

theorem Traced.sessionCart (h : Traced db₀ db source) (sessionKey : String) :
    Traced db₀ (getOrCreateSessionCart db sessionKey).2 source := by
  unfold CartService.getOrCreateSessionCart
  split
  · exact h
  · exact h.newCart rfl

theorem holds_getOrCreateActiveCart {user : UserId}
    (h : Holds (CartService.getOrCreateActiveCart db user).2 c it) : Holds db c it := by
  obtain ⟨cart, hget, hit⟩ := h
  unfold CartService.getOrCreateActiveCart at hget
  split at hget
  · exact ⟨cart, hget, hit⟩
  · have hget : (db.carts.insert _).get? c = some cart := hget
    rcases Table.insert_cases hget with ⟨_, rfl⟩ | hget
    · cases hit
    · exact ⟨cart, hget, hit⟩

theorem has_getOrCreateActiveCart {user : UserId} (h : has db c k = true) :
    has (CartService.getOrCreateActiveCart db user).2 c k = true := by
  unfold CartService.getOrCreateActiveCart
  split
  · exact h
  · unfold has at *
    cases hget : db.carts.get? c with
    | none =>
      rw [hget] at h
      cases h
    | some cart =>
      rw [hget] at h
      show ((db.carts.insert _).get? c |>.bind fun cart => cart.item? k).isSome = true
      rw [Table.get?_insert_of_some hget]
      exact h

/-! ## The calls -/

theorem getCart_ok {cart : Cart} (h : getCart db cartId = .ok cart) :
    db.carts.get? cartId = some cart := by
  unfold getCart at h
  split at h
  · cases h
  · rename_i found hget
    cases h
    exact hget

theorem traced_addItem {quantity : Int} {db' : Db}
    (h : addItem db db.products cartId k quantity = .ok (it, db')) : Traced db db' none := by
  unfold addItem at h
  obtain ⟨_, _, h⟩ := bind_eq_ok.mp h
  obtain ⟨product, hproduct, h⟩ := bind_eq_ok.mp h
  obtain ⟨cart, hcart, h⟩ := bind_eq_ok.mp h
  split at h
  · obtain ⟨_, _, h⟩ := bind_eq_ok.mp h
    cases h
    exact (Traced.refl db none).increase _
  · rename_i hnone
    obtain ⟨_, _, h⟩ := bind_eq_ok.mp h
    cases h
    refine (Traced.refl db none).create (.created ?_ rfl ?_ rfl)
    · exact has_eq_false (getCart_ok hcart) hnone
    · show db.products.get? k = some product
      unfold getProduct activeProduct? at hproduct
      split at hproduct
      · cases hproduct
      · rename_i found hfilter
        cases hproduct
        exact (Option.filter_eq_some_iff.mp hfilter).1

theorem has_increaseQuantity {j : ProductId} {quantity : Nat} (h : has db c j = true) :
    has (saveCart db cartId (Cart.increaseQuantity k quantity)) c j = true := by
  refine has_saveCart (fun cart hcart => ?_) h
  exact item?_of_map (quantity_product fun it => it.quantity + quantity) hcart

theorem has_setQuantity {j : ProductId} {quantity : Nat} (h : has db c j = true) :
    has (saveCart db cartId (Cart.setQuantity k quantity)) c j = true := by
  refine has_saveCart (fun cart hcart => ?_) h
  exact item?_of_map (quantity_product fun _ => quantity) hcart

theorem has_createItem {j : ProductId} (h : has db c j = true) :
    has (saveCart db cartId (Cart.createItem it)) c j = true :=
  has_saveCart (fun _ hcart => item?_createItem hcart) h

/-- One entry of `bulk_add_items`. -/
theorem traced_addOrUpdateItem {quantity : Nat} {db' : Db} (htraced : Traced db₀ db none)
    (hhas : ∀ j, has db₀ cartId j = true → has db cartId j = true)
    (h : addOrUpdateItem db cartId k quantity = .ok (it, db')) :
    Traced db₀ db' none ∧ ∀ j, has db₀ cartId j = true → has db' cartId j = true := by
  unfold addOrUpdateItem at h
  obtain ⟨cart, hcart, h⟩ := bind_eq_ok.mp h
  split at h
  · cases h
    exact ⟨htraced.increase _, fun j hj => has_increaseQuantity (hhas j hj)⟩
  · rename_i hnone
    split at h
    · cases h
    · rename_i product hproduct
      cases h
      refine ⟨htraced.create (.created ?_ rfl ?_ rfl), fun j hj => has_createItem (hhas j hj)⟩
      · show has db₀ cartId k = false
        have hnew : has db cartId k = false := has_eq_false (getCart_ok hcart) hnone
        by_contra hold
        rw [hhas k (by simpa using hold)] at hnew
        cases hnew
      · rw [← htraced.products]
        exact hproduct

theorem traced_bulkLoop (products : Table Product) (items : List BulkItem) (index : Nat)
    (htraced : Traced db₀ db none) (hhas : ∀ j, has db₀ cartId j = true → has db cartId j = true) :
    Traced db₀ (bulkLoop products cartId db index items).2 none := by
  induction items generalizing db index with
  | nil => exact htraced
  | cons item rest ih =>
    rw [bulkLoop]
    split
    · exact ih (index + 1) htraced hhas
    · rename_i k quantity _
      cases hadd : addOrUpdateItem db cartId k quantity with
      | error e => exact ih (index + 1) htraced hhas
      | ok out =>
        obtain ⟨htraced', hhas'⟩ := traced_addOrUpdateItem htraced hhas hadd
        exact ih (index + 1) htraced' hhas'

theorem traced_bulkAddItems {items : List BulkItem} {result : BulkAddResult} {db' : Db}
    (h : bulkAddItems db db.products cartId items = .ok (result, db')) : Traced db db' none := by
  unfold bulkAddItems at h
  split at h
  · cases h
  · obtain ⟨cart, _, h⟩ := map_eq_ok.mp h
    have hloop : Traced db (bulkLoop db.products cartId db 0 items).2 none :=
      traced_bulkLoop db.products items 0 (Traced.refl db none) fun _ hj => hj
    rwa [h] at hloop

theorem traced_updateItemQuantity {quantity : Int} {out : Option CartItem} {db' : Db}
    (h : updateItemQuantity db cartId k quantity = .ok (out, db')) : Traced db db' none := by
  unfold updateItemQuantity at h
  split at h
  · obtain ⟨removed, hremove, h⟩ := map_eq_ok.mp h
    cases h
    unfold removeItem at hremove
    split at hremove
    · cases hremove
    · split at hremove
      · cases hremove
      · cases hremove
        exact (Traced.refl db none).delete
  · obtain ⟨_, _, h⟩ := bind_eq_ok.mp h
    split at h
    · cases h
    · split at h
      · cases h
      · obtain ⟨_, _, h⟩ := bind_eq_ok.mp h
        cases h
        exact (Traced.refl db none).setQuantity _

/-! ## The merges -/

/-- One round of the merge of the service: what is added up is there already,
and what is moved was not. -/
theorem traced_mergeItem {a user : CartId} (htraced : Traced db₀ db (some a))
    (hhas : ∀ j, has db₀ user j = true → has db user j = true) (hit : Holds db₀ a it) :
    Traced db₀ (CartService.mergeItem a user db it) (some a) ∧
      ∀ j, has db₀ user j = true → has (CartService.mergeItem a user db it) user j = true := by
  unfold CartService.mergeItem
  split
  · exact ⟨htraced.setQuantity _, fun j hj => has_setQuantity (hhas j hj)⟩
  · rename_i hnone
    have hnew : has db user it.product = false := by
      unfold has
      rw [hnone]
      rfl
    have hnew₀ : has db₀ user it.product = false := by
      by_contra hold
      rw [hhas _ (by simpa using hold)] at hnew
      cases hnew
    refine ⟨htraced.delete.create (.moved hnew₀ rfl hit ⟨rfl, rfl⟩), fun j hj => ?_⟩
    have hne : j ≠ it.product := by
      rintro rfl
      rw [hnew₀] at hj
      cases hj
    refine has_createItem (has_saveCart (fun cart hcart => ?_) (hhas j hj))
    rw [item?_isSome] at hcart ⊢
    obtain ⟨it', hit', hj'⟩ := hcart
    exact ⟨it', List.mem_filter.mpr ⟨hit', decide_eq_true (hj'.symm ▸ hne)⟩, hj'⟩

theorem traced_mergeLoop {a user : CartId} (items : List CartItem)
    (htraced : Traced db₀ db (some a)) (hhas : ∀ j, has db₀ user j = true → has db user j = true)
    (hitems : ∀ it ∈ items, Holds db₀ a it) :
    Traced db₀ (items.foldl (CartService.mergeItem a user) db) (some a) := by
  induction items generalizing db with
  | nil => exact htraced
  | cons it rest ih =>
    obtain ⟨htraced', hhas'⟩ := traced_mergeItem htraced hhas (hitems it List.mem_cons_self)
    exact ih htraced' hhas' fun it' hit' => hitems it' (List.mem_cons_of_mem _ hit')

theorem mem_itemsOf : it ∈ itemsOf db c ↔ Holds db c it := by
  unfold itemsOf Holds
  cases hget : db.carts.get? c with
  | none => simp
  | some cart => simp

theorem traced_serviceMerge (user : UserId) (sessionKey : String) :
    Traced db (CartService.mergeAnonymousCart db user sessionKey).2
      ((anonymousCart? db sessionKey).map Prod.fst) := by
  unfold CartService.mergeAnonymousCart
  split
  · exact Traced.refl db _
  · rename_i a hlook
    split
    · exact Traced.refl db _
    · have hsource : (anonymousCart? db sessionKey).map Prod.fst = some a := by
        unfold lookUp at hlook
        split at hlook
        · cases hlook
        · exact hlook
      rw [hsource]
      unfold absorb
      refine (traced_mergeLoop _ ((Traced.refl db _).memberCart user)
        (fun j hj => has_getOrCreateActiveCart hj) fun it hit => ?_).edit fun cart _ it' hit' => ?_
      · exact holds_getOrCreateActiveCart (mem_itemsOf.mp hit)
      · exact Or.inl ⟨it', hit', rfl, rfl⟩

/-- The loop of the model, over products that the member has: it creates
nothing. -/
theorem traced_modelLoop {user : CartId} (items : List CartItem) (htraced : Traced db₀ db source)
    (hhas : ∀ it ∈ items, has db user it.product = true) :
    Traced db₀ (items.foldl (Cart.mergeItem user) db) source := by
  induction items generalizing db with
  | nil => exact htraced
  | cons it rest ih =>
    have hfound : has db user it.product = true := hhas it List.mem_cons_self
    rw [List.foldl_cons]
    have hitem : Cart.mergeItem user db it
        = saveCart db user (Cart.increaseQuantity it.product it.quantity) := by
      obtain ⟨existing, hexisting⟩ := Option.isSome_iff_exists.mp hfound
      unfold Cart.mergeItem
      rw [hexisting]
    rw [hitem]
    exact ih (htraced.increase _) fun it' hit' =>
      has_increaseQuantity (hhas it' (List.mem_cons_of_mem _ hit'))

theorem traced_modelMerge {user : UserId} {sessionKey : String}
    (hok : ∀ a cart, anonymousCart? db sessionKey = some (a, cart) → ∀ it ∈ cart.items,
      has db (CartService.getOrCreateActiveCart db user).1 it.product = true) :
    Traced db (Cart.mergeAnonymousCart db user sessionKey).2 source := by
  have hmember : Traced db (CartService.getOrCreateActiveCart db user).2 source :=
    (Traced.refl db source).memberCart user
  unfold Cart.mergeAnonymousCart
  dsimp only
  split
  · exact hmember
  · rename_i a cart hfind
    have hget : (CartService.getOrCreateActiveCart db user).2.carts.get? a = some cart :=
      (Table.find?_eq_some_get hfind).1
    rw [anonymousCart?_getOrCreateActiveCart] at hfind
    have hhas : ∀ it ∈ itemsOf (CartService.getOrCreateActiveCart db user).2 a,
        has (CartService.getOrCreateActiveCart db user).2
          (CartService.getOrCreateActiveCart db user).1 it.product = true := by
      intro it hit
      obtain ⟨found, hfound, hit⟩ := mem_itemsOf.mp hit
      rw [hget] at hfound
      cases hfound
      exact has_getOrCreateActiveCart (hok a cart hfind it hit)
    have hloop := traced_modelLoop _ hmember hhas
    refine ⟨hloop.products, fun c it hit => ?_⟩
    obtain ⟨found, hfound, hit⟩ := hit
    exact hloop.origin c it ⟨found, Table.of_get?_delete hfound, hit⟩

theorem moveLoop_eq {products : List (ProductId × Product)}
    (h : ∀ p ∈ products, p.2.stock ≤ 0 ∨ has db cartId p.1 = true) :
    (WishlistService.moveLoop cartId db products).2 = db := by
  induction products with
  | nil => rfl
  | cons p rest ih =>
    obtain ⟨k, product⟩ := p
    have hrest := ih fun p hp => h p (List.mem_cons_of_mem _ hp)
    rw [WishlistService.moveLoop]
    by_cases hstock : product.stock ≤ 0
    · rw [if_pos hstock]
      exact hrest
    · rw [if_neg hstock]
      have hfound : has db cartId k = true :=
        (h (k, product) List.mem_cons_self).resolve_left hstock
      obtain ⟨existing, hexisting⟩ := Option.isSome_iff_exists.mp hfound
      have hkept : WishlistService.getOrCreateItem db cartId k = (false, db) := by
        unfold WishlistService.getOrCreateItem
        rw [hexisting]
      simp only [hkept, Bool.false_eq_true, if_false]
      exact hrest

theorem traced_moveToCart {wishlist ids wishlist' : List ProductId} {user : UserId} {remove : Bool}
    {r : MoveToCartResult} {db' : Db}
    (hok : ∀ p ∈ WishlistService.wishedProducts db wishlist ids,
      p.2.stock ≤ 0 ∨ has db (CartService.getOrCreateActiveCart db user).1 p.1 = true)
    (h : WishlistService.moveToCart db wishlist user ids remove = .ok (r, wishlist', db')) :
    Traced db db' source := by
  unfold WishlistService.moveToCart at h
  split at h
  · cases h
  · dsimp only at h
    split at h
    · cases h
    · cases h
      have hsame : (WishlistService.moveLoop (CartService.getOrCreateActiveCart db user).1
          (CartService.getOrCreateActiveCart db user).2
          (WishlistService.wishedProducts db wishlist ids)).2
          = (CartService.getOrCreateActiveCart db user).2 :=
        moveLoop_eq fun p hp => (hok p hp).imp_right has_getOrCreateActiveCart
      rw [hsame]
      exact (Traced.refl db source).memberCart user

end

/-! ## The prices that the customers know -/

namespace PriceGate

open CartService

variable {s : PriceGate}

/-- Every item keeps the price that the customer knows. -/
def Snapshots (s : PriceGate) : Prop :=
  ∀ c it, Holds s.db c it → ∃ price, it.priceAtAdd = some price ∧ s.put c it.product = some price

/-- What is known after an event other than `update_item_prices`. -/
theorem known_eq {e : CartEvent} (he : ∀ cart, e ≠ .updateItemPrices cart) (c : CartId)
    (k : ProductId) :
    known s e c k =
      if has s.db c k then s.put c k
      else
        match s.source e with
        | none => ((result s e).products.get? k).map Product.price
        | some a =>
          if has s.db a k then s.put a k else ((result s e).products.get? k).map Product.price := by
  unfold known
  cases e with
  | updateItemPrices cart => exact absurd rfl (he cart)
  | _ => rfl

/-- An event whose items have their origins keeps the prices. -/
theorem Snapshots.of_traced {e : CartEvent} (h : Snapshots s)
    (he : ∀ cart, e ≠ .updateItemPrices cart) (ht : Traced s.db (result s e) (s.source e)) :
    Snapshots { db := result s e, wishlists := wishlistsAfter s e, put := known s e } := by
  intro c it' hit'
  show ∃ price, it'.priceAtAdd = some price ∧ known s e c it'.product = some price
  rw [known_eq he]
  cases ht.origin c it' hit' with
  | kept hit hsame =>
    obtain ⟨price, hprice, hput⟩ := h c _ hit
    rw [hsame.1, if_pos (has_of_holds hit)]
    exact ⟨price, hsame.2.trans hprice, hput⟩
  | moved hnew ha hit hsame =>
    obtain ⟨price, hprice, hput⟩ := h _ _ hit
    rw [hnew, ha, hsame.1]
    dsimp only
    rw [if_neg (by simp), if_pos (has_of_holds hit)]
    exact ⟨price, hsame.2.trans hprice, hput⟩
  | created hnew hsource hproduct hprice =>
    rename_i product
    rw [hnew, hsource, if_neg (by simp), ht.products, hproduct]
    exact ⟨product.price, hprice, rfl⟩

/-- The customer accepts the prices of a cart. -/
theorem Snapshots.accept (h : Snapshots s) (cart : CartId) :
    Snapshots { db := result s (.updateItemPrices cart),
                wishlists := wishlistsAfter s (.updateItemPrices cart)
                put := known s (.updateItemPrices cart) } := by
  have hproducts : (updateItemPrices s.db cart).2.products = s.db.products := by
    unfold updateItemPrices
    split
    · rfl
    · rfl
  intro c it' hit'
  show ∃ price, it'.priceAtAdd = some price ∧
    (if c = cart ∧ ((((updateItemPrices s.db cart).2.products.get? it'.product).map
        Product.price).isSome : Bool)
      then ((updateItemPrices s.db cart).2.products.get? it'.product).map Product.price
      else s.put c it'.product) = some price
  rw [hproducts]
  obtain ⟨found', hafter, hit'⟩ := hit'
  have hget : (updateItemPrices s.db cart).2.carts.get? c = some found' := hafter
  cases hcart : s.db.carts.get? cart with
  | none =>
    simp only [updateItemPrices, hcart] at hget
    have hc : c ≠ cart := by
      intro hc
      rw [hc, hcart] at hget
      cases hget
    rw [if_neg fun hboth => hc hboth.1]
    exact h c it' ⟨found', hget, hit'⟩
  | some found =>
    simp only [updateItemPrices, hcart, saveCart, Table.get?_modify] at hget
    by_cases hc : c = cart
    · rw [if_pos hc, hc, hcart, Option.map_some, Option.some.injEq] at hget
      subst hget
      obtain ⟨it, hit, rfl⟩ := List.mem_map.mp hit'
      obtain ⟨price, hprice, hput⟩ := h c it ⟨found, hc ▸ hcart, hit⟩
      rw [updatePrice_product, updatePrice_priceAtAdd hprice]
      cases hproduct : s.db.products.get? it.product with
      | none =>
        refine ⟨price, rfl, ?_⟩
        rw [if_neg (by simp)]
        exact hput
      | some product =>
        refine ⟨product.price, rfl, ?_⟩
        rw [if_pos ⟨hc, rfl⟩]
        rfl
    · rw [if_neg hc] at hget
      rw [if_neg fun hboth => hc hboth.1]
      exact h c it' ⟨found', hget, hit'⟩

/-- The edit of a product changes no cart. -/
theorem Snapshots.edit (h : Snapshots s) (k : ProductId) (row : Product) :
    Snapshots { db := result s (.editProduct k row)
                wishlists := wishlistsAfter s (.editProduct k row)
                put := known s (.editProduct k row) } := by
  intro c it hit
  have hit : Holds s.db c it := hit
  show ∃ price, it.priceAtAdd = some price ∧ known s (.editProduct k row) c it.product = some price
  have he : ∀ cart, CartEvent.editProduct k row ≠ .updateItemPrices cart := fun _ => nofun
  rw [known_eq he, if_pos (has_of_holds hit)]
  exact h c it hit

theorem Snapshots.step {e : CartEvent} {u : PriceGate} (h : Snapshots s)
    (hok : keepsPrice s e = true) (hstep : step s e = some u) : Snapshots u := by
  cases hstep
  have hrefl : Traced s.db s.db (s.source e) := Traced.refl s.db _
  cases e with
  | memberCart user => exact h.of_traced nofun (hrefl.memberCart user)
  | sessionCart sessionKey => exact h.of_traced nofun (hrefl.sessionCart sessionKey)
  | addItem cart k quantity =>
    refine h.of_traced nofun ?_
    unfold result
    dsimp only
    split
    · exact hrefl
    · rename_i hadd
      exact traced_addItem hadd
  | bulkAddItems cart items =>
    refine h.of_traced nofun ?_
    unfold result
    dsimp only
    split
    · exact hrefl
    · rename_i hadd
      exact traced_bulkAddItems hadd
  | updateItemQuantity cart k quantity =>
    refine h.of_traced nofun ?_
    unfold result
    dsimp only
    split
    · exact hrefl
    · rename_i hupdate
      exact traced_updateItemQuantity hupdate
  | updateItemPrices cart => exact h.accept cart
  | serviceMerge user sessionKey => exact h.of_traced nofun (traced_serviceMerge user sessionKey)
  | modelMerge user sessionKey =>
    refine h.of_traced nofun (traced_modelMerge fun a cart hfind it hit => ?_)
    simp only [keepsPrice, hfind, Option.all_some, List.all_eq_true] at hok
    exact hok it hit
  | moveToCart user ids remove =>
    refine h.of_traced nofun ?_
    unfold result
    dsimp only
    split
    · exact hrefl
    · rename_i hmove
      refine traced_moveToCart (fun p hp => ?_) hmove
      simp only [keepsPrice, List.all_eq_true, Bool.or_eq_true, decide_eq_true_eq] at hok
      exact hok p hp
  | wish user products => exact h.of_traced nofun hrefl
  | editProduct k row => exact h.edit k row

theorem Snapshots.run {db : Db} {wishlists : UserId → List ProductId} {es : List CartEvent}
    (h : Run PriceGate.step (fun s e => keepsPrice s e = true) (start db wishlists) es s) :
    Snapshots s := by
  refine h.invariant Snapshots ?_ fun _ _ _ hI hok hs => hI.step hok hs
  rintro c it ⟨cart, hget, _⟩
  cases hget

/-- With the prices kept, the gate sees every change. -/
theorem Snapshots.gated (h : Snapshots s) : Gated s := by
  intro c cart hget it hit product hproduct hne
  obtain ⟨price, hprice, hput⟩ := h c it ⟨cart, hget, hit⟩
  have hchanged : it.isPriceChanged product = true := by
    rw [CartItem.isPriceChanged_some hprice]
    rintro rfl
    exact hne hput
  have hreported : priceChange it product ∈ checkPriceChanges s.db cart :=
    mem_checkPriceChanges.mpr ⟨it, hit, product, hproduct, hchanged, rfl⟩
  refine ⟨⟨_, hreported, rfl, rfl, hprice.trans hput.symm⟩, fun user verified hfind => ?_⟩
  cases hvalid : OrderCreateSerializer.validate s.db user verified with
  | error e => exact ⟨e, rfl⟩
  | ok found =>
    obtain ⟨⟨cartId, hfound⟩, hnone⟩ := OrderCreateSerializer.validate_ok hvalid
    rw [hfind] at hfound
    cases hfound
    rw [hnone] at hreported
    cases hreported

end PriceGate

/-- In the runs whose steps create no item without a price, every item whose
price the customer does not know is reported, and its cart makes no order. -/
theorem price_gate {db : Db} {wishlists : UserId → List ProductId} {es : List CartEvent}
    {s : PriceGate}
    (h : Run PriceGate.step (fun s e => PriceGate.keepsPrice s e = true)
      (PriceGate.start db wishlists) es s) : Gated s :=
  (PriceGate.Snapshots.run h).gated

/-- One book at 10000. -/
def bookStore : Db where
  ledger := Ledger.empty
  membership := fun _ => .bronze
  products := Table.empty.insert ⟨"책", 10000, 9, 0, true⟩
  carts := Table.empty
  orders := Table.empty
  payments := PaymentTable.empty
  logs := []
  returns := Table.empty
  idempotencyKeys := []
  webhookMarks := []

/-- The book at another price. -/
def dearBook : Product := ⟨"책", 12000, 9, 0, true⟩

/-- The user 7 puts the book into the cart, and its price changes. -/
theorem price_gate_addItem :
    ∃ s, Run PriceGate.step (fun s e => PriceGate.keepsPrice s e = true)
        (PriceGate.start bookStore fun _ => [])
        [.memberCart 7, .addItem 1 1 2, .editProduct 1 dearBook] s ∧
      s.put 1 1 = some 10000 ∧ Gated s := by
  obtain ⟨s, hrun, hput⟩ := Run.exists_of_execIf (by decide +kernel :
    (execIf PriceGate.step PriceGate.keepsPrice (PriceGate.start bookStore fun _ => [])
      [.memberCart 7, .addItem 1 1 2, .editProduct 1 dearBook]).any
      (fun s => decide (s.put 1 1 = some 10000)) = true)
  exact ⟨s, hrun, of_decide_eq_true hput, price_gate hrun⟩

/-- The serializer accepts a cart with a price that the customer does not know. -/
theorem not_gated {s : PriceGate} {user : UserId} {c : CartId} {cart : Cart} {it : CartItem}
    {product : Product}
    (hfind : s.db.carts.find? (fun _ c => decide (c.user = some user) && c.isActive)
      = some (c, cart))
    (hit : it ∈ cart.items) (hproduct : s.db.products.get? it.product = some product)
    (hput : s.put c it.product ≠ some product.price)
    (hvalid : OrderCreateSerializer.validate s.db user true = .ok cart) : ¬ Gated s := by
  intro h
  obtain ⟨e, he⟩ := (h c cart (Table.find?_eq_some_get hfind).1 it hit product hproduct hput).2
    user true hfind
  rw [hvalid] at he
  cases he

/-- The book goes into the cart from the wishlist, and at a login from the cart
of the session.  Its price changes, no change is reported, and an order is
made. -/
theorem price_gate_missed :
    (∃ s, Run PriceGate.step (fun _ _ => True) (PriceGate.start bookStore fun _ => [1])
        [.moveToCart 7 [1] false, .editProduct 1 dearBook] s ∧ ¬ Gated s) ∧
    ∃ s, Run PriceGate.step (fun _ _ => True) (PriceGate.start bookStore fun _ => [])
        [.sessionCart "s", .addItem 1 1 2, .modelMerge 7 "s", .editProduct 1 dearBook] s ∧
      ¬ Gated s := by
  constructor
  · obtain ⟨s, hrun, hstate⟩ := Run.exists_of_execIf (by decide +kernel :
      (execIf PriceGate.step (fun _ _ => true) (PriceGate.start bookStore fun _ => [1])
        [.moveToCart 7 [1] false, .editProduct 1 dearBook]).any
        (fun s => decide (
          s.db.carts.find? (fun _ c => decide (c.user = some 7) && c.isActive)
            = some (1, ⟨some 7, true, [⟨1, 1, none⟩], none⟩) ∧
          s.db.products.get? 1 = some dearBook ∧ s.put 1 1 ≠ some dearBook.price ∧
          OrderCreateSerializer.validate s.db 7 true
            = .ok ⟨some 7, true, [⟨1, 1, none⟩], none⟩)) = true)
    obtain ⟨hfind, hproduct, hput, hvalid⟩ := of_decide_eq_true hstate
    exact ⟨s, hrun.mono fun _ _ _ => trivial,
      not_gated hfind List.mem_cons_self hproduct hput hvalid⟩
  · obtain ⟨s, hrun, hstate⟩ := Run.exists_of_execIf (by decide +kernel :
      (execIf PriceGate.step (fun _ _ => true) (PriceGate.start bookStore fun _ => [])
        [.sessionCart "s", .addItem 1 1 2, .modelMerge 7 "s", .editProduct 1 dearBook]).any
        (fun s => decide (
          s.db.carts.find? (fun _ c => decide (c.user = some 7) && c.isActive)
            = some (2, ⟨some 7, true, [⟨1, 2, none⟩], none⟩) ∧
          s.db.products.get? 1 = some dearBook ∧ s.put 2 1 ≠ some dearBook.price ∧
          OrderCreateSerializer.validate s.db 7 true
            = .ok ⟨some 7, true, [⟨1, 2, none⟩], none⟩)) = true)
    obtain ⟨hfind, hproduct, hput, hvalid⟩ := of_decide_eq_true hstate
    exact ⟨s, hrun.mono fun _ _ _ => trivial,
      not_gated hfind List.mem_cons_self hproduct hput hvalid⟩

end Shopping
