import Shopping.Models.Db

/-!
# `CartService`

The cart edits of `shopping/services/cart_service.py` and
`get_or_create_active_cart`.

A cart has at most one item of a product, so the product stands for the key of
the item within its cart.  `add_item` and `bulk_add_items` read products before
they lock the cart; `products` are the products as they read them.  None of the
edits looks at `is_active`.
-/

namespace Shopping

namespace Cart

/-- `cart.items.filter(product_id=...).first()`. -/
def item? (c : Cart) (k : ProductId) : Option CartItem :=
  c.items.find? fun it => decide (it.product = k)

/-- `quantity=F("quantity") + quantity`. -/
def increaseQuantity (k : ProductId) (quantity : Nat) (c : Cart) : Cart :=
  { c with items := c.items.map fun it =>
      if it.product = k then { it with quantity := it.quantity + quantity } else it }

/-- `cart_item.quantity = quantity`. -/
def setQuantity (k : ProductId) (quantity : Nat) (c : Cart) : Cart :=
  { c with items := c.items.map fun it =>
      if it.product = k then { it with quantity := quantity } else it }

/-- `CartItem.objects.create(cart=cart, ...)`. -/
def createItem (it : CartItem) (c : Cart) : Cart := { c with items := c.items ++ [it] }

/-- `cart_item.delete()`. -/
def deleteItem (k : ProductId) (c : Cart) : Cart :=
  { c with items := c.items.filter fun it => decide (it.product ≠ k) }

end Cart

namespace CartService

/-- `MIN_QUANTITY`. -/
def minQuantity : Int := 1

/-- `MAX_QUANTITY`. -/
def maxQuantity : Int := 999

/-! ## Checks -/

def quantityTooLow : String := "수량은 " ++ toString minQuantity ++ " 이상이어야 합니다."

def quantityTooHigh : String := "수량은 " ++ toString maxQuantity ++ " 이하여야 합니다."

def productUnavailable : String := "상품을 찾을 수 없거나 판매 중단되었습니다."

def itemNotFound : ShopError :=
  .cartServiceError "장바구니에 해당 상품이 없습니다." "ITEM_NOT_FOUND"

/-- `_validate_quantity`. -/
def validateQuantity (quantity : Int) : Except ShopError Unit :=
  if quantity < minQuantity then .error (.cartServiceError quantityTooLow "INVALID_QUANTITY")
  else if maxQuantity < quantity then
    .error (.cartServiceError quantityTooHigh "QUANTITY_EXCEEDED")
  else .ok ()

/-- `Product.objects.filter(is_active=True)`, one product of it. -/
def activeProduct? (products : Table Product) (k : ProductId) : Option Product :=
  (products.get? k).filter Product.isActive

/-- `_get_product`. -/
def getProduct (products : Table Product) (k : ProductId) : Except ShopError Product :=
  match activeProduct? products k with
  | none => .error (.cartServiceError productUnavailable "PRODUCT_NOT_FOUND")
  | some product => .ok product

/-- `_validate_stock`. -/
def validateStock (product : Product) (quantity : Int) : Except ShopError Unit :=
  if product.stock < quantity then
    .error (.cartServiceError ("재고가 부족합니다. 현재 재고: " ++ toString product.stock ++ "개")
      "INSUFFICIENT_STOCK")
  else .ok ()

/-! ## The cart of a user -/

/-- `get_or_create_active_cart` for a member. -/
def getOrCreateActiveCart (db : Db) (user : UserId) : CartId × Db :=
  match db.carts.find? fun _ c => decide (c.user = some user) && c.isActive with
  | some (cartId, _) => (cartId, db)
  | none => (db.carts.next, { db with carts := db.carts.insert { user := some user } })

/-- `Cart.objects.select_for_update().get(pk=cart.pk)`. -/
def getCart (db : Db) (cartId : CartId) : Except ShopError Cart :=
  match db.carts.get? cartId with
  | none => .error (.db .doesNotExist)
  | some cart => .ok cart

def saveCart (db : Db) (cartId : CartId) (f : Cart → Cart) : Db :=
  { db with carts := db.carts.modify cartId f }

/-! ## Adding -/

/-- The item the cart has, with more of it. -/
def increaseItem (db : Db) (cartId : CartId) (it : CartItem) (quantity : Nat) : CartItem × Db :=
  ({ it with quantity := it.quantity + quantity },
    saveCart db cartId (Cart.increaseQuantity it.product quantity))

/-- A new item at the price of the product. -/
def createItem (db : Db) (cartId : CartId) (k : ProductId) (quantity : Nat) (product : Product) :
    CartItem × Db :=
  let it : CartItem := { product := k, quantity := quantity, priceAtAdd := some product.price }
  (it, saveCart db cartId (Cart.createItem it))

/-- `add_item`. -/
def addItem (db : Db) (products : Table Product) (cartId : CartId) (k : ProductId)
    (quantity : Int := 1) : Except ShopError (CartItem × Db) := do
  validateQuantity quantity
  let product ← getProduct products k
  let cart ← getCart db cartId
  match cart.item? k with
  | some it => do
    validateStock product (quantity + it.quantity)
    .ok (increaseItem db cartId it quantity.toNat)
  | none => do
    validateStock product quantity
    .ok (createItem db cartId k quantity.toNat product)

/-- `_add_or_update_item`. -/
def addOrUpdateItem (db : Db) (cartId : CartId) (k : ProductId) (quantity : Nat) :
    Except ShopError (CartItem × Db) := do
  let cart ← getCart db cartId
  match cart.item? k with
  | some it => .ok (increaseItem db cartId it quantity)
  | none =>
    match db.products.get? k with
    | none => .error (.db .doesNotExist)
    | some product => .ok (createItem db cartId k quantity product)

/-- An entry of `items_data`: a missing quantity is 1, and `none` stands for
one that is no integer. -/
structure BulkItem where
  productId : Option ProductId := none
  quantity : Option Int := some 1
  deriving DecidableEq, Repr

/-- An entry of `errors`. -/
structure BulkError where
  index : Nat
  productId : Option ProductId
  field : String
  message : String
  deriving DecidableEq, Repr

/-- `BulkAddResult`; its counts are the lengths. -/
structure BulkAddResult where
  addedItems : List CartItem := []
  errors : List BulkError := []
  deriving DecidableEq, Repr

def BulkAddResult.added (it : CartItem) (r : BulkAddResult) : BulkAddResult :=
  { r with addedItems := it :: r.addedItems }

def BulkAddResult.failed (e : BulkError) (r : BulkAddResult) : BulkAddResult :=
  { r with errors := e :: r.errors }

/-- `_validate_bulk_item` and the stock check after it: the product and the
quantity of a good entry. -/
def validateBulkItem (products : Table Product) (index : Nat) (item : BulkItem) :
    Except BulkError (ProductId × Nat) :=
  match item.productId.filter fun k => decide (k ≠ 0) with
  | none => .error ⟨index, none, "product_id", "상품 ID가 필요합니다."⟩
  | some k =>
    match activeProduct? products k with
    | none => .error ⟨index, some k, "product_id", productUnavailable⟩
    | some product =>
      match item.quantity.filter fun quantity => decide (minQuantity ≤ quantity) with
      | none => .error ⟨index, some k, "quantity", quantityTooLow⟩
      | some quantity =>
        if maxQuantity < quantity then .error ⟨index, some k, "quantity", quantityTooHigh⟩
        else if product.stock < quantity then
          .error ⟨index, some k, "quantity",
            "재고 부족. 현재 재고: " ++ toString product.stock ++ "개"⟩
        else .ok (k, quantity.toNat)

/-- The loop of `bulk_add_items`, from the entry `index` on. -/
def bulkLoop (products : Table Product) (cartId : CartId) (db : Db) (index : Nat) :
    List BulkItem → BulkAddResult × Db
  | [] => ({}, db)
  | item :: rest =>
    match validateBulkItem products index item with
    | .error e =>
      let out := bulkLoop products cartId db (index + 1) rest
      (out.1.failed e, out.2)
    | .ok (k, quantity) =>
      match addOrUpdateItem db cartId k quantity with
      | .error _ =>
        let out := bulkLoop products cartId db (index + 1) rest
        (out.1.failed ⟨index, some k, "detail", "Product matching query does not exist."⟩, out.2)
      | .ok (it, db') =>
        let out := bulkLoop products cartId db' (index + 1) rest
        (out.1.added it, out.2)

/-- `bulk_add_items`. -/
def bulkAddItems (db : Db) (products : Table Product) (cartId : CartId) (items : List BulkItem) :
    Except ShopError (BulkAddResult × Db) :=
  if items = [] then .error (.cartServiceError "추가할 상품 정보가 없습니다." "EMPTY_ITEMS")
  else (getCart db cartId).map fun _ => bulkLoop products cartId db 0 items

/-! ## Changing and removing -/

/-- `remove_item`: the name of the product. -/
def removeItem (db : Db) (cartId : CartId) (k : ProductId) : Except ShopError (String × Db) :=
  match (db.carts.get? cartId).bind fun cart => cart.item? k with
  | none => .error itemNotFound
  | some _ =>
    match db.products.get? k with
    | none => .error (.db .doesNotExist)
    | some product => .ok (product.name, saveCart db cartId (Cart.deleteItem k))

/-- `update_item_quantity`: the item, none when it was removed. -/
def updateItemQuantity (db : Db) (cartId : CartId) (k : ProductId) (quantity : Int) :
    Except ShopError (Option CartItem × Db) :=
  if quantity = 0 then (removeItem db cartId k).map fun out => (none, out.2)
  else do
    validateQuantity quantity
    match (db.carts.get? cartId).bind fun cart => cart.item? k with
    | none => .error itemNotFound
    | some it =>
      match db.products.get? k with
      | none => .error (.db .doesNotExist)
      | some product => do
        validateStock product quantity
        .ok (some { it with quantity := quantity.toNat },
          saveCart db cartId (Cart.setQuantity k quantity.toNat))

/-! ## What the edits leave alone -/

section

variable {db db' : Db} {cartId : CartId} {k : ProductId}

/-- An edit writes carts. -/
def OnlyCarts (db db' : Db) : Prop := ∃ carts, db' = { db with carts := carts }

theorem OnlyCarts.refl (db : Db) : OnlyCarts db db := ⟨db.carts, rfl⟩

theorem OnlyCarts.trans {db'' : Db} (h : OnlyCarts db db') (h' : OnlyCarts db' db'') :
    OnlyCarts db db'' := by
  obtain ⟨carts, rfl⟩ := h
  obtain ⟨carts', rfl⟩ := h'
  exact ⟨carts', rfl⟩

theorem onlyCarts_saveCart (f : Cart → Cart) : OnlyCarts db (saveCart db cartId f) := ⟨_, rfl⟩

theorem getOrCreateActiveCart_onlyCarts (user : UserId) :
    OnlyCarts db (getOrCreateActiveCart db user).2 := by
  unfold getOrCreateActiveCart
  split
  · exact OnlyCarts.refl db
  · exact ⟨_, rfl⟩

theorem addItem_onlyCarts {products : Table Product} {quantity : Int} {it : CartItem}
    (h : addItem db products cartId k quantity = .ok (it, db')) : OnlyCarts db db' := by
  unfold addItem at h
  obtain ⟨_, _, h⟩ := bind_eq_ok.mp h
  obtain ⟨product, _, h⟩ := bind_eq_ok.mp h
  obtain ⟨cart, _, h⟩ := bind_eq_ok.mp h
  split at h
  · obtain ⟨_, _, h⟩ := bind_eq_ok.mp h
    cases h
    exact onlyCarts_saveCart _
  · obtain ⟨_, _, h⟩ := bind_eq_ok.mp h
    cases h
    exact onlyCarts_saveCart _

theorem addOrUpdateItem_onlyCarts {quantity : Nat} {it : CartItem}
    (h : addOrUpdateItem db cartId k quantity = .ok (it, db')) : OnlyCarts db db' := by
  unfold addOrUpdateItem at h
  obtain ⟨cart, _, h⟩ := bind_eq_ok.mp h
  split at h
  · cases h
    exact onlyCarts_saveCart _
  · split at h
    · cases h
    · cases h
      exact onlyCarts_saveCart _

theorem bulkLoop_onlyCarts (products : Table Product) (items : List BulkItem) (db : Db)
    (index : Nat) : OnlyCarts db (bulkLoop products cartId db index items).2 := by
  induction items generalizing db index with
  | nil => exact OnlyCarts.refl db
  | cons item rest ih =>
    rw [bulkLoop]
    split
    · exact ih db (index + 1)
    · rename_i k quantity _
      cases hadd : addOrUpdateItem db cartId k quantity with
      | error e => exact ih db (index + 1)
      | ok out => exact (addOrUpdateItem_onlyCarts hadd).trans (ih out.2 (index + 1))

theorem bulkAddItems_onlyCarts {products : Table Product} {items : List BulkItem}
    {result : BulkAddResult} (h : bulkAddItems db products cartId items = .ok (result, db')) :
    OnlyCarts db db' := by
  unfold bulkAddItems at h
  split at h
  · cases h
  · obtain ⟨cart, _, h⟩ := map_eq_ok.mp h
    have hloop : OnlyCarts db (bulkLoop products cartId db 0 items).2 :=
      bulkLoop_onlyCarts products items db 0
    rwa [h] at hloop

theorem removeItem_onlyCarts {name : String} (h : removeItem db cartId k = .ok (name, db')) :
    OnlyCarts db db' := by
  unfold removeItem at h
  split at h
  · cases h
  · split at h
    · cases h
    · cases h
      exact onlyCarts_saveCart _

theorem updateItemQuantity_onlyCarts {quantity : Int} {it : Option CartItem}
    (h : updateItemQuantity db cartId k quantity = .ok (it, db')) : OnlyCarts db db' := by
  unfold updateItemQuantity at h
  split at h
  · obtain ⟨out, hremove, h⟩ := map_eq_ok.mp h
    cases h
    exact removeItem_onlyCarts hremove
  · obtain ⟨_, _, h⟩ := bind_eq_ok.mp h
    split at h
    · cases h
    · split at h
      · cases h
      · obtain ⟨_, _, h⟩ := bind_eq_ok.mp h
        cases h
        exact onlyCarts_saveCart _

end

end CartService

end Shopping
