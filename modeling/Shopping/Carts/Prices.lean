import Shopping.Carts.Service

/-!
# Price changes of a cart

`is_price_changed` and `price_difference` of `shopping/models/cart.py`,
`check_price_changes` and `update_item_prices` of `CartService`, and the checks
of `OrderCreateSerializer`, which stand before an order is made of the cart.

An item keeps the price at which it was added.  An item without one counts as
unchanged (`isPriceChanged_none`), and no update gives it one
(`updateItemPrices_none`).
-/

namespace Shopping

namespace CartItem

/-- `is_price_changed`. -/
def isPriceChanged (it : CartItem) (product : Product) : Bool :=
  match it.priceAtAdd with
  | none => false
  | some price => decide (product.price ≠ price)

/-- `price_difference`. -/
def priceDifference (it : CartItem) (product : Product) : Int :=
  match it.priceAtAdd with
  | none => 0
  | some price => product.price - price

theorem isPriceChanged_none {it : CartItem} (h : it.priceAtAdd = none) (product : Product) :
    it.isPriceChanged product = false ∧ it.priceDifference product = 0 := by
  unfold isPriceChanged priceDifference
  rw [h]
  exact ⟨rfl, rfl⟩

theorem isPriceChanged_some {it : CartItem} {price : Int} (h : it.priceAtAdd = some price)
    {product : Product} : it.isPriceChanged product = true ↔ product.price ≠ price := by
  unfold isPriceChanged
  rw [h]
  exact decide_eq_true_iff

end CartItem

/-- `change_type`. -/
inductive ChangeType where
  | increased
  | decreased
  deriving DecidableEq, Repr

/-- `PriceChange`; the product is the key of the item in its cart. -/
structure PriceChange where
  productId : ProductId
  productName : String
  originalPrice : Option Int
  currentPrice : Int
  difference : Int
  changeType : ChangeType
  deriving DecidableEq, Repr

namespace CartService

/-- The entry of `check_price_changes` for an item and its product. -/
def priceChange (it : CartItem) (product : Product) : PriceChange where
  productId := it.product
  productName := product.name
  originalPrice := it.priceAtAdd
  currentPrice := product.price
  difference := it.priceDifference product
  changeType := if 0 < it.priceDifference product then .increased else .decreased

/-- `check_price_changes`. -/
def checkPriceChanges (db : Db) (cart : Cart) : List PriceChange :=
  cart.items.filterMap fun it =>
    (db.products.get? it.product).bind fun product =>
      if it.isPriceChanged product then some (priceChange it product) else none

/-- What `update_item_prices` does with an item. -/
def updatePrice (db : Db) (it : CartItem) : CartItem :=
  match db.products.get? it.product with
  | none => it
  | some product =>
    if it.isPriceChanged product then { it with priceAtAdd := some product.price } else it

/-- `update_item_prices`: how many items it updates. -/
def updateItemPrices (db : Db) (cartId : CartId) : Nat × Db :=
  match db.carts.get? cartId with
  | none => (0, db)
  | some cart =>
    ((checkPriceChanges db cart).length,
      saveCart db cartId fun c => { c with items := c.items.map (updatePrice db) })

variable {db : Db} {cart : Cart}

theorem mem_checkPriceChanges {change : PriceChange} :
    change ∈ checkPriceChanges db cart ↔ ∃ it ∈ cart.items, ∃ product,
      db.products.get? it.product = some product ∧ it.isPriceChanged product = true ∧
      change = priceChange it product := by
  unfold checkPriceChanges
  rw [List.mem_filterMap]
  constructor
  · rintro ⟨it, hit, h⟩
    obtain ⟨product, hproduct, h⟩ := Option.bind_eq_some_iff.mp h
    by_cases hchanged : it.isPriceChanged product = true
    · rw [if_pos hchanged, Option.some.injEq] at h
      exact ⟨it, hit, product, hproduct, hchanged, h.symm⟩
    · rw [if_neg hchanged] at h
      cases h
  · rintro ⟨it, hit, product, hproduct, hchanged, rfl⟩
    refine ⟨it, hit, ?_⟩
    rw [hproduct, Option.bind_some, if_pos hchanged]

/-- The update writes the price of the product to every item that has one. -/
theorem updatePrice_priceAtAdd {it : CartItem} {price : Int} (h : it.priceAtAdd = some price) :
    (updatePrice db it).priceAtAdd =
      match db.products.get? it.product with
      | none => some price
      | some product => some product.price := by
  unfold updatePrice
  cases hproduct : db.products.get? it.product with
  | none => exact h
  | some product =>
    simp only
    split
    · rfl
    · rename_i hsame
      rw [CartItem.isPriceChanged_some h, not_not] at hsame
      rw [h, hsame]

@[simp] theorem updatePrice_product (it : CartItem) :
    (updatePrice db it).product = it.product := by
  unfold updatePrice
  split
  · rfl
  · split <;> rfl

/-- An item without a price stays without one. -/
theorem updateItemPrices_none {it : CartItem} (h : it.priceAtAdd = none) :
    updatePrice db it = it := by
  unfold updatePrice
  split
  · rfl
  · rename_i product _
    rw [(CartItem.isPriceChanged_none h product).1]
    rfl

end CartService

/-! ## `OrderCreateSerializer` -/

/-- What `OrderCreateSerializer` raises: one text, or the errors of the items. -/
inductive OrderCreateError where
  | message (text : String)
  | cartItems (errors : List String)
  deriving DecidableEq, Repr

namespace OrderCreateSerializer

def emptyCart : String := "장바구니가 비어있습니다."

def emailNotVerified : String := "이메일 인증이 필요합니다. 먼저 이메일을 인증해주세요."

/-- The checks 1 to 3: the error of an item. -/
def itemError (it : CartItem) (product : Product) : Option String :=
  if !product.isActive then
    some ("'" ++ product.name ++ "'은(는) 현재 판매하지 않는 상품입니다.")
  else if product.stock = 0 then
    some ("'" ++ product.name ++ "'은(는) 품절되었습니다.")
  else if product.stock < it.quantity then
    some ("'" ++ product.name ++ "'의 재고가 부족합니다. (주문: " ++ toString it.quantity ++ ", 재고: "
      ++ toString product.stock ++ ")")
  else none

/-- The check 4: the error of the changed prices. -/
def priceError (changes : List PriceChange) : String :=
  "일부 상품의 가격이 변경되었습니다. 장바구니에서 확인 후 다시 주문해주세요. ("
    ++ String.intercalate ", " (changes.map fun c =>
      c.productName ++ ": " ++ ((c.originalPrice.map fun p => toString p).getD "None") ++ "원 → "
        ++ toString c.currentPrice ++ "원")
    ++ ")"

/-- `errors`. -/
def cartErrors (db : Db) (cart : Cart) : List String :=
  let changes := CartService.checkPriceChanges db cart
  (cart.items.filterMap fun it => (db.products.get? it.product).bind (itemError it))
    ++ if changes = [] then [] else [priceError changes]

/-- `_validate_cart_items`. -/
def validateCartItems (db : Db) (cart : Cart) : Except OrderCreateError (List CartItem) :=
  if cart.items = [] then .error (.message emptyCart)
  else if cartErrors db cart = [] then .ok cart.items
  else .error (.cartItems (cartErrors db cart))

/-- `validate`: the cart that the order is made of. -/
def validate (db : Db) (user : UserId) (isEmailVerified : Bool) : Except OrderCreateError Cart :=
  if !isEmailVerified then .error (.message emailNotVerified)
  else
    match db.carts.find? fun _ c => decide (c.user = some user) && c.isActive with
    | none => .error (.message emptyCart)
    | some (_, cart) => (validateCartItems db cart).map fun _ => cart

/-- An order is made of a cart only if no price of it has changed. -/
theorem validate_ok {db : Db} {user : UserId} {isEmailVerified : Bool} {cart : Cart}
    (h : validate db user isEmailVerified = .ok cart) :
    (∃ cartId, db.carts.find? (fun _ c => decide (c.user = some user) && c.isActive)
      = some (cartId, cart)) ∧ CartService.checkPriceChanges db cart = [] := by
  unfold validate at h
  split at h
  · cases h
  · split at h
    · cases h
    · rename_i cartId found hfind
      obtain ⟨items, hitems, rfl⟩ := map_eq_ok.mp h
      refine ⟨⟨cartId, hfind⟩, ?_⟩
      unfold validateCartItems at hitems
      split at hitems
      · cases hitems
      · split at hitems
        · rename_i herrors
          unfold cartErrors at herrors
          have hprices := (List.append_eq_nil_iff.mp herrors).2
          by_contra hchanges
          rw [if_neg hchanges] at hprices
          cases hprices
        · cases hitems

end OrderCreateSerializer

end Shopping
