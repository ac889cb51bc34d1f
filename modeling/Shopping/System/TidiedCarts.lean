import Shopping.Carts.Stock
import Shopping.System.Stock

/-!
# From a tidied cart to an order

The customer checks the cart, cleans it up and takes over the new prices; the
serializer looks at the cart once more when the order is made, and the task
when it is processed.  Four functions look at the stock, in two files.

`stock_check_decides` says that the check and the task come to the same, and
`tidied_cart_orders` that a tidied cart gets through all of them.
-/

namespace Shopping

section

variable {db : Db} {cartId : CartId} {cart : Cart} {o : OrderId} {order : Order} {now : Time}

namespace CartService

@[simp] theorem updatePrice_quantity (it : CartItem) :
    (updatePrice db it).quantity = it.quantity := by
  unfold updatePrice
  split
  · rfl
  · split
    · rfl
    · rfl

theorem isPriceChanged_updatePrice {it : CartItem} {product : Product}
    (h : db.products.get? it.product = some product) :
    (updatePrice db it).isPriceChanged product = false := by
  unfold updatePrice
  rw [h]
  dsimp only
  split
  · simp [CartItem.isPriceChanged]
  · rename_i hsame
    simpa using hsame

/-- No price is changed after the update, and the stock is what it was. -/
theorem checks_updateItemPrices :
    checkPriceChanges db { cart with items := cart.items.map (updatePrice db) } = [] ∧
      (checkStock db cart = [] →
        checkStock db { cart with items := cart.items.map (updatePrice db) } = []) := by
  constructor
  · unfold checkPriceChanges
    rw [List.filterMap_eq_nil_iff]
    intro it' hit'
    obtain ⟨it, _, rfl⟩ := List.mem_map.mp hit'
    rw [updatePrice_product]
    cases hget : db.products.get? it.product with
    | none => rfl
    | some product => simp [isPriceChanged_updatePrice hget]
  · intro hclean
    rw [checkStock_eq_nil] at hclean ⊢
    intro it' hit' product hget
    obtain ⟨it, hit, rfl⟩ := List.mem_map.mp hit'
    rw [updatePrice_product] at hget
    rw [updatePrice_quantity]
    exact hclean it hit product hget

/-- The checks read the products and the items of the cart. -/
theorem checks_congr {db' : Db} {cart' : Cart} (hproducts : db'.products = db.products)
    (hitems : cart'.items = cart.items) :
    checkStock db' cart' = checkStock db cart ∧
      checkPriceChanges db' cart' = checkPriceChanges db cart := by
  unfold checkStock checkPriceChanges
  rw [hproducts, hitems]
  exact ⟨rfl, rfl⟩

theorem updateItemPrices_cart (hcart : db.carts.get? cartId = some cart) :
    (updateItemPrices db cartId).2.products = db.products ∧
      (updateItemPrices db cartId).2.carts.get? cartId
        = some { cart with items := cart.items.map (updatePrice db) } := by
  unfold updateItemPrices
  rw [hcart]
  refine ⟨rfl, ?_⟩
  dsimp only [saveCart]
  rw [Table.get?_modify_self, hcart]
  rfl

/-- The update of the prices leaves nothing for either check. -/
theorem updateItemPrices_clean (hcart : db.carts.get? cartId = some cart)
    (hclean : checkStock db cart = []) : ∃ left,
    (updateItemPrices db cartId).2.carts.get? cartId = some left ∧
      left.items = cart.items.map (updatePrice db) ∧
      checkStock (updateItemPrices db cartId).2 left = [] ∧
      checkPriceChanges (updateItemPrices db cartId).2 left = [] := by
  obtain ⟨hproducts, hleft⟩ := updateItemPrices_cart hcart
  obtain ⟨hprices, hkeeps⟩ := @checks_updateItemPrices db cart
  refine ⟨_, hleft, rfl, ?_, ?_⟩
  · exact (checks_congr hproducts rfl).1.trans (hkeeps hclean)
  · exact (checks_congr hproducts rfl).2.trans hprices

/-- The products of a tidied cart are products of the cart, each once. -/
theorem tidied_products {db' : Db} {items : List CartItem}
    (hnodup : (cart.items.map CartItem.product).Nodup)
    (hitems : items = (cart.items.filterMap (cleanItem db.products)).map (updatePrice db')) :
    (items.map CartItem.product).Nodup ∧
      ∀ it ∈ items, ∃ first ∈ cart.items, first.product = it.product := by
  have hproduct : CartItem.product ∘ updatePrice db' = CartItem.product :=
    funext fun it => updatePrice_product it
  rw [hitems]
  constructor
  · rw [List.map_map, hproduct]
    exact hnodup.sublist (cleanItem_sublist db.products cart.items)
  · intro it hit
    obtain ⟨old, hold, rfl⟩ := List.mem_map.mp hit
    obtain ⟨first, hfirst, hcleaned⟩ := List.mem_filterMap.mp hold
    exact ⟨first, hfirst, (cleanItem_product hcleaned).symm.trans (updatePrice_product old).symm⟩

end CartService

namespace OrderTasks

/-- Without points, the task confirms the order when the loop finds no shortage, and only
then. -/
theorem processOrderHeavyTasks_success_iff (hget : db.orders.get? o = some order)
    (hpending : order.status = .pending) (hcart : db.carts.get? cartId = some cart) :
    (∃ out, processOrderHeavyTasks db now o cartId 0 = .ok out ∧ out.result = .success) ↔
      ∃ products items, takeItems db.products (cart.items.insertionSort byProduct)
        = .ok (products, items, none) := by
  unfold processOrderHeavyTasks
  rw [Db.getOrder_eq_ok.mpr hget, ok_bind, if_neg (not_not.mpr hpending), hcart]
  dsimp only
  constructor
  · rintro ⟨out, hout, hsuccess⟩
    obtain ⟨⟨products, items, shortage⟩, htake, hout⟩ := bind_eq_ok.mp hout
    cases shortage with
    | none => exact ⟨products, items, htake⟩
    | some s =>
      obtain ⟨failed, _, hout⟩ := bind_eq_ok.mp hout
      cases hout
      cases hsuccess
  · rintro ⟨products, items, htake⟩
    rw [htake, ok_bind]
    exact ⟨_, rfl, rfl⟩

/-- The task confirms an order on whose cart the stock check finds nothing. -/
theorem processOrderHeavyTasks_checked (hget : db.orders.get? o = some order)
    (hpending : order.status = .pending) (hcart : db.carts.get? cartId = some cart)
    (hnodup : (cart.items.map CartItem.product).Nodup)
    (hproducts : ∀ it ∈ cart.items, ∃ p, db.products.get? it.product = some p)
    (hclean : CartService.checkStock db cart = []) :
    ∃ out, processOrderHeavyTasks db now o cartId 0 = .ok out ∧ out.result = .success := by
  rw [processOrderHeavyTasks_success_iff hget hpending hcart]
  refine CartService.takeItems_of_inStock ?_ fun it hit => ?_
  · exact (((List.perm_insertionSort byProduct cart.items).map _).nodup_iff).mpr hnodup
  · rw [List.mem_insertionSort] at hit
    obtain ⟨p, hp⟩ := hproducts it hit
    exact ⟨p, hp, (CartService.checkStock_eq_nil.mp hclean it hit p hp).2.2⟩

end OrderTasks

end

open CartService OrderTasks

/-- The shop with a pending order of the cart: ten books, no cups, three pens, and bags that are
sold no more.  The books cost 12000 now. -/
def booksShop (items : List CartItem) : Db :=
  { cartShop.db with
    products := (((Table.empty.insert ⟨"책", 12000, 10, 0, true⟩).insert
      ⟨"컵", 8000, 0, 0, true⟩).insert ⟨"펜", 1500, 3, 0, true⟩).insert ⟨"가방", 50000, 5, 0, false⟩
    carts := Table.empty.insert { user := some 7, items := items }
    orders := Table.empty.insert
      { user := 7, cart := some 1, totalAmount := 0, finalAmount := 0, createdAt := 0,
        updatedAt := 0 } }

section

variable {db : Db} {cartId : CartId} {cart : Cart} {o : OrderId} {order : Order} {now : Time}

/-- When the products of the cart are on sale and asked for: `check_stock` finds nothing
exactly when the task of the order, in the same state and without points, confirms it. -/
theorem stock_check_decides (hget : db.orders.get? o = some order)
    (hpending : order.status = .pending) (hcart : db.carts.get? cartId = some cart)
    (hnodup : (cart.items.map CartItem.product).Nodup)
    (hsale : ∀ it ∈ cart.items, 1 ≤ it.quantity ∧
      ∃ p, db.products.get? it.product = some p ∧ p.isActive = true) :
    checkStock db cart = [] ↔
      ∃ out, processOrderHeavyTasks db now o cartId 0 = .ok out ∧ out.result = .success := by
  constructor
  · refine processOrderHeavyTasks_checked hget hpending hcart hnodup fun it hit => ?_
    obtain ⟨_, p, hp, _⟩ := hsale it hit
    exact ⟨p, hp⟩
  · rw [processOrderHeavyTasks_success_iff hget hpending hcart, checkStock_eq_nil]
    rintro ⟨products, items, htake⟩ it hit p hp
    obtain ⟨hasked, q, hq, hactive⟩ := hsale it hit
    cases hp.symm.trans hq
    obtain ⟨q, hq, henough⟩ :=
      takeItems_inStock htake it ((List.mem_insertionSort byProduct).mpr hit)
    cases hp.symm.trans hq
    exact ⟨hactive, by omega, henough⟩

end

/-- With two books the task gets to the pens, and five are too many where three
are not. -/
theorem stock_check_decides_pens :
    (¬ ∃ out, processOrderHeavyTasks (booksShop [{ product := 3, quantity := 5 },
        { product := 1, quantity := 2 }]) 0 1 1 0 = .ok out ∧ out.result = .success) ∧
      ∃ out, processOrderHeavyTasks (booksShop [{ product := 3, quantity := 3 },
        { product := 1, quantity := 2 }]) 0 1 1 0 = .ok out ∧ out.result = .success := by
  constructor
  · intro hsuccess
    have hnone := (stock_check_decides rfl rfl rfl (by decide) (by decide)).mpr hsuccess
    revert hnone
    decide
  · exact (stock_check_decides rfl rfl rfl (by decide) (by decide)).mp (by decide)

section

variable {db : Db} {cartId : CartId} {cart : Cart} {o : OrderId} {now : Time}

/-- A cart that was cleaned up, and took over the prices, gets through: each issue of the
stock check was answered with its message; both checks find nothing now; the serializer accepts
the cart, unless nothing is left in it; and as long as the cart and the products stay as they
are, the task of the order confirms it. -/
theorem tidied_cart_orders (hcart : db.carts.get? cartId = some cart)
    (hnodup : (cart.items.map CartItem.product).Nodup)
    (hproducts : ∀ it ∈ cart.items, (db.products.get? it.product).isSome = true)
    (hstock : ∀ k p, db.products.get? k = some p → 0 ≤ p.stock) :
    let cleaned := cleanupUnavailableItems db cartId
    let tidied := (updateItemPrices cleaned.2 cartId).2
    (cleaned.1.removed.map (fun r => (r.productId, r.reason)) ++
        cleaned.1.updated.map fun u => (u.productId, u.reason)).Perm
      ((checkStock db cart).map fun i => (i.productId, i.issueType.message)) ∧
    ∃ left, tidied.carts.get? cartId = some left ∧
      checkStock tidied left = [] ∧ checkPriceChanges tidied left = [] ∧
      (left.items ≠ [] →
        OrderCreateSerializer.validateCartItems tidied left = .ok left.items) ∧
      ∀ (later : Db) (c : Cart) (order : Order), later.products = tidied.products →
        later.carts.get? cartId = some c → c.items = left.items →
        later.orders.get? o = some order → order.status = .pending →
        ∃ out, processOrderHeavyTasks later now o cartId 0 = .ok out ∧ out.result = .success := by
  intro cleaned tidied
  have hcleans : CleansCart db cartId cart (cart.items.filterMap (cleanItem db.products))
      cleaned.2 := cleanupUnavailableItems_cleans hcart hnodup
  have hsame : cleaned.2.products = db.products := by
    obtain ⟨carts, honly⟩ := hcleans.only
    rw [honly]
  have hclean : checkStock cleaned.2
      { cart with items := cart.items.filterMap (cleanItem db.products) } = [] :=
    (checks_congr hsame rfl).1.trans (checkStock_cleanup hstock)
  obtain ⟨left, hleft, hitems, hchecked, hprices⟩ := updateItemPrices_clean hcleans.cleaned hclean
  refine ⟨cleanup_answers hcart, left, hleft, hchecked, hprices,
    fun hne => validateCartItems_iff.mpr ⟨hne, hchecked, hprices⟩, ?_⟩
  intro later c order hlater hc hsameItems hget hpending
  obtain ⟨hnodup', hfirst⟩ := tidied_products hnodup (hsameItems.trans hitems)
  have hproducts' : later.products = db.products :=
    hlater.trans ((updateItemPrices_cart hcleans.cleaned).1.trans hsame)
  refine processOrderHeavyTasks_checked hget hpending hc hnodup' (fun it hit => ?_)
    ((checks_congr hlater hsameItems).1.trans hchecked)
  obtain ⟨first, hmem, hproduct⟩ := hfirst it hit
  rw [hproducts', ← hproduct]
  exact Option.isSome_iff_exists.mp (hproducts first hmem)

end

/-- The cups and the bags go, three pens are left, and the books cost 12000. -/
theorem tidied_cart_orders_books :
    let shop := booksShop [⟨1, 2, some 10000⟩, ⟨2, 1, none⟩, ⟨3, 5, some 1500⟩, ⟨4, 1, none⟩]
    let tidied := (updateItemPrices (cleanupUnavailableItems shop 1).2 1).2
    tidied.carts.get? 1
        = some { user := some 7, items := [⟨1, 2, some 12000⟩, ⟨3, 3, some 1500⟩] } ∧
      ∃ out, processOrderHeavyTasks tidied 0 1 1 0 = .ok out ∧ out.result = .success := by
  intro shop tidied
  have hrows : ∀ r ∈ shop.products.rows, 0 ≤ r.2.stock := by decide
  have hstock : ∀ k p, shop.products.get? k = some p → 0 ≤ p.stock :=
    fun k p hp => hrows (k, p) (Table.get?_eq_some.mp hp)
  obtain ⟨_, left, hleft, _, _, _, hconfirms⟩ :=
    @tidied_cart_orders shop 1 _ 1 0 rfl (by decide) (by decide) hstock
  exact ⟨by decide, hconfirms tidied left _ rfl hleft rfl rfl rfl⟩

end Shopping
