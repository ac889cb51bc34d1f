import Shopping.Carts.Prices
import Shopping.Orders.Processing

/-!
# The stock of a cart

`check_stock` and `cleanup_unavailable_items` of `CartService`, beside the
checks of `OrderCreateSerializer` and the loop of `process_order_heavy_tasks`,
which look at the same stock.

`cleanup_answers` says that the clean-up answers each issue of the check, and
`checkStock_cleanup` that none is left.  `validateCartItems_iff` and
`takeItems_of_inStock` are what the other two make of the same cart.
-/

namespace Shopping

/-- `issue_type`. -/
inductive StockIssueType where
  | inactive
  | outOfStock
  | insufficient
  deriving DecidableEq, Repr

/-- `get_stock_issue_message`. -/
def StockIssueType.message : StockIssueType → String
  | .inactive => "판매 중단"
  | .outOfStock => "품절"
  | .insufficient => "재고 부족"

/-- `StockIssue`; the product is the key of the item in its cart. -/
structure StockIssue where
  productId : ProductId
  productName : String
  issueType : StockIssueType
  requested : Nat
  available : Int
  deriving DecidableEq, Repr

/-- An entry of `removed`. -/
structure RemovedItem where
  productId : ProductId
  productName : String
  quantity : Nat
  reason : String
  deriving DecidableEq, Repr

/-- An entry of `updated`. -/
structure UpdatedItem where
  productId : ProductId
  productName : String
  oldQuantity : Nat
  newQuantity : Int
  reason : String
  deriving DecidableEq, Repr

/-- What `cleanup_unavailable_items` returns; its counts are the lengths. -/
structure CleanupResult where
  removed : List RemovedItem := []
  updated : List UpdatedItem := []
  deriving DecidableEq, Repr

namespace CartService

/-- What `check_stock` finds at an item. -/
def stockIssue (it : CartItem) (product : Product) : Option StockIssue :=
  if !product.isActive then some ⟨it.product, product.name, .inactive, it.quantity, 0⟩
  else if product.stock = 0 then some ⟨it.product, product.name, .outOfStock, it.quantity, 0⟩
  else if product.stock < it.quantity then
    some ⟨it.product, product.name, .insufficient, it.quantity, product.stock⟩
  else none

/-- `check_stock`. -/
def checkStock (db : Db) (cart : Cart) : List StockIssue :=
  cart.items.filterMap fun it => (db.products.get? it.product).bind (stockIssue it)

/-- The loop of `cleanup_unavailable_items`. -/
def cleanupLoop (db : Db) (cartId : CartId) : List CartItem → CleanupResult × Db
  | [] => ({}, db)
  | it :: rest =>
    match db.products.get? it.product with
    | none => cleanupLoop db cartId rest
    | some product =>
      if !product.isActive then
        let out := cleanupLoop (saveCart db cartId (Cart.deleteItem it.product)) cartId rest
        ({ out.1 with
            removed := ⟨it.product, product.name, it.quantity, "판매 중단"⟩ :: out.1.removed }, out.2)
      else if product.stock = 0 then
        let out := cleanupLoop (saveCart db cartId (Cart.deleteItem it.product)) cartId rest
        ({ out.1 with
            removed := ⟨it.product, product.name, it.quantity, "품절"⟩ :: out.1.removed }, out.2)
      else if product.stock < it.quantity then
        let out := cleanupLoop
          (saveCart db cartId (Cart.setQuantity it.product product.stock.toNat)) cartId rest
        ({ out.1 with
            updated := ⟨it.product, product.name, it.quantity, product.stock, "재고 부족"⟩
              :: out.1.updated }, out.2)
      else cleanupLoop db cartId rest

/-- `cleanup_unavailable_items`. -/
def cleanupUnavailableItems (db : Db) (cartId : CartId) : CleanupResult × Db :=
  match db.carts.get? cartId with
  | none => ({}, db)
  | some cart => cleanupLoop db cartId cart.items

/-- What the clean-up leaves of an item. -/
def cleanItem (products : Table Product) (it : CartItem) : Option CartItem :=
  match products.get? it.product with
  | none => some it
  | some product =>
    if !product.isActive then none
    else if product.stock = 0 then none
    else if product.stock < it.quantity then some { it with quantity := product.stock.toNat }
    else some it

section

variable {db db' : Db} {cartId : CartId} {cart : Cart} {it it' : CartItem} {product : Product}
  {products : Table Product}

/-! ## The check -/

theorem stockIssue_eq_none : stockIssue it product = none ↔
    product.isActive = true ∧ product.stock ≠ 0 ∧ (it.quantity : Int) ≤ product.stock := by
  unfold stockIssue
  split_ifs with hactive hstock hshort
  · simp_all
  · simp_all
  · simp_all
  · simp_all

theorem checkStock_eq_nil : checkStock db cart = [] ↔
    ∀ it ∈ cart.items, ∀ product, db.products.get? it.product = some product →
      product.isActive = true ∧ product.stock ≠ 0 ∧ (it.quantity : Int) ≤ product.stock := by
  unfold checkStock
  rw [List.filterMap_eq_nil_iff]
  refine forall_congr' fun it => forall_congr' fun _ => ?_
  cases db.products.get? it.product with
  | none => simp
  | some product => simp [stockIssue_eq_none]

/-- The serializer finds a fault at an item where the check finds an issue. -/
theorem itemError_eq_none :
    OrderCreateSerializer.itemError it product = none ↔ stockIssue it product = none := by
  unfold OrderCreateSerializer.itemError stockIssue
  split_ifs
  · simp
  · simp
  · simp
  · simp

/-- The serializer accepts the carts on which both checks find nothing. -/
theorem validateCartItems_iff : OrderCreateSerializer.validateCartItems db cart = .ok cart.items ↔
    cart.items ≠ [] ∧ checkStock db cart = [] ∧ checkPriceChanges db cart = [] := by
  have herrors : OrderCreateSerializer.cartErrors db cart = [] ↔
      checkStock db cart = [] ∧ checkPriceChanges db cart = [] := by
    unfold OrderCreateSerializer.cartErrors checkStock
    rw [List.append_eq_nil_iff, List.filterMap_eq_nil_iff, List.filterMap_eq_nil_iff]
    refine and_congr (forall_congr' fun it => forall_congr' fun _ => ?_) ?_
    · cases db.products.get? it.product with
      | none => simp
      | some product => exact itemError_eq_none
    · split
      · rename_i hnone
        exact iff_of_true rfl hnone
      · rename_i hsome
        exact iff_of_false (List.cons_ne_nil _ _) hsome
  unfold OrderCreateSerializer.validateCartItems
  split
  · rename_i hempty
    simp [hempty]
  · rename_i hitems
    split
    · rename_i hnone
      simp [hitems, herrors.mp hnone]
    · rename_i hsome
      refine iff_of_false (fun h => by cases h) fun h => hsome (herrors.mpr h.2)

/-! ## The clean-up -/

theorem cleanItem_product (h : cleanItem products it = some it') : it'.product = it.product := by
  unfold cleanItem at h
  split at h
  · cases h
    rfl
  · split_ifs at h
    · cases h
      rfl
    · cases h
      rfl

theorem cleanItem_sublist (products : Table Product) (items : List CartItem) :
    ((items.filterMap (cleanItem products)).map CartItem.product).Sublist
      (items.map CartItem.product) := by
  induction items with
  | nil => exact List.Sublist.refl _
  | cons it rest ih =>
    rw [List.filterMap_cons]
    cases hclean : cleanItem products it with
    | none => exact ih.cons _
    | some it' =>
      simp only [List.map_cons, cleanItem_product hclean]
      exact ih.cons_cons _

/-- Nothing is wrong with an item that the clean-up leaves. -/
theorem cleanItem_clean (hstock : ∀ k p, products.get? k = some p → 0 ≤ p.stock)
    (h : cleanItem products it = some it') (hget : products.get? it.product = some product) :
    stockIssue it' product = none := by
  have hpos := hstock _ _ hget
  unfold cleanItem at h
  rw [hget] at h
  dsimp only at h
  rw [stockIssue_eq_none]
  split_ifs at h with hactive hzero hshort
  · cases h
    exact ⟨by simpa using hactive, hzero, by simp [hpos]⟩
  · cases h
    exact ⟨by simpa using hactive, hzero, by omega⟩

@[simp] theorem saveCart_products (db : Db) (cartId : CartId) (f : Cart → Cart) :
    (saveCart db cartId f).products = db.products := rfl

/-- The clean-up answers each issue of the check with its message. -/
theorem cleanupLoop_answers (db : Db) (cartId : CartId) (todo : List CartItem) :
    ((cleanupLoop db cartId todo).1.removed.map (fun r => (r.productId, r.reason)) ++
        (cleanupLoop db cartId todo).1.updated.map fun u => (u.productId, u.reason)).Perm
      ((todo.filterMap fun it => (db.products.get? it.product).bind (stockIssue it)).map
        fun i => (i.productId, i.issueType.message)) := by
  induction todo generalizing db with
  | nil => exact List.Perm.refl _
  | cons it rest ih =>
    rw [cleanupLoop, List.filterMap_cons]
    cases hget : db.products.get? it.product with
    | none =>
      simp only [Option.bind_none]
      exact ih db
    | some product =>
      simp only [Option.bind_some, stockIssue]
      split_ifs with hactive hstock hshort
      · exact (ih _).cons _
      · exact (ih _).cons _
      · exact List.perm_middle.trans ((ih _).cons _)
      · exact ih db

/-- The loop writes to the cart only. -/
structure CleansCart (db : Db) (cartId : CartId) (cart : Cart) (items : List CartItem) (db' : Db) :
    Prop where
  only : OnlyCarts db db'
  cleaned : db'.carts.get? cartId = some { cart with items := items }
  others : ∀ k, k ≠ cartId → db'.carts.get? k = db.carts.get? k

theorem CleansCart.after {f : Cart → Cart} {items : List CartItem}
    (h : CleansCart (saveCart db cartId f) cartId cart items db') :
    CleansCart db cartId cart items db' := by
  refine ⟨(onlyCarts_saveCart f).trans h.only, h.cleaned, fun k hk => ?_⟩
  rw [h.others k hk]
  unfold saveCart
  dsimp only
  rw [Table.get?_modify, if_neg hk]

theorem deleteItem_next {done rest : List CartItem}
    (hnodup : ((done ++ it :: rest).map CartItem.product).Nodup) :
    Cart.deleteItem it.product { cart with items := done ++ it :: rest }
      = { cart with items := done ++ rest } := by
  rw [List.map_append, List.map_cons, List.nodup_append, List.nodup_cons] at hnodup
  obtain ⟨_, ⟨hrest, _⟩, hdone⟩ := hnodup
  have hleft : done.filter (fun x => decide (x.product ≠ it.product)) = done :=
    List.filter_eq_self.mpr fun x hx => decide_eq_true
      (hdone _ (List.mem_map_of_mem hx) _ List.mem_cons_self)
  have hright : rest.filter (fun x => decide (x.product ≠ it.product)) = rest :=
    List.filter_eq_self.mpr fun x hx => decide_eq_true fun heq =>
      hrest (heq ▸ List.mem_map_of_mem hx)
  unfold Cart.deleteItem
  simp only [List.filter_append, List.filter_cons, hleft, hright]
  simp

theorem setQuantity_next {done rest : List CartItem} (quantity : Nat)
    (hnodup : ((done ++ it :: rest).map CartItem.product).Nodup) :
    Cart.setQuantity it.product quantity { cart with items := done ++ it :: rest }
      = { cart with items := done ++ { it with quantity := quantity } :: rest } := by
  rw [List.map_append, List.map_cons, List.nodup_append, List.nodup_cons] at hnodup
  obtain ⟨_, ⟨hrest, _⟩, hdone⟩ := hnodup
  have hleft : done.map (fun x => if x.product = it.product then { x with quantity } else x)
      = done := by
    refine (List.map_congr_left fun x hx => ?_).trans (List.map_id _)
    exact if_neg (hdone _ (List.mem_map_of_mem hx) _ List.mem_cons_self)
  have hright : rest.map (fun x => if x.product = it.product then { x with quantity } else x)
      = rest := by
    refine (List.map_congr_left fun x hx => ?_).trans (List.map_id _)
    refine if_neg fun heq : x.product = it.product => hrest ?_
    rw [← heq]
    exact List.mem_map_of_mem hx
  unfold Cart.setQuantity
  simp only [List.map_append, List.map_cons, hleft, hright]
  simp

/-- The loop in the middle of the cart: what is done stays, and the rest is cleaned. -/
theorem cleanupLoop_cleans (done todo : List CartItem)
    (hcart : db.carts.get? cartId = some { cart with items := done ++ todo })
    (hnodup : ((done ++ todo).map CartItem.product).Nodup) :
    CleansCart db cartId cart (done ++ todo.filterMap (cleanItem db.products))
      (cleanupLoop db cartId todo).2 := by
  induction todo generalizing db done with
  | nil => exact ⟨OnlyCarts.refl db, hcart, fun _ _ => rfl⟩
  | cons it rest ih =>
    have hsaved : ∀ f : Cart → Cart, (saveCart db cartId f).carts.get? cartId
        = some (f { cart with items := done ++ it :: rest }) := by
      intro f
      unfold saveCart
      dsimp only
      rw [Table.get?_modify_self, hcart]
      rfl
    -- The item moves over to what is done, as `x`.
    have hkeep : ∀ (u : Db) (x : CartItem), x.product = it.product → u.products = db.products →
        u.carts.get? cartId = some { cart with items := done ++ x :: rest } →
        CleansCart u cartId cart (done ++ x :: rest.filterMap (cleanItem db.products))
          (cleanupLoop u cartId rest).2 := by
      intro u x hx hproducts hu
      have hnodup' : (((done ++ [x]) ++ rest).map CartItem.product).Nodup := by
        simpa [hx] using hnodup
      have hnext := ih (done ++ [x]) (by simpa using hu) hnodup'
      rw [hproducts] at hnext
      simpa using hnext
    have hdrop : CleansCart (saveCart db cartId (Cart.deleteItem it.product)) cartId cart
        (done ++ rest.filterMap (cleanItem db.products))
        (cleanupLoop (saveCart db cartId (Cart.deleteItem it.product)) cartId rest).2 := by
      refine ih done ((hsaved _).trans (congrArg some (deleteItem_next hnodup))) ?_
      refine hnodup.sublist (List.Sublist.map _ ?_)
      exact (List.Sublist.refl done).append (List.sublist_cons_self it rest)
    rw [cleanupLoop, List.filterMap_cons, cleanItem]
    cases hget : db.products.get? it.product with
    | none => exact hkeep db it rfl rfl hcart
    | some product =>
      dsimp only
      split_ifs with hactive hzero hshort
      · exact hdrop.after
      · exact hdrop.after
      · have hset := (hsaved (Cart.setQuantity it.product product.stock.toNat)).trans
          (congrArg some (setQuantity_next _ hnodup))
        exact (hkeep (saveCart db cartId _) { it with quantity := product.stock.toNat } rfl rfl
          hset).after
      · exact hkeep db it rfl rfl hcart

/-- The cart has the cleaned items afterwards. -/
theorem cleanupUnavailableItems_cleans (hcart : db.carts.get? cartId = some cart)
    (hnodup : (cart.items.map CartItem.product).Nodup) :
    CleansCart db cartId cart (cart.items.filterMap (cleanItem db.products))
      (cleanupUnavailableItems db cartId).2 := by
  unfold cleanupUnavailableItems
  rw [hcart]
  exact cleanupLoop_cleans [] cart.items hcart hnodup

/-- Each issue of the check is answered. -/
theorem cleanup_answers (hcart : db.carts.get? cartId = some cart) :
    ((cleanupUnavailableItems db cartId).1.removed.map (fun r => (r.productId, r.reason)) ++
        (cleanupUnavailableItems db cartId).1.updated.map fun u => (u.productId, u.reason)).Perm
      ((checkStock db cart).map fun i => (i.productId, i.issueType.message)) := by
  unfold cleanupUnavailableItems
  rw [hcart]
  exact cleanupLoop_answers db cartId cart.items

/-- The check finds nothing after the clean-up. -/
theorem checkStock_cleanup (hstock : ∀ k p, db.products.get? k = some p → 0 ≤ p.stock) :
    checkStock db { cart with items := cart.items.filterMap (cleanItem db.products) } = [] := by
  unfold checkStock
  rw [List.filterMap_eq_nil_iff]
  intro it' hit'
  obtain ⟨it, _, hclean⟩ := List.mem_filterMap.mp hit'
  rw [cleanItem_product hclean]
  cases hget : db.products.get? it.product with
  | none => rfl
  | some product => exact cleanItem_clean hstock hclean hget

/-! ## The loop over the cart -/

open OrderTasks in
/-- The loop ends without a shortage when every item is in stock, and the cart has a product
once. -/
theorem takeItems_of_inStock {todo : List CartItem} {products : Table Product}
    (hnodup : (todo.map CartItem.product).Nodup)
    (h : ∀ it ∈ todo, ∃ p, products.get? it.product = some p ∧ (it.quantity : Int) ≤ p.stock) :
    ∃ products' items, takeItems products todo = .ok (products', items, none) := by
  induction todo generalizing products with
  | nil => exact ⟨products, [], rfl⟩
  | cons it rest ih =>
    rw [List.map_cons, List.nodup_cons] at hnodup
    obtain ⟨p, hp, henough⟩ := h it List.mem_cons_self
    have hrest : ∀ x ∈ rest, ∃ q, (products.modify it.product
        (addStock (-(it.quantity : Int)))).get? x.product = some q ∧
          (x.quantity : Int) ≤ q.stock := by
      intro x hx
      have hne : x.product ≠ it.product := by
        intro heq
        refine hnodup.1 ?_
        rw [← heq]
        exact List.mem_map_of_mem hx
      rw [Table.get?_modify, if_neg hne]
      exact h x (List.mem_cons_of_mem it hx)
    obtain ⟨products', items, htake⟩ := ih hnodup.2 hrest
    refine ⟨products', orderItemOf it p :: items, ?_⟩
    rw [takeItems, hp]
    dsimp only
    rw [if_neg (not_lt.mpr henough), htake]
    rfl

end

end CartService

end Shopping
