import Shopping.Orders.Processing

/-!
# Ordering in one transaction

`OrderService.create_order_from_cart` of `shopping/services/order_service.py`:
the order, its items, the stock and the points in one transaction, which raises
on a shortage.  `create_order_hybrid` writes the order only and leaves the rest
to `process_order_heavy_tasks`.

`order_paths_agree` compares the two on a cart that is active.  They refuse the
same orders for the same reason; an order that goes through takes the same
stock and points and has the same items and amounts; and an order that falls
short raises on the one way and fails on the other, with the shop as before.
-/

namespace Shopping

namespace OrderService

open OrderTasks

/-- The shortage as `_create_order_items_and_decrease_stock` reports it. -/
def shortageMessage (s : Shortage) : String :=
  s.name ++ "의 재고가 부족합니다. (요청: " ++ toString s.requested ++ "개, 재고: "
    ++ toString s.available ++ "개)"

/-- The loop of `_create_order_items_and_decrease_stock` over the cart items. -/
def decreaseStock (products : Table Product) :
    List CartItem → Except ShopError (Table Product × List OrderItem)
  | [] => .ok (products, [])
  | it :: rest =>
    match products.get? it.product with
    | none => .error (.db .doesNotExist)
    | some p =>
      if p.stock < it.quantity then
        .error (.orderServiceError (shortageMessage ⟨p.name, it.quantity, p.stock⟩))
      else
        (decreaseStock (products.modify it.product (addStock (-it.quantity))) rest).map fun out =>
          (out.1, orderItemOf it p :: out.2)

/-- `_create_order_items_and_decrease_stock`. -/
def createOrderItemsAndDecreaseStock (db : Db) (o : OrderId) (cart : Cart) :
    Except ShopError Db := do
  let (products, items) ← decreaseStock db.products (cart.items.insertionSort byProduct)
  .ok ({ db with products := products }.saveOrder o fun x => { x with items := x.items ++ items })

/-- `_process_point_usage`. -/
def processPointUsage (db : Db) (now : Time) (user : UserId) (o : OrderId) (usePoints : Int) :
    Except ShopError Db :=
  let used := PointService.usePointsFifo db.ledger now user usePoints .use (some o)
  if used.1.success = false then .error (.valueError ("포인트 사용 실패: " ++ used.1.message))
  else .ok { db with ledger := used.2 }

/-- `create_order_from_cart`. -/
def createOrderFromCart (db : Db) (now : Time) (user : UserId) (cart : CartId)
    (postalCode : String) (usePoints : Int) : Except ShopError (OrderId × Db) :=
  match db.carts.get? cart with
  | none => .error (.db .doesNotExist)
  | some lockedCart =>
    if lockedCart.items = [] then .error (.orderServiceError "장바구니가 비어있습니다.")
    else do
      let draft ← OrderDraft.ofTotal (cartTotalAmount db.products lockedCart)
        (db.ledger.points user) postalCode usePoints
      let o := db.orders.next
      let order : Order :=
        { user := user
          status := .pending
          totalAmount := draft.totalAmount
          shippingFee := draft.shippingFee
          additionalShippingFee := draft.additionalFee
          isFreeShipping := draft.isFreeShipping
          usedPoints := draft.usePoints
          finalAmount := draft.finalAmount
          earnRateAtOrder := (db.membership user).earnRate
          createdAt := now
          updatedAt := now }
      let stocked ← createOrderItemsAndDecreaseStock
        { db with orders := db.orders.insert order } o lockedCart
      let used ← if 0 < usePoints then processPointUsage stocked now user o usePoints
        else .ok stocked
      .ok (o, { used with carts := used.carts.modify cart fun c => { c with items := [] } })

/-! ## The two loops -/

/-- The loop that raises on a shortage is the loop that reports it. -/
theorem decreaseStock_eq (products : Table Product) (items : List CartItem) :
    decreaseStock products items = (takeItems products items).bind fun out =>
      match out.2.2 with
      | some s => .error (.orderServiceError (shortageMessage s))
      | none => .ok (out.1, out.2.1) := by
  induction items generalizing products with
  | nil => rfl
  | cons it rest ih =>
    rw [decreaseStock, takeItems]
    cases products.get? it.product with
    | none => rfl
    | some p =>
      dsimp only
      by_cases hshort : p.stock < it.quantity
      · rw [if_pos hshort, if_pos hshort]
        rfl
      · rw [if_neg hshort, if_neg hshort, ih]
        cases takeItems (products.modify it.product (addStock (-it.quantity))) rest with
        | error e => rfl
        | ok out =>
          obtain ⟨taken, made, shortage⟩ := out
          cases shortage with
          | none => rfl
          | some s => rfl

end OrderService

/-- An update of the row that was just added. -/
theorem Table.modify_insert_next {α : Type} (t : Table α) (a : α) (f : α → α) :
    (t.insert a).modify t.next f = t.insert (f a) := by
  unfold Table.modify
  rw [Table.mapRows_insert, if_pos rfl]
  congr 1
  conv_rhs => rw [← Table.mapRows_id t]
  refine Table.mapRows_congr fun k b hb => ?_
  rw [if_neg (ne_of_lt (Table.lt_next hb))]

namespace OrderService

open OrderTasks

/-! ## The two ways -/

/-- An order that was placed and processed, as it is when it is made in one
transaction: it is pending, it does not know its cart, and the cart stays
active. -/
def asOrderedDirectly (db : Db) (o : OrderId) (cart : CartId) : Db :=
  { db with
    orders := db.orders.modify o fun x => { x with status := .pending, cart := none }
    carts := db.carts.modify cart fun c => { c with isActive := true } }

/-- The order that failed for a shortage, with the shop as before. -/
structure FailsShort (db : Db) (o : OrderId) (s : Shortage) (db' : Db) : Prop where
  row : (db'.orders.get? o).map (fun x => (x.status, x.failureReason)) = some (.failed,
    "재고 부족: " ++ s.name ++ " (요청: " ++ toString s.requested ++ "개, 재고: "
      ++ toString s.available ++ "개)")
  others : ∀ i, i ≠ o → db'.orders.get? i = db.orders.get? i
  stock : ∀ k, (db'.products.get? k).map Product.stock = (db.products.get? k).map Product.stock
  ledger : db'.ledger = db.ledger
  payments : db'.payments = db.payments

/-- What the two ways make of the same request. -/
inductive PathsAgree (db : Db) (now : Time) (user : UserId) (cart : CartId) (postalCode : String)
    (usePoints : Int) (published : Bool) : Prop where
  | refused (e : ShopError)
      (hdirect : createOrderFromCart db now user cart postalCode usePoints = .error e)
      (hhybrid : createOrderHybrid db now user cart postalCode usePoints published = .error e)
  | ordered (placed : Outcome OrderId) (done : Outcome ProcessResult)
      (hhybrid : createOrderHybrid db now user cart postalCode usePoints published = .ok placed)
      (hprocess : processOrderHeavyTasks placed.db now placed.result cart usePoints = .ok done)
      (hresult : done.result = .success)
      (hdirect : createOrderFromCart db now user cart postalCode usePoints
        = .ok (placed.result, asOrderedDirectly done.db placed.result cart))
  | short (placed : Outcome OrderId) (done : Outcome ProcessResult) (s : Shortage)
      (hhybrid : createOrderHybrid db now user cart postalCode usePoints published = .ok placed)
      (hprocess : processOrderHeavyTasks placed.db now placed.result cart usePoints = .ok done)
      (hresult : done.result = .insufficientStock s.name)
      (hfails : FailsShort db placed.result s done.db)
      (hdirect : createOrderFromCart db now user cart postalCode usePoints
        = .error (.orderServiceError (shortageMessage s)))
  | raised (placed : Outcome OrderId) (e : ShopError)
      (hhybrid : createOrderHybrid db now user cart postalCode usePoints published = .ok placed)
      (hprocess : processOrderHeavyTasks placed.db now placed.result cart usePoints = .error e)
      (hdirect : createOrderFromCart db now user cart postalCode usePoints = .error e)

section

variable {db : Db} {now : Time} {user : UserId} {cart : CartId} {c : Cart} {draft : OrderDraft}
  {usePoints : Int} {o : OrderId}

/-- Points that were checked can be used. -/
theorem usePointsFifo_of_validated {L : Ledger} {total : Int}
    (h : validatePointUsage (L.points user) usePoints total = .ok ()) (hpos : 0 < usePoints) :
    (PointService.usePointsFifo L now user usePoints .use (some o)).1.success = true := by
  have hbounds : minPoints ≤ usePoints ∧ usePoints ≤ L.points user := by
    unfold validatePointUsage at h
    split at h
    · omega
    · split at h
      · cases h
      · split at h
        · cases h
        · omega
  rcases usePointsFifo_cases L now user usePoints .use (some o) none with
    ⟨hnot, _⟩ | ⟨_, ⟨hc, _⟩, _⟩ | ⟨_, _, hsuccess, _⟩
  · exact absurd ⟨hpos, fun _ => hbounds.1, hbounds.2⟩ hnot
  · cases hc
  · exact hsuccess

/-- The row that `create_order_hybrid` writes. -/
def hybridRow (db : Db) (now : Time) (user : UserId) (cart : CartId) (draft : OrderDraft) : Order :=
  { user := user
    cart := some cart
    status := .pending
    totalAmount := draft.totalAmount
    shippingFee := draft.shippingFee
    additionalShippingFee := draft.additionalFee
    isFreeShipping := draft.isFreeShipping
    usedPoints := draft.usePoints
    finalAmount := draft.finalAmount
    earnRateAtOrder := (db.membership user).earnRate
    createdAt := now
    updatedAt := now }

/-- The shop after `create_order_hybrid`. -/
def placedDb (db : Db) (now : Time) (user : UserId) (cart : CartId) (draft : OrderDraft) : Db :=
  { db with
    orders := db.orders.insert (hybridRow db now user cart draft)
    carts := db.carts.modify cart fun c => { c with isActive := false } }

theorem placedDb_getOrder (db : Db) (now : Time) (user : UserId) (cart : CartId)
    (draft : OrderDraft) : (placedDb db now user cart draft).getOrder db.orders.next
      = .ok (hybridRow db now user cart draft) :=
  Db.getOrder_eq_ok.mpr (Table.get?_insert_next db.orders _)

theorem hybridRow_pending (db : Db) (now : Time) (user : UserId) (cart : CartId)
    (draft : OrderDraft) : ¬ (hybridRow db now user cart draft).status ≠ .pending :=
  fun h => h rfl

theorem placedDb_products (db : Db) (now : Time) (user : UserId) (cart : CartId)
    (draft : OrderDraft) : (placedDb db now user cart draft).products = db.products :=
  rfl

theorem placedDb_cart (hc : db.carts.get? cart = some c) :
    (placedDb db now user cart draft).carts.get? cart = some { c with isActive := false } := by
  show (db.carts.modify cart _).get? cart = _
  rw [Table.get?_modify_self, hc, Option.map_some]

theorem placeOrder_active (hc : db.carts.get? cart = some c) (hactive : c.isActive = true)
    (hitems : c.items ≠ []) :
    placeOrder db now user cart draft = .ok (db.orders.next, placedDb db now user cart draft) := by
  unfold placeOrder
  rw [hc]
  simp [hactive, hitems]
  rfl

/-- The carts after both steps of the way in two. -/
theorem carts_emptied (hc : db.carts.get? cart = some c) (hactive : c.isActive = true) :
    ((db.carts.modify cart fun x => { x with isActive := false }).modify cart
      fun x => { x with items := [] }).modify cart (fun x => { x with isActive := true })
      = db.carts.modify cart fun x => { x with items := [] } := by
  rw [Table.modify_modify, Table.modify_modify]
  unfold Table.modify
  refine Table.mapRows_congr fun k b hb => ?_
  by_cases hk : k = cart
  · rw [hk, hc] at hb
    cases hb
    simp [hk, hactive]
  · rw [if_neg hk, if_neg hk]

/-- What the points of the order make of the ledger. -/
def ledgerUsed (L : Ledger) (now : Time) (user : UserId) (o : OrderId) (usePoints : Int) : Ledger :=
  if 0 < usePoints then (PointService.usePointsFifo L now user usePoints .use (some o)).2 else L

/-- The shop after the processing of the order that was placed. -/
def processedDb (db : Db) (now : Time) (user : UserId) (cart : CartId) (draft : OrderDraft)
    (usePoints : Int) (products : Table Product) (items : List OrderItem) : Db :=
  { db with
    ledger := ledgerUsed db.ledger now user db.orders.next usePoints
    products := products
    orders := db.orders.insert { hybridRow db now user cart draft with
      status := .confirmed, items := items }
    carts := (db.carts.modify cart fun x => { x with isActive := false }).modify cart
      fun x => { x with items := [] } }

theorem processOrderHeavyTasks_placed {products : Table Product} {items : List OrderItem}
    (hc : db.carts.get? cart = some c) (hpoints : ∀ o, 0 < usePoints →
      (PointService.usePointsFifo db.ledger now user usePoints .use (some o)).1.success = true)
    (htake : takeItems db.products (c.items.insertionSort byProduct)
      = .ok (products, items, none)) :
    processOrderHeavyTasks (placedDb db now user cart draft) now db.orders.next cart usePoints
      = .ok { result := .success
              db := processedDb db now user cart draft usePoints products items } := by
  unfold processOrderHeavyTasks
  rw [placedDb_getOrder, ok_bind, if_neg (hybridRow_pending db now user cart draft)]
  simp only [placedDb_cart hc, placedDb_products, htake, ok_bind]
  have horders : (({ placedDb db now user cart draft with products := products }.saveOrder
      db.orders.next fun x => { x with items := x.items ++ items }).orders.modify db.orders.next
        (Order.withStatus .confirmed now))
      = db.orders.insert { hybridRow db now user cart draft with
          status := .confirmed, items := items } := by
    rw [Db.saveOrder_orders, Table.modify_modify]
    exact Table.modify_insert_next db.orders _ _
  by_cases hpos : 0 < usePoints
  · have hsuccess := hpoints db.orders.next hpos
    rw [if_pos hpos]
    show (if (PointService.usePointsFifo db.ledger now user usePoints .use
      (some db.orders.next)).1.success = false then _ else _) = _
    rw [if_neg (by rw [hsuccess]; exact Bool.noConfusion)]
    unfold processedDb ledgerUsed
    rw [if_pos hpos, ← horders]
    rfl
  · rw [if_neg hpos]
    unfold processedDb ledgerUsed
    rw [if_neg hpos, ← horders]
    rfl

theorem createOrderFromCart_taken {postalCode : String} {products : Table Product}
    {items : List OrderItem} (hc : db.carts.get? cart = some c) (hactive : c.isActive = true)
    (hitems : c.items ≠ [])
    (hdraft : OrderDraft.ofTotal (cartTotalAmount db.products c) (db.ledger.points user) postalCode
      usePoints = .ok draft)
    (hpoints : ∀ o, 0 < usePoints →
      (PointService.usePointsFifo db.ledger now user usePoints .use (some o)).1.success = true)
    (htake : takeItems db.products (c.items.insertionSort byProduct)
      = .ok (products, items, none)) :
    createOrderFromCart db now user cart postalCode usePoints
      = .ok (db.orders.next, asOrderedDirectly
          (processedDb db now user cart draft usePoints products items) db.orders.next cart) := by
  have htaken : decreaseStock db.products (c.items.insertionSort byProduct)
      = .ok (products, items) := by
    rw [decreaseStock_eq, htake]
    rfl
  have horders : asOrderedDirectly (processedDb db now user cart draft usePoints products items)
      db.orders.next cart = { db with
        ledger := ledgerUsed db.ledger now user db.orders.next usePoints
        products := products
        orders := (db.orders.insert { hybridRow db now user cart draft with
          cart := none }).modify db.orders.next fun x => { x with items := x.items ++ items }
        carts := db.carts.modify cart fun x => { x with items := [] } } := by
    unfold asOrderedDirectly processedDb
    dsimp only
    rw [carts_emptied hc hactive, Table.modify_insert_next, Table.modify_insert_next]
    rfl
  rw [horders]
  unfold createOrderFromCart createOrderItemsAndDecreaseStock processPointUsage
  rw [hc]
  dsimp only
  rw [if_neg hitems, hdraft, ok_bind, htaken, ok_bind, ok_bind]
  unfold ledgerUsed
  by_cases hpos : 0 < usePoints
  · have hsuccess := hpoints db.orders.next hpos
    rw [if_pos hpos, if_pos hpos]
    show (if (PointService.usePointsFifo db.ledger now user usePoints .use
      (some db.orders.next)).1.success = false then _ else _) >>= _ = _
    rw [if_neg (by rw [hsuccess]; exact Bool.noConfusion)]
    rfl
  · rw [if_neg hpos, if_neg hpos]
    rfl

/-- The failure branches return on an order with all its products. -/
theorem failOrder_returns (now : Time) (reason : String) {order : Order}
    (horder : db.orders.get? o = some order)
    (hproducts : ∀ it ∈ order.items, it.product.isSome = true)
    (hc : db.carts.get? cart = some c) : ∃ failed, failOrder db now o cart reason = .ok failed := by
  unfold failOrder
  rw [Db.getOrder_eq_ok.mpr horder, ok_bind]
  have hany : (order.items.any fun it => it.product.isNone) = false := by
    rw [List.any_eq_false]
    intro it hit
    rw [Bool.not_eq_true, Option.isNone_eq_false_iff]
    exact hproducts it hit
  rw [if_neg (by rw [hany]; exact Bool.noConfusion)]
  unfold restoreCart
  simp only [Db.saveOrder, Db.updateItems, hc]
  split
  · exact ⟨_, rfl⟩
  · exact ⟨_, rfl⟩

/-- The items that the loop makes have their products. -/
theorem takeItems_products {products products' : Table Product} {cart : List CartItem}
    {items : List OrderItem} {shortage : Option Shortage}
    (h : takeItems products cart = .ok (products', items, shortage)) :
    ∀ it ∈ items, it.product.isSome = true := by
  induction cart generalizing products items with
  | nil =>
    cases h
    exact fun it hit => absurd hit List.not_mem_nil
  | cons it rest ih =>
    rw [takeItems] at h
    split at h
    · cases h
    · split at h
      · cases h
        exact fun it hit => absurd hit List.not_mem_nil
      · obtain ⟨⟨taken, made, found⟩, htake, h⟩ := map_eq_ok.mp h
        cases h
        intro x hx
        rcases List.mem_cons.mp hx with rfl | hx
        · rfl
        · exact ih htake x hx

/-- The order that was placed fails for a shortage. -/
theorem processOrderHeavyTasks_short (now : Time) (user : UserId) (draft : OrderDraft)
    (usePoints : Int) {products : Table Product} {items : List OrderItem} {s : Shortage}
    (hc : db.carts.get? cart = some c)
    (htake : takeItems db.products (c.items.insertionSort byProduct)
      = .ok (products, items, some s)) :
    ∃ failed, processOrderHeavyTasks (placedDb db now user cart draft) now db.orders.next cart
        usePoints = .ok { result := .insufficientStock s.name, db := failed } ∧
      FailsShort db db.orders.next s failed := by
  unfold processOrderHeavyTasks
  rw [placedDb_getOrder, ok_bind, if_neg (hybridRow_pending db now user cart draft)]
  simp only [placedDb_cart hc, placedDb_products, htake, ok_bind]
  generalize htaken : ({ placedDb db now user cart draft with products := products }.saveOrder
    db.orders.next fun x => { x with items := x.items ++ items }) = taken
  have horders : taken.orders = db.orders.insert { hybridRow db now user cart draft with
      items := items } := by
    rw [← htaken, Db.saveOrder_orders]
    exact Table.modify_insert_next db.orders _ _
  have hfound : taken.orders.get? db.orders.next
      = some { hybridRow db now user cart draft with items := items } := by
    rw [horders, Table.get?_insert_next]
  have hcart' : taken.carts.get? cart = some { c with isActive := false } := by
    rw [← htaken]
    show (placedDb db now user cart draft).carts.get? cart = _
    exact placedDb_cart hc
  obtain ⟨failed, hfail⟩ := failOrder_returns now ("재고 부족: " ++ s.name ++ " (요청: "
    ++ toString s.requested ++ "개, 재고: " ++ toString s.available ++ "개)") hfound
    (takeItems_products htake) hcart'
  obtain ⟨order, hfails⟩ := failOrder_ok hfail
  have horder := hfails.found
  rw [hfound] at horder
  cases horder
  rw [hfail, ok_bind]
  refine ⟨failed, rfl, ⟨?_, fun i hi => ?_, fun k => ?_, ?_, ?_⟩⟩
  · rw [hfails.orders, Table.get?_modify_self, hfound]
    rfl
  · rw [hfails.orders, Table.get?_modify, if_neg hi, horders, Table.get?_insert, if_neg hi]
  · rw [hfails.products, ← htaken]
    exact stock_of_givenBack k (takeItems_taken htake k)
  · rw [hfails.ledger, ← htaken]
    rfl
  · rw [hfails.payments, ← htaken]
    rfl

/-- A product that is gone raises. -/
theorem processOrderHeavyTasks_raises {e : ShopError} (hc : db.carts.get? cart = some c)
    (htake : takeItems db.products (c.items.insertionSort byProduct) = .error e) :
    processOrderHeavyTasks (placedDb db now user cart draft) now db.orders.next cart usePoints
      = .error e := by
  unfold processOrderHeavyTasks
  rw [placedDb_getOrder, ok_bind, if_neg (hybridRow_pending db now user cart draft)]
  simp only [placedDb_cart hc, placedDb_products, htake]
  rfl

/-- An order in one transaction is refused with what its loop over the cart says. -/
theorem createOrderFromCart_untaken {postalCode : String} {e : ShopError}
    (hc : db.carts.get? cart = some c) (hitems : c.items ≠ [])
    (hdraft : OrderDraft.ofTotal (cartTotalAmount db.products c) (db.ledger.points user) postalCode
      usePoints = .ok draft)
    (hloop : decreaseStock db.products (c.items.insertionSort byProduct) = .error e) :
    createOrderFromCart db now user cart postalCode usePoints = .error e := by
  unfold createOrderFromCart createOrderItemsAndDecreaseStock
  rw [hc]
  dsimp only
  rw [if_neg hitems, hdraft, ok_bind, hloop]
  rfl

/-- On an active cart, ordering in one transaction and ordering in two steps
agree: they refuse the same requests, and an order takes, holds and costs the
same, or falls short of the same product. -/
theorem order_paths_agree (hc : db.carts.get? cart = some c) (hactive : c.isActive = true)
    (now : Time) (user : UserId) (postalCode : String) (usePoints : Int) (published : Bool) :
    PathsAgree db now user cart postalCode usePoints published := by
  by_cases hitems : c.items = []
  · refine .refused (.orderServiceError "장바구니가 비어있습니다.") ?_ ?_
    · simp [createOrderFromCart, hc, hitems]
    · simp [createOrderHybrid, OrderDraft.of, hc, hitems]
      rfl
  · have hof : OrderDraft.of db user cart postalCode usePoints
        = OrderDraft.ofTotal (cartTotalAmount db.products c) (db.ledger.points user) postalCode
          usePoints := by
      rw [OrderDraft.of_eq]
      simp [hasItems, totalOfCart, hc, hitems]
    cases hdraft : OrderDraft.ofTotal (cartTotalAmount db.products c) (db.ledger.points user)
        postalCode usePoints with
    | error e =>
      refine .refused e ?_ ?_
      · simp only [createOrderFromCart, hc, hitems, if_false, hdraft]
        rfl
      · simp only [createOrderHybrid, hof, hdraft]
        rfl
    | ok draft =>
      have hpoints : ∀ o, 0 < usePoints → (PointService.usePointsFifo db.ledger now user usePoints
          .use (some o)).1.success = true := by
        intro o hpos
        obtain ⟨_, hvalid, _⟩ := map_eq_ok.mp hdraft
        exact usePointsFifo_of_validated hvalid hpos
      have hhybrid : createOrderHybrid db now user cart postalCode usePoints published
          = .ok { result := db.orders.next
                  db := placedDb db now user cart draft
                  sent := if published then [.processOrder db.orders.next cart usePoints]
                    else [] } := by
        simp only [createOrderHybrid, hof, hdraft, ok_bind, placeOrder_active hc hactive hitems]
      -- what the loop over the cart makes of the stock decides
      cases htake : takeItems db.products (c.items.insertionSort byProduct) with
      | error e =>
        refine .raised _ e hhybrid ?_ ?_
        · exact processOrderHeavyTasks_raises hc htake
        · apply createOrderFromCart_untaken hc hitems hdraft
          rw [decreaseStock_eq, htake]
          rfl
      | ok out =>
        obtain ⟨products, items, shortage⟩ := out
        cases shortage with
        | none =>
          exact .ordered _ _ hhybrid (processOrderHeavyTasks_placed hc hpoints htake) rfl
            (createOrderFromCart_taken hc hactive hitems hdraft hpoints htake)
        | some s =>
          obtain ⟨failed, hprocess, hfails⟩ :=
            processOrderHeavyTasks_short now user draft usePoints hc htake
          refine .short _ _ s hhybrid hprocess rfl hfails ?_
          apply createOrderFromCart_untaken hc hitems hdraft
          rw [decreaseStock_eq, htake]
          rfl

end

/-- Two books and a pen in the cart, and this many pens in stock. -/
def penShop (stock : Int) : Db where
  ledger := Ledger.empty.setPoints 7 500
  membership := fun _ => .bronze
  products := (Table.empty.insert ⟨"책", 10000, 10, 0, true⟩).insert ⟨"펜", 1000, stock, 0, true⟩
  carts := Table.empty.insert { user := some 7, items := [⟨2, 1, none⟩, ⟨1, 2, none⟩] }
  orders := Table.empty
  payments := PaymentTable.empty
  logs := []
  returns := Table.empty
  idempotencyKeys := []
  webhookMarks := []

/-- With a pen the order goes through on both ways, and with no pen on neither. -/
theorem order_paths_agree_sample :
    PathsAgree (penShop 1) 0 7 1 "06234" 300 true ∧
      (createOrderFromCart (penShop 1) 0 7 1 "06234" 300).toBool = true ∧
      PathsAgree (penShop 0) 0 7 1 "06234" 300 true ∧
      (createOrderFromCart (penShop 0) 0 7 1 "06234" 300).toBool = false := by
  have hcart : ∀ stock, (penShop stock).carts.get? 1
      = some { user := some 7, items := [⟨2, 1, none⟩, ⟨1, 2, none⟩] } := fun _ => rfl
  refine ⟨?_, by decide +kernel, ?_, by decide +kernel⟩
  · exact order_paths_agree (hcart 1) rfl 0 7 "06234" 300 true
  · exact order_paths_agree (hcart 0) rfl 0 7 "06234" 300 true

end OrderService

end Shopping
