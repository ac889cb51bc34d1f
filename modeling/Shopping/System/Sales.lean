import Shopping.System.Stock

/-!
# Sales are counted

The sold count of a product goes up when an order is settled, and down when the
settlement is undone.  `SalesStep` says that a step moves the counts by what the
settled orders have more or less of each product; it holds of every function
that settles an order that was not settled, and of every one that undoes the
settlement of an order that was.

`sales_conserved` is the run: apart from returns, and from payments that the
provider cancels after the order was shipped, the counts stay as far above the
items of the settled orders as they were.
-/

namespace Shopping

/-- The order is settled, and not refunded. -/
def OrderStatus.isSold : OrderStatus → Bool
  | .paid | .preparing | .shipped | .delivered => true
  | .pending | .confirmed | .canceled | .refunded | .paymentFailed | .failed => false

/-- What the order has in the sold count of the product `k`. -/
def Order.sold (k : ProductId) (x : Order) : Int :=
  if x.status.isSold then quantityOf k x.items else 0

namespace Db

def isSold (db : Db) (o : OrderId) : Bool := (db.orders.get? o).any fun x => x.status.isSold

/-- What all orders have in the sold count of the product `k`. -/
def totalSold (db : Db) (k : ProductId) : Int := db.orders.sum fun _ x => x.sold k

/-- The sold count of the product `k`. -/
def soldOf (db : Db) (k : ProductId) : Option Int := (db.products.get? k).map Product.soldCount

end Db

/-- The sold counts move with the orders. -/
def SalesStep (db db' : Db) : Prop :=
  ∀ k, db'.soldOf k = (db.soldOf k).map fun n => n + (db'.totalSold k - db.totalSold k)

/-- Every product was sold as often as the orders say, or more. -/
def SoldEnough (db : Db) : Prop := ∀ k n, db.soldOf k = some n → db.totalSold k ≤ n

section

variable {db db' db'' : Db} {o : OrderId} {x : Order} {k : ProductId}

theorem Order.sold_nonneg (k : ProductId) (x : Order) : 0 ≤ x.sold k := by
  unfold sold
  split
  · exact quantityOf_nonneg k x.items
  · exact le_refl 0

theorem Order.sold_of_isSold (h : x.status.isSold = true) : x.sold k = quantityOf k x.items :=
  if_pos h

theorem Order.sold_of_not (h : x.status.isSold = false) : x.sold k = 0 := by
  unfold sold
  rw [h]
  rfl

theorem Db.isSold_of_some (h : db.orders.get? o = some x) : db.isSold o = x.status.isSold := by
  unfold isSold
  rw [h]
  rfl

theorem Db.sold_le_total (h : db.orders.get? o = some x) (k : ProductId) :
    x.sold k ≤ db.totalSold k := by
  rw [← Table.sum_single h (Order.sold k)]
  refine Table.sum_le_sum fun j y _ => ?_
  split
  · exact le_refl _
  · exact y.sold_nonneg k

/-! ## Steps -/

theorem SalesStep.refl (db : Db) : SalesStep db db := by
  intro k
  simp

theorem SalesStep.of_eq (h : db' = db) : SalesStep db db' := by
  rw [h]
  exact .refl db

theorem SalesStep.of_tables (ho : db'.orders = db.orders) (hp : db'.products = db.products) :
    SalesStep db db' := by
  intro k
  have hsold : db'.soldOf k = db.soldOf k := by
    unfold Db.soldOf
    rw [hp]
  have htotal : db'.totalSold k = db.totalSold k := by
    unfold Db.totalSold
    rw [ho]
  rw [hsold, htotal]
  simp

theorem SalesStep.of_moves (h : MovesPoints db db') : SalesStep db db' :=
  .of_tables h.orders h.products

theorem SalesStep.trans (h : SalesStep db db') (h' : SalesStep db' db'') :
    SalesStep db db'' := by
  intro k
  rw [h' k, h k, Option.map_map]
  congr 1
  funext n
  show n + (db'.totalSold k - db.totalSold k) + (db''.totalSold k - db'.totalSold k)
    = n + (db''.totalSold k - db.totalSold k)
  omega

theorem SalesStep.enough (h : SalesStep db db') (hI : SoldEnough db) : SoldEnough db' := by
  intro k n hn
  rw [h k] at hn
  obtain ⟨m, hm, rfl⟩ := Option.map_eq_some_iff.mp hn
  have hle := hI k m hm
  omega

theorem SalesStep.conserved (h : SalesStep db db') (k : ProductId) :
    (db'.soldOf k).map (· - db'.totalSold k) = (db.soldOf k).map (· - db.totalSold k) := by
  rw [h k, Option.map_map]
  congr 1
  funext n
  show n + (db'.totalSold k - db.totalSold k) - db'.totalSold k = n - db.totalSold k
  omega

/-- An update of one order. -/
theorem SalesStep.of_modify {f : Order → Order} (hx : db.orders.get? o = some x)
    (ho : db'.orders = db.orders.modify o f)
    (hsold : ∀ k, db'.soldOf k = (db.soldOf k).map fun n => n + ((f x).sold k - x.sold k)) :
    SalesStep db db' := by
  intro k
  have htotal : db'.totalSold k - db.totalSold k = (f x).sold k - x.sold k := by
    unfold Db.totalSold
    rw [ho, Table.sum_modify hx]
    omega
  rw [htotal, hsold]

/-- An update of an order that is not settled, and is not after it. -/
theorem SalesStep.of_unsold {f : Order → Order} (hx : db.orders.get? o = some x)
    (ho : db'.orders = db.orders.modify o f) (hbefore : x.status.isSold = false)
    (hafter : (f x).status.isSold = false) (hsold : ∀ k, db'.soldOf k = db.soldOf k) :
    SalesStep db db' := by
  refine .of_modify hx ho fun k => ?_
  rw [Order.sold_of_not hbefore, Order.sold_of_not hafter, hsold]
  simp

theorem Db.soldOf_update {f : Int → Product → Product} {items : List OrderItem} {c : Int}
    (hf : ∀ n p, (f n p).soldCount = p.soldCount + c * n)
    (hp : db'.products = updateProducts db.products f items) (k : ProductId) :
    db'.soldOf k = (db.soldOf k).map fun n => n + c * quantityOf k items := by
  unfold Db.soldOf
  rw [hp, updateProducts_field hf, Option.map_map]
  rfl

/-- Stock that goes back does not touch the counts. -/
theorem Db.soldOf_addStock {items : List OrderItem}
    (hp : db'.products = updateProducts db.products addStock items) (k : ProductId) :
    db'.soldOf k = db.soldOf k := by
  have hf : ∀ (n : Int) (p : Product), (addStock n p).soldCount = p.soldCount + 0 * n := by
    intro n p
    rw [zero_mul, add_zero]
    rfl
  rw [Db.soldOf_update hf hp]
  simp

/-- The order is settled. -/
theorem SalesStep.of_settle {f : Order → Order} (hx : db.orders.get? o = some x)
    (ho : db'.orders = db.orders.modify o f) (hbefore : x.status.isSold = false)
    (hafter : (f x).status.isSold = true) (hitems : (f x).items = x.items)
    (hp : db'.products = updateProducts db.products addSold x.items) : SalesStep db db' := by
  have hf : ∀ (n : Int) (p : Product), (addSold n p).soldCount = p.soldCount + 1 * n := by
    intro n p
    rw [one_mul]
    rfl
  refine .of_modify hx ho fun k => ?_
  rw [Order.sold_of_not hbefore, Order.sold_of_isSold hafter, hitems, Db.soldOf_update hf hp]
  congr 1
  funext n
  omega

/-- The settlement of the order is undone.  The products sold its items, so no
count is cut off. -/
theorem SalesStep.of_undo {f : Order → Order} {g : Int → Product → Product}
    (hI : SoldEnough db) (hx : db.orders.get? o = some x)
    (ho : db'.orders = db.orders.modify o f) (hbefore : x.status.isSold = true)
    (hafter : (f x).status.isSold = false)
    (hg : ∀ (n : Int) (p : Product), n ≤ p.soldCount → (g n p).soldCount = p.soldCount - n)
    (hp : db'.products = updateProducts db.products g x.items) : SalesStep db db' := by
  have henough : ∀ j p, db.products.get? j = some p → quantityOf j x.items ≤ p.soldCount := by
    intro j p hj
    have hle := Db.sold_le_total hx j
    rw [Order.sold_of_isSold hbefore] at hle
    exact hle.trans (hI j p.soldCount (by unfold Db.soldOf; rw [hj]; rfl))
  refine .of_modify hx ho fun k => ?_
  rw [Order.sold_of_isSold hbefore, Order.sold_of_not hafter]
  unfold Db.soldOf
  rw [hp, updateProducts_unsell hg x.items db.products henough, Option.map_map]
  congr 1
  funext p
  show p.soldCount - quantityOf k x.items = p.soldCount + (0 - quantityOf k x.items)
  omega

theorem OrderStatus.isSold_of_isUnpaid {s : OrderStatus} (h : s.isUnpaid = true) :
    s.isSold = false := by
  cases s <;> first | rfl | cases h

/-! ## Orders that are not settled -/

theorem OrderService.placeOrder_sales {now : Time} {user : UserId} {cart : CartId}
    {draft : OrderService.OrderDraft} {i : OrderId}
    (h : OrderService.placeOrder db now user cart draft = .ok (i, db')) : SalesStep db db' := by
  obtain ⟨order, hplaces⟩ := OrderService.placeOrder_ok h
  intro k
  have htotal : db'.totalSold k = db.totalSold k := by
    unfold Db.totalSold
    rw [hplaces.orders, Table.sum_insert, Order.sold_of_not (by rw [hplaces.pending]; rfl),
      add_zero]
  have hsold : db'.soldOf k = db.soldOf k := by
    unfold Db.soldOf
    rw [hplaces.products]
  rw [htotal, hsold]
  simp

/-- The loop over the cart takes from the stock only. -/
theorem OrderTasks.takeItems_soldCount {products products' : Table Product} {cart : List CartItem}
    {items : List OrderItem} {shortage : Option OrderTasks.Shortage}
    (h : OrderTasks.takeItems products cart = .ok (products', items, shortage)) (k : ProductId) :
    (products'.get? k).map Product.soldCount = (products.get? k).map Product.soldCount := by
  induction cart generalizing products items with
  | nil =>
    cases h
    rfl
  | cons it rest ih =>
    rw [OrderTasks.takeItems] at h
    split at h
    · cases h
    · split at h
      · cases h
        rfl
      · obtain ⟨⟨taken, made, found⟩, htake, h⟩ := map_eq_ok.mp h
        cases h
        rw [ih htake, Table.get?_modify]
        split
        · rw [Option.map_map]
          rfl
        · rfl

theorem OrderTasks.processOrderHeavyTasks_sales {now : Time} {cart : CartId} {usePoints : Int}
    {out : Outcome OrderTasks.ProcessResult}
    (h : OrderTasks.processOrderHeavyTasks db now o cart usePoints = .ok out) :
    SalesStep db out.db := by
  obtain ⟨order, hx, hdb | ⟨hpending, c, products, items, shortage, _, htake, hcase⟩⟩ :=
    OrderTasks.processOrderHeavyTasks_ok h
  · exact .of_eq hdb
  · have htaken := OrderTasks.takeItems_soldCount htake
    have hbefore : order.status.isSold = false := by
      rw [hpending]
      rfl
    cases hcase with
    | failed reason horders hproducts _ _ =>
      rw [Table.modify_modify] at horders
      refine .of_unsold hx horders hbefore rfl fun k => ?_
      have hback : out.db.soldOf k = ({ db with products := products } : Db).soldOf k :=
        Db.soldOf_addStock hproducts k
      exact hback.trans (htaken k)
    | confirmed horders hproducts _ _ =>
      rw [Table.modify_modify] at horders
      refine .of_unsold hx horders hbefore rfl fun k => ?_
      unfold Db.soldOf
      rw [hproducts, htaken]

theorem OrderTasks.Abandons.sales {now : Time} (h : OrderTasks.Abandons db now o x db') :
    SalesStep db db' := by
  refine .of_unsold h.found h.orders (by rw [h.pending]; rfl) rfl fun k => ?_
  unfold Db.soldOf
  rw [h.products]

theorem Cancels.sales {now : Time} {closed : PaymentStatus} (h : Cancels db now o closed x db') :
    SalesStep db db' :=
  .of_unsold h.found h.orders (OrderStatus.isSold_of_isUnpaid h.unpaid) rfl
    (Db.soldOf_addStock h.products)

theorem OrderTasks.Expires.sales {now : Time} (h : OrderTasks.Expires db now o x db') :
    SalesStep db db' := by
  have horders := h.orders
  rw [Table.modify_modify] at horders
  exact .of_unsold h.found horders (OrderStatus.isSold_of_isUnpaid h.unpaid) rfl
    (Db.soldOf_addStock h.products)

theorem PaymentTasks.RollsBack.sales {now : Time} (h : PaymentTasks.RollsBack db now o x db') :
    SalesStep db db' := by
  obtain ⟨reason, horders⟩ := h.orders
  exact .of_unsold h.found horders (OrderStatus.isSold_of_isUnpaid h.unpaid) rfl
    (Db.soldOf_addStock h.products)

theorem PaymentService.createFromRequest_sales {now : Time}
    {request : PaymentService.PaymentRequest} {method : String} {key : Option String} {n : Nat}
    (h : PaymentService.createFromRequest db now request method key = .ok (n, db')) :
    SalesStep db db' := by
  unfold PaymentService.createFromRequest at h
  split at h
  · cases h
    exact .refl db
  · unfold PaymentService.createPayment at h
    split at h
    · cases h
      exact .refl db
    · obtain ⟨_, _, h⟩ := bind_eq_ok.mp h
      obtain ⟨⟨j, payments⟩, _, h⟩ := bind_eq_ok.mp h
      cases h
      obtain ⟨keys, hkeys⟩ := PaymentService.setIdempotencyKey_eq
        { PaymentService.deletePayments db request.orderId with payments := payments } now
        (Payment.truthy key) request.orderId request.order.user n
      rw [hkeys]
      exact .of_tables rfl rfl

theorem SalesStep.savePayment {n : Nat} {row : Payment} (h : db.savePayment n row = .ok db') :
    SalesStep db db' := by
  obtain ⟨_, horders, hproducts, _⟩ := savePayment_payments h
  exact .of_tables horders hproducts

/-- An earning writes the earned points of the order, and no product. -/
theorem PaymentService.Earns.sales (h : PaymentService.Earns db o db') : SalesStep db db' := by
  rcases h.orders with horders | ⟨n, horders⟩
  · exact .of_tables horders h.products
  · intro k
    have htotal : db'.totalSold k = db.totalSold k := by
      unfold Db.totalSold Table.modify at *
      rw [horders, Table.sum_mapRows]
      refine Table.sum_congr fun j y _ => ?_
      split
      · rfl
      · rfl
    have hsold : db'.soldOf k = db.soldOf k := by
      unfold Db.soldOf
      rw [h.products]
    rw [htotal, hsold]
    simp

/-! ## Settling -/

/-- The payment is settled already, or its order is not. -/
def settlesUnsold (db : Db) (k : Nat) : Bool :=
  (db.payments.get? k).all fun p => decide (p.status = .done) || !db.isSold p.order

theorem unsold_of_settlesUnsold {n : Nat} {p : Payment} (h : settlesUnsold db n = true)
    (hget : db.payments.get? n = some p) (hdone : p.status ≠ .done)
    (hx : db.orders.get? p.order = some x) : x.status.isSold = false := by
  simpa [settlesUnsold, hget, hdone, Db.isSold_of_some hx] using h

/-- The writes of a settlement, up to what is earned. -/
theorem SalesStep.settled {saved : Db} {n : Nat} {row : Payment}
    (hsaved : db.savePayment n row = .ok saved) (hx : db.orders.get? o = some x)
    (hunsold : x.status.isSold = false) (method : String) (now : Time) (user : UserId) :
    SalesStep db (((saved.updateItems addSold x.items).saveOrder o
      (Order.withPaid method now)).deactivateCarts user) := by
  refine .of_settle hx (settled_orders hsaved x.items o method now user) hunsold rfl rfl ?_
  rw [Db.deactivateCarts_products, Db.saveOrder_products, Db.updateItems_products,
    (savePayment_payments hsaved).2.2.1]

theorem PaymentTasks.finalizePaymentConfirm_sales {now : Time} {response : TossPayment} {n : Nat}
    {user : UserId} {published : Bool} {out : Outcome PaymentTasks.FinalizeResult}
    (hunsold : settlesUnsold db n = true)
    (h : PaymentTasks.finalizePaymentConfirm db now response n user published = .ok out) :
    SalesStep db out.db := by
  obtain ⟨p, hget, hcase⟩ := PaymentTasks.finalizePaymentConfirm_ok h
  cases hcase with
  | alreadyProcessed _ => exact .refl db
  | waiting _ _ _ hsaved => exact (SalesStep.savePayment hsaved).trans (.of_tables rfl rfl)
  | orderCanceled _ _ _ _ _ hsaved =>
    exact (SalesStep.savePayment hsaved).trans (.of_tables rfl rfl)
  | success hdone _ hx _ _ hsaved =>
    have hbefore := unsold_of_settlesUnsold hunsold hget hdone hx
    exact (SalesStep.settled hsaved hx hbefore _ now user).trans (.of_tables rfl rfl)

theorem PaymentService.confirmPaymentSync_sales {now : Time} {n : Nat} {user : UserId}
    {toss : Except TossPaymentError TossPayment} {result : PaymentService.ConfirmResult}
    (hunsold : settlesUnsold db n = true)
    (h : PaymentService.confirmPaymentSync db now n user toss = .ok (result, db')) :
    SalesStep db db' := by
  obtain ⟨p, data, _, hget, hadmits, hcase⟩ := PaymentService.confirmPaymentSync_ok h
  have hdone : p.status ≠ .done := by
    intro hc
    rw [hc] at hadmits
    cases hadmits
  cases hcase with
  | waiting _ hsaved => exact (SalesStep.savePayment hsaved).trans (.of_tables rfl rfl)
  | paid hx _ hsaved hearned =>
    have hbefore := unsold_of_settlesUnsold hunsold hget hdone hx
    exact ((SalesStep.settled hsaved hx hbefore _ now user).trans hearned.sales).trans
      (.of_tables rfl rfl)

/-- A `DONE` webhook finds its payment settled, or its order not settled or
just paid. -/
def doneUnsold (db : Db) (event : TossPayment) : Bool :=
  (event.orderId.bind db.payments.ofTossOrderId?).all fun e =>
    settlesUnsold db e.1 || decide (db.statusOf e.2.order = some .paid)

theorem TossWebhookService.handlePaymentDone_sales {now : Time} {event : TossPayment}
    {result : TossWebhookService.DoneResult} (hunsold : doneUnsold db event = true)
    (h : TossWebhookService.handlePaymentDone db now event = .ok (result, db')) :
    SalesStep db db' := by
  rcases TossWebhookService.handlePaymentDone_ok h with
    ⟨hdb, _⟩ | ⟨id, n, p, hid, hof, hcase⟩
  · exact .of_eq hdb
  · cases hcase with
    | alreadyPaid _ => exact .refl db
    | chargedButFailed _ => exact .of_tables rfl rfl
    | finalState _ => exact .refl db
    | depositAfterExpiry _ => exact .of_tables rfl rfl
    | chargedOnCanceledOrder _ _ _ _ hsaved =>
      exact (SalesStep.savePayment hsaved).trans (.of_tables (by simp) (by simp))
    | orderAlreadyPaid _ _ _ _ hsaved =>
      exact (SalesStep.savePayment hsaved).trans (.of_tables (by simp) (by simp))
    | settled hopen hx hcanceled hpaid hrow hsaved hearned =>
      rename_i order row saved earned
      have hdone : p.status ≠ .done := by
        intro hc
        rw [hc] at hopen
        cases hopen
      have hsettles : settlesUnsold db n = true := by
        simpa [doneUnsold, hid, hof, Db.statusOf, hx, hpaid] using hunsold
      have hget := PaymentTable.ofTossOrderId?_get hof
      have hbefore := unsold_of_settlesUnsold hsettles hget hdone hx
      exact ((SalesStep.settled hsaved hx hbefore _ now order.user).trans hearned.sales).trans
        (.of_tables (by simp) (by simp))

theorem PaymentService.completePointsOnlyPayment_sales {now : Time} {seen : Order} {user : UserId}
    {n : Int} (hunsold : db.isSold o = false)
    (h : PaymentService.completePointsOnlyPayment db now o seen user = .ok (n, db')) :
    SalesStep db db' := by
  obtain ⟨order, k, payment, found, hpoints⟩ := PaymentService.completePointsOnlyPayment_ok h
  rw [Db.isSold_of_some hpoints.orderFound] at hunsold
  exact .of_settle hpoints.orderFound hpoints.orders hunsold rfl rfl hpoints.products

/-! ## Undoing a settlement -/

theorem addStockTakeSold_soldCount (n : Int) (p : Product) (h : n ≤ p.soldCount) :
    (addStockTakeSold n p).soldCount = p.soldCount - n := by
  show max (p.soldCount - n) 0 = p.soldCount - n
  omega

theorem addStockTakeSoldOrZero_soldCount (n : Int) (p : Product) (h : n ≤ p.soldCount) :
    (addStockTakeSoldOrZero n p).soldCount = p.soldCount - n := by
  unfold addStockTakeSoldOrZero
  rw [if_pos h]

theorem takeSold_soldCount (n : Int) (p : Product) (h : n ≤ p.soldCount) :
    (takeSold n p).soldCount = p.soldCount - n := by
  unfold takeSold
  rw [if_pos h]

theorem PaymentService.cancelPayment_sales {now : Time} {n : Nat} {user : UserId}
    {toss : Except TossPaymentError TossPayment} {result : PaymentService.CancelResult}
    (hI : SoldEnough db) (h : PaymentService.cancelPayment db now n user toss = .ok (result, db')) :
    SalesStep db db' := by
  obtain ⟨p, order, data, row, _, hx, _, _, _, _, hcase⟩ := cancelPayment_ok h
  cases hcase with
  | refundOnly _ hsaved => exact (SalesStep.savePayment hsaved).trans (.of_tables rfl rfl)
  | canceled hpaid hsaved hrefunded hdeducted =>
    rename_i saved refunded deducted
    obtain ⟨_, horders, hproducts, _⟩ := savePayment_payments hsaved
    have hrefund : refunded.orders = db.orders.modify p.order (Order.withStatus .canceled now) ∧
        refunded.products = updateProducts db.products addStockTakeSold order.items := by
      rw [hrefunded, ← horders, ← hproducts]
      dsimp only
      split
      · exact ⟨rfl, rfl⟩
      · exact ⟨rfl, rfl⟩
    have hundo : SalesStep db refunded :=
      .of_undo hI hx hrefund.1 (by rw [hpaid]; rfl) rfl addStockTakeSold_soldCount hrefund.2
    exact (hundo.trans (.of_moves (deductEarned_ok hdeducted))).trans (.of_tables rfl rfl)

theorem PaymentService.cancelVirtualAccount_sales {now : Time} {user : UserId}
    {toss : Except TossPaymentError TossPayment}
    (h : PaymentService.cancelVirtualAccountBeforeDeposit db now o user toss = .ok db') :
    SalesStep db db' := by
  obtain ⟨k, payment, data, row, saved, _, _, _, hsaved, order, hcancels⟩ :=
    cancelVirtualAccountBeforeDeposit_ok h
  exact ((SalesStep.savePayment hsaved).trans (.of_tables rfl rfl)).trans hcancels.sales

theorem PaymentService.cancelByCustomer_sales {now : Time} {user : UserId}
    {toss : Except TossPaymentError TossPayment} {result : PaymentService.CustomerCancel}
    (hI : SoldEnough db)
    (h : PaymentService.cancelByCustomer db now o x user toss = .ok (result, db')) :
    SalesStep db db' := by
  rcases cancelByCustomer_ok h with ⟨k, p, out, _, hcancel⟩ | hcancel | hcancel
  · exact cancelPayment_sales hI hcancel
  · exact cancelVirtualAccount_sales hcancel
  · obtain ⟨row, hcancels⟩ := OrderService.cancelOrder_ok hcancel
    exact hcancels.sales

/-- A `CANCELED` webhook finds its order not settled, or not shipped. -/
def canceledUnshipped (db : Db) (event : TossPayment) : Bool :=
  (event.orderId.bind db.payments.ofTossOrderId?).all fun e =>
    e.2.isCanceled || !db.isSold e.2.order ||
      decide (db.statusOf e.2.order = some .paid) ||
      decide (db.statusOf e.2.order = some .preparing)

theorem TossWebhookService.handlePaymentCanceled_sales {now : Time} {event : TossPayment}
    {result : TossWebhookService.CanceledResult} (hI : SoldEnough db)
    (hunshipped : canceledUnshipped db event = true)
    (h : TossWebhookService.handlePaymentCanceled db now event = .ok (result, db')) :
    SalesStep db db' := by
  rcases handlePaymentCanceled_ok h with
    hdb | ⟨id, n, p, order, row, hid, hof, hopen, _, hx, _, hcase⟩
  · exact .of_eq hdb
  · cases hcase with
    | orderAlreadyCanceled _ hsaved =>
      exact (SalesStep.savePayment hsaved).trans (.of_tables (by simp) (by simp))
    | canceled hcanceled hsaved =>
      rename_i saved
      obtain ⟨_, horders, hproducts, _⟩ := savePayment_payments hsaved
      have hro := (restoreOnCanceled_tables saved order).2.1
      have hmoves := movesPoints_settleOnCanceled (restoreOnCanceled saved order) now n p.order
        order
      generalize hdb : markWebhookProcessed (((settlePointsOnCanceled (restoreOnCanceled saved
        order) now n p.order order).saveOrder p.order (Order.withStatus .canceled now)).log n
          .webhook "결제 취소 웹훅 처리") now id .canceled = after
      have ho : after.orders = db.orders.modify p.order (Order.withStatus .canceled now) := by
        rw [← hdb]
        simp [hmoves.orders, hro, horders]
      have hp : after.products = (restoreOnCanceled saved order).products := by
        rw [← hdb]
        simp [hmoves.products]
      by_cases hsold : order.status = .paid ∨ order.status = .preparing
      · refine .of_undo hI hx ho ?_ rfl addStockTakeSoldOrZero_soldCount ?_
        · rcases hsold with hs | hs
          · rw [hs]
            rfl
          · rw [hs]
            rfl
        · rw [hp, restoreOnCanceled, if_pos hsold, restoreStockForOrder, ← hproducts]
          rfl
      · have hbefore : order.status.isSold = false := by
          have hne := not_or.mp hsold
          simpa [canceledUnshipped, hid, hof, hopen, Db.statusOf, hx, Db.isSold_of_some hx, hne.1,
            hne.2] using hunshipped
        refine .of_unsold hx ho hbefore rfl fun k => ?_
        by_cases hconfirmed : order.status = .confirmed
        · apply Db.soldOf_addStock
          rw [hp, restoreOnCanceled, if_neg hsold, if_pos hconfirmed, restoreStockForOrder,
            ← hproducts]
          rfl
        · unfold Db.soldOf
          rw [hp, restoreOnCanceled, if_neg hsold, if_neg hconfirmed, hproducts]

/-- A `WAITING_FOR_DEPOSIT` webhook finds its payment not settled, or its order
settled. -/
def revertsSold (db : Db) (event : TossPayment) : Bool :=
  (event.orderId.bind db.payments.ofTossOrderId?).all fun e =>
    decide (e.2.status ≠ .done) || db.isSold e.2.order

theorem TossWebhookService.revertDeposit_products (db : Db) (now : Time) (n : Nat) (o : OrderId)
    (order : Order) : (revertDeposit db now n o order).products
      = updateProducts db.products takeSold order.items := by
  unfold revertDeposit
  dsimp only
  rw [Db.log_products, Db.saveOrder_products]
  split
  · rw [(movesPoints_reclaim _ now o order n _).products]
    rfl
  · rfl

theorem TossWebhookService.handleWaitingForDeposit_sales {now : Time} {event : TossPayment}
    {result : TossWebhookService.WaitingResult} (hI : SoldEnough db)
    (hsold : revertsSold db event = true)
    (h : TossWebhookService.handleWaitingForDeposit db now event = .ok (result, db')) :
    SalesStep db db' := by
  rcases handleWaitingForDeposit_ok h with
    hdb | ⟨id, n, p, order, row, hid, hof, _, _, hx, _, hcase⟩
  · exact .of_eq hdb
  · cases hcase with
    | issued _ hsaved =>
      have hlogged : SalesStep db (db.log n .webhook "가상계좌 발급 웹훅 처리, 입금 대기") :=
        .of_tables rfl rfl
      exact hlogged.trans (.savePayment hsaved)
    | depositReverted hpaid hsaved =>
      have hbefore : order.status.isSold = true := by
        simpa [revertsSold, hid, hof, hpaid, Db.isSold_of_some hx] using hsold
      obtain ⟨_, ⟨points, horders⟩, _⟩ := revertDeposit_tables db now n p.order order
      have hundo : SalesStep db (revertDeposit db now n p.order order) :=
        .of_undo hI hx horders hbefore rfl takeSold_soldCount
          (revertDeposit_products db now n p.order order)
      exact hundo.trans (.savePayment hsaved)

end

/-! ## Runs -/

/-- A settlement finds an order that is not settled, and a settlement that is
undone was one, of an order that was not shipped.  Returns are left out: they
take back a part of an order. -/
def salesEvent (w : World) : Event → Bool
  | .confirmSync k _ _ => settlesUnsold w.db k
  | .deliver n _ =>
    match w.messages[n]? with
    | some (.finalize _ k _) => settlesUnsold w.db k
    | _ => true
  | .webhookDone event => doneUnsold w.db event
  | .webhookCanceled event => canceledUnshipped w.db event
  | .webhookWaiting event => revertsSold w.db event
  | .completePointsOnly n _ => (w.orderReads[n]?).all fun seen => !w.db.isSold seen.1
  | .completeRefund _ _ => false
  | _ => true

theorem World.run_sales {w : World} {now : Time} {e : Event} (hI : SoldEnough w.db)
    (he : salesEvent w e = true) : SalesStep w.db (w.run now e).db := by
  refine run_of (P := SalesStep w.db) (.refl w.db) fun db hcommits => ?_
  cases id hcommits with
  | placeOrder hread hcall => exact OrderService.placeOrder_sales hcall
  | @republishStalled n giveUp published seen hread =>
    rcases (OrderTasks.republishLoop_one now giveUp (fun _ => published) w.db seen.1 seen.2).1 with
      hdb | ⟨order, habandons⟩
    · exact .of_eq hdb
    · exact habandons.sales
  | cancelOrder hcall =>
    obtain ⟨order, hcancels⟩ := OrderService.cancelOrder_ok hcall
    exact hcancels.sales
  | cancelByCustomer hread hcall => exact PaymentService.cancelByCustomer_sales hI hcall
  | expireOrder hcall =>
    rcases OrderTasks.expireOrder_ok hcall with hdb | ⟨order, hexpires⟩
    · exact .of_eq hdb
    · exact hexpires.sales
  | createRequest hread hcall => exact PaymentService.createFromRequest_sales hcall
  | confirmAsync hread hcall =>
    obtain ⟨p, saved, _, _, _, hsaved, hdb, _⟩ := PaymentService.confirmPaymentAsync_ok hcall
    rw [hdb]
    exact .savePayment hsaved
  | confirmSync hcall => exact PaymentService.confirmPaymentSync_sales he hcall
  | processOrder hmsg hcall => exact OrderTasks.processOrderHeavyTasks_sales hcall
  | @confirm n d key o amount id k user hmsg =>
    obtain ⟨logged, hmoves, _, hdb | ⟨_, hdb⟩⟩ := PaymentTasks.callTossConfirmApi_commits w.db o
      amount id k user d.answer d.retriesLeft d.published
    · rw [hdb]
      exact .of_moves hmoves
    · rw [hdb]
      exact (SalesStep.of_moves hmoves).trans (.of_tables rfl rfl)
  | finalize hmsg hcall =>
    simp only [salesEvent, hmsg] at he
    exact PaymentTasks.finalizePaymentConfirm_sales he hcall
  | alertFinalize hmsg => exact .of_moves (PaymentTasks.alertFinalizeExhausted_movesPoints _ _)
  | @rollback n d o reason hmsg =>
    rcases PaymentTasks.rollbackPaymentFailure_cases w.db now o reason with hdb | ⟨order, h⟩
    · exact .of_eq hdb
    · exact h.sales
  | addPoints hmsg hcall => exact (PointTasks.addPointsAfterPayment_ok hcall).sales
  | @reconcile stall lookup => exact .of_moves (PaymentTasks.reconcileLoop_spec lookup _ w.db).1
  | failView hread hcall =>
    obtain ⟨_, horders, hproducts, _⟩ := PaymentViews.postFailure_ok hcall
    exact .of_tables horders hproducts
  | failCallback hread hcall =>
    obtain ⟨_, _, _, horders, hproducts, _⟩ := PaymentViews.paymentFail_ok hcall
    exact .of_tables horders hproducts
  | failWebhook hread hcall =>
    obtain ⟨_, _, _, _, _, horders, hproducts, _⟩ := TossWebhookService.failPayment_ok hcall
    exact .of_tables horders hproducts
  | webhookDone hcall => exact TossWebhookService.handlePaymentDone_sales he hcall
  | webhookCanceled hcall => exact TossWebhookService.handlePaymentCanceled_sales hI he hcall
  | webhookWaiting hcall => exact TossWebhookService.handleWaitingForDeposit_sales hI he hcall
  | cancelPayment hcall => exact PaymentService.cancelPayment_sales hI hcall
  | cancelVirtualAccount hcall => exact PaymentService.cancelVirtualAccount_sales hcall
  | completePointsOnly hread hcall =>
    simp only [salesEvent, hread, Option.all_some, Bool.not_eq_true'] at he
    exact PaymentService.completePointsOnlyPayment_sales he hcall
  | completeRefund hread hcall => cases he

/-- The order is settled, and canceled by its customer.  Both webhooks come
twice. -/
def settledAndCanceled : List (Time × Event) :=
  [(5, .webhookDone World.approval), (6, .webhookDone World.approval),
    (7, .cancelPayment 1 7 (.ok World.approval)), (8, .webhookCanceled World.approval),
    (9, .webhookCanceled World.approval), (10, .webhookDone World.approval)]

theorem soldEnough_shop (order : OrderStatus) (payment : PaymentStatus)
    (h : order.isSold = false) : SoldEnough (World.shop order payment).db := by
  intro k n hn
  have htotal : (World.shop order payment).db.totalSold k = 0 := by
    have horders : (World.shop order payment).db.orders
        = Table.empty.insert (World.oneOrder order) := rfl
    unfold Db.totalSold
    rw [horders, Table.sum_insert, Table.sum_empty, Order.sold_of_not h, add_zero]
  have hproducts : (World.shop order payment).db.products
      = Table.empty.insert ⟨"책", 10000, 9, 0, true⟩ := rfl
  rw [htotal]
  unfold Db.soldOf at hn
  rw [hproducts, Table.get?_insert, Table.get?_empty] at hn
  split at hn
  · cases hn
    exact le_refl 0
  · cases hn

/-- In every run without returns, in which what is settled was not, what is
undone was, and no order is canceled by the provider once it was shipped: the
sold count of every product stays as far above the items of the settled orders
as it was, and never below them. -/
theorem sales_conserved {w₀ w : World} {es : List (Time × Event)} (hI : SoldEnough w₀.db)
    (h : Run World.step (fun w e => salesEvent w e.2 = true) w₀ es w) :
    (∀ k, (w.db.soldOf k).map (· - w.db.totalSold k)
        = (w₀.db.soldOf k).map (· - w₀.db.totalSold k)) ∧ SoldEnough w.db := by
  refine h.invariant (fun u => (∀ k, (u.db.soldOf k).map (· - u.db.totalSold k)
      = (w₀.db.soldOf k).map (· - w₀.db.totalSold k)) ∧ SoldEnough u.db) ⟨fun _ => rfl, hI⟩ ?_
  intro t e u ⟨hsame, henough⟩ hok hs
  cases hs
  have hstep : SalesStep t.db (t.run e.1 e.2).db := World.run_sales henough hok
  exact ⟨fun k => (hstep.conserved k).trans (hsame k), hstep.enough henough⟩

theorem sales_conserved_canceled :
    ∃ w, Run World.step (fun w e => salesEvent w e.2 = true)
        (World.shop .confirmed .inProgress) settledAndCanceled w ∧
      w.db.statusOf 1 = some .canceled ∧ w.db.soldOf 1 = some 0 ∧
      (w.db.soldOf 1).map (· - w.db.totalSold 1)
        = ((World.shop .confirmed .inProgress).db.soldOf 1).map
          (· - (World.shop .confirmed .inProgress).db.totalSold 1) := by
  obtain ⟨w, hrun, hstate⟩ := Run.exists_of_execIf (by decide +kernel :
    (execIf World.step (fun w e => salesEvent w e.2) (World.shop .confirmed .inProgress)
      settledAndCanceled).any (fun w => decide
        (w.db.statusOf 1 = some .canceled ∧ w.db.soldOf 1 = some 0)) = true)
  obtain ⟨hcanceled, hsold⟩ := of_decide_eq_true hstate
  exact ⟨w, hrun, hcanceled, hsold,
    (sales_conserved (soldEnough_shop .confirmed .inProgress rfl) hrun).1 1⟩

/-- A shipped order whose payment is canceled at the provider stays in the
count: the webhook closes the order and takes nothing back. -/
example : (World.step (World.shop .shipped .done) (1, .webhookCanceled World.approval)).any
    (fun w => decide (w.db.statusOf 1 = some .canceled)
      && decide (w.db.soldOf 1 = (World.shop .shipped .done).db.soldOf 1)) = true := by
  decide +kernel

end Shopping
