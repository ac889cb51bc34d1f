import Shopping.Orders.Processing
import Shopping.System.Steps

/-!
# Stock is conserved

Until an order is shipped its items are either in the stock or held by the
order.  `MovesStock` is what a step does to one order and to the stock: the
products get back what the order holds less, and an order goes through its
stages in one direction, from pending over holding to released.

The stages give that the items are taken at most once and given back at most
once; `Run.gather_nodup` counts along a run.
-/

namespace Shopping

/-! ## What orders hold -/

namespace Order

/-- What the order holds of the product `k`. -/
def held (k : ProductId) (x : Order) : Int :=
  if x.status.holdsStock then quantityOf k x.items else 0

/-- 0 before the items are taken, 1 while the order holds them, 2 after. -/
def stage (x : Order) : Nat :=
  if x.status = .pending then 0 else if x.status.holdsStock then 1 else 2

theorem stage_le (x : Order) : x.stage ≤ 2 := by
  unfold stage
  split
  · omega
  · split
    · omega
    · omega

theorem held_nonneg (k : ProductId) (x : Order) : 0 ≤ x.held k := by
  unfold held
  split
  · exact quantityOf_nonneg k x.items
  · exact le_refl 0

theorem held_of_items {k : ProductId} {x : Order} (h : x.items = []) : x.held k = 0 := by
  unfold held
  rw [h, quantityOf_nil, ite_self]

theorem held_of_stage {k : ProductId} {x : Order} (h : x.stage = 2) : x.held k = 0 := by
  unfold stage at h
  unfold held
  split at h
  · cases h
  · split at h
    · cases h
    · rename_i hholds
      rw [if_neg hholds]

theorem held_of_holds {k : ProductId} {x : Order} (h : x.status.holdsStock = true) :
    x.held k = quantityOf k x.items := if_pos h

end Order

namespace Db

/-- What the order `o` holds of the product `k`. -/
def held (db : Db) (o : OrderId) (k : ProductId) : Int := (db.orders.get? o).elim 0 (Order.held k)

/-- The stage of the order `o`; an order that is not there is before it. -/
def stage (db : Db) (o : OrderId) : Nat := (db.orders.get? o).elim 0 Order.stage

/-- What all orders hold of the product `k`. -/
def totalHeld (db : Db) (k : ProductId) : Int := db.orders.sum fun _ x => x.held k

/-- The stock of the product `k`. -/
def stockOf (db : Db) (k : ProductId) : Option Int := (db.products.get? k).map Product.stock

end Db

/-- No stock is negative, and a pending order has no items. -/
structure Stocked (db : Db) : Prop where
  nonneg : ∀ k n, db.stockOf k = some n → 0 ≤ n
  pending : ∀ o x, db.orders.get? o = some x → x.status = .pending → x.items = []

/-- The order `o` moves on, and the stock with it. -/
structure MovesStock (o : OrderId) (db db' : Db) : Prop where
  frame : ∀ i, i ≠ o → db'.orders.get? i = db.orders.get? i
  total : ∀ k, db'.totalHeld k = db.totalHeld k - db.held o k + db'.held o k
  stock : ∀ k, db'.stockOf k = (db.stockOf k).map fun n => n + (db.held o k - db'.held o k)
  stage_le : db.stage o ≤ db'.stage o
  keeps : db.stage o = 1 → db'.stage o = 1 → ∀ k, db'.held o k = db.held o k
  stocked : Stocked db'

/-- A step leaves the orders and the stock alone, or moves one order. -/
def StockStep (db db' : Db) : Prop :=
  (db'.orders = db.orders ∧ ∀ k, db'.stockOf k = db.stockOf k) ∨ ∃ o, MovesStock o db db'

section

variable {db db' : Db} {o : OrderId} {x : Order}

theorem StockStep.refl (db : Db) : StockStep db db := Or.inl ⟨rfl, fun _ => rfl⟩

theorem StockStep.of_eq (h : db' = db) : StockStep db db' := by
  rw [h]
  exact .refl db

theorem StockStep.of_tables (ho : db'.orders = db.orders) (hp : db'.products = db.products) :
    StockStep db db' := Or.inl ⟨ho, fun k => by unfold Db.stockOf; rw [hp]⟩

theorem Db.held_of_some (h : db.orders.get? o = some x) (k : ProductId) :
    db.held o k = x.held k := by
  unfold held
  rw [h]
  rfl

theorem Db.stage_of_some (h : db.orders.get? o = some x) : db.stage o = x.stage := by
  unfold stage
  rw [h]
  rfl

/-- An update of one order. -/
theorem MovesStock.of_modify (hI : Stocked db) {f : Order → Order}
    (hx : db.orders.get? o = some x) (ho : db'.orders = db.orders.modify o f)
    (hstock : ∀ k, db'.stockOf k = (db.stockOf k).map fun n => n + (x.held k - (f x).held k))
    (hnonneg : ∀ k n, db'.stockOf k = some n → 0 ≤ n)
    (hstage : x.stage ≤ (f x).stage)
    (hkeeps : x.stage = 1 → (f x).stage = 1 → (f x).items = x.items)
    (hpending : (f x).status ≠ .pending) : MovesStock o db db' := by
  have hrow : db'.orders.get? o = some (f x) := by
    rw [ho, Table.get?_modify_self, hx]
    rfl
  have hframe : ∀ i, i ≠ o → db'.orders.get? i = db.orders.get? i := by
    intro i hi
    rw [ho, Table.get?_modify, if_neg hi]
  refine ⟨hframe, fun k => ?_, fun k => ?_, ?_, fun h1 h2 k => ?_, hnonneg, fun i y hy hpend => ?_⟩
  · unfold Db.totalHeld
    rw [ho, Table.sum_modify hx, Db.held_of_some hx, Db.held_of_some hrow]
  · rw [hstock, Db.held_of_some hx, Db.held_of_some hrow]
  · rw [Db.stage_of_some hx, Db.stage_of_some hrow]
    exact hstage
  · rw [Db.stage_of_some hx] at h1
    rw [Db.stage_of_some hrow] at h2
    have hitems := hkeeps h1 h2
    -- At stage 1 the order holds its items.
    have hholds : ∀ {y : Order}, y.stage = 1 → y.status.holdsStock = true := by
      intro y hy
      unfold Order.stage at hy
      split at hy
      · cases hy
      · split at hy
        · assumption
        · cases hy
    rw [Db.held_of_some hx, Db.held_of_some hrow, Order.held_of_holds (hholds h1),
      Order.held_of_holds (hholds h2), hitems]
  · by_cases hi : i = o
    · rw [hi, hrow] at hy
      cases hy
      exact absurd hpend hpending
    · rw [hframe i hi] at hy
      exact hI.pending i y hy hpend

/-- The stock after a loop that gives back the items. -/
theorem stockOf_restored {f : Int → Product → Product} (hf : ∀ n p, (f n p).stock = p.stock + n)
    {items : List OrderItem} (hp : db'.products = updateProducts db.products f items)
    (k : ProductId) : db'.stockOf k = (db.stockOf k).map fun n => n + quantityOf k items := by
  unfold Db.stockOf
  have hf' : ∀ (n : Int) (p : Product), (f n p).stock = p.stock + 1 * n := by
    intro n p
    rw [hf, one_mul]
  rw [hp, updateProducts_stock hf', Option.map_map]
  simp [Function.comp_def]

/-- An order that held its items gives them back and is released. -/
theorem MovesStock.of_release (hI : Stocked db) {f : Order → Order}
    {g : Int → Product → Product} (hx : db.orders.get? o = some x)
    (hholds : x.status.holdsStock = true) (ho : db'.orders = db.orders.modify o f)
    (hafter : (f x).stage = 2) (hg : ∀ n p, (g n p).stock = p.stock + n)
    (hp : db'.products = updateProducts db.products g x.items) : MovesStock o db db' := by
  have hstock := stockOf_restored hg hp
  refine .of_modify hI hx ho (fun k => ?_) (fun k n hn => ?_) ?_ (fun _ h2 => ?_) ?_
  · rw [hstock, Order.held_of_stage hafter, Order.held_of_holds hholds, sub_zero]
  · rw [hstock] at hn
    obtain ⟨m, hm, rfl⟩ := Option.map_eq_some_iff.mp hn
    have h0 := hI.nonneg k m hm
    have hq := quantityOf_nonneg k x.items
    omega
  · rw [hafter]
    exact x.stage_le
  · rw [hafter] at h2
    cases h2
  · intro hc
    unfold Order.stage at hafter
    rw [if_pos hc] at hafter
    cases hafter

/-- An order moves on without its items: the stock stays. -/
theorem MovesStock.of_status (hI : Stocked db) {f : Order → Order}
    (hx : db.orders.get? o = some x) (ho : db'.orders = db.orders.modify o f)
    (hheld : ∀ k, (f x).held k = x.held k) (hstock : ∀ k, db'.stockOf k = db.stockOf k)
    (hstage : x.stage ≤ (f x).stage)
    (hitems : (f x).items = x.items) (hpending : (f x).status ≠ .pending) :
    MovesStock o db db' := by
  refine .of_modify hI hx ho (fun k => ?_) (fun k n hn => ?_) hstage (fun _ _ => hitems) hpending
  · rw [hheld, sub_self, hstock]
    simp
  · rw [hstock] at hn
    exact hI.nonneg k n hn

end

/-! ## Taking the items -/

/-- The loop takes no more of a product than there is. -/
theorem takeItems_nonneg {products products' : Table Product} {cart : List CartItem}
    {items : List OrderItem} {shortage : Option OrderTasks.Shortage}
    (h : OrderTasks.takeItems products cart = .ok (products', items, shortage))
    (hnonneg : ∀ k p, products.get? k = some p → 0 ≤ p.stock) :
    ∀ k p, products'.get? k = some p → 0 ≤ p.stock := by
  induction cart generalizing products items with
  | nil =>
    cases h
    exact hnonneg
  | cons it rest ih =>
    rw [OrderTasks.takeItems] at h
    split at h
    · cases h
    · rename_i p hp
      split at h
      · cases h
        exact hnonneg
      · rename_i henough
        obtain ⟨⟨taken, made, found⟩, htake, h⟩ := map_eq_ok.mp h
        cases h
        apply ih htake
        intro j q hq
        rcases Table.modify_cases hq with ⟨before, rfl, hbefore, rfl⟩ | ⟨_, hq⟩
        · rw [hp] at hbefore
          cases hbefore
          show 0 ≤ p.stock + -(it.quantity : Int)
          omega
        · exact hnonneg j q hq

/-! ## The functions -/

section

variable {db db' : Db} {now : Time} {o : OrderId}

theorem OrderService.placeOrder_stock {user : UserId} {cart : CartId}
    {draft : OrderService.OrderDraft} {i : OrderId} (hI : Stocked db)
    (h : OrderService.placeOrder db now user cart draft = .ok (i, db')) : StockStep db db' := by
  obtain ⟨order, hp⟩ := OrderService.placeOrder_ok h
  have hrow : ∀ j, db'.orders.get? j
      = if j = db.orders.next then some order else db.orders.get? j := by
    intro j
    rw [hp.orders, Table.get?_insert]
  have hnone : db.orders.get? db.orders.next = none := Table.get?_next db.orders
  have hheld : ∀ k, order.held k = 0 := fun k => Order.held_of_items hp.items
  have hbefore : ∀ k, db.held db.orders.next k = 0 := by
    intro k
    unfold Db.held
    rw [hnone]
    rfl
  have hafter : ∀ k, db'.held db.orders.next k = 0 := by
    intro k
    rw [Db.held_of_some (by rw [hrow, if_pos rfl]), hheld]
  have hstock : ∀ k, db'.stockOf k = db.stockOf k := by
    intro k
    unfold Db.stockOf
    rw [hp.products]
  have hstage : db.stage db.orders.next = 0 := by
    unfold Db.stage
    rw [hnone]
    rfl
  refine Or.inr ⟨db.orders.next, fun j hj => by rw [hrow, if_neg hj], fun k => ?_, fun k => ?_,
    ?_, fun h1 => ?_, fun k n hn => ?_, fun j y hy hpend => ?_⟩
  · unfold Db.totalHeld
    rw [hbefore, hafter, hp.orders, Table.sum_insert, hheld]
    omega
  · rw [hbefore, hafter, hstock]
    simp
  · rw [hstage]
    exact Nat.zero_le _
  · rw [hstage] at h1
    cases h1
  · rw [hstock] at hn
    exact hI.nonneg k n hn
  · rw [hrow] at hy
    split at hy
    · cases hy
      exact hp.items
    · exact hI.pending j y hy hpend

theorem OrderTasks.processOrderHeavyTasks_stock {cart : CartId} {usePoints : Int}
    {out : Outcome OrderTasks.ProcessResult} (hI : Stocked db)
    (h : OrderTasks.processOrderHeavyTasks db now o cart usePoints = .ok out) :
    StockStep db out.db := by
  obtain ⟨order, hx, hdb | ⟨hpend, c, products, items, shortage, _, htake, hcase⟩⟩ :=
    OrderTasks.processOrderHeavyTasks_ok h
  · exact .of_eq hdb
  · have hnone := hI.pending o order hx hpend
    have hstocks : ∀ k p, db.products.get? k = some p → 0 ≤ p.stock := fun k p hp =>
      hI.nonneg k p.stock (by unfold Db.stockOf; rw [hp]; rfl)
    have htaken := fun k => And.intro (OrderTasks.takeItems_taken htake k)
      (takeItems_nonneg htake hstocks k)
    have hstage : order.stage = 0 := if_pos hpend
    cases hcase with
    | failed reason horders hproducts hpayments hlogs =>
      -- What was taken went back in the same transaction.
      have hstock : ∀ k, out.db.stockOf k = db.stockOf k := by
        intro k
        have hback : ∀ (n : Int) (p : Product), (addStock n p).stock = p.stock + 1 * n := by
          intro n p
          rw [one_mul]
          rfl
        unfold Db.stockOf
        rw [hproducts, updateProducts_stock hback, hnone, List.nil_append]
        have htake := (htaken k).1
        cases hp : products.get? k with
        | none =>
          rw [hp] at htake
          cases hq : db.products.get? k with
          | none => rfl
          | some q =>
            rw [hq] at htake
            cases htake
        | some p =>
          rw [hp] at htake
          cases hq : db.products.get? k with
          | none =>
            rw [hq] at htake
            cases htake
          | some q =>
            rw [hq] at htake
            simp only [Option.map_some, Option.some.injEq] at htake ⊢
            omega
      rw [Table.modify_modify] at horders
      refine Or.inr ⟨o, .of_modify hI hx horders (fun k => ?_) (fun k n hn => ?_) ?_ ?_ ?_⟩
      · rw [hstock, Order.held_of_items hnone, Order.held_of_stage rfl]
        simp
      · rw [hstock] at hn
        exact hI.nonneg k n hn
      · rw [hstage]
        exact Nat.zero_le _
      · intro h1
        rw [hstage] at h1
        cases h1
      · intro hc
        cases hc
    | confirmed horders hproducts hpayments hlogs =>
      rw [Table.modify_modify] at horders
      refine Or.inr ⟨o, .of_modify hI hx horders (fun k => ?_) (fun k n hn => ?_) ?_ ?_ ?_⟩
      · unfold Db.stockOf
        rw [hproducts, (htaken k).1, Order.held_of_items hnone, Order.held_of_holds rfl,
          Option.map_map]
        show _ = (db.products.get? k).map fun p =>
          p.stock + (0 - quantityOf k (order.items ++ items))
        rw [hnone, List.nil_append]
        congr 1
        funext p
        omega
      · unfold Db.stockOf at hn
        rw [hproducts] at hn
        obtain ⟨p, hp, rfl⟩ := Option.map_eq_some_iff.mp hn
        exact (htaken k).2 p hp
      · rw [hstage]
        exact Nat.zero_le _
      · intro h1
        rw [hstage] at h1
        cases h1
      · intro hc
        cases hc

theorem OrderTasks.Abandons.stock {order : Order} (hI : Stocked db)
    (h : OrderTasks.Abandons db now o order db') : MovesStock o db db' := by
  have hstage : order.stage = 0 := if_pos h.pending
  refine .of_status hI h.found h.orders (fun k => ?_) (fun k => ?_) ?_ rfl nofun
  · rw [Order.held_of_items h.items, Order.held_of_stage rfl]
  · unfold Db.stockOf
    rw [h.products]
  · rw [hstage]
    exact Nat.zero_le _

theorem OrderStatus.holdsStock_of_isUnpaid {s : OrderStatus} (h : s.isUnpaid = true) :
    s.holdsStock = true := by
  cases s <;> first | rfl | cases h

theorem Cancels.stock {closed : PaymentStatus} {order : Order} (hI : Stocked db)
    (h : Cancels db now o closed order db') : MovesStock o db db' :=
  .of_release hI h.found (OrderStatus.holdsStock_of_isUnpaid h.unpaid) h.orders rfl
    (fun _ _ => rfl) h.products

theorem OrderTasks.Expires.stock {order : Order} (hI : Stocked db)
    (h : OrderTasks.Expires db now o order db') : MovesStock o db db' := by
  have horders := h.orders
  rw [Table.modify_modify] at horders
  exact .of_release hI h.found (OrderStatus.holdsStock_of_isUnpaid h.unpaid) horders rfl
    (fun _ _ => rfl) h.products

theorem PaymentTasks.RollsBack.stock {order : Order} (hI : Stocked db)
    (h : PaymentTasks.RollsBack db now o order db') : MovesStock o db db' := by
  obtain ⟨reason, horders⟩ := h.orders
  exact .of_release hI h.found (OrderStatus.holdsStock_of_isUnpaid h.unpaid) horders rfl
    (fun _ _ => rfl) h.products

/-- The payment of the finalisation settles a confirmed order, or nothing. -/
def settlesConfirmed (db : Db) (response : TossPayment) (k : Nat) : Bool :=
  (db.payments.get? k).all fun p =>
    decide (p.status = .done) || decide (response.status = some .waitingForDeposit) ||
      decide (db.statusOf p.order = some .confirmed) ||
      decide (db.statusOf p.order = some .canceled)

theorem PaymentTasks.finalizePaymentConfirm_stock {response : TossPayment} {k : Nat}
    {user : UserId} {published : Bool} {out : Outcome PaymentTasks.FinalizeResult}
    (hI : Stocked db) (hconfirmed : settlesConfirmed db response k = true)
    (h : PaymentTasks.finalizePaymentConfirm db now response k user published = .ok out) :
    StockStep db out.db := by
  obtain ⟨p, hget, hcase⟩ := PaymentTasks.finalizePaymentConfirm_ok h
  cases hcase with
  | alreadyProcessed _ => exact .refl db
  | waiting _ _ _ hsaved =>
    obtain ⟨_, horders, hproducts, _⟩ := savePayment_payments hsaved
    exact .of_tables horders hproducts
  | orderCanceled _ _ _ _ _ hsaved =>
    obtain ⟨_, horders, hproducts, _⟩ := savePayment_payments hsaved
    exact .of_tables horders hproducts
  | success hpaid hstatus horder hcanceled hrow hsaved =>
    rename_i order row saved
    obtain ⟨_, _, hproducts, _⟩ := savePayment_payments hsaved
    have hst : order.status = .confirmed := by
      simpa [settlesConfirmed, hget, hpaid, hstatus, Db.statusOf, horder, hcanceled]
        using hconfirmed
    have hmod : ((((saved.updateItems addSold order.items).saveOrder p.order
        (Order.withPaid row.method now)).deactivateCarts user).log k .approve
          "결제 승인 완료").orders = db.orders.modify p.order (Order.withPaid row.method now) :=
      settled_orders hsaved order.items p.order row.method now user
    refine Or.inr ⟨p.order, .of_status hI horder hmod (fun j => ?_) (fun j => ?_) ?_ rfl ?_⟩
    · rw [Order.held_of_holds rfl, Order.held_of_holds (by rw [hst]; rfl)]
      rfl
    · unfold Db.stockOf
      have hsold : ∀ (n : Int) (q : Product), (addSold n q).stock = q.stock + 0 * n := by
        intro n q
        rw [zero_mul, add_zero]
        rfl
      rw [Db.log_products, Db.deactivateCarts_products, Db.saveOrder_products,
        Db.updateItems_products, updateProducts_stock hsold, hproducts]
      simp
    · unfold Order.stage
      rw [hst]
      exact le_refl 1
    · intro hc
      cases hc

theorem PaymentService.cancelPayment_stock {k : Nat} {user : UserId}
    {toss : Except TossPaymentError TossPayment} {result : PaymentService.CancelResult}
    (hI : Stocked db) (h : PaymentService.cancelPayment db now k user toss = .ok (result, db')) :
    StockStep db db' := by
  obtain ⟨p, order, data, row, _, horder, _, _, _, _, hcase⟩ := cancelPayment_ok h
  cases hcase with
  | refundOnly _ hsaved =>
    obtain ⟨_, horders, hproducts, _⟩ := savePayment_payments hsaved
    exact .of_tables horders hproducts
  | canceled hpaid hsaved hrefunded hdeducted =>
    rename_i saved refunded deducted
    obtain ⟨_, horders, hproducts, _⟩ := savePayment_payments hsaved
    have hdeduct := deductEarned_ok hdeducted
    have hrefund : refunded.orders
          = saved.orders.modify p.order (Order.withStatus .canceled now) ∧
        refunded.products = updateProducts saved.products addStockTakeSold order.items := by
      rw [hrefunded]
      dsimp only
      split
      · exact ⟨rfl, rfl⟩
      · exact ⟨rfl, rfl⟩
    obtain ⟨hro, hrp⟩ := hrefund
    refine Or.inr ⟨p.order, .of_release (f := Order.withStatus .canceled now)
      (g := addStockTakeSold) hI horder (by rw [hpaid]; rfl) ?_ rfl (fun _ _ => rfl) ?_⟩
    · rw [Db.log_orders, hdeduct.orders, hro, horders]
    · rw [Db.log_products, hdeduct.products, hrp, hproducts]

theorem PaymentService.cancelVirtualAccount_stock {user : UserId}
    {toss : Except TossPaymentError TossPayment} (hI : Stocked db)
    (h : PaymentService.cancelVirtualAccountBeforeDeposit db now o user toss = .ok db') :
    StockStep db db' := by
  obtain ⟨k, payment, data, row, saved, _, _, _, hsaved, order, hcancels⟩ :=
    cancelVirtualAccountBeforeDeposit_ok h
  obtain ⟨_, horders, hproducts, _⟩ := savePayment_payments hsaved
  refine Or.inr ⟨o, .of_release hI ?_ (OrderStatus.holdsStock_of_isUnpaid hcancels.unpaid)
    (f := Order.withStatus .canceled now) (g := addStock) ?_ rfl (fun _ _ => rfl) ?_⟩
  · rw [← horders]
    exact hcancels.found
  · rw [hcancels.orders, Db.log_orders, horders]
  · rw [hcancels.products, Db.log_products, hproducts]

theorem PaymentService.cancelByCustomer_stock {order : Order} {user : UserId}
    {toss : Except TossPaymentError TossPayment} {result : PaymentService.CustomerCancel}
    (hI : Stocked db)
    (h : PaymentService.cancelByCustomer db now o order user toss = .ok (result, db')) :
    StockStep db db' := by
  rcases cancelByCustomer_ok h with ⟨k, p, out, _, hcancel⟩ | hcancel | hcancel
  · exact cancelPayment_stock hI hcancel
  · exact cancelVirtualAccount_stock hI hcancel
  · obtain ⟨row, hcancels⟩ := OrderService.cancelOrder_ok hcancel
    exact Or.inr ⟨o, hcancels.stock hI⟩

theorem TossWebhookService.handlePaymentCanceled_stock {event : TossPayment}
    {result : TossWebhookService.CanceledResult} (hI : Stocked db)
    (h : TossWebhookService.handlePaymentCanceled db now event = .ok (result, db')) :
    StockStep db db' := by
  rcases handlePaymentCanceled_ok h with
    hdb | ⟨id, k, p, order, row, _, hof, _, _, horder, _, hcase⟩
  · exact .of_eq hdb
  · cases hcase with
    | orderAlreadyCanceled _ hsaved =>
      obtain ⟨_, horders, hproducts, _⟩ := savePayment_payments hsaved
      exact .of_tables (by simp [horders]) (by simp [hproducts])
    | canceled hcanceled hsaved =>
      rename_i saved
      obtain ⟨_, horders, hproducts, _⟩ := savePayment_payments hsaved
      have hro := (restoreOnCanceled_tables saved order).2.1
      have hmoves := movesPoints_settleOnCanceled (restoreOnCanceled saved order) now k p.order
        order
      generalize hdb : markWebhookProcessed (((settlePointsOnCanceled (restoreOnCanceled saved
        order) now k p.order order).saveOrder p.order (Order.withStatus .canceled now)).log k
          .webhook "결제 취소 웹훅 처리") now id .canceled = after
      have ho : after.orders = db.orders.modify p.order (Order.withStatus .canceled now) := by
        rw [← hdb]
        simp [hmoves.orders, hro, horders]
      have hp : after.products = (restoreOnCanceled saved order).products := by
        rw [← hdb]
        simp [hmoves.products]
      by_cases hsold : order.status = .paid ∨ order.status = .preparing
      · have hg : ∀ (n : Int) (q : Product), (addStockTakeSoldOrZero n q).stock = q.stock + n := by
          intro n q
          unfold addStockTakeSoldOrZero
          split
          · rfl
          · rfl
        refine Or.inr ⟨p.order, .of_release hI horder ?_ ho rfl hg ?_⟩
        · rcases hsold with hs | hs
          · rw [hs]
            rfl
          · rw [hs]
            rfl
        · rw [hp, restoreOnCanceled, if_pos hsold, restoreStockForOrder, ← hproducts]
          rfl
      · by_cases hconfirmed : order.status = .confirmed
        · refine Or.inr ⟨p.order, .of_release (g := addStock) hI horder (by rw [hconfirmed]; rfl)
            ho rfl (fun _ _ => rfl) ?_⟩
          rw [hp, restoreOnCanceled, if_neg hsold, if_pos hconfirmed, restoreStockForOrder,
            ← hproducts]
          rfl
        · -- The order holds nothing: it is pending without items, or released.
          have hheld : ∀ j, order.held j = 0 := by
            intro j
            by_cases hpend : order.status = .pending
            · exact Order.held_of_items (hI.pending p.order order horder hpend)
            · unfold Order.held
              rw [if_neg]
              intro hc
              cases hs : order.status <;> simp_all [OrderStatus.holdsStock]
          refine Or.inr ⟨p.order, .of_status hI horder ho (fun j => ?_) (fun j => ?_) ?_ rfl nofun⟩
          · rw [hheld, Order.held_of_stage rfl]
          · unfold Db.stockOf
            rw [hp, restoreOnCanceled, if_neg hsold, if_neg hconfirmed, hproducts]
          · exact order.stage_le

end

/-! ## What a step takes and gives back -/

theorem exists_of_quantityOf_pos {k : ProductId} {items : List OrderItem}
    (h : 0 < quantityOf k items) : ∃ it ∈ items, it.product = some k := by
  induction items with
  | nil =>
    rw [quantityOf_nil] at h
    omega
  | cons it rest ih =>
    rw [quantityOf_cons] at h
    by_cases hit : it.product = some k
    · exact ⟨it, List.mem_cons_self, hit⟩
    · rw [if_neg hit, zero_add] at h
      obtain ⟨jt, hjt, hk⟩ := ih h
      exact ⟨jt, List.mem_cons_of_mem it hjt, hk⟩

namespace Db

variable {db db' : Db} {o : OrderId} {k : ProductId}

theorem held_nonneg (db : Db) (o : OrderId) (k : ProductId) : 0 ≤ db.held o k := by
  unfold held
  cases db.orders.get? o with
  | none => exact le_refl 0
  | some x => exact x.held_nonneg k

/-- An order that holds something of a product has an item of it. -/
theorem item_of_held (h : 0 < db.held o k) :
    ∃ x, db.orders.get? o = some x ∧ ∃ it ∈ x.items, it.product = some k := by
  unfold held at h
  cases hx : db.orders.get? o with
  | none =>
    rw [hx] at h
    exact absurd h (lt_irrefl 0)
  | some x =>
    rw [hx] at h
    have hq : 0 < x.held k := h
    refine ⟨x, rfl, exists_of_quantityOf_pos ?_⟩
    unfold Order.held at hq
    split at hq
    · exact hq
    · exact absurd hq (lt_irrefl 0)

/-- The orders of `db` that hold less in `db'` of a product among their
items. -/
def releases (db db' : Db) : List OrderId :=
  (db.orders.select fun o x => x.items.any fun it => it.product.any fun k =>
    decide (db'.held o k < db.held o k)).map Prod.fst

theorem mem_releases : o ∈ db.releases db' ↔ ∃ k, db'.held o k < db.held o k := by
  unfold releases
  rw [List.mem_map]
  constructor
  · rintro ⟨⟨i, x⟩, hmem, rfl⟩
    obtain ⟨_, hany⟩ := Table.mem_select.mp hmem
    obtain ⟨it, _, hit⟩ := List.any_eq_true.mp hany
    obtain ⟨k, _, hk⟩ := (Option.any_eq_true _ _).mp hit
    exact ⟨k, of_decide_eq_true hk⟩
  · rintro ⟨k, hk⟩
    have hpos : 0 < db.held o k := lt_of_le_of_lt (db'.held_nonneg o k) hk
    obtain ⟨x, hx, it, hit, hprod⟩ := item_of_held hpos
    refine ⟨(o, x), Table.mem_select.mpr ⟨hx, ?_⟩, rfl⟩
    refine List.any_eq_true.mpr ⟨it, hit, ?_⟩
    rw [hprod]
    exact decide_eq_true hk

theorem releases_nodup (db db' : Db) : (db.releases db').Nodup := db.orders.select_nodup _

end Db

/-- The orders that take items from the stock from one world to the next. -/
def takers (w w' : World) : List OrderId := w'.db.releases w.db

/-- The orders that give items back to the stock from one world to the next. -/
def givers (w w' : World) : List OrderId := w.db.releases w'.db

namespace StockStep

variable {db db' : Db}

theorem stocked (hI : Stocked db) (h : StockStep db db') : Stocked db' := by
  rcases h with ⟨ho, hs⟩ | ⟨o, h⟩
  · refine ⟨fun k n hn => ?_, fun o x hx hpend => ?_⟩
    · rw [hs] at hn
      exact hI.nonneg k n hn
    · rw [ho] at hx
      exact hI.pending o x hx hpend
  · exact h.stocked

theorem conserved (h : StockStep db db') (k : ProductId) :
    (db'.stockOf k).map (· + db'.totalHeld k) = (db.stockOf k).map (· + db.totalHeld k) := by
  rcases h with ⟨ho, hs⟩ | ⟨o, h⟩
  · unfold Db.totalHeld
    rw [hs, ho]
  · rw [h.stock, h.total, Option.map_map]
    congr 1
    funext n
    show n + (db.held o k - db'.held o k) + (db.totalHeld k - db.held o k + db'.held o k)
      = n + db.totalHeld k
    omega

theorem stage_mono (h : StockStep db db') (o : OrderId) : db.stage o ≤ db'.stage o := by
  rcases h with ⟨ho, _⟩ | ⟨i, h⟩
  · unfold Db.stage
    rw [ho]
  · by_cases hoi : o = i
    · rw [hoi]
      exact h.stage_le
    · unfold Db.stage
      rw [h.frame o hoi]

theorem keeps (h : StockStep db db') {o : OrderId} (h1 : db.stage o = 1) (h2 : db'.stage o = 1)
    (k : ProductId) : db'.held o k = db.held o k := by
  rcases h with ⟨ho, _⟩ | ⟨i, h⟩
  · unfold Db.held
    rw [ho]
  · by_cases hoi : o = i
    · rw [hoi] at h1 h2 ⊢
      exact h.keeps h1 h2 k
    · unfold Db.held
      rw [h.frame o hoi]

/-- An order holds something at stage 1 only. -/
theorem stage_of_held (hI : Stocked db) {o : OrderId} {k : ProductId} (h : 0 < db.held o k) :
    db.stage o = 1 := by
  obtain ⟨x, hx, it, hit, _⟩ := Db.item_of_held h
  rw [Db.held_of_some hx] at h
  have hstage : x.stage ≠ 2 := by
    intro hc
    rw [Order.held_of_stage hc] at h
    omega
  have hpending : x.stage ≠ 0 := by
    intro hc
    unfold Order.stage at hc
    split at hc
    · rename_i hpend
      rw [hI.pending o x hx hpend] at hit
      cases hit
    · split at hc
      · cases hc
      · cases hc
  have hle := x.stage_le
  rw [Db.stage_of_some hx]
  omega

/-- What takes items was before its stage 1, and is there now. -/
theorem of_taken (hI : Stocked db) (h : StockStep db db') {o : OrderId} {k : ProductId}
    (hk : db.held o k < db'.held o k) : ¬ 1 ≤ db.stage o ∧ 1 ≤ db'.stage o := by
  have hafter : db'.stage o = 1 :=
    stage_of_held (h.stocked hI) (lt_of_le_of_lt (db.held_nonneg o k) hk)
  have hmono := h.stage_mono o
  have hbefore : db.stage o ≠ 1 := by
    intro hc
    have hsame := h.keeps hc hafter k
    omega
  omega

/-- What gives items back was at stage 1, and is past it now. -/
theorem of_given (hI : Stocked db) (h : StockStep db db') {o : OrderId} {k : ProductId}
    (hk : db'.held o k < db.held o k) : ¬ 2 ≤ db.stage o ∧ 2 ≤ db'.stage o := by
  have hbefore : db.stage o = 1 :=
    stage_of_held hI (lt_of_le_of_lt (db'.held_nonneg o k) hk)
  have hmono := h.stage_mono o
  have hafter : db'.stage o ≠ 1 := by
    intro hc
    have hsame := h.keeps hbefore hc k
    omega
  omega

end StockStep

/-! ## Runs -/

/-- The steps of the life of an order before it is shipped; a finalisation that
settles an order has to find it confirmed. -/
def stockEvent (w : World) : Event → Bool
  | .requestOrder _ _ _ _ | .placeOrder _ _ | .readOrder _ | .republishStalled _ _ _
  | .cancelOrder _ | .cancelByCustomer _ _ _ | .expireOrder _ | .cancelPayment _ _ _
  | .cancelVirtualAccount _ _ _ | .webhookCanceled _ => true
  | .deliver n _ =>
    match w.messages[n]? with
    | some (.processOrder _ _ _) | some (.rollback _ _) => true
    | some (.finalize response k _) => settlesConfirmed w.db response k
    | _ => false
  | _ => false

theorem World.run_stock {w : World} {now : Time} {e : Event} (hI : Stocked w.db)
    (he : stockEvent w e = true) : StockStep w.db (w.run now e).db := by
  refine run_of (P := StockStep w.db) (.refl w.db) fun db hcommits => ?_
  cases hcommits with
  | placeOrder hread hcall => exact OrderService.placeOrder_stock hI hcall
  | @republishStalled n giveUp published seen hread =>
    rcases (OrderTasks.republishLoop_one now giveUp (fun _ => published) w.db seen.1 seen.2).1 with
      hdb | ⟨order, habandons⟩
    · exact .of_eq hdb
    · exact Or.inr ⟨seen.1, habandons.stock hI⟩
  | cancelOrder hcall =>
    obtain ⟨order, hcancels⟩ := OrderService.cancelOrder_ok hcall
    exact Or.inr ⟨_, hcancels.stock hI⟩
  | cancelByCustomer hread hcall => exact PaymentService.cancelByCustomer_stock hI hcall
  | expireOrder hcall =>
    rcases OrderTasks.expireOrder_ok hcall with hdb | ⟨order, hexpires⟩
    · exact .of_eq hdb
    · exact Or.inr ⟨_, hexpires.stock hI⟩
  | cancelPayment hcall => exact PaymentService.cancelPayment_stock hI hcall
  | cancelVirtualAccount hcall => exact PaymentService.cancelVirtualAccount_stock hI hcall
  | webhookCanceled hcall => exact TossWebhookService.handlePaymentCanceled_stock hI hcall
  | processOrder hmsg hcall => exact OrderTasks.processOrderHeavyTasks_stock hI hcall
  | @rollback n d o reason hmsg =>
    rcases PaymentTasks.rollbackPaymentFailure_cases w.db now o reason with hdb | ⟨order, h⟩
    · exact .of_eq hdb
    · exact Or.inr ⟨o, h.stock hI⟩
  | finalize hmsg hcall =>
    simp only [stockEvent, hmsg] at he
    exact PaymentTasks.finalizePaymentConfirm_stock hI he hcall
  | @alertFinalize n d response k user hmsg =>
    have halert := PaymentTasks.alertFinalizeExhausted_movesPoints w.db k
    exact .of_tables halert.orders halert.products
  | confirm hmsg | addPoints hmsg => simp [stockEvent, hmsg] at he
  | _ => cases he

/-- In every run of the order lifecycle before shipping: what is in stock and
what the orders hold add up to the same number of each product, no stock is
negative, and each order takes its items at most once and gives them back at
most once. -/
theorem stock_conserved {w₀ w : World} {es : List (Time × Event)} (hI : Stocked w₀.db)
    (h : Run World.step (fun w e => stockEvent w e.2 = true) w₀ es w) :
    (∀ k, (w.db.stockOf k).map (· + w.db.totalHeld k)
        = (w₀.db.stockOf k).map (· + w₀.db.totalHeld k)) ∧
      (∀ k n, w.db.stockOf k = some n → 0 ≤ n) ∧
      (gather World.step takers w₀ es).Nodup ∧ (gather World.step givers w₀ es).Nodup := by
  have hstep : ∀ t e u, Stocked t.db → stockEvent t e.2 = true → World.step t e = some u →
      StockStep t.db u.db := by
    intro t e u ht hok hstep
    cases hstep
    exact World.run_stock ht hok
  have hboth : Stocked w.db ∧ ∀ k, (w.db.stockOf k).map (· + w.db.totalHeld k)
      = (w₀.db.stockOf k).map (· + w₀.db.totalHeld k) := by
    refine h.invariant (fun u => Stocked u.db ∧ ∀ k, (u.db.stockOf k).map (· + u.db.totalHeld k)
      = (w₀.db.stockOf k).map (· + w₀.db.totalHeld k)) ⟨hI, fun _ => rfl⟩ ?_
    intro t e u ⟨ht, hsame⟩ hok hs
    have hmove := hstep t e u ht hok hs
    exact ⟨hmove.stocked ht, fun k => (hmove.conserved k).trans (hsame k)⟩
  refine ⟨hboth.2, hboth.1.nonneg, ?_, ?_⟩
  · refine h.gather_nodup (fun u => Stocked u.db) (fun u o => 1 ≤ u.db.stage o) hI ?_
    intro t e u ht hok hs
    have hmove := hstep t e u ht hok hs
    refine ⟨hmove.stocked ht, Db.releases_nodup u.db t.db, fun o ho => ?_, fun o ho => ?_⟩
    · obtain ⟨k, hk⟩ := Db.mem_releases.mp ho
      exact hmove.of_taken ht hk
    · exact ho.trans (hmove.stage_mono o)
  · refine h.gather_nodup (fun u => Stocked u.db) (fun u o => 2 ≤ u.db.stage o) hI ?_
    intro t e u ht hok hs
    have hmove := hstep t e u ht hok hs
    refine ⟨hmove.stocked ht, Db.releases_nodup t.db u.db, fun o ho => ?_, fun o ho => ?_⟩
    · obtain ⟨k, hk⟩ := Db.mem_releases.mp ho
      exact hmove.of_given ht hk
    · exact ho.trans (hmove.stage_mono o)

/-- A shop with ten books, two of them in a cart, and no order yet. -/
def cartShop : World :=
  { db :=
      { ledger := Ledger.empty
        membership := fun _ => .bronze
        products := Table.empty.insert ⟨"책", 10000, 10, 0, true⟩
        carts := Table.empty.insert { user := some 7, items := [{ product := 1, quantity := 2 }] }
        orders := Table.empty
        payments := PaymentTable.empty
        logs := []
        returns := Table.empty
        idempotencyKeys := []
        webhookMarks := [] } }

theorem stocked_cartShop : Stocked cartShop.db := by
  constructor
  · intro k n hn
    have hproducts : cartShop.db.products = Table.empty.insert ⟨"책", 10000, 10, 0, true⟩ := rfl
    unfold Db.stockOf at hn
    rw [hproducts, Table.get?_insert, Table.get?_empty] at hn
    split at hn
    · cases hn
      decide
    · cases hn
  · intro o x hx
    have horders : cartShop.db.orders = Table.empty := rfl
    rw [horders, Table.get?_empty] at hx
    cases hx

/-- The task of the order is delivered twice, and the order is canceled. -/
theorem stock_conserved_canceled :
    ∃ w, Run World.step (fun w e => stockEvent w e.2 = true) cartShop
        [(1, .requestOrder 7 1 "06236" 0), (1, .placeOrder 0 true), (2, .deliver 0 {}),
          (3, .deliver 0 {}), (4, .cancelOrder 1), (5, .cancelOrder 1)] w ∧
      w.db.statusOf 1 = some .canceled ∧ w.db.stockOf 1 = some 10 ∧
      (w.db.stockOf 1).map (· + w.db.totalHeld 1)
        = (cartShop.db.stockOf 1).map (· + cartShop.db.totalHeld 1) := by
  obtain ⟨w, hrun, hstate⟩ := Run.exists_of_execIf (by decide +kernel :
    (execIf World.step (fun w e => stockEvent w e.2) cartShop
      [(1, .requestOrder 7 1 "06236" 0), (1, .placeOrder 0 true), (2, .deliver 0 {}),
        (3, .deliver 0 {}), (4, .cancelOrder 1), (5, .cancelOrder 1)]).any (fun w => decide
          (w.db.statusOf 1 = some .canceled ∧ w.db.stockOf 1 = some 10)) = true)
  obtain ⟨hcanceled, hstock⟩ := of_decide_eq_true hstate
  exact ⟨w, hrun, hcanceled, hstock, (stock_conserved stocked_cartShop hrun).1 1⟩

end Shopping
