import Shopping.Orders.Tasks

/-!
# What the order functions commit

For each function of the order service and of the order tasks that writes, the
tables it leaves behind when it returns.  The proofs above this module read a
function through its outcome and do not unfold it again.
-/

namespace Shopping

/-! ## Placing an order -/

namespace OrderService

/-- The transaction of `create_order_hybrid` adds a pending order without
items. -/
structure Places (db : Db) (o : OrderId) (order : Order) (db' : Db) : Prop where
  key : o = db.orders.next
  pending : order.status = .pending
  items : order.items = []
  orders : db'.orders = db.orders.insert order
  payments : db'.payments = db.payments
  products : db'.products = db.products
  logs : db'.logs = db.logs

theorem placeOrder_ok {db db' : Db} {now : Time} {user : UserId} {cart : CartId}
    {draft : OrderDraft} {o : OrderId} (h : placeOrder db now user cart draft = .ok (o, db')) :
    ∃ order, Places db o order db' := by
  unfold placeOrder at h
  split at h
  · cases h
  · split at h
    · cases h
    · split at h
      · cases h
      · cases h
        exact ⟨_, rfl, rfl, rfl, rfl, rfl, rfl, rfl⟩

end OrderService

/-! ## Processing a placed order -/

namespace OrderTasks

theorem restoreCart_ok {db db' : Db} {cart : CartId} (h : restoreCart db cart = .ok db') :
    ∃ carts, db' = { db with carts := carts } := by
  unfold restoreCart at h
  split at h
  · cases h
  · dsimp only at h
    split at h
    · cases h
      exact ⟨_, rfl⟩
    · cases h
      exact ⟨_, rfl⟩

/-- The failure branches give back every item the order has and fail it. -/
structure FailsOrder (db : Db) (now : Time) (o : OrderId) (order : Order) (reason : String)
    (db' : Db) : Prop where
  found : db.orders.get? o = some order
  orders : db'.orders = db.orders.modify o (Order.withFailure .failed reason now)
  products : db'.products = updateProducts db.products addStock order.items
  payments : db'.payments = db.payments
  ledger : db'.ledger = db.ledger
  logs : db'.logs = db.logs

theorem failOrder_ok {db db' : Db} {now : Time} {o : OrderId} {cart : CartId} {reason : String}
    (h : failOrder db now o cart reason = .ok db') :
    ∃ order, FailsOrder db now o order reason db' := by
  unfold failOrder at h
  obtain ⟨order, hget, h⟩ := bind_eq_ok.mp h
  rw [Db.getOrder_eq_ok] at hget
  split at h
  · cases h
  · obtain ⟨carts, hdb⟩ := restoreCart_ok h
    subst hdb
    exact ⟨order, hget, rfl, rfl, rfl, rfl, rfl⟩

/-- The branches of `process_order_heavy_tasks` for a pending order: `items`
are what it made of the cart, and `products` the products it took them
from. -/
inductive ProcessCase (db : Db) (now : Time) (o : OrderId) (order : Order)
    (products : Table Product) (items : List OrderItem) : Db → Prop where
  | failed {db' : Db} (reason : String)
      (horders : db'.orders = (db.orders.modify o fun x =>
        { x with items := x.items ++ items }).modify o (Order.withFailure .failed reason now))
      (hproducts : db'.products = updateProducts products addStock (order.items ++ items))
      (hpayments : db'.payments = db.payments) (hlogs : db'.logs = db.logs) :
      ProcessCase db now o order products items db'
  | confirmed {db' : Db}
      (horders : db'.orders = (db.orders.modify o fun x =>
        { x with items := x.items ++ items }).modify o (Order.withStatus .confirmed now))
      (hproducts : db'.products = products)
      (hpayments : db'.payments = db.payments) (hlogs : db'.logs = db.logs) :
      ProcessCase db now o order products items db'

theorem processOrderHeavyTasks_ok {db : Db} {now : Time} {o : OrderId} {cartId : CartId}
    {usePoints : Int} {out : Outcome ProcessResult}
    (h : processOrderHeavyTasks db now o cartId usePoints = .ok out) :
    ∃ order, db.orders.get? o = some order ∧
      (out.db = db ∨ order.status = .pending ∧ ∃ cart products items shortage,
        db.carts.get? cartId = some cart ∧
        takeItems db.products (cart.items.insertionSort byProduct)
          = .ok (products, items, shortage) ∧
        ProcessCase db now o order products items out.db) := by
  unfold processOrderHeavyTasks at h
  obtain ⟨order, hget, h⟩ := bind_eq_ok.mp h
  rw [Db.getOrder_eq_ok] at hget
  refine ⟨order, hget, ?_⟩
  split at h
  · cases h
    exact Or.inl rfl
  · rename_i hpending
    rw [not_not] at hpending
    right
    refine ⟨hpending, ?_⟩
    split at h
    · cases h
    · rename_i cart hcart
      obtain ⟨⟨products, items, shortage⟩, htake, h⟩ := bind_eq_ok.mp h
      refine ⟨cart, products, items, shortage, hcart, htake, ?_⟩
      dsimp only at h
      generalize htaken : ({ db with products := products }.saveOrder o fun x =>
        { x with items := x.items ++ items }) = taken at h
      have hfound : taken.orders.get? o = some { order with items := order.items ++ items } := by
        rw [← htaken]
        simp [hget]
      have horders : taken.orders
          = db.orders.modify o fun x => { x with items := x.items ++ items } := by
        rw [← htaken]
        rfl
      have htables : taken.products = products ∧ taken.payments = db.payments ∧
          taken.logs = db.logs := by
        rw [← htaken]
        exact ⟨rfl, rfl, rfl⟩
      obtain ⟨hprod, hpay, hlogs⟩ := htables
      -- Both failure branches give back what the order has by then.
      have hfail : ∀ (x failed : Db) (reason : String),
          failOrder x now o cartId reason = .ok failed → x.orders = taken.orders →
          x.products = taken.products → x.payments = taken.payments → x.logs = taken.logs →
            ProcessCase db now o order products items failed := by
        intro x failed reason hf ho hp hpm hl
        obtain ⟨order', hfails⟩ := failOrder_ok hf
        have hfound' := hfails.found
        rw [ho, hfound] at hfound'
        cases hfound'
        refine .failed reason ?_ ?_ ?_ ?_
        · rw [hfails.orders, ho, horders]
        · rw [hfails.products, hp, hprod]
        · rw [hfails.payments, hpm, hpay]
        · rw [hfails.logs, hl, hlogs]
      split at h
      · obtain ⟨failed, hf, h⟩ := bind_eq_ok.mp h
        cases h
        exact hfail taken failed _ hf rfl rfl rfl rfl
      · generalize (if 0 < usePoints then
          PointService.usePointsFifo taken.ledger now order.user usePoints .use (some o)
          else (⟨true, [], ""⟩, taken.ledger)) = used at h
        split at h
        · obtain ⟨failed, hf, h⟩ := bind_eq_ok.mp h
          cases h
          exact hfail _ failed _ hf rfl rfl rfl rfl
        · cases h
          exact .confirmed (by rw [← horders]; rfl) hprod hpay hlogs

/-! ## Orders whose message got lost -/

/-- `_abandon_stalled_order` fails a pending order without items. -/
structure Abandons (db : Db) (now : Time) (o : OrderId) (order : Order) (db' : Db) : Prop where
  found : db.orders.get? o = some order
  pending : order.status = .pending
  items : order.items = []
  orders : db'.orders
    = db.orders.modify o (Order.withFailure .failed orderStalledFailureReason now)
  products : db'.products = db.products
  payments : db'.payments = db.payments
  ledger : db'.ledger = db.ledger
  logs : db'.logs = db.logs

theorem abandonStalledOrder_ok {db db' : Db} {now : Time} {o : OrderId} {abandoned : Bool}
    (h : abandonStalledOrder db now o = .ok (abandoned, db')) :
    abandoned = false ∧ db' = db ∨ ∃ order, Abandons db now o order db' := by
  unfold abandonStalledOrder at h
  obtain ⟨order, hget, h⟩ := bind_eq_ok.mp h
  rw [Db.getOrder_eq_ok] at hget
  split at h
  · cases h
    exact Or.inl ⟨rfl, rfl⟩
  · rename_i hstalled
    rw [not_or, not_not, not_not] at hstalled
    obtain ⟨hpending, hitems⟩ := hstalled
    right
    dsimp only at h
    split at h
    · cases h
      exact ⟨order, hget, hpending, hitems, rfl, rfl, rfl, rfl, rfl⟩
    · obtain ⟨restored, hrestore, h⟩ := map_eq_ok.mp h
      obtain ⟨carts, hdb⟩ := restoreCart_ok hrestore
      cases h
      subst hdb
      exact ⟨order, hget, hpending, hitems, rfl, rfl, rfl, rfl, rfl⟩

/-- One round of the loop of `republish_stalled_orders` abandons the order, or
publishes its message. -/
theorem republishLoop_one (now giveUp : Time) (published : OrderId → Bool) (db : Db)
    (o : OrderId) (seen : Order) :
    let out := republishLoop now giveUp published db [(o, seen)]
    (out.1 = db ∨ ∃ order, Abandons db now o order out.1) ∧
      ∀ m ∈ out.2, ∃ cart, m = .processOrder o cart seen.usedPoints := by
  simp only [republishLoop]
  split
  · cases habandon : abandonStalledOrder db now o with
    | error e => exact ⟨Or.inl rfl, by simp⟩
    | ok out => exact ⟨(abandonStalledOrder_ok habandon).imp_left And.right, by simp⟩
  · cases seen.cart with
    | none => exact ⟨Or.inl rfl, by simp⟩
    | some cart =>
      dsimp only
      split
      · exact ⟨Or.inl rfl, by simp⟩
      · exact ⟨Or.inl rfl, by simp⟩

end OrderTasks

/-! ## `cancel_order` -/

/-- `cancel_order` committed: the order was unpaid, no payment of it was
live, and every other payment of it is closed. -/
structure Cancels (db : Db) (now : Time) (o : OrderId) (closed : PaymentStatus) (order : Order)
    (db' : Db) : Prop where
  found : db.orders.get? o = some order
  unpaid : order.status.isUnpaid = true
  notLive : ∀ k p, db.payments.get? k = some p → p.order = o → p.status.isLive = false
  payments : db'.payments = (OrderService.closePayments db o closed).payments
  orders : db'.orders = db.orders.modify o (Order.withStatus .canceled now)
  products : db'.products = updateProducts db.products addStock order.items
  logs : db'.logs = db.logs

namespace OrderService

/-- Without a live payment left by the fence there was none before it. -/
theorem notLive_of_fenced {db : Db} {o : OrderId} {closed : PaymentStatus}
    (h : ((closePayments db o closed).payments.table.find? fun _ p =>
      decide (p.order = o) && p.status.isLive) = none)
    {k : Nat} {p : Payment} (hp : db.payments.get? k = some p) (ho : p.order = o) :
    p.status.isLive = false := by
  cases hlive : p.status.isLive with
  | false => rfl
  | true =>
    have hrow : (closePayments db o closed).payments.get? k = some p := by
      simp [closePayments, PaymentTable.get?_setStatus, hp, hlive]
    have hnone := Table.find?_eq_none.mp h k p hrow
    simp [ho, hlive] at hnone

theorem cancelOrder_ok {db db' : Db} {now : Time} {o : OrderId} {closed : PaymentStatus}
    (h : cancelOrder db now o closed = .ok db') : ∃ order, Cancels db now o closed order db' := by
  unfold cancelOrder at h
  obtain ⟨order, hget, h⟩ := bind_eq_ok.mp h
  rw [Db.getOrder_eq_ok] at hget
  split at h
  · split at h
    · cases h
    · cases h
  · rename_i hunpaid
    rw [Bool.not_eq_false] at hunpaid
    dsimp only at h
    split at h
    · cases h
    · rename_i hfence
      have hlive := fun k p hp ho => notLive_of_fenced hfence (k := k) (p := p) hp ho
      split at h
      · cases h
        exact ⟨order, hget, hunpaid, hlive, rfl, rfl, rfl, rfl⟩
      · cases h
        exact ⟨order, hget, hunpaid, hlive, rfl, rfl, rfl, rfl⟩

end OrderService

/-! ## `_expire_order` -/

namespace OrderTasks

/-- `_expire_order` committed a cancellation, and marked the order. -/
structure Expires (db : Db) (now : Time) (o : OrderId) (order : Order) (db' : Db) : Prop where
  found : db.orders.get? o = some order
  unpaid : order.status.isUnpaid = true
  notLive : ∀ k p, db.payments.get? k = some p → p.order = o → p.status.isLive = false
  payments : db'.payments = (OrderService.closePayments db o .expired).payments
  orders : db'.orders = (db.orders.modify o (Order.withStatus .canceled now)).modify o
    fun x => { x with failureReason := orderExpiredFailureReason }
  products : db'.products = updateProducts db.products addStock order.items
  logs : ∃ logs, db'.logs = db.logs ++ logs

theorem expireOrder_ok {db db' : Db} {now : Time} {o : OrderId} {expired : Bool}
    (h : expireOrder db now o = .ok (expired, db')) :
    db' = db ∨ ∃ order, Expires db now o order db' := by
  unfold expireOrder at h
  obtain ⟨order, _, h⟩ := bind_eq_ok.mp h
  split at h
  · cases h
    exact Or.inl rfl
  · cases hcancel : OrderService.cancelOrder db now o .expired with
    | error e =>
      rw [hcancel] at h
      cases e <;> cases h
      exact Or.inl rfl
    | ok canceled =>
      rw [hcancel] at h
      obtain ⟨order, hc⟩ := OrderService.cancelOrder_ok hcancel
      right
      refine ⟨order, ?_⟩
      have hmarked : Expires db now o order (canceled.saveOrder o fun x =>
          { x with failureReason := orderExpiredFailureReason }) :=
        ⟨hc.found, hc.unpaid, hc.notLive, hc.payments,
          by rw [Db.saveOrder_orders, hc.orders], hc.products, [], by simp [hc.logs]⟩
      dsimp only at h
      split at h
      · cases h
        exact hmarked
      · cases h
        exact ⟨hmarked.found, hmarked.unpaid, hmarked.notLive, hmarked.payments,
          hmarked.orders, hmarked.products, _, by rw [Db.log_logs, Db.saveOrder_logs, hc.logs]⟩

end OrderTasks

end Shopping
