import Mathlib.Data.List.Sort
import Shopping.Orders.Service

/-!
# Order tasks

The Celery tasks of `shopping/tasks/order_tasks.py`: the processing of a
placed order, the repair of orders whose message got lost, and the expiry of
unpaid orders.

The loop of `process_order_heavy_tasks` over the cart items is `takeItems`.
On a shortage it answers what it took so far, because the task gives that
back by hand and commits.
-/

namespace Shopping

namespace OrderTasks

/-! ## Processing a placed order -/

/-- `order_by("product_id")`. -/
def byProduct (x y : CartItem) : Prop := x.product ≤ y.product

instance : DecidableRel byProduct := fun x y => inferInstanceAs (Decidable (x.product ≤ y.product))

/-- A shortage: the product, the quantity asked for and the stock. -/
structure Shortage where
  name : String
  requested : Nat
  available : Int
  deriving DecidableEq, Repr

/-- The item that is made for a cart item. -/
def orderItemOf (it : CartItem) (p : Product) : OrderItem :=
  { product := some it.product, productName := p.name, quantity := it.quantity, price := p.price }

/-- The loop over the cart items: the products, the order items made, and
the shortage that ended it. -/
def takeItems (products : Table Product) :
    List CartItem → Except ShopError (Table Product × List OrderItem × Option Shortage)
  | [] => .ok (products, [], none)
  | it :: rest =>
    match products.get? it.product with
    | none => .error (.db .doesNotExist)
    | some p =>
      if p.stock < it.quantity then .ok (products, [], some ⟨p.name, it.quantity, p.stock⟩)
      else
        (takeItems (products.modify it.product (addStock (-it.quantity))) rest).map fun out =>
          (out.1, orderItemOf it p :: out.2.1, out.2.2)

/-- `_restore_cart`. -/
def restoreCart (db : Db) (cartId : CartId) : Except ShopError Db :=
  match db.carts.get? cartId with
  | none => .error (.db .doesNotExist)
  | some cart =>
    let activeCart :=
      match cart.user with
      | none => none
      | some user =>
        db.carts.find? fun k c =>
          decide (c.user = some user) && c.isActive && decide (k ≠ cartId)
    match activeCart with
    | none =>
      .ok { db with carts := db.carts.modify cartId fun c => { c with isActive := true } }
    | some (activeId, active) =>
      let alreadyInActive := active.items.map CartItem.product
      let moved := cart.items.filter fun it => decide (it.product ∉ alreadyInActive)
      let kept := cart.items.filter fun it => decide (it.product ∈ alreadyInActive)
      let left := db.carts.modify cartId fun c => { c with items := kept }
      .ok { db with carts := left.modify activeId fun c => { c with items := c.items ++ moved } }

/-- The results of `process_order_heavy_tasks`. -/
inductive ProcessResult where
  | alreadyProcessed
  | insufficientStock (product : String)
  | pointDeductionFailed (message : String)
  | success
  deriving DecidableEq, Repr

/-- The failure branches: the items made so far go back, the order fails and
the cart is given back. -/
def failOrder (db : Db) (now : Time) (o : OrderId) (cart : CartId) (reason : String) :
    Except ShopError Db := do
  let order ← db.getOrder o
  if order.items.any fun it => it.product.isNone then .error .attributeError
  else
    restoreCart ((db.updateItems addStock order.items).saveOrder o
      (Order.withFailure .failed reason now)) cart

/-- `process_order_heavy_tasks`. -/
def processOrderHeavyTasks (db : Db) (now : Time) (o : OrderId) (cartId : CartId)
    (usePoints : Int) : Except ShopError (Outcome ProcessResult) := do
  let order ← db.getOrder o
  if order.status ≠ .pending then .ok { result := .alreadyProcessed, db := db }
  else
    match db.carts.get? cartId with
    | none => .error (.db .doesNotExist)
    | some cart => do
      let (products, items, shortage) ← takeItems db.products (cart.items.insertionSort byProduct)
      let taken := { db with products := products }.saveOrder o fun x =>
        { x with items := x.items ++ items }
      match shortage with
      | some s =>
        let failed ← failOrder taken now o cartId ("재고 부족: " ++ s.name ++ " (요청: "
          ++ toString s.requested ++ "개, 재고: " ++ toString s.available ++ "개)")
        .ok { result := .insufficientStock s.name, db := failed }
      | none =>
        let used :=
          if 0 < usePoints then
            PointService.usePointsFifo taken.ledger now order.user usePoints .use (some o)
          else (⟨true, [], ""⟩, taken.ledger)
        let paid := { taken with ledger := used.2 }
        if used.1.success = false then
          let failed ← failOrder paid now o cartId ("포인트 사용 실패: " ++ used.1.message)
          .ok { result := .pointDeductionFailed used.1.message, db := failed }
        else
          .ok
            { result := .success
              db := { paid.saveOrder o (Order.withStatus .confirmed now) with
                carts := paid.carts.modify cartId fun c => { c with items := [] } } }

/-! ## Orders whose message got lost -/

/-- `ORDER_STALLED_FAILURE_REASON`. -/
def orderStalledFailureReason : String := "주문 처리 지연"

/-- `_abandon_stalled_order`. -/
def abandonStalledOrder (db : Db) (now : Time) (o : OrderId) :
    Except ShopError (Bool × Db) := do
  let order ← db.getOrder o
  if order.status ≠ .pending ∨ order.items ≠ [] then .ok (false, db)
  else
    let failed := db.saveOrder o (Order.withFailure .failed orderStalledFailureReason now)
    match order.cart with
    | none => .ok (true, failed)
    | some cart => (restoreCart failed cart).map fun db' => (true, db')

/-- The candidates of `republish_stalled_orders`. -/
def stalledOrders (db : Db) (now stall : Time) : List (OrderId × Order) :=
  db.orders.select fun _ order =>
    decide (order.status = .pending) && decide (order.createdAt + stall < now) &&
      decide (order.items = [])

/-- The loop of `republish_stalled_orders`.  Each candidate is a transaction
of its own; one that raises leaves the others alone.  `published` says which
messages the broker takes. -/
def republishLoop (now giveUp : Time) (published : OrderId → Bool) (db : Db) :
    List (OrderId × Order) → Db × List Message
  | [] => (db, [])
  | (o, seen) :: rest =>
    if seen.createdAt + giveUp < now then
      match abandonStalledOrder db now o with
      | .ok out => republishLoop now giveUp published out.2 rest
      | .error _ => republishLoop now giveUp published db rest
    else
      match seen.cart with
      | none => republishLoop now giveUp published db rest
      | some cart =>
        let out := republishLoop now giveUp published db rest
        if published o then (out.1, .processOrder o cart seen.usedPoints :: out.2) else out

/-- `republish_stalled_orders`. -/
def republishStalledOrders (db : Db) (now stall giveUp : Time) (published : OrderId → Bool) :
    Db × List Message :=
  republishLoop now giveUp published db (stalledOrders db now stall)

/-! ## Expiry of unpaid orders -/

/-- `ORDER_EXPIRED_FAILURE_REASON`. -/
def orderExpiredFailureReason : String := "결제 시간 초과"

/-- `_expire_order`.  `_OrderNotExpirable` rolls the transaction back and the
answer is `False`. -/
def expireOrder (db : Db) (now : Time) (o : OrderId) : Except ShopError (Bool × Db) := do
  let order ← db.getOrder o
  if order.status.isUnpaid = false then .ok (false, db)
  else
    match OrderService.cancelOrder db now o .expired with
    | .error (.paymentInProgressError _) => .ok (false, db)
    | .error e => .error e
    | .ok canceled =>
      let marked := canceled.saveOrder o fun x =>
        { x with failureReason := orderExpiredFailureReason }
      match marked.payments.ofOrder? o with
      | none => .ok (true, marked)
      | some (k, _) =>
        .ok (true, marked.log k .cancel
          ("주문 만료로 결제 종료: " ++ orderExpiredFailureReason))

/-- `.exclude(payment__status__in=LIVE_PAYMENT_STATUSES)`. -/
def hasLivePayment (db : Db) (o : OrderId) : Bool :=
  db.payments.table.any fun _ p => decide (p.order = o) && p.status.isLive

/-- Where the soft time limit of the task falls in the turn of an order. -/
inductive TimeLimit where
  | notReached
  | beforeCommit
  | afterCommit
  deriving DecidableEq, Repr

/-- The answer of `expire_unpaid_orders`. -/
structure ExpiryReport where
  candidates : Nat
  expired : Nat := 0
  skipped : Nat := 0
  errors : List (OrderId × ShopError) := []
  deriving DecidableEq, Repr

/-- The loop of `expire_unpaid_orders`.  Each candidate is a transaction of its
own, at the reading `clock` gives for it.  `SoftTimeLimitExceeded` ends the
loop, and undoes the transaction that it falls in. -/
def expireLoop (clock : OrderId → Time) (limit : OrderId → TimeLimit) (db : Db)
    (report : ExpiryReport) : List OrderId → Db × ExpiryReport
  | [] => (db, report)
  | o :: rest =>
    match limit o, expireOrder db (clock o) o with
    | .beforeCommit, _ => (db, report)
    | .afterCommit, .ok out => (out.2, report)
    | .afterCommit, .error _ => (db, report)
    | .notReached, .ok (true, db') =>
      expireLoop clock limit db' { report with expired := report.expired + 1 } rest
    | .notReached, .ok (false, db') =>
      expireLoop clock limit db' { report with skipped := report.skipped + 1 } rest
    | .notReached, .error e =>
      expireLoop clock limit db { report with errors := report.errors ++ [(o, e)] } rest

end OrderTasks

end Shopping
