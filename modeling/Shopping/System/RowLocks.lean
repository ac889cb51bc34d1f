import Shopping.Lib.Locks
import Shopping.Orders.Tasks
import Shopping.Payments.Tasks
import Shopping.Payments.Webhook
import Shopping.Returns.Service

/-!
# The rows that the transactions lock

For each transaction the rows of `Payment`, `Order`, `Cart`, `Product`, `User`
and `PointHistory` that it locks, in the order of its statements: a
`select_for_update()` when it is evaluated, an update and a delete when they
run.  What a function writes to rows that it locked before takes no lock and
is left out; a call lists its rows as it does for any caller.

The definitions have the names of the functions and go through the same
branches on the same database; a branch that raises ends the sequence, because
the rollback gives the locks back.  A row that the transaction inserts itself
is not listed: nobody else sees it before the commit.
-/

namespace Shopping

/-- A row that a transaction can lock. -/
inductive Row where
  | payment (k : Nat)
  | order (o : OrderId)
  | cart (c : CartId)
  | product (p : ProductId)
  | user (u : UserId)
  /-- A history row, with its user, which no update touches. -/
  | pointHistory (u : UserId) (k : Nat)
  deriving DecidableEq, Repr

namespace RowLocks

open PointService OrderTasks

/-! ## Loops and helpers -/

/-- The loop over the order items that locks or updates their products. -/
def products (items : List OrderItem) : List Row :=
  (items.filterMap OrderItem.product).map .product

/-- The rows of a query on the history. -/
def histories (rows : List (Nat × PointHistory)) : List Row :=
  rows.map fun p => .pointHistory p.2.user p.1

/-- `Cart.objects.filter(user=..., is_active=True).update(is_active=False)`. -/
def deactivateCarts (db : Db) (user : UserId) : List Row :=
  (db.carts.select fun _ c => decide (c.user = some user) && c.isActive).map fun p => .cart p.1

/-- `add_points`. -/
def addPoints (user : UserId) (amount : Int) : List Row :=
  if amount ≤ 0 then [] else [.user user]

/-- `use_points_fifo`.  The query of `_consume_points_fifo` locks all rows that
it fetches, also those that the loop does not come to. -/
def usePointsFifo (L : Ledger) (now : Time) (user : UserId) (amount : Int) (type : PointType) :
    List Row :=
  match validatePointUsage amount type minimumUseAmount with
  | some _ => []
  | none =>
    if L.points user < amount then [.user user]
    else .user user :: histories (availablePoints L now user type)

/-- `refund_used_points`. -/
def refundUsedPoints (L : Ledger) (user : UserId) (amount : Int) (order : OrderId) : List Row :=
  if amount ≤ 0 then [] else .user user :: histories (earnRows L order)

/-- `_expire_one`. -/
def expireOne (L : Ledger) (k : Nat) (seen : PointHistory) : List Row :=
  if seen.remainingPoints ≤ 0 then []
  else
    .user seen.user ::
      match L.histories.get? k with
      | none => []
      | some _ => [.pointHistory seen.user k]

/-! ## Orders -/

/-- The other active cart of the user, which `_restore_cart` looks for. -/
def otherActiveCart (db : Db) (cartId : CartId) (cart : Cart) : Option (CartId × Cart) :=
  match cart.user with
  | none => none
  | some user =>
    db.carts.find? fun k c => decide (c.user = some user) && c.isActive && decide (k ≠ cartId)

/-- `_restore_cart`. -/
def restoreCart (db : Db) (cartId : CartId) : List Row :=
  match db.carts.get? cartId with
  | none => []
  | some cart =>
    .cart cartId ::
      match otherActiveCart db cartId cart with
      | none => []
      | some (activeId, _) => [.cart activeId]

/-- The loop of `process_order_heavy_tasks` over the cart items. -/
def takeItems (table : Table Product) : List CartItem → List Row
  | [] => []
  | it :: rest =>
    match table.get? it.product with
    | none => []
    | some p =>
      .product it.product ::
        if p.stock < it.quantity then []
        else takeItems (table.modify it.product (addStock (-it.quantity))) rest

/-- The failure branches of `process_order_heavy_tasks`; an item without
product raises. -/
def failOrder (db : Db) (items : List OrderItem) (cartId : CartId) : List Row :=
  products (items.takeWhile fun it => it.product.isSome) ++
    if items.any fun it => it.product.isNone then [] else restoreCart db cartId

/-- `process_order_heavy_tasks`. -/
def processOrderHeavyTasks (db : Db) (now : Time) (o : OrderId) (cartId : CartId)
    (usePoints : Int) : List Row :=
  match db.orders.get? o with
  | none => []
  | some order =>
    .order o ::
      if order.status ≠ .pending then []
      else
        match db.carts.get? cartId with
        | none => []
        | some cart =>
          let sorted := cart.items.insertionSort byProduct
          .cart cartId :: takeItems db.products sorted ++
            match OrderTasks.takeItems db.products sorted with
            | .error _ => []
            | .ok (_, items, some _) => failOrder db (order.items ++ items) cartId
            | .ok (_, items, none) =>
              if usePoints ≤ 0 then []
              else
                usePointsFifo db.ledger now order.user usePoints .use ++
                  if (PointService.usePointsFifo db.ledger now order.user usePoints .use
                      (some o)).1.success then []
                  else failOrder db (order.items ++ items) cartId

/-- `cancel_order`.  The fence updates the payment of the order unless it is
live; a live one raises. -/
def cancelOrder (db : Db) (o : OrderId) : List Row :=
  match db.orders.get? o with
  | none => []
  | some order =>
    .order o ::
      if order.status.isUnpaid = false then []
      else
        let rest := products order.items ++
          if db.hasHistory o .use then refundUsedPoints db.ledger order.user order.usedPoints o
          else []
        match db.payments.ofOrder? o with
        | none => rest
        | some (k, payment) => if payment.status.isLive then [] else .payment k :: rest

/-- `_expire_order`. -/
def expireOrder (db : Db) (o : OrderId) : List Row :=
  match db.orders.get? o with
  | none => []
  | some order => .order o :: if order.status.isUnpaid = false then [] else cancelOrder db o

/-! ## Payments -/

/-- The write of a payment row goes through. -/
def saves (db : Db) (k : Nat) (row : Except ShopError Payment) : Bool :=
  (row.bind (db.savePayment k)).isOk

/-- `create_payment`. -/
def createPayment (db : Db) (now : Time) (o : OrderId) (user : UserId) (key : Option String) :
    List Row :=
  match PaymentService.checkIdempotencyKey db now key o user with
  | some _ => []
  | none =>
    match db.orders.get? o with
    | none => []
    | some _ =>
      .order o ::
        match db.payments.ofOrder? o with
        | none => []
        | some (k, _) => [.payment k]

/-- `finalize_payment_confirm`. -/
def finalizePaymentConfirm (db : Db) (now : Time) (response : TossPayment) (k : Nat)
    (user : UserId) : List Row :=
  match db.payments.get? k with
  | none => []
  | some payment =>
    .payment k ::
      if payment.isPaid ∨ response.status = some .waitingForDeposit then []
      else
        match db.orders.get? payment.order with
        | none => []
        | some order =>
          .order payment.order ::
            if saves db k (payment.markAsPaid now response) = false ∨ order.status = .canceled then
              []
            else products order.items ++ deactivateCarts db user

/-- `rollback_payment_failure`. -/
def rollbackPaymentFailure (db : Db) (o : OrderId) : List Row :=
  match db.orders.get? o with
  | none => []
  | some order =>
    .order o ::
      if order.status ≠ .pending ∧ order.status ≠ .confirmed then []
      else
        products order.items ++ refundUsedPoints db.ledger order.user order.usedPoints o ++
          match db.payments.ofOrder? o with
          | none => []
          | some (k, payment) =>
            if payment.status = .aborted ∨ payment.status = .expired then [] else [.payment k]

/-- `complete_points_only_payment` for the order that the view read as
`seen`. -/
def completePointsOnlyPayment (db : Db) (o : OrderId) (seen : Order) (user : UserId) :
    List Row :=
  if seen.status ≠ .confirmed ∨ seen.finalAmount ≠ 0 ∨
      0 < seen.totalAmount + seen.getTotalShippingFee - seen.usedPoints then []
  else
    match db.orders.get? o with
    | none => []
    | some order =>
      let rest := products order.items ++ deactivateCarts db user
      .order o ::
        match db.payments.ofOrder? o with
        | none => rest
        | some (k, payment) => if payment.isPaid then [] else .payment k :: rest

/-- Step 10-2 of `cancel_payment`, on the ledger after the refund. -/
def deductEarned (L : Ledger) (now : Time) (user : UserId) (order : Order) : List Row :=
  if order.earnedPoints ≤ 0 ∨ L.points user < order.earnedPoints then []
  else usePointsFifo L now user order.earnedPoints .cancelDeduct

/-- `cancel_payment`.  The query joins the order, so `FOR UPDATE` locks both
rows. -/
def cancelPayment (db : Db) (now : Time) (k : Nat) (user : UserId)
    (toss : Except TossPaymentError TossPayment) : List Row :=
  match db.payments.get? k with
  | none => []
  | some payment =>
    let o := payment.order
    match db.orders.get? o with
    | none => []
    | some order =>
      if order.user ≠ user then []
      else
        .payment k :: .order o ::
          if payment.isCanceled ∨ payment.status ≠ .done then []
          else if order.status ≠ .paid ∧ order.status ≠ .canceled then []
          else
            (if order.status = .canceled ∨ order.earnedPoints ≤ 0 then [] else [.user user]) ++
              match PaymentService.checkReclaimable db now user order, toss with
              | .ok _, .ok data =>
                if saves db k (payment.markAsCanceled now data) = false ∨
                    order.status = .canceled then []
                else
                  let refunded :=
                    if order.usedPoints ≤ 0 then db.ledger
                    else (PointService.refundUsedPoints db.ledger now user order.usedPoints o
                      .cancelRefund).2
                  products order.items ++ refundUsedPoints db.ledger user order.usedPoints o ++
                    deductEarned refunded now user order
              | _, _ => []

/-! ## Webhooks -/

/-- The earning of `handle_payment_done`. -/
def earnOnDone (db : Db) (order : Order) : List Row :=
  if order.earnedPoints ≠ 0 then []
  else addPoints order.user (earnPoints order.totalAmount (db.membership order.user).earnRate)

/-- `handle_payment_done`. -/
def handlePaymentDone (db : Db) (now : Time) (event : TossPayment) : List Row :=
  match event.orderId with
  | none => []
  | some id =>
    if TossWebhookService.isWebhookDuplicate db now id .done then []
    else
      match db.payments.ofTossOrderId? id with
      | none => []
      | some (k, payment) =>
        .payment k ::
          if payment.status.isOpen = false then []
          else
            match db.orders.get? payment.order with
            | none => []
            | some order =>
              .order payment.order ::
                if saves db k (payment.markAsPaid now event) = false ∨ order.status = .canceled ∨
                    order.status = .paid then []
                else
                  products order.items ++ deactivateCarts db order.user ++ earnOnDone db order

/-- The statuses whose stock `handle_payment_canceled` gives back. -/
def restoresStock (order : Order) : Prop :=
  order.status = .confirmed ∨ order.status = .paid ∨ order.status = .preparing

instance (order : Order) : Decidable (restoresStock order) :=
  inferInstanceAs (Decidable (_ ∨ _ ∨ _))

/-- The points of `handle_payment_canceled`: the earned ones are taken back,
the used ones returned. -/
def settlePointsOnCanceled (db : Db) (now : Time) (o : OrderId) (order : Order) : List Row :=
  let reclaims := (order.status = .paid ∨ order.status = .preparing) ∧ 0 < order.earnedPoints
  let reclaimed :=
    if reclaims then
      (PointService.usePointsFifo db.ledger now order.user order.earnedPoints .cancelDeduct
        (some o)).2
    else db.ledger
  (if reclaims then usePointsFifo db.ledger now order.user order.earnedPoints .cancelDeduct
    else []) ++
    if restoresStock order then refundUsedPoints reclaimed order.user order.usedPoints o else []

/-- `handle_payment_canceled`.  The order is read without a lock. -/
def handlePaymentCanceled (db : Db) (now : Time) (event : TossPayment) : List Row :=
  match event.orderId with
  | none => []
  | some id =>
    if TossWebhookService.isWebhookDuplicate db now id .canceled then []
    else
      match db.payments.ofTossOrderId? id with
      | none => []
      | some (k, payment) =>
        .payment k ::
          if payment.isCanceled ∨ payment.status = .aborted then []
          else
            match db.orders.get? payment.order with
            | none => []
            | some order =>
              if saves db k (payment.markAsCanceled now event) = false ∨
                  order.status = .canceled then []
              else
                (if restoresStock order then products order.items else []) ++
                  settlePointsOnCanceled db now payment.order order ++ [.order payment.order]

/-! ## Returns -/

/-- The loop over the return items that updates their products. -/
def returnedProducts (items : List ReturnItem) : List Row :=
  (items.filterMap ReturnItem.product).map .product

/-- The steps 5 and 6 of `complete_refund`. -/
def settleReturn (db : Db) (now : Time) (r : Return) (s : RefundSplit) (id : Nat) : List Row :=
  let repaid :=
    if s.pointsBack ≤ 0 then db.ledger
    else (PointService.refundUsedPoints db.ledger now r.user s.pointsBack r.order .cancelRefund
      (some id)).2
  returnedProducts r.items ++ refundUsedPoints db.ledger r.user s.pointsBack r.order ++
    if s.earnedBack ≤ 0 then []
    else usePointsFifo repaid now r.user s.earnedBack .cancelDeduct

/-- The steps 3 to 6, from the checks on. -/
def checkedReturn (db : Db) (now : Time) (r : Return) (s : RefundSplit) (id : Nat)
    (toss : Except TossPaymentError TossPayment) : List Row :=
  match ReturnService.checkEarned db now r.user s,
    ReturnService.checkBalance (db.payments.ofOrder? r.order) s.cashBack with
  | .ok _, .ok _ =>
    if s.cashBack ≤ 0 then settleReturn db now r s id
    else
      match db.payments.ofOrder? r.order, toss with
      | some (k, payment), .ok data =>
        if saves db k (payment.markAsPartialCanceled now s.cashBack data) then
          settleReturn db now r s id
        else []
      | _, _ => []
  | _, _ => []

/-- `Payment.objects.select_for_update().filter(order_id=...).first()`. -/
def paymentOf (db : Db) (o : OrderId) : List Row :=
  ((db.payments.ofOrder? o).map fun e => Row.payment e.1).toList

/-- `complete_refund`, without the rows of the returns. -/
def completeRefund (db : Db) (now : Time) (id : Nat)
    (toss : Except TossPaymentError TossPayment) : List Row :=
  match db.returns.get? id with
  | none => []
  | some r =>
    if r.type ≠ .refund ∨ r.status ≠ .received ∨ ReturnService.isSettled db id then []
    else
      paymentOf db r.order ++
        match db.orders.get? r.order with
        | none => []
        | some order =>
          .order r.order :: .user r.user ::
            checkedReturn db now r (ReturnService.refundSplit db order r) id toss

end RowLocks

/-! ## The transactions -/

/-- The transactions, each with its arguments and what the provider answers
it. -/
inductive Call where
  | processOrderHeavyTasks (o : OrderId) (cart : CartId) (usePoints : Int)
  | createPayment (o : OrderId) (user : UserId) (key : Option String)
  | cancelOrder (o : OrderId)
  | expireOrder (o : OrderId)
  | rollbackPaymentFailure (o : OrderId)
  | finalizePaymentConfirm (response : TossPayment) (k : Nat) (user : UserId)
  | completePointsOnlyPayment (o : OrderId) (seen : Order) (user : UserId)
  | cancelPayment (k : Nat) (user : UserId) (toss : Except TossPaymentError TossPayment)
  | handlePaymentDone (event : TossPayment)
  | handlePaymentCanceled (event : TossPayment)
  | completeRefund (id : Nat) (toss : Except TossPaymentError TossPayment)
  | expireOne (k : Nat) (seen : PointHistory)

/-- A transaction with the clock and with the database as it reads it. -/
structure Txn where
  db : Db
  now : Time
  call : Call

/-- The rows that a transaction locks, in order. -/
def Txn.rows (t : Txn) : List Row :=
  match t.call with
  | .processOrderHeavyTasks o cart usePoints =>
    RowLocks.processOrderHeavyTasks t.db t.now o cart usePoints
  | .createPayment o user key => RowLocks.createPayment t.db t.now o user key
  | .cancelOrder o => RowLocks.cancelOrder t.db o
  | .expireOrder o => RowLocks.expireOrder t.db o
  | .rollbackPaymentFailure o => RowLocks.rollbackPaymentFailure t.db o
  | .finalizePaymentConfirm response k user =>
    RowLocks.finalizePaymentConfirm t.db t.now response k user
  | .completePointsOnlyPayment o seen user =>
    RowLocks.completePointsOnlyPayment t.db o seen user
  | .cancelPayment k user toss => RowLocks.cancelPayment t.db t.now k user toss
  | .handlePaymentDone event => RowLocks.handlePaymentDone t.db t.now event
  | .handlePaymentCanceled event => RowLocks.handlePaymentCanceled t.db t.now event
  | .completeRefund id toss => RowLocks.completeRefund t.db t.now id toss
  | .expireOne k seen => RowLocks.expireOne t.db.ledger k seen

end Shopping
