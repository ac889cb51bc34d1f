import Shopping.Models.Order

/-!
# The database

All tables, and the two kinds of cache keys, in one record.  A function of
the shop that runs in `transaction.atomic()` is a function on this record that
answers `Except`: what raises leaves the database as it was.

`Message` are the Celery tasks with their arguments.  A function answers the
messages it publishes next to the database.
-/

namespace Shopping

/-- `User.membership_level`. -/
inductive Membership where
  | bronze
  | silver
  | gold
  | vip
  deriving DecidableEq, Repr

/-- `User.get_earn_rate`, in percent. -/
def Membership.earnRate : Membership → Int
  | .bronze => 1
  | .silver => 2
  | .gold => 3
  | .vip => 5

/-- `Return.TYPE_CHOICES`. -/
inductive ReturnType where
  | refund
  | exchange
  deriving DecidableEq, Repr

/-- `Return.STATUS_CHOICES`. -/
inductive ReturnStatus where
  | requested
  | approved
  | rejected
  | shipping
  | received
  | completed
  deriving DecidableEq, Repr

/-- A row of the return items; `product` is `order_item.product`, and
`orderItem` the place of the item in its order. -/
structure ReturnItem where
  product : Option ProductId
  quantity : Nat
  orderItem : Nat := 0
  productPrice : Int := 0
  deriving DecidableEq, Repr

/-- A row of the returns. -/
structure Return where
  order : OrderId
  user : UserId
  returnNumber : String
  type : ReturnType := .refund
  status : ReturnStatus := .requested
  refundAmount : Int
  returnShippingFee : Int := 0
  items : List ReturnItem := []
  exchangeProduct : Option ProductId := none
  approvedAt : Option Time := none
  completedAt : Option Time := none
  rejectedReason : String := ""
  deriving DecidableEq, Repr

/-- The Celery messages. -/
inductive Message where
  /-- `process_order_heavy_tasks`. -/
  | processOrder (order : OrderId) (cart : CartId) (usePoints : Int)
  /-- The chain of `call_toss_confirm_api` and `finalize_payment_confirm`. -/
  | confirm (paymentKey : String) (order : OrderId) (amount : Int) (tossOrderId : TossOrderId)
      (payment : Nat) (user : UserId)
  /-- `finalize_payment_confirm`. -/
  | finalize (response : TossPayment) (payment : Nat) (user : UserId)
  /-- `rollback_payment_failure`. -/
  | rollback (order : OrderId) (reason : String)
  /-- `add_points_after_payment`. -/
  | addPoints (user : UserId) (order : OrderId)
  deriving DecidableEq, Repr

/-- The database, and the cache keys of `payment:idempotency` and
`webhook:toss` with the time they run out. -/
structure Db where
  ledger : Ledger
  membership : UserId → Membership
  products : Table Product
  carts : Table Cart
  orders : Table Order
  payments : PaymentTable
  logs : List PaymentLog
  returns : Table Return
  idempotencyKeys : List ((UserId × OrderId × String) × (Nat × Time))
  webhookMarks : List ((TossOrderId × TossStatus) × Time)

namespace Db

/-- `Order.objects.select_for_update().get(pk=...)`. -/
def getOrder (db : Db) (o : OrderId) : Except ShopError Order :=
  match db.orders.get? o with
  | none => .error (.db .doesNotExist)
  | some order => .ok order

/-- `Payment.objects.select_for_update().get(pk=...)`. -/
def getPayment (db : Db) (k : Nat) : Except ShopError Payment :=
  match db.payments.get? k with
  | none => .error (.db .doesNotExist)
  | some payment => .ok payment

/-- `order.save(update_fields=[...])`, by the change it makes to the row. -/
def saveOrder (db : Db) (o : OrderId) (f : Order → Order) : Db :=
  { db with orders := db.orders.modify o f }

/-- `payment.save()`. -/
def savePayment (db : Db) (k : Nat) (row : Payment) : Except ShopError Db :=
  (db.payments.save k row).map fun payments => { db with payments := payments }

/-- `PaymentLog.objects.create(...)`. -/
def log (db : Db) (payment : Nat) (logType : LogType) (message : String)
    (returnId : Option Nat := none) : Db :=
  { db with logs := db.logs ++ [⟨payment, logType, message, returnId⟩] }

/-- The loop over the order items that updates their products. -/
def updateItems (db : Db) (f : Int → Product → Product) (items : List OrderItem) : Db :=
  { db with products := updateProducts db.products f items }

/-- `Cart.objects.filter(user=..., is_active=True).update(is_active=False)`. -/
def deactivateCarts (db : Db) (user : UserId) : Db :=
  { db with carts := db.carts.mapRows fun _ c =>
      if c.user = some user ∧ c.isActive = true then { c with isActive := false } else c }

/-- `refund_used_points`; its answer is not read. -/
def refundUsedPoints (db : Db) (now : Time) (user : UserId) (amount : Int) (order : OrderId)
    (type : PointType) (returnId : Option Nat := none) : Db :=
  { db with ledger :=
      (PointService.refundUsedPoints db.ledger now user amount order type returnId).2 }

/-- `PointHistory.objects.filter(order=order, type=...).exists()`. -/
def hasHistory (db : Db) (order : OrderId) (type : PointType) : Bool :=
  db.ledger.histories.any fun _ r => decide (r.order = some order) && decide (r.type = type)

section

variable (db : Db)

/-! ### What the writes leave alone -/

@[simp] theorem log_payments (k : Nat) (lt : LogType) (m : String) (r : Option Nat) :
    (db.log k lt m r).payments = db.payments := rfl
@[simp] theorem log_orders (k : Nat) (lt : LogType) (m : String) (r : Option Nat) :
    (db.log k lt m r).orders = db.orders := rfl
@[simp] theorem log_products (k : Nat) (lt : LogType) (m : String) (r : Option Nat) :
    (db.log k lt m r).products = db.products := rfl
@[simp] theorem log_ledger (k : Nat) (lt : LogType) (m : String) (r : Option Nat) :
    (db.log k lt m r).ledger = db.ledger := rfl
@[simp] theorem log_logs (k : Nat) (lt : LogType) (m : String) (r : Option Nat) :
    (db.log k lt m r).logs = db.logs ++ [⟨k, lt, m, r⟩] := rfl

@[simp] theorem saveOrder_payments (o : OrderId) (f : Order → Order) :
    (db.saveOrder o f).payments = db.payments := rfl
@[simp] theorem saveOrder_orders (o : OrderId) (f : Order → Order) :
    (db.saveOrder o f).orders = db.orders.modify o f := rfl
@[simp] theorem saveOrder_products (o : OrderId) (f : Order → Order) :
    (db.saveOrder o f).products = db.products := rfl
@[simp] theorem saveOrder_ledger (o : OrderId) (f : Order → Order) :
    (db.saveOrder o f).ledger = db.ledger := rfl
@[simp] theorem saveOrder_logs (o : OrderId) (f : Order → Order) :
    (db.saveOrder o f).logs = db.logs := rfl

@[simp] theorem updateItems_payments (f : Int → Product → Product) (items : List OrderItem) :
    (db.updateItems f items).payments = db.payments := rfl
@[simp] theorem updateItems_orders (f : Int → Product → Product) (items : List OrderItem) :
    (db.updateItems f items).orders = db.orders := rfl
@[simp] theorem updateItems_products (f : Int → Product → Product) (items : List OrderItem) :
    (db.updateItems f items).products = updateProducts db.products f items := rfl
@[simp] theorem updateItems_ledger (f : Int → Product → Product) (items : List OrderItem) :
    (db.updateItems f items).ledger = db.ledger := rfl
@[simp] theorem updateItems_logs (f : Int → Product → Product) (items : List OrderItem) :
    (db.updateItems f items).logs = db.logs := rfl

@[simp] theorem deactivateCarts_payments (u : UserId) :
    (db.deactivateCarts u).payments = db.payments := rfl
@[simp] theorem deactivateCarts_orders (u : UserId) :
    (db.deactivateCarts u).orders = db.orders := rfl
@[simp] theorem deactivateCarts_products (u : UserId) :
    (db.deactivateCarts u).products = db.products := rfl
@[simp] theorem deactivateCarts_ledger (u : UserId) :
    (db.deactivateCarts u).ledger = db.ledger := rfl
@[simp] theorem deactivateCarts_logs (u : UserId) :
    (db.deactivateCarts u).logs = db.logs := rfl

@[simp] theorem refundUsedPoints_payments (now : Time) (u : UserId) (n : Int) (o : OrderId)
    (t : PointType) (r : Option Nat) :
    (db.refundUsedPoints now u n o t r).payments = db.payments := rfl
@[simp] theorem refundUsedPoints_orders (now : Time) (u : UserId) (n : Int) (o : OrderId)
    (t : PointType) (r : Option Nat) :
    (db.refundUsedPoints now u n o t r).orders = db.orders := rfl
@[simp] theorem refundUsedPoints_products (now : Time) (u : UserId) (n : Int) (o : OrderId)
    (t : PointType) (r : Option Nat) :
    (db.refundUsedPoints now u n o t r).products = db.products := rfl
@[simp] theorem refundUsedPoints_logs (now : Time) (u : UserId) (n : Int) (o : OrderId)
    (t : PointType) (r : Option Nat) :
    (db.refundUsedPoints now u n o t r).logs = db.logs := rfl

variable {db}

theorem getOrder_eq_ok {o : OrderId} {order : Order} :
    db.getOrder o = .ok order ↔ db.orders.get? o = some order := by
  unfold getOrder
  cases db.orders.get? o with
  | none => simp
  | some x => simp

theorem getPayment_eq_ok {k : Nat} {payment : Payment} :
    db.getPayment k = .ok payment ↔ db.payments.get? k = some payment := by
  unfold getPayment
  cases db.payments.get? k with
  | none => simp
  | some x => simp

theorem savePayment_eq_ok {k : Nat} {row : Payment} {db' : Db} :
    db.savePayment k row = .ok db' ↔
      ∃ payments, db.payments.save k row = .ok payments ∧
        { db with payments := payments } = db' := by
  unfold savePayment
  exact map_eq_ok

end

end Db

/-- What a function answers: its result, the database, and what it published. -/
structure Outcome (ρ : Type) where
  result : ρ
  db : Db
  sent : List Message := []

end Shopping
