import Shopping.Lib.Run
import Shopping.Orders.Tasks
import Shopping.Payments.Tasks
import Shopping.Payments.Views
import Shopping.Payments.Webhook
import Shopping.Returns.Service

/-!
# The running shop

A `World` is the database together with what the processes around it hold:
the messages that were published, and the rows that a process read before it
writes.  None of these is ever taken away.  A message can so be delivered late,
again, or never, and a process can write with what it read any time later.

`Event` are the things that happen: a request, a delivery of a message, a
webhook, one half of a read and a later write.  `World.step` runs one of them.
A function that raises leaves the world as it was.
-/

namespace Shopping

/-- What a failure callback read before it writes. -/
inductive FailureRead where
  /-- `PaymentFailView.post`. -/
  | view (k : Nat) (payment : Payment) (code message : String)
  /-- `payment_fail`. -/
  | callback (k : Nat) (payment : Payment) (message : Option String)
  /-- `handle_payment_failed`. -/
  | webhook (k : Nat) (payment : Payment) (event : TossPayment)
  deriving DecidableEq, Repr

/-- The row that was read, under its key. -/
def FailureRead.row : FailureRead → Nat × Payment
  | .view k payment _ _ => (k, payment)
  | .callback k payment _ => (k, payment)
  | .webhook k payment _ => (k, payment)

/-- What `create_order_hybrid` knows before its transaction. -/
structure OrderRequest where
  user : UserId
  cart : CartId
  draft : OrderService.OrderDraft
  deriving DecidableEq, Repr

/-- The database and what the processes hold.  `confirming` lists the payments
with the order for which `confirm_payment_async` committed and the outcome is
not recorded yet; `canceledAtToss` are the orders whose charge the provider
canceled; `refunds` are the refunds completed so far, each with its order. -/
structure World where
  db : Db
  messages : List Message := []
  orderRequests : List OrderRequest := []
  orderReads : List (OrderId × Order) := []
  failureReads : List FailureRead := []
  paymentRequests : List PaymentService.PaymentRequest := []
  confirming : List (Nat × OrderId) := []
  canceledAtToss : List OrderId := []
  refunds : List (OrderId × RefundSplit) := []

/-- The surroundings of a delivery: what the provider answers, whether the
task has a retry left, and whether the broker takes what it publishes. -/
structure Delivery where
  answer : PaymentTasks.TossAnswer := .softTimeLimitExceeded
  retriesLeft : Bool := true
  published : Bool := true
  deriving DecidableEq, Repr

/-- What can happen to orders, payments and returns.  The expiry of points, the
checks of the SLA and the recovery of payments are no events here. -/
inductive Event where
  | requestOrder (user : UserId) (cart : CartId) (postalCode : String) (usePoints : Int)
  /-- The transaction of `create_order_hybrid` on the n-th request. -/
  | placeOrder (n : Nat) (published : Bool)
  /-- Reads an order: a view, or a candidate of the tasks that repair. -/
  | readOrder (o : OrderId)
  /-- One round of the loop of `republish_stalled_orders`, on the n-th order
  read. -/
  | republishStalled (n : Nat) (giveUp : Time) (published : Bool)
  | cancelOrder (o : OrderId)
  /-- `cancel_by_customer` with the n-th order read. -/
  | cancelByCustomer (n : Nat) (user : UserId) (toss : Except TossPaymentError TossPayment)
  | expireOrder (o : OrderId)
  | validateRequest (o : OrderId) (user : UserId) (isStaff : Bool)
  /-- `PaymentRequestSerializer.create` after the n-th validation. -/
  | createRequest (n : Nat) (method : String) (key : Option String)
  | confirmAsync (k : Nat) (paymentKey : String) (amount : Int) (user : UserId) (published : Bool)
  | confirmSync (k : Nat) (user : UserId) (toss : Except TossPaymentError TossPayment)
  /-- Delivers the n-th message. -/
  | deliver (n : Nat) (delivery : Delivery)
  | detectOrphaned (threshold : Time)
  | reconcile (stall : Time) (lookup : String → Except TossPaymentError TossPayment)
  | readForFailView (id : TossOrderId) (user : UserId) (code message : String)
  | readForFailCallback (id : TossOrderId) (message : Option String)
  | readForFailWebhook (event : TossPayment)
  /-- The write that follows the n-th of these reads. -/
  | writeFailure (n : Nat) (published : Bool)
  | webhookDone (event : TossPayment)
  | webhookCanceled (event : TossPayment)
  | webhookWaiting (event : TossPayment)
  | cancelPayment (k : Nat) (user : UserId) (toss : Except TossPaymentError TossPayment)
  | cancelVirtualAccount (o : OrderId) (user : UserId)
      (toss : Except TossPaymentError TossPayment)
  /-- `complete_points_only_payment` with the n-th order read. -/
  | completePointsOnly (n : Nat) (user : UserId)
  | completeRefund (id : Nat) (toss : Except TossPaymentError TossPayment)

namespace World

variable {α : Type}

/-- The world after a call, which is as before when the call raises. -/
def after (w : World) (x : Except ShopError α) (f : α → World) : World :=
  match x with
  | .ok a => f a
  | .error _ => w

/-- The world with the tables that a call committed and what it published. -/
def commit (w : World) (db : Db) (sent : List Message := []) : World :=
  { w with db := db, messages := w.messages ++ sent }

/-- The outcome of the confirmation of the payment `k` is recorded. -/
def resolve (w : World) (k : Nat) : World :=
  { w with confirming := w.confirming.filter fun c => decide (c.1 ≠ k) }

/-- The outcome of every confirmation of the order `o` is recorded. -/
def resolveOrder (w : World) (o : OrderId) : World :=
  { w with confirming := w.confirming.filter fun c => decide (c.2 ≠ o) }

/-- The charge of the order was canceled at the provider. -/
def noteCanceled (w : World) (o : Option OrderId) : World :=
  { w with canceledAtToss := o.toList ++ w.canceledAtToss }

/-- The order of the payment `k`. -/
def orderOfPayment (w : World) (k : Nat) : Option OrderId :=
  (w.db.payments.get? k).map Payment.order

/-- The order of the payment with the order number `id`. -/
def orderOfTossId (w : World) (id : Option TossOrderId) : Option OrderId :=
  (id.bind w.db.payments.ofTossOrderId?).map fun e => e.2.order

/-- One execution of the task of a message. -/
def deliver (w : World) (now : Time) (d : Delivery) : Message → World
  | .processOrder o cart usePoints =>
    w.after (OrderTasks.processOrderHeavyTasks w.db now o cart usePoints) fun out =>
      w.commit out.db
  | .confirm _ o amount id k user =>
    let out := PaymentTasks.callTossConfirmApi w.db o amount id k user d.answer d.retriesLeft
      d.published
    let next := w.commit out.db out.sent
    match out.result with
    | .abort _ _ => next.resolveOrder o
    | _ => next
  | .finalize response k user =>
    match PaymentTasks.finalizePaymentConfirm w.db now response k user d.published with
    | .ok out => (w.commit out.db out.sent).resolve k
    | .error _ =>
      if d.retriesLeft then w else w.commit (PaymentTasks.alertFinalizeExhausted w.db k)
  | .rollback o reason =>
    (w.commit (PaymentTasks.rollbackPaymentFailure w.db now o reason).2).resolveOrder o
  | .addPoints user o =>
    w.after (PointTasks.addPointsAfterPayment w.db now user o) fun out => w.commit out.2

/-- The write of a failure callback with what it read. -/
def writeFailure (w : World) (now : Time) (published : Bool) : FailureRead → World
  | .view k payment code message =>
    w.after (PaymentViews.postFailure w.db now k payment code message) fun db => w.commit db
  | .callback k payment message =>
    w.after (PaymentViews.paymentFail w.db now k payment message) fun db => w.commit db
  | .webhook k payment event =>
    w.after (TossWebhookService.failPayment w.db now k payment event published) fun out =>
      w.commit out.db out.sent

/-- The payment of the order number, as a failure callback reads it. -/
def readPayment (w : World) (id : Option TossOrderId) (f : Nat → Payment → FailureRead) : World :=
  match id.bind w.db.payments.ofTossOrderId? with
  | none => w
  | some (k, payment) => { w with failureReads := w.failureReads ++ [f k payment] }

/-- What happens in one event. -/
def run (w : World) (now : Time) : Event → World
  | .requestOrder user cart postalCode usePoints =>
    w.after (OrderService.OrderDraft.of w.db user cart postalCode usePoints) fun draft =>
      { w with orderRequests := w.orderRequests ++ [⟨user, cart, draft⟩] }
  | .placeOrder n published =>
    match w.orderRequests[n]? with
    | none => w
    | some r =>
      w.after (OrderService.placeOrder w.db now r.user r.cart r.draft) fun out =>
        w.commit out.2 (if published then [.processOrder out.1 r.cart r.draft.usePoints] else [])
  | .readOrder o =>
    match w.db.orders.get? o with
    | none => w
    | some order => { w with orderReads := w.orderReads ++ [(o, order)] }
  | .republishStalled n giveUp published =>
    match w.orderReads[n]? with
    | none => w
    | some seen =>
      let out := OrderTasks.republishLoop now giveUp (fun _ => published) w.db [seen]
      w.commit out.1 out.2
  | .cancelOrder o =>
    w.after (OrderService.cancelOrder w.db now o) fun db => w.commit db
  | .cancelByCustomer n user toss =>
    match w.orderReads[n]? with
    | none => w
    | some (o, order) =>
      w.after (PaymentService.cancelByCustomer w.db now o order user toss) fun out =>
        let next := w.commit out.2
        if out.1.refunded || (w.db.payments.ofOrder? o).any fun e => e.2.isWaitingForDeposit then
          next.noteCanceled (some o)
        else next
  | .expireOrder o =>
    w.after (OrderTasks.expireOrder w.db now o) fun out => w.commit out.2
  | .validateRequest o user isStaff =>
    w.after (PaymentService.validateOrderId w.db o user isStaff) fun request =>
      { w with paymentRequests := w.paymentRequests ++ [request] }
  | .createRequest n method key =>
    match w.paymentRequests[n]? with
    | none => w
    | some request =>
      w.after (PaymentService.createFromRequest w.db now request method key) fun out =>
        w.commit out.2
  | .confirmAsync k paymentKey amount user published =>
    match w.orderOfPayment k with
    | none => w
    | some o =>
      w.after (PaymentService.confirmPaymentAsync w.db now k paymentKey o amount user
        published) fun out =>
          let next := w.commit out.db out.sent
          { next with confirming := (k, o) :: next.confirming }
  | .confirmSync k user toss =>
    w.after (PaymentService.confirmPaymentSync w.db now k user toss) fun out =>
      (w.commit out.2).resolve k
  | .deliver n delivery =>
    match w.messages[n]? with
    | none => w
    | some m => w.deliver now delivery m
  | .detectOrphaned threshold =>
    w.commit w.db (PaymentTasks.detectOrphanedOrders w.db now threshold)
  | .reconcile stall lookup =>
    let out := PaymentTasks.reconcileStalledPayments w.db now stall lookup
    w.commit out.1 out.2
  | .readForFailView id user code message =>
    w.after (PaymentViews.readForFailure w.db id user) fun seen =>
      { w with failureReads := w.failureReads ++ [.view seen.1 seen.2 code message] }
  | .readForFailCallback id message =>
    w.readPayment (some id) fun k payment => .callback k payment message
  | .readForFailWebhook event =>
    match event.orderId.bind w.db.payments.ofTossOrderId? with
    | none => w
    | some (k, payment) =>
      if TossWebhookService.acceptsFailure payment then
        { w with failureReads := w.failureReads ++ [.webhook k payment event] }
      else w
  | .writeFailure n published =>
    match w.failureReads[n]? with
    | none => w
    | some seen => w.writeFailure now published seen
  | .webhookDone event =>
    w.after (TossWebhookService.handlePaymentDone w.db now event) fun out => w.commit out.2
  | .webhookCanceled event =>
    w.after (TossWebhookService.handlePaymentCanceled w.db now event) fun out =>
      (w.commit out.2).noteCanceled (w.orderOfTossId event.orderId)
  | .webhookWaiting event =>
    w.after (TossWebhookService.handleWaitingForDeposit w.db now event) fun out => w.commit out.2
  | .cancelPayment k user toss =>
    w.after (PaymentService.cancelPayment w.db now k user toss) fun out =>
      (w.commit out.2).noteCanceled (w.orderOfPayment k)
  | .cancelVirtualAccount o user toss =>
    w.after (PaymentService.cancelVirtualAccountBeforeDeposit w.db now o user toss) fun db =>
      (w.commit db).noteCanceled (some o)
  | .completePointsOnly n user =>
    match w.orderReads[n]? with
    | none => w
    | some (o, order) =>
      w.after (PaymentService.completePointsOnlyPayment w.db now o order user) fun out =>
        w.commit out.2
  | .completeRefund id toss =>
    match w.db.returns.get? id with
    | none => w
    | some r =>
      w.after (ReturnService.completeRefund w.db now id toss) fun out =>
        { w.commit out.2 with refunds := w.refunds ++ [(r.order, out.1)] }

/-- The step of the shop: every event can happen in every world. -/
def step (w : World) (e : Time × Event) : Option World := some (w.run e.1 e.2)

/-! ## A shop with one order

The order 1 of the user 7 has one item of the product 1, and the payment 1. -/

/-- The order with its one item. -/
def oneOrder (status : OrderStatus) : Order :=
  { user := 7, status := status, totalAmount := 10000, finalAmount := 13000, shippingFee := 3000,
    items := [⟨some 1, "책", 1, 10000⟩], createdAt := 0, updatedAt := 0 }

/-- The payment of the order. -/
def onePayment (status : PaymentStatus) : Payment :=
  { order := 1, tossOrderId := .orderNumber 1, amount := 13000, method := "card",
    status := status, updatedAt := 0 }

/-- The shop with the order in one status and its payment in another. -/
def shop (order : OrderStatus) (payment : PaymentStatus) : World :=
  { db :=
      { ledger := Ledger.empty
        membership := fun _ => .bronze
        products := Table.empty.insert ⟨"책", 10000, 9, 0, true⟩
        carts := Table.empty
        orders := Table.empty.insert (oneOrder order)
        payments := PaymentTable.single (onePayment payment)
        logs := []
        returns := Table.empty
        idempotencyKeys := []
        webhookMarks := [] } }

/-- The provider's approval of the payment. -/
def approval : TossPayment :=
  { status := some .done, orderId := some (.orderNumber 1), paymentKey := some "key",
    totalAmount := some 13000, approvedAt := some 5, method := .value "카드" }

end World

end Shopping
