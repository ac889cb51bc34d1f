import Shopping.Orders.Service

/-!
# `PaymentService`

Requesting, confirming and cancelling a payment, from
`shopping/services/payment_service.py`, and the validation of
`PaymentRequestSerializer` in front of `create_payment`.

A call to the provider is a parameter of the function, its answer or its
error.  An object that the caller read before the transaction is a parameter
too: `create_payment` and `complete_points_only_payment` get the order as the
caller saw it.
-/

namespace Shopping

/-- `int(amount * Decimal(rate) / Decimal("100"))`. -/
def earnPoints (totalAmount rate : Int) : Int := (totalAmount * rate).tdiv 100

namespace PaymentService

/-! ## Requesting a payment -/

/-- `IDEMPOTENCY_KEY_TTL`. -/
def idempotencyKeyTtl : Time := 60

/-- `_check_idempotency_key`: the payment that the key stands for. -/
def checkIdempotencyKey (db : Db) (now : Time) (key : Option String) (o : OrderId)
    (user : UserId) : Option Nat :=
  match Payment.truthy key with
  | none => none
  | some key =>
    match db.idempotencyKeys.find? fun e =>
        decide (e.1 = (user, o, key)) && decide (now < e.2.2) with
    | none => none
    | some e =>
      match db.payments.get? e.2.1 with
      | none => none
      | some p => if p.order = o then some e.2.1 else none

/-- `_set_idempotency_key`. -/
def setIdempotencyKey (db : Db) (now : Time) (key : Option String) (o : OrderId)
    (user : UserId) (payment : Nat) : Db :=
  match Payment.truthy key with
  | none => db
  | some key =>
    { db with idempotencyKeys :=
        ((user, o, key), (payment, now + idempotencyKeyTtl)) :: db.idempotencyKeys }

/-- The delete of the order's payments, with their logs. -/
def deletePayments (db : Db) (o : OrderId) : Db :=
  { db with
    payments := db.payments.deleteOf o
    logs := db.logs.filter fun l =>
      !(db.payments.table.any fun k p => decide (p.order = o) && decide (l.payment = k)) }

/-- `create_payment` for the order that the caller read as `order`. -/
def createPayment (db : Db) (now : Time) (o : OrderId) (order : Order) (method : String)
    (key : Option String) : Except ShopError (Nat × Db) :=
  match checkIdempotencyKey db now key o order.user with
  | some payment => .ok (payment, db)
  | none => do
    let _ ← db.getOrder o
    let cleared := deletePayments db o
    let (payment, payments) ← cleared.payments.create
      { order := o
        tossOrderId := .orderNumber o
        amount := order.finalAmount
        method := method
        status := .ready
        idempotencyKey := key
        updatedAt := now }
    .ok (payment, (setIdempotencyKey { cleared with payments := payments } now key o order.user
      payment).log payment .request "결제 요청 생성")

/-- What `PaymentRequestSerializer` keeps from its validation. -/
structure PaymentRequest where
  orderId : OrderId
  order : Order
  existing : Option Nat
  deriving DecidableEq, Repr

/-- `PaymentRequestSerializer.validate_order_id`. -/
def validateOrderId (db : Db) (o : OrderId) (user : UserId) (isStaff : Bool) :
    Except ShopError PaymentRequest :=
  match db.orders.get? o with
  | none => .error (.validationError "주문을 찾을 수 없습니다.")
  | some order =>
    if isStaff = false ∧ order.user ≠ user then
      .error (.validationError "주문을 찾을 수 없습니다.")
    else
      let existing := db.payments.ofOrder? o
      if existing.any fun e => e.2.isPaid then .error (.validationError "이미 결제된 주문입니다.")
      else if order.status ≠ .confirmed then
        .error (.validationError
          ("주문 처리가 완료되지 않았습니다. 잠시 후 다시 시도해주세요. (현재 상태: "
            ++ order.status.display ++ ")"))
      else if order.totalAmount ≤ 0 then
        .error (.validationError "결제 금액이 올바르지 않습니다.")
      else .ok { orderId := o, order := order, existing := existing.map Prod.fst }

/-- `PaymentRequestSerializer.create`. -/
def createFromRequest (db : Db) (now : Time) (request : PaymentRequest) (method : String)
    (key : Option String) : Except ShopError (Nat × Db) :=
  match request.existing with
  | some payment => .ok (payment, db)
  | none => createPayment db now request.orderId request.order method (Payment.truthy key)

/-! ## Confirming a payment -/

/-- `record_virtual_account_issued`. -/
def recordVirtualAccountIssued (db : Db) (now : Time) (k : Nat) (payment : Payment)
    (data : TossPayment) : Except ShopError Db := do
  let row ← payment.markAsWaitingForDeposit now data
  let saved ← db.savePayment k row
  .ok (saved.log k .approve "가상계좌 발급 완료, 입금 대기")

/-- The results of `confirm_payment_sync`. -/
structure ConfirmResult where
  pointsEarned : Int
  receiptUrl : String
  waitingForDeposit : Bool
  deriving DecidableEq, Repr

/-- Step 6 of `confirm_payment_sync`: the points, and the log about them. -/
def earnOnConfirm (db : Db) (now : Time) (k : Nat) (o : OrderId) (order : Order)
    (user : UserId) : Except ShopError (Int × Db) :=
  if 0 < order.finalAmount then
    let pointsToAdd := earnPoints order.totalAmount order.earnRateAtOrder
    if 0 < pointsToAdd then
      match PointService.addPoints db.ledger now user pointsToAdd .earn (some o) with
      | .error e => .error (.db e)
      | .ok (_, ledger) =>
        .ok (pointsToAdd,
          ({ db with ledger := ledger }.saveOrder o fun x =>
            { x with earnedPoints := pointsToAdd }).log k .approve
              ("포인트 " ++ toString pointsToAdd ++ "점 적립"))
    else .ok (pointsToAdd, db)
  else if 0 < order.usedPoints then
    .ok (0, db.log k .approve ("포인트 " ++ toString order.usedPoints ++ "점으로 전액 결제"))
  else .ok (0, db)

/-- `confirm_payment_sync`; `toss` is the provider's answer. -/
def confirmPaymentSync (db : Db) (now : Time) (k : Nat) (user : UserId)
    (toss : Except TossPaymentError TossPayment) : Except ShopError (ConfirmResult × Db) := do
  let payment ← db.getPayment k
  if payment.isPaid then .error (.paymentConfirmError "이미 완료된 결제입니다.")
  else if payment.isWaitingForDeposit then
    .error (.paymentConfirmError "가상계좌 입금 대기 중인 결제입니다.")
  else if payment.status.isInvalid then
    .error (.paymentConfirmError ("유효하지 않은 결제 상태입니다: " ++ payment.status.display))
  else
    match toss with
    | .error e => .error (.toss e)
    | .ok data =>
      if data.status = some .waitingForDeposit then do
        let issued ← recordVirtualAccountIssued db now k payment data
        .ok ({ pointsEarned := 0, receiptUrl := "", waitingForDeposit := true }, issued)
      else do
        let order ← db.getOrder payment.order
        let row ← payment.markAsPaid now data
        let saved ← db.savePayment k row
        let paid := ((saved.updateItems addSold order.items).saveOrder payment.order
          (Order.withPaid row.method now)).deactivateCarts user
        let (pointsToAdd, earned) ← earnOnConfirm paid now k payment.order order user
        .ok ({ pointsEarned := pointsToAdd, receiptUrl := row.receiptUrl,
               waitingForDeposit := false }, earned.log k .approve "결제 승인 완료")

/-- `confirm_payment_async`: the payment is in progress once this returns;
`published` says whether the broker takes the chain. -/
def confirmPaymentAsync (db : Db) (now : Time) (k : Nat) (paymentKey : String)
    (order : OrderId) (amount : Int) (user : UserId) (published : Bool) :
    Except ShopError (Outcome Unit) := do
  let payment ← db.getPayment k
  if payment.isPaid then .error (.paymentConfirmError "이미 완료된 결제입니다.")
  else if payment.status = .inProgress then
    .error (.paymentConfirmError "이미 처리 중인 결제입니다.")
  else if payment.isWaitingForDeposit then
    .error (.paymentConfirmError "가상계좌 입금 대기 중인 결제입니다.")
  else if payment.status.isInvalid then
    .error (.paymentConfirmError ("유효하지 않은 결제 상태입니다: " ++ payment.status.display))
  else
    match db.savePayment k
        { payment with status := .inProgress, paymentKey := some paymentKey, updatedAt := now } with
    | .error _ => .error (.paymentConfirmError "유효하지 않은 결제 키입니다.")
    | .ok saved =>
      .ok
        { result := ()
          db := saved
          sent := if published then
              [.confirm paymentKey order amount payment.tossOrderId k user]
            else [] }

/-! ## Cancelling a payment -/

/-- What `cancel_payment` answers. -/
structure CancelResult where
  canceledAmount : Int
  pointsRefunded : Int
  pointsDeducted : Int
  deriving DecidableEq, Repr

/-- Step 5 of `cancel_payment`: the earned points that the order gave can
still be taken back. -/
def checkReclaimable (db : Db) (now : Time) (user : UserId) (order : Order) :
    Except ShopError Unit :=
  if order.status = .canceled ∨ order.earnedPoints ≤ 0 then .ok ()
  else
    let reclaimable := min (db.ledger.points user + order.usedPoints)
      (PointService.getUsablePoints db.ledger now user)
    if reclaimable < order.earnedPoints then
      .error (.paymentCancelError
        ("포인트가 부족하여 결제를 취소할 수 없습니다. 적립 포인트를 이미 사용했습니다. (회수 필요: "
          ++ toString order.earnedPoints ++ "P, 회수 가능: " ++ toString reclaimable ++ "P)"))
    else .ok ()

/-- Step 10-2 of `cancel_payment`: the earned points are taken back. -/
def deductEarned (db : Db) (now : Time) (k : Nat) (o : OrderId) (user : UserId)
    (order : Order) : Except ShopError Db :=
  if order.earnedPoints ≤ 0 then .ok db
  else if db.ledger.points user < order.earnedPoints then
    .error (.paymentCancelError ("포인트가 부족하여 결제를 취소할 수 없습니다. (필요: "
      ++ toString order.earnedPoints ++ "P, 보유: " ++ toString (db.ledger.points user) ++ "P)"))
  else
    let used := PointService.usePointsFifo db.ledger now user order.earnedPoints .cancelDeduct
      (some o)
    if used.1.success = false then
      .error (.valueError ("포인트 차감 실패: " ++ used.1.message))
    else
      .ok ({ db with ledger := used.2 }.log k .cancel
        ("적립 포인트 " ++ toString order.earnedPoints ++ "점 차감"))

/-- `cancel_payment`; `toss` is the provider's answer to the cancellation. -/
def cancelPayment (db : Db) (now : Time) (k : Nat) (user : UserId)
    (toss : Except TossPaymentError TossPayment) : Except ShopError (CancelResult × Db) :=
  match db.payments.get? k with
  | none => .error (.paymentCancelError "결제 정보를 찾을 수 없습니다.")
  | some payment => do
    let order ← db.getOrder payment.order
    if order.user ≠ user then .error (.paymentCancelError "결제 정보를 찾을 수 없습니다.")
    else if payment.isCanceled then .error (.paymentCancelError "이미 취소된 결제입니다.")
    else if payment.status ≠ .done then
      .error (.paymentCancelError
        ("취소할 수 없는 결제 상태입니다: " ++ payment.status.display))
    else if order.status ≠ .paid ∧ order.status ≠ .canceled then
      .error (.paymentCancelError ("결제를 취소할 수 없는 주문 상태입니다("
        ++ order.status.display ++ "). 배송이 시작된 주문은 반품으로 신청해주세요."))
    else do
      checkReclaimable db now user order
      match toss with
      | .error e => .error (.paymentCancelError ("결제 취소 실패: " ++ e.message))
      | .ok data => do
        let row ← payment.markAsCanceled now data
        let saved ← db.savePayment k row
        if order.status = .canceled then
          .ok ({ canceledAmount := row.canceledAmount, pointsRefunded := 0, pointsDeducted := 0 },
            saved.log k .cancel "이미 취소된 주문의 결제 환불 (재고·포인트는 주문 취소 때 복구됨)")
        else do
          let canceled := (saved.updateItems addStockTakeSold order.items).saveOrder payment.order
            (Order.withStatus .canceled now)
          let refunded :=
            if 0 < order.usedPoints then
              (canceled.refundUsedPoints now user order.usedPoints payment.order
                .cancelRefund).log k .cancel
                  ("사용 포인트 " ++ toString order.usedPoints ++ "점 환불")
            else canceled
          let deducted ← deductEarned refunded now k payment.order user order
          .ok ({ canceledAmount := row.canceledAmount
                 pointsRefunded := max order.usedPoints 0
                 pointsDeducted := max order.earnedPoints 0 },
            deducted.log k .cancel "결제가 성공적으로 취소되었습니다.")

/-- `cancel_virtual_account_before_deposit`. -/
def cancelVirtualAccountBeforeDeposit (db : Db) (now : Time) (o : OrderId) (user : UserId)
    (toss : Except TossPaymentError TossPayment) : Except ShopError Db :=
  match db.payments.ofOrder? o with
  | none =>
    .error (.paymentCancelError "결제 상태가 바뀌었습니다. 주문 상태를 확인한 뒤 다시 시도해주세요.")
  | some (k, payment) => do
    let order ← db.getOrder o
    if order.user ≠ user ∨ payment.status ≠ .waitingForDeposit then
      .error (.paymentCancelError
        "결제 상태가 바뀌었습니다. 주문 상태를 확인한 뒤 다시 시도해주세요.")
    else if order.status ≠ .pending ∧ order.status ≠ .confirmed then
      .error (.paymentCancelError "취소할 수 없는 주문입니다.")
    else
      match toss with
      | .error e => .error (.paymentCancelError ("가상계좌를 닫지 못했습니다: " ++ e.message))
      | .ok data => do
        let row ← payment.markAsCanceled now data
        let saved ← db.savePayment k row
        OrderService.cancelOrder (saved.log k .cancel "입금 전 가상계좌 반납 — 주문 취소") now o

/-- What `cancel_by_customer` answers. -/
structure CustomerCancel where
  refunded : Bool
  refundAmount : Int
  deriving DecidableEq, Repr

/-- `OrderService.cancel_by_customer`, for an order that the view read as
`order`.  The provider's answer is used on the two paths that call it. -/
def cancelByCustomer (db : Db) (now : Time) (o : OrderId) (order : Order) (user : UserId)
    (toss : Except TossPaymentError TossPayment) : Except ShopError (CustomerCancel × Db) :=
  if order.status = .paid then
    match db.payments.ofOrder? o with
    | none => .error (.orderServiceError "결제 정보를 찾을 수 없습니다.")
    | some (k, _) =>
      match cancelPayment db now k user toss with
      | .error (.paymentCancelError message) => .error (.orderServiceError message)
      | .error e => .error e
      | .ok out => .ok ({ refunded := true, refundAmount := out.1.canceledAmount }, out.2)
  else if (db.payments.ofOrder? o).any fun e => e.2.isWaitingForDeposit then
    match cancelVirtualAccountBeforeDeposit db now o user toss with
    | .error (.paymentCancelError message) => .error (.orderServiceError message)
    | .error e => .error e
    | .ok db' => .ok ({ refunded := false, refundAmount := 0 }, db')
  else
    (OrderService.cancelOrder db now o).map fun db' =>
      ({ refunded := false, refundAmount := 0 }, db')

/-! ## Payment with points only -/

/-- `Payment.objects.get_or_create(order=order, defaults=...)`. -/
def getOrCreatePointsPayment (db : Db) (now : Time) (o : OrderId) :
    Except ShopError (Nat × Payment × Db) :=
  match db.payments.ofOrder? o with
  | some (k, payment) => .ok (k, payment, db)
  | none =>
    let row : Payment :=
      { order := o, tossOrderId := .points o, amount := 0, method := "points", status := .ready,
        updatedAt := now }
    (db.payments.create row).map fun out => (out.1, row, { db with payments := out.2 })

/-- `complete_points_only_payment` for the order that the view read as
`seen`: the checks look at `seen`, the row is locked after them. -/
def completePointsOnlyPayment (db : Db) (now : Time) (o : OrderId) (seen : Order)
    (user : UserId) : Except ShopError (Int × Db) :=
  if seen.status ≠ .confirmed then
    .error (.paymentConfirmError ("주문 처리가 완료되지 않았습니다. (현재 상태: "
      ++ seen.status.display ++ ")"))
  else if seen.finalAmount ≠ 0 then
    .error (.paymentConfirmError ("포인트 전액 결제가 아닙니다. 결제 금액: "
      ++ toString seen.finalAmount ++ "원"))
  else
    let payable := seen.totalAmount + seen.getTotalShippingFee - seen.usedPoints
    if 0 < payable then
      .error (.paymentConfirmError
        ("사용한 포인트가 결제 금액을 덮지 않습니다. 남은 결제 금액: " ++ toString payable ++ "원"))
    else do
      let order ← db.getOrder o
      let (k, payment, found) ← getOrCreatePointsPayment db now o
      if payment.isPaid then .error (.paymentConfirmError "이미 완료된 결제입니다.")
      else do
        let saved ← found.savePayment k
          { payment with status := .done, method := "points", updatedAt := now }
        .ok (order.usedPoints,
          (((saved.updateItems addSold order.items).saveOrder o
            (Order.withPaid "points" now)).deactivateCarts user).log k .approve
              ("포인트 " ++ toString order.usedPoints ++ "점으로 전액 결제 완료"))

end PaymentService

end Shopping
