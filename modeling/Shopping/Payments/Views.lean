import Shopping.Payments.Service

/-!
# The views of a payment

The views of `shopping/views/payment_views.py` that end a payment.  A
confirmation comes through `PaymentConfirmView` with the validation of
`PaymentConfirmSerializer`, or through the callback `payment_success`, which
takes the amount from its query.

`PaymentFailView.post` and `payment_fail` read the payment without a lock and
save the row they read, so each is a read with its checks and a write of the
row as it was read.
-/

namespace Shopping

namespace PaymentViews

/-! ## Confirming -/

/-- `PaymentConfirmSerializer.validate`: the key of the payment. -/
def validateConfirm (db : Db) (o : OrderId) (amount : Int) (user : UserId) :
    Except ShopError Nat :=
  match (db.payments.ofOrder? o).filter fun _ =>
      (db.orders.get? o).any fun order => decide (order.user = user) with
  | none => .error (.validationError "결제 정보를 찾을 수 없습니다.")
  | some (k, payment) =>
    if payment.isPaid then .error (.validationError "이미 완료된 결제입니다.")
    else if payment.status.isInvalid then
      .error (.validationError ("유효하지 않은 결제 상태입니다: " ++ payment.status.display))
    else if payment.amount ≠ amount then
      .error (.validationError ("결제 금액이 일치하지 않습니다. (예상: "
        ++ toString payment.amount ++ ", 실제: " ++ toString amount ++ ")"))
    else .ok k

/-- `payment_success` for the `orderId` of its query; its `amount` and
`paymentKey` only go to the provider, whose answer is `toss`. -/
def paymentSuccess (db : Db) (now : Time) (id : TossOrderId) (user : UserId)
    (toss : Except TossPaymentError TossPayment) :
    Except ShopError (PaymentService.ConfirmResult × Db) :=
  match db.payments.ofTossOrderId? id with
  | none => .error (.db .doesNotExist)
  | some (k, _) => PaymentService.confirmPaymentSync db now k user toss

/-! ## Failing -/

/-- The read of `PaymentFailView.post`: `PaymentFailSerializer.validate_order_id`
and the check that the payment is the user's. -/
def readForFailure (db : Db) (id : TossOrderId) (user : UserId) :
    Except ShopError (Nat × Payment) :=
  match db.payments.ofTossOrderId? id with
  | none => .error (.validationError "결제 정보를 찾을 수 없습니다.")
  | some (k, payment) => do
    if payment.status = .done then .error (.validationError "이미 완료된 결제입니다.")
    else if payment.status = .canceled then
      .error (.validationError "이미 취소된 결제입니다.")
    else
      let order ← db.getOrder payment.order
      if order.user ≠ user then .error (.validationError "결제 정보를 찾을 수 없습니다.")
      else .ok (k, payment)

/-- The write of `PaymentFailView.post` with the row it read as `payment`. -/
def postFailure (db : Db) (now : Time) (k : Nat) (payment : Payment) (code message : String) :
    Except ShopError Db := do
  let saved ← db.savePayment k
    (payment.markAsFailed now ("[" ++ code ++ "] " ++ message))
  .ok (saved.log k .error ("결제 실패: " ++ code))

/-- The write of `payment_fail` with the row it read as `payment`.  The
message is a query parameter, so it can be missing. -/
def paymentFail (db : Db) (now : Time) (k : Nat) (payment : Payment) :
    Option String → Except ShopError Db
  | none => .error (.db .integrityError)
  | some message => db.savePayment k (payment.markAsFailed now message)

end PaymentViews

end Shopping
