import Shopping.Payments.Service

/-!
# Payment tasks

The Celery tasks of `shopping/tasks/payment_tasks.py` and
`add_points_after_payment` of `shopping/tasks/point_tasks.py`.

`call_toss_confirm_api` has no transaction: it asks the provider and then
writes a log, the failure status and the rollback message.  What it decides
is `confirmDecision`, a function of the provider's answers and of whether a
retry is left; `markConfirmAborted` is its one write to a payment.

The alerts to the operators and the fault injection are left out: the first
only write a server log, the second is off outside of experiments.
-/

namespace Shopping

namespace PaymentTasks

/-! ## Asking the provider -/

/-- `_mark_confirm_aborted`. -/
def markConfirmAborted (db : Db) (o : OrderId) : Db :=
  { db with payments := db.payments.setStatus (fun _ p => decide (p.order = o)) .aborted }

/-- What `call_toss_confirm_api` gets from the provider: the answer to the
confirmation, the answer to the lookup that may follow, or its time limit. -/
inductive TossAnswer where
  | confirmed (response : TossPayment)
  | refused (error : TossPaymentError) (lookup : Except TossPaymentError TossPayment)
  | softTimeLimitExceeded
  deriving DecidableEq, Repr

/-- What `call_toss_confirm_api` does next. -/
inductive ConfirmDecision where
  /-- Return the response: the chain goes on with the finalisation. -/
  | finalize (response : TossPayment) (reconciled : Option String)
  /-- Retry, with the log that is written first. -/
  | retry (log : Option String)
  /-- Give up without a rollback, with the log. -/
  | unresolved (log : Option String)
  /-- Give up, mark the payment aborted and publish the rollback. -/
  | abort (log reason : String)
  deriving DecidableEq, Repr

/-- `order_id_matches and amount_matches`. -/
def matchesCharge (data : TossPayment) (tossOrderId : TossOrderId) (amount : Int) : Bool :=
  decide (data.orderId = some tossOrderId) && decide (data.totalAmount = some amount)

/-- The response stands for a confirmation of this charge. -/
def confirmsCharge (data : TossPayment) (tossOrderId : TossOrderId) (amount : Int) : Bool :=
  (decide (data.status = some .done) || decide (data.status = some .waitingForDeposit)) &&
    matchesCharge data tossOrderId amount

/-- The branches of `call_toss_confirm_api` on an error that is not taken for
a confirmation; `retriesLeft` is `task.request.retries < task.max_retries`. -/
def refusedDecision (e : TossPaymentError) (retriesLeft : Bool) : ConfirmDecision :=
  let log := "Toss API 호출 실패: " ++ e.message
  if e.code ∈ tossNonRetryableErrors then .abort log ("결제 실패: " ++ e.message)
  else if e.code ∈ tossRetryableErrors then
    if retriesLeft then .retry (some log)
    else .abort log ("결제 실패 (재시도 초과): " ++ e.message)
  else if 500 ≤ e.statusCode then
    if retriesLeft then .retry (some log)
    else .abort log ("결제 실패 (서버 오류 재시도 초과): " ++ e.message)
  else .abort log ("결제 실패: " ++ e.message)

/-- `call_toss_confirm_api`, with `_reconcile_confirmed_payment`. -/
def confirmDecision (tossOrderId : TossOrderId) (amount : Int) (retriesLeft : Bool) :
    TossAnswer → ConfirmDecision
  | .confirmed response => .finalize response none
  | .softTimeLimitExceeded =>
    let log := some "결제 처리 시간 초과 — 재시도로 승인 여부 확인"
    if retriesLeft then .retry log else .unresolved log
  | .refused e lookup =>
    if e.code ∈ tossReconcileErrors then
      match lookup with
      | .error _ =>
        if retriesLeft then .retry none
        else .unresolved (some "승인 여부 미확인 (조회 API 재시도 소진) — 수동 대사 필요")
      | .ok data =>
        if confirmsCharge data tossOrderId amount then
          .finalize data (some (e.code ++ " 수신 → 조회 API 로 승인 확인 (대사)"))
        else refusedDecision e retriesLeft
    else refusedDecision e retriesLeft

/-- The log on the order's payment, when there is one. -/
def logOnPayment (db : Db) (o : OrderId) (logType : LogType) (message : String) : Db :=
  match db.payments.ofOrder? o with
  | none => db
  | some (k, _) => db.log k logType message

/-- One execution of `call_toss_confirm_api` for the payment `k`: what it
writes, and the messages it publishes.  `published` says whether the broker
takes the rollback. -/
def callTossConfirmApi (db : Db) (o : OrderId) (amount : Int) (tossOrderId : TossOrderId)
    (k : Nat) (user : UserId) (answer : TossAnswer) (retriesLeft published : Bool) :
    Outcome ConfirmDecision :=
  let decision := confirmDecision tossOrderId amount retriesLeft answer
  match decision with
  | .finalize response reconciled =>
    { result := decision
      db := match reconciled with
        | none => db
        | some message => logOnPayment db o .approve message
      sent := [.finalize response k user] }
  | .retry log =>
    { result := decision
      db := match log with
        | none => db
        | some message => logOnPayment db o .error message }
  | .unresolved log =>
    { result := decision
      db := match log with
        | none => db
        | some message => logOnPayment db o .error message }
  | .abort log reason =>
    { result := decision
      db := markConfirmAborted (logOnPayment db o .error log) o
      sent := if published then [.rollback o reason] else [] }

/-! ## Finalising -/

/-- The results of `finalize_payment_confirm`. -/
inductive FinalizeResult where
  | alreadyProcessed
  | waitingForDeposit
  | orderCanceled
  | success
  deriving DecidableEq, Repr

/-- `finalize_payment_confirm`; `published` says whether the broker takes the
earning task. -/
def finalizePaymentConfirm (db : Db) (now : Time) (response : TossPayment) (k : Nat)
    (user : UserId) (published : Bool) : Except ShopError (Outcome FinalizeResult) := do
  let payment ← db.getPayment k
  if payment.isPaid then .ok { result := .alreadyProcessed, db := db }
  else if response.status = some .waitingForDeposit then do
    let issued ← PaymentService.recordVirtualAccountIssued db now k payment response
    .ok { result := .waitingForDeposit, db := issued }
  else do
    let order ← db.getOrder payment.order
    let row ← payment.markAsPaid now response
    let saved ← db.savePayment k row
    if order.status = .canceled then
      .ok
        { result := .orderCanceled
          db := saved.log k .error "취소된 주문의 결제가 승인됨 — 결제 취소로 환불 필요" }
    else
      .ok
        { result := .success
          db := (((saved.updateItems addSold order.items).saveOrder payment.order
            (Order.withPaid row.method now)).deactivateCarts user).log k .approve "결제 승인 완료"
          sent := if decide (0 < order.finalAmount) && published then
              [.addPoints user payment.order]
            else [] }

/-- The log of `_alert_finalize_exhausted`. -/
def alertFinalizeExhausted (db : Db) (k : Nat) : Db :=
  match db.payments.get? k with
  | none => db
  | some _ => db.log k .error "결제 최종 처리 재시도 소진 — 토스 승인분 미반영, 대사 대기"

/-! ## Rolling back -/

/-- The results of `rollback_payment_failure`. -/
inductive RollbackResult where
  | alreadyProcessed
  | paidOrder
  | skipped
  | orderNotFound
  | success
  deriving DecidableEq, Repr

/-- The last step of `rollback_payment_failure`: the payment and its log. -/
def abortPaymentOf (db : Db) (o : OrderId) (reason : String) : Db :=
  match db.payments.ofOrder? o with
  | none => db
  | some (k, _) =>
    let unfailed := fun j (p : Payment) =>
      decide (j = k) && decide (p.status ≠ .aborted ∧ p.status ≠ .expired)
    { db with payments := db.payments.setStatus unfailed .aborted }.log k .rollback
      ("결제 실패 롤백 처리: " ++ reason)

/-- `rollback_payment_failure`. -/
def rollbackPaymentFailure (db : Db) (now : Time) (o : OrderId) (reason : String) :
    RollbackResult × Db :=
  match db.orders.get? o with
  | none => (.orderNotFound, db)
  | some order =>
    if order.status = .paymentFailed ∨ order.status = .canceled then (.alreadyProcessed, db)
    else if order.status = .paid then (.paidOrder, db)
    else if order.status ≠ .pending ∧ order.status ≠ .confirmed then (.skipped, db)
    else
      let restocked := db.updateItems addStock order.items
      let refunded :=
        if 0 < order.usedPoints then
          restocked.refundUsedPoints now order.user order.usedPoints o .paymentFailRefund
        else restocked
      let failed := refunded.saveOrder o (Order.withFailure .paymentFailed
        (if reason = "" then "결제 승인 실패" else reason) now)
      (.success, abortPaymentOf failed o reason)

/-! ## Watching -/

/-- `detect_orphaned_orders`: the rollbacks it publishes. -/
def detectOrphanedOrders (db : Db) (now threshold : Time) : List Message :=
  (db.orders.select fun o order =>
    decide (order.status = .confirmed) && decide (order.updatedAt + threshold < now) &&
      (db.payments.ofOrder? o).any fun e => decide (e.2.status = .aborted)).map fun e =>
        .rollback e.1 ("Orphan detection (stale for >" ++ toString (threshold / 60) ++ "min)")

/-- `RECONCILE_UNRESOLVED_MESSAGE`. -/
def reconcileUnresolvedMessage : String := "대사 미해결"

/-- `_flag_stalled_payment_unresolved`. -/
def flagStalledPaymentUnresolved (db : Db) (k : Nat) (reason : String) : Db :=
  if db.logs.any fun l =>
      decide (l.payment = k) && reconcileUnresolvedMessage.isPrefixOf l.message then db
  else db.log k .error
    (reconcileUnresolvedMessage ++ " — " ++ reason ++ " (수동 확인 필요)")

/-- `str(payment_data.get("status"))` in the log of the reconciliation. -/
def statusText : Option TossStatus → String
  | none => "None"
  | some .ready => "READY"
  | some .inProgress => "IN_PROGRESS"
  | some .waitingForDeposit => "WAITING_FOR_DEPOSIT"
  | some .done => "DONE"
  | some .canceled => "CANCELED"
  | some .partialCanceled => "PARTIAL_CANCELED"
  | some .aborted => "ABORTED"
  | some .expired => "EXPIRED"

/-- `str` of a Python boolean. -/
def boolText (b : Bool) : String := if b then "True" else "False"

/-- The loop of `reconcile_stalled_payments`; `lookup` is the provider's
answer for each payment key. -/
def reconcileLoop (lookup : String → Except TossPaymentError TossPayment) (db : Db) :
    List (Nat × Payment) → Db × List Message
  | [] => (db, [])
  | (k, payment) :: rest =>
    match Payment.truthy payment.paymentKey with
    | none =>
      reconcileLoop lookup
        (flagStalledPaymentUnresolved db k "payment_key 없음 — 토스 조회 불가") rest
    | some key =>
      match lookup key with
      | .error e =>
        if e.statusCode = 404 then
          reconcileLoop lookup (flagStalledPaymentUnresolved db k
            "토스가 모르는 결제 (승인 요청이 닿지 않음)") rest
        else reconcileLoop lookup db rest
      | .ok data =>
        if confirmsCharge data payment.tossOrderId payment.amount then
          let logged := db.log k .approve ("대사: 멈춘 결제의 토스 상태 " ++ statusText data.status
            ++ " 확인 → 결제 마감 재발행")
          let out := reconcileLoop lookup logged rest
          match db.orders.get? payment.order with
          | none => out
          | some order => (out.1, .finalize data k order.user :: out.2)
        else
          reconcileLoop lookup (flagStalledPaymentUnresolved db k
            ("토스 상태 " ++ statusText data.status ++ ", 주문번호·금액 일치 "
              ++ boolText (matchesCharge data payment.tossOrderId payment.amount))) rest

/-- `reconcile_stalled_payments`. -/
def reconcileStalledPayments (db : Db) (now stall : Time)
    (lookup : String → Except TossPaymentError TossPayment) : Db × List Message :=
  reconcileLoop lookup db (db.payments.table.select fun _ p =>
    decide (p.status = .inProgress) && decide (p.updatedAt + stall < now))

end PaymentTasks

/-! ## Earning -/

namespace PointTasks

/-- The results of `add_points_after_payment`. -/
inductive EarnResult where
  | alreadyProcessed
  | skipped
  | success (pointsAdded : Int)
  deriving DecidableEq, Repr

/-- `add_points_after_payment`. -/
def addPointsAfterPayment (db : Db) (now : Time) (user : UserId) (o : OrderId) :
    Except ShopError (EarnResult × Db) := do
  let order ← db.getOrder o
  if 0 < order.earnedPoints ∨ db.hasHistory o .earn = true then .ok (.alreadyProcessed, db)
  else if order.finalAmount ≤ 0 then .ok (.skipped, db)
  else
    let pointsToAdd := earnPoints order.totalAmount (db.membership user).earnRate
    if pointsToAdd ≤ 0 then .ok (.skipped, db)
    else
      match PointService.addPoints db.ledger now user pointsToAdd .earn (some o) with
      | .error e => .error (.db e)
      | .ok (_, ledger) =>
        let earned := { db with ledger := ledger }.saveOrder o fun x =>
          { x with earnedPoints := pointsToAdd }
        .ok (.success pointsToAdd, PaymentTasks.logOnPayment earned o .approve
          ("포인트 " ++ toString pointsToAdd ++ "점 적립"))

end PointTasks

end Shopping
