import Shopping.Payments.Service

/-!
# `TossWebhookService`

The handlers of `shopping/services/toss_webhook_service.py` for the statuses
that the provider reports.  Each locks the payment row first and decides on
its status; the marks in the cache only filter out redeliveries that come
within 60 seconds of a commit.

`handle_payment_failed` is the one handler without a transaction: it reads
the payment, and saves the row it read.
-/

namespace Shopping

namespace TossWebhookService

/-! ## Redeliveries -/

/-- `WEBHOOK_EVENT_TTL`. -/
def webhookEventTtl : Time := 60

/-- `is_webhook_duplicate`. -/
def isWebhookDuplicate (db : Db) (now : Time) (id : TossOrderId) (event : TossStatus) : Bool :=
  db.webhookMarks.any fun m => decide (m.1 = (id, event)) && decide (now < m.2)

/-- `mark_webhook_processed`. -/
def markWebhookProcessed (db : Db) (now : Time) (id : TossOrderId) (event : TossStatus) : Db :=
  if isWebhookDuplicate db now id event then db
  else { db with webhookMarks := ((id, event), now + webhookEventTtl) :: db.webhookMarks }

/-! ## Helpers -/

/-- `_restore_stock_for_order`. -/
def restoreStockForOrder (db : Db) (order : Order) (restoreSoldCount : Bool) : Db :=
  db.updateItems (if restoreSoldCount then addStockTakeSoldOrZero else addStock) order.items

/-- The log of an earning that could not be taken back. -/
def notReclaimedMessage (amount : Int) (reason message : String) : String :=
  "적립 포인트 미회수 " ++ toString amount ++ "P — " ++ reason ++ ", " ++ message
    ++ " (수동 확인 필요)"

/-- `_reclaim_earned_points`. -/
def reclaimEarnedPoints (db : Db) (now : Time) (o : OrderId) (order : Order) (k : Nat)
    (reason : String) : Bool × Db :=
  let used := PointService.usePointsFifo db.ledger now order.user order.earnedPoints
    .cancelDeduct (some o)
  let consumed := { db with ledger := used.2 }
  if used.1.success then (true, consumed)
  else (false, consumed.log k .error
    (notReclaimedMessage order.earnedPoints reason used.1.message))

/-! ## `DONE` -/

/-- The branches of `handle_payment_done`. -/
inductive DoneResult where
  | duplicate
  | paymentNotFound
  | alreadyPaid
  | chargedButFailed
  | finalState
  | depositAfterExpiry
  | chargedOnCanceledOrder
  | orderAlreadyPaid
  | settled
  deriving DecidableEq, Repr

/-- The earning of `handle_payment_done`, at the user's present rate. -/
def earnOnDone (db : Db) (now : Time) (o : OrderId) (order : Order) : Except ShopError Db :=
  if order.earnedPoints ≠ 0 then .ok db
  else
    let pointsToAdd := earnPoints order.totalAmount (db.membership order.user).earnRate
    if 0 < pointsToAdd then
      match PointService.addPoints db.ledger now order.user pointsToAdd .earn (some o) with
      | .error e => .error (.db e)
      | .ok (_, ledger) =>
        .ok ({ db with ledger := ledger }.saveOrder o fun x =>
          { x with earnedPoints := pointsToAdd })
    else .ok db

/-- `payment.method or "card"`. -/
def methodOrCard (method : String) : String := if method = "" then "card" else method

/-- `handle_payment_done`. -/
def handlePaymentDone (db : Db) (now : Time) (event : TossPayment) :
    Except ShopError (DoneResult × Db) :=
  match event.orderId with
  | none => .ok (.paymentNotFound, db)
  | some id =>
    if isWebhookDuplicate db now id .done then .ok (.duplicate, db)
    else
      match db.payments.ofTossOrderId? id with
      | none => .ok (.paymentNotFound, db)
      | some (k, payment) =>
        if payment.isPaid then .ok (.alreadyPaid, db)
        else if payment.status = .aborted then
          .ok (.chargedButFailed, db.log k .error
            "실패 처리한 결제에 토스 승인(DONE) 확인 — 수동 대사·환불 필요")
        else if payment.status = .canceled then .ok (.finalState, db)
        else if payment.status = .expired then
          .ok (.depositAfterExpiry, db.log k .error
            "만료 처리된 결제에 입금 확인 — 수동 정산 필요")
        else do
          let order ← db.getOrder payment.order
          let row ← payment.markAsPaid now event
          let saved ← db.savePayment k row
          if order.status = .canceled then
            .ok (.chargedOnCanceledOrder, markWebhookProcessed (saved.log k .error
              "취소된 주문에 결제 완료(입금) 확인 — 환불 필요") now id .done)
          else if order.status = .paid then
            .ok (.orderAlreadyPaid, markWebhookProcessed saved now id .done)
          else do
            let paid := ((saved.updateItems addSold order.items).saveOrder payment.order
              (Order.withPaid (methodOrCard row.method) now)).deactivateCarts order.user
            let earned ← earnOnDone paid now payment.order order
            .ok (.settled, markWebhookProcessed (earned.log k .webhook "결제 완료 웹훅 처리")
              now id .done)

/-! ## `CANCELED` -/

/-- The branches of `handle_payment_canceled`. -/
inductive CanceledResult where
  | duplicate
  | paymentNotFound
  | alreadyCanceled
  | alreadyFailed
  | orderAlreadyCanceled
  | canceled
  deriving DecidableEq, Repr

/-- The stock that `handle_payment_canceled` gives back. -/
def restoreOnCanceled (db : Db) (order : Order) : Db :=
  if order.status = .paid ∨ order.status = .preparing then restoreStockForOrder db order true
  else if order.status = .confirmed then restoreStockForOrder db order false
  else db

/-- The points that `handle_payment_canceled` moves. -/
def settlePointsOnCanceled (db : Db) (now : Time) (k : Nat) (o : OrderId) (order : Order) : Db :=
  let reclaimed :=
    if (order.status = .paid ∨ order.status = .preparing) ∧ 0 < order.earnedPoints then
      (reclaimEarnedPoints db now o order k "주문 취소").2
    else db
  if (order.status = .confirmed ∨ order.status = .paid ∨ order.status = .preparing) ∧
      0 < order.usedPoints then
    reclaimed.refundUsedPoints now order.user order.usedPoints o .cancelRefund
  else reclaimed

/-- `handle_payment_canceled`. -/
def handlePaymentCanceled (db : Db) (now : Time) (event : TossPayment) :
    Except ShopError (CanceledResult × Db) :=
  match event.orderId with
  | none => .ok (.paymentNotFound, db)
  | some id =>
    if isWebhookDuplicate db now id .canceled then .ok (.duplicate, db)
    else
      match db.payments.ofTossOrderId? id with
      | none => .ok (.paymentNotFound, db)
      | some (k, payment) =>
        if payment.isCanceled then .ok (.alreadyCanceled, db)
        else if payment.status = .aborted then .ok (.alreadyFailed, db)
        else do
          let row ← payment.markAsCanceled now event
          let saved ← db.savePayment k row
          let order ← db.getOrder payment.order
          if order.status = .canceled then
            .ok (.orderAlreadyCanceled, markWebhookProcessed saved now id .canceled)
          else
            let settled := settlePointsOnCanceled (restoreOnCanceled saved order) now k
              payment.order order
            .ok (.canceled, markWebhookProcessed ((settled.saveOrder payment.order
              (Order.withStatus .canceled now)).log k .webhook "결제 취소 웹훅 처리")
                now id .canceled)

/-! ## `WAITING_FOR_DEPOSIT` -/

/-- The branches of `handle_waiting_for_deposit`. -/
inductive WaitingResult where
  | paymentNotFound
  | alreadyWaiting
  | finalState
  | depositReverted
  | issued
  deriving DecidableEq, Repr

/-- The revert of a settled deposit, up to the log. -/
def revertDeposit (db : Db) (now : Time) (k : Nat) (o : OrderId) (order : Order) : Db :=
  let unsold := db.updateItems takeSold order.items
  let reclaimed :=
    if 0 < order.earnedPoints then reclaimEarnedPoints unsold now o order k "가상계좌 입금 취소"
    else (false, unsold)
  (reclaimed.2.saveOrder o fun x =>
    { x with
      status := .confirmed
      earnedPoints := if reclaimed.1 then 0 else order.earnedPoints
      updatedAt := now }).log k .webhook "가상계좌 입금 취소 — 입금 대기로 복귀"

/-- `handle_waiting_for_deposit`. -/
def handleWaitingForDeposit (db : Db) (now : Time) (event : TossPayment) :
    Except ShopError (WaitingResult × Db) :=
  match event.orderId with
  | none => .ok (.paymentNotFound, db)
  | some id =>
    match db.payments.ofTossOrderId? id with
    | none => .ok (.paymentNotFound, db)
    | some (k, payment) =>
      if payment.isWaitingForDeposit then .ok (.alreadyWaiting, db)
      else if payment.status.isInvalid then .ok (.finalState, db)
      else do
        let order ← db.getOrder payment.order
        let row ← payment.markAsWaitingForDeposit now event
        if payment.isPaid then do
          let saved ← (revertDeposit db now k payment.order order).savePayment k row
          .ok (.depositReverted, saved)
        else do
          let saved ← (db.log k .webhook "가상계좌 발급 웹훅 처리, 입금 대기").savePayment k row
          .ok (.issued, saved)

/-! ## `ABORTED` and `EXPIRED` -/

/-- The failure reason of `handle_payment_failed`. -/
def failReason (event : TossPayment) : String :=
  (Payment.truthy event.failureMessage).getD
    (if event.status = some .expired then "가상계좌 입금 기한 만료" else "")

/-- The checks of `handle_payment_failed` on the payment it read. -/
def acceptsFailure (payment : Payment) : Bool :=
  match payment.status with
  | .aborted | .expired | .done | .canceled => false
  | .ready | .inProgress | .waitingForDeposit | .partialCanceled => true

/-- The write of `handle_payment_failed` with the row it read as `payment`;
`published` says whether the broker takes the rollback. -/
def failPayment (db : Db) (now : Time) (k : Nat) (payment : Payment) (event : TossPayment)
    (published : Bool) : Except ShopError (Outcome Unit) := do
  let reason := failReason event
  let row :=
    if event.status = some .expired then payment.markAsExpired now reason
    else payment.markAsFailed now reason
  let saved ← db.savePayment k row
  let order ← db.getOrder payment.order
  let rollback := Message.rollback payment.order
    (if reason = "" then "결제 실패 (웹훅)" else reason)
  .ok
    { result := ()
      db := saved.log k .webhook ("결제 실패 웹훅 처리: " ++ reason)
      sent := if order.status.isUnpaid && published then [rollback] else [] }

/-- `handle_payment_failed`, when nothing comes between its read and its write. -/
def handlePaymentFailed (db : Db) (now : Time) (event : TossPayment) (published : Bool) :
    Except ShopError (Outcome Unit) :=
  match event.orderId.bind db.payments.ofTossOrderId? with
  | none => .ok { result := (), db := db }
  | some (k, payment) =>
    if acceptsFailure payment then failPayment db now k payment event published
    else .ok { result := (), db := db }

end TossWebhookService

/-! ## The view -/

namespace TossWebhookView

open TossWebhookService

/-- The end of `_lookup_and_dispatch`: `STATUS_HANDLERS` on what the lookup
found. -/
def dispatch (db : Db) (now : Time) (paymentInfo : TossPayment) (published : Bool := true) :
    Except ShopError Db :=
  match paymentInfo.status with
  | some .done => (handlePaymentDone db now paymentInfo).map Prod.snd
  | some .canceled => (handlePaymentCanceled db now paymentInfo).map Prod.snd
  | some .waitingForDeposit => (handleWaitingForDeposit db now paymentInfo).map Prod.snd
  | some .aborted | some .expired =>
    (handlePaymentFailed db now paymentInfo published).map fun out => out.db
  | some .ready | some .inProgress | some .partialCanceled | none => .ok db

end TossWebhookView

end Shopping
