import Shopping.Payments.Outcomes
import Shopping.Payments.Views
import Shopping.Payments.Webhook
import Shopping.Points.Allocation

/-!
# What the webhooks and the callbacks commit

The branches of the webhook handlers and of the failure callbacks, in the way
of `Shopping.Payments.Outcomes`.
-/

namespace Shopping

namespace TossWebhookService

theorem markWebhookProcessed_eq (db : Db) (now : Time) (id : TossOrderId) (event : TossStatus) :
    ∃ marks, markWebhookProcessed db now id event = { db with webhookMarks := marks } := by
  unfold markWebhookProcessed
  split
  · exact ⟨db.webhookMarks, rfl⟩
  · exact ⟨_, rfl⟩

@[simp] theorem markWebhookProcessed_payments (db : Db) (now : Time) (id : TossOrderId)
    (event : TossStatus) : (markWebhookProcessed db now id event).payments = db.payments := by
  obtain ⟨marks, h⟩ := markWebhookProcessed_eq db now id event
  rw [h]

@[simp] theorem markWebhookProcessed_orders (db : Db) (now : Time) (id : TossOrderId)
    (event : TossStatus) : (markWebhookProcessed db now id event).orders = db.orders := by
  obtain ⟨marks, h⟩ := markWebhookProcessed_eq db now id event
  rw [h]

@[simp] theorem markWebhookProcessed_products (db : Db) (now : Time) (id : TossOrderId)
    (event : TossStatus) : (markWebhookProcessed db now id event).products = db.products := by
  obtain ⟨marks, h⟩ := markWebhookProcessed_eq db now id event
  rw [h]

@[simp] theorem markWebhookProcessed_ledger (db : Db) (now : Time) (id : TossOrderId)
    (event : TossStatus) : (markWebhookProcessed db now id event).ledger = db.ledger := by
  obtain ⟨marks, h⟩ := markWebhookProcessed_eq db now id event
  rw [h]

@[simp] theorem markWebhookProcessed_logs (db : Db) (now : Time) (id : TossOrderId)
    (event : TossStatus) : (markWebhookProcessed db now id event).logs = db.logs := by
  obtain ⟨marks, h⟩ := markWebhookProcessed_eq db now id event
  rw [h]

theorem earnOnDone_ok {db db' : Db} {now : Time} {o : OrderId} {order : Order}
    (h : earnOnDone db now o order = .ok db') : PaymentService.Earns db o db' := by
  unfold earnOnDone at h
  split at h
  · cases h
    exact ⟨rfl, rfl, Or.inl rfl, [], by simp⟩
  · dsimp only at h
    split at h
    · split at h
      · cases h
      · cases h
        exact ⟨rfl, rfl, Or.inr ⟨_, rfl⟩, [], by simp⟩
    · cases h
      exact ⟨rfl, rfl, Or.inl rfl, [], by simp⟩

/-- The charge is written to the row and, when the order was canceled, kept
for a refund by hand. -/
def chargedMessages : List String :=
  ["실패 처리한 결제에 토스 승인(DONE) 확인 — 수동 대사·환불 필요",
    "만료 처리된 결제에 입금 확인 — 수동 정산 필요",
    "취소된 주문에 결제 완료(입금) 확인 — 환불 필요"]

/-- The branches of `handle_payment_done` past the duplicate filter, for a
payment that is there. -/
inductive DoneCase (db : Db) (now : Time) (event : TossPayment) (id : TossOrderId) (k : Nat)
    (payment : Payment) : DoneResult → Db → Prop where
  | alreadyPaid (hst : payment.status = .done) :
      DoneCase db now event id k payment .alreadyPaid db
  | chargedButFailed (hst : payment.status = .aborted) :
      DoneCase db now event id k payment .chargedButFailed (db.log k .error
        "실패 처리한 결제에 토스 승인(DONE) 확인 — 수동 대사·환불 필요")
  | finalState (hst : payment.status = .canceled) :
      DoneCase db now event id k payment .finalState db
  | depositAfterExpiry (hst : payment.status = .expired) :
      DoneCase db now event id k payment .depositAfterExpiry (db.log k .error
        "만료 처리된 결제에 입금 확인 — 수동 정산 필요")
  | chargedOnCanceledOrder {order : Order} {row : Payment} {saved : Db}
      (hopen : payment.status.isOpen = true)
      (horder : db.orders.get? payment.order = some order) (hcanceled : order.status = .canceled)
      (hrow : payment.markAsPaid now event = .ok row) (hsaved : db.savePayment k row = .ok saved) :
      DoneCase db now event id k payment .chargedOnCanceledOrder (markWebhookProcessed
        (saved.log k .error "취소된 주문에 결제 완료(입금) 확인 — 환불 필요") now id .done)
  | orderAlreadyPaid {order : Order} {row : Payment} {saved : Db}
      (hopen : payment.status.isOpen = true)
      (horder : db.orders.get? payment.order = some order) (hpaid : order.status = .paid)
      (hrow : payment.markAsPaid now event = .ok row) (hsaved : db.savePayment k row = .ok saved) :
      DoneCase db now event id k payment .orderAlreadyPaid
        (markWebhookProcessed saved now id .done)
  | settled {order : Order} {row : Payment} {saved earned : Db}
      (hopen : payment.status.isOpen = true)
      (horder : db.orders.get? payment.order = some order)
      (hcanceled : order.status ≠ .canceled) (hpaid : order.status ≠ .paid)
      (hrow : payment.markAsPaid now event = .ok row) (hsaved : db.savePayment k row = .ok saved)
      (hearned : PaymentService.Earns (((saved.updateItems addSold order.items).saveOrder
        payment.order (Order.withPaid (methodOrCard row.method) now)).deactivateCarts order.user)
          payment.order earned) :
      DoneCase db now event id k payment .settled
        (markWebhookProcessed (earned.log k .webhook "결제 완료 웹훅 처리") now id .done)

/-- Past the duplicate filter, with the payment that the event names. -/
theorem handlePaymentDone_found {db db' : Db} {now : Time} {event : TossPayment}
    {result : DoneResult} {id : TossOrderId} {k : Nat} {payment : Payment}
    (hid : event.orderId = some id) (hfresh : isWebhookDuplicate db now id .done = false)
    (hof : db.payments.ofTossOrderId? id = some (k, payment))
    (h : handlePaymentDone db now event = .ok (result, db')) :
    DoneCase db now event id k payment result db' := by
  unfold handlePaymentDone at h
  rw [hid] at h
  dsimp only at h
  rw [hfresh, if_neg Bool.false_ne_true, hof] at h
  dsimp only at h
  split at h
  · rename_i hpaid
    cases h
    exact .alreadyPaid (of_decide_eq_true hpaid)
  · rename_i hpaid
    have hne : payment.status ≠ .done := by simpa [Payment.isPaid] using hpaid
    split at h
    · rename_i haborted
      cases h
      exact .chargedButFailed haborted
    · rename_i haborted
      split at h
      · rename_i hcanceled
        cases h
        exact .finalState hcanceled
      · rename_i hcanceled
        split at h
        · rename_i hexpired
          cases h
          exact .depositAfterExpiry hexpired
        · rename_i hexpired
          have hopen : payment.status.isOpen = true := by
            cases hs : payment.status <;> simp_all [PaymentStatus.isOpen,
              PaymentStatus.isInvalid]
          obtain ⟨order, horder, h⟩ := bind_eq_ok.mp h
          rw [Db.getOrder_eq_ok] at horder
          obtain ⟨row, hrow, h⟩ := bind_eq_ok.mp h
          obtain ⟨saved, hsaved, h⟩ := bind_eq_ok.mp h
          split at h
          · rename_i hoc
            cases h
            exact .chargedOnCanceledOrder hopen horder hoc hrow hsaved
          · rename_i hoc
            split at h
            · rename_i hop
              cases h
              exact .orderAlreadyPaid hopen horder hop hrow hsaved
            · rename_i hop
              obtain ⟨earned, hearned, h⟩ := bind_eq_ok.mp h
              cases h
              exact .settled hopen horder hoc hop hrow hsaved (earnOnDone_ok hearned)

theorem closed_of_isOpen {payment : Payment} (h : payment.status.isOpen = true) :
    payment.isPaid = false ∧ payment.status ≠ .aborted ∧ payment.status ≠ .canceled ∧
      payment.status ≠ .expired := by
  revert h
  unfold PaymentStatus.isOpen Payment.isPaid
  cases payment.status with
  | ready | inProgress | waitingForDeposit | partialCanceled => decide
  | done | canceled | aborted | expired => nofun

/-- An open payment of an order that is neither canceled nor paid: only the
earning can still raise. -/
theorem handlePaymentDone_settles {db saved : Db} {now : Time} {event : TossPayment}
    {id : TossOrderId} {k : Nat} {payment row : Payment} {order : Order}
    (hid : event.orderId = some id) (hfresh : isWebhookDuplicate db now id .done = false)
    (hof : db.payments.ofTossOrderId? id = some (k, payment))
    (hopen : payment.status.isOpen = true) (horder : db.orders.get? payment.order = some order)
    (hcanceled : order.status ≠ .canceled) (hpaid : order.status ≠ .paid)
    (hrow : payment.markAsPaid now event = .ok row) (hsaved : db.savePayment k row = .ok saved) :
    handlePaymentDone db now event = (earnOnDone (((saved.updateItems addSold order.items).saveOrder
      payment.order (Order.withPaid (methodOrCard row.method) now)).deactivateCarts order.user) now
        payment.order order).map fun earned => (.settled, markWebhookProcessed
          (earned.log k .webhook "결제 완료 웹훅 처리") now id .done) := by
  obtain ⟨hdone, haborted, hclosed, hexpired⟩ := closed_of_isOpen hopen
  simp only [handlePaymentDone, hid, hfresh, hof, hdone, haborted, hclosed, hexpired,
    Db.getOrder_eq_ok.mpr horder, ok_bind, hrow, hsaved, if_neg hcanceled, if_neg hpaid]
  rfl

theorem handlePaymentDone_ok {db db' : Db} {now : Time} {event : TossPayment}
    {result : DoneResult} (h : handlePaymentDone db now event = .ok (result, db')) :
    db' = db ∧ (result = .duplicate ∨ result = .paymentNotFound) ∨
      ∃ id k payment, event.orderId = some id ∧ db.payments.ofTossOrderId? id = some (k, payment) ∧
        DoneCase db now event id k payment result db' := by
  cases hid : event.orderId with
  | none =>
    simp only [handlePaymentDone, hid] at h
    cases h
    exact Or.inl ⟨rfl, Or.inr rfl⟩
  | some id =>
    cases hdup : isWebhookDuplicate db now id .done with
    | true =>
      simp only [handlePaymentDone, hid, hdup, if_true] at h
      cases h
      exact Or.inl ⟨rfl, Or.inl rfl⟩
    | false =>
      cases hof : db.payments.ofTossOrderId? id with
      | none =>
        simp only [handlePaymentDone, hid, hdup, hof, Bool.false_eq_true, if_false] at h
        cases h
        exact Or.inl ⟨rfl, Or.inr rfl⟩
      | some e =>
        obtain ⟨k, payment⟩ := e
        exact Or.inr ⟨id, k, payment, rfl, hof, handlePaymentDone_found hid hdup hof h⟩

/-- The branches of `handle_payment_canceled` that write. -/
inductive CanceledCase (db : Db) (now : Time) (id : TossOrderId) (k : Nat) (payment : Payment)
    (order : Order) (row : Payment) : CanceledResult → Db → Prop where
  | orderAlreadyCanceled {saved : Db} (hcanceled : order.status = .canceled)
      (hsaved : db.savePayment k row = .ok saved) :
      CanceledCase db now id k payment order row .orderAlreadyCanceled
        (markWebhookProcessed saved now id .canceled)
  | canceled {saved : Db} (hcanceled : order.status ≠ .canceled)
      (hsaved : db.savePayment k row = .ok saved) :
      CanceledCase db now id k payment order row .canceled
        (markWebhookProcessed (((settlePointsOnCanceled (restoreOnCanceled saved order) now k
          payment.order order).saveOrder payment.order (Order.withStatus .canceled now)).log k
            .webhook "결제 취소 웹훅 처리") now id .canceled)

theorem handlePaymentCanceled_cases {db db' : Db} {now : Time} {event : TossPayment}
    {result : CanceledResult} (h : handlePaymentCanceled db now event = .ok (result, db')) :
    db' = db ∧ result ≠ .canceled ∨ ∃ id k payment order row, event.orderId = some id ∧
      db.payments.ofTossOrderId? id = some (k, payment) ∧ payment.isCanceled = false ∧
      payment.status ≠ .aborted ∧ db.orders.get? payment.order = some order ∧
      payment.markAsCanceled now event = .ok row ∧
      CanceledCase db now id k payment order row result db' := by
  unfold handlePaymentCanceled at h
  split at h
  · cases h
    exact Or.inl ⟨rfl, nofun⟩
  · rename_i id hid
    split at h
    · cases h
      exact Or.inl ⟨rfl, nofun⟩
    · split at h
      · cases h
        exact Or.inl ⟨rfl, nofun⟩
      · rename_i k payment hof
        split at h
        · cases h
          exact Or.inl ⟨rfl, nofun⟩
        · rename_i hisCanceled
          rw [Bool.not_eq_true] at hisCanceled
          split at h
          · cases h
            exact Or.inl ⟨rfl, nofun⟩
          · rename_i haborted
            obtain ⟨row, hrow, h⟩ := bind_eq_ok.mp h
            obtain ⟨saved, hsaved, h⟩ := bind_eq_ok.mp h
            obtain ⟨order, horder, h⟩ := bind_eq_ok.mp h
            rw [Db.getOrder_eq_ok] at horder
            refine Or.inr ⟨id, k, payment, order, row, hid, hof, hisCanceled, haborted, horder,
              hrow, ?_⟩
            split at h
            · rename_i hoc
              cases h
              exact .orderAlreadyCanceled hoc hsaved
            · rename_i hoc
              cases h
              exact .canceled hoc hsaved

theorem handlePaymentCanceled_ok {db db' : Db} {now : Time} {event : TossPayment}
    {result : CanceledResult} (h : handlePaymentCanceled db now event = .ok (result, db')) :
    db' = db ∨ ∃ id k payment order row, event.orderId = some id ∧
      db.payments.ofTossOrderId? id = some (k, payment) ∧ payment.isCanceled = false ∧
      payment.status ≠ .aborted ∧ db.orders.get? payment.order = some order ∧
      payment.markAsCanceled now event = .ok row ∧
      CanceledCase db now id k payment order row result db' :=
  (handlePaymentCanceled_cases h).imp_left And.left

/-! ### A use of points that fails -/

/-- A failed use of points leaves the ledger alone, and so does the reclaim
that goes on after it, but for a reclaim that the account could bear and the
rows that are not due hold in part: their points are gone then, and no use is
booked. -/
theorem failed_use_unchanged_iff (db : Db) (now : Time) (user : UserId) (amount : Int)
    (type : PointType) (order : Option OrderId) (returnId : Option Nat) :
    (((PointService.usePointsFifo db.ledger now user amount type order returnId).1.success = false →
        (PointService.usePointsFifo db.ledger now user amount type order returnId).2 = db.ledger) ↔
      ¬ Short db.ledger now user amount type) ∧
    ∀ (o : OrderId) (row : Order) (k : Nat) (reason : String),
      ((reclaimEarnedPoints db now o row k reason).1 = false →
        (reclaimEarnedPoints db now o row k reason).2.ledger = db.ledger) ↔
      ¬ Short db.ledger now row.user row.earnedPoints .cancelDeduct := by
  refine ⟨usePointsFifo_unchanged_iff order returnId, fun o row k reason => ?_⟩
  rw [← usePointsFifo_unchanged_iff (some o) none]
  unfold reclaimEarnedPoints
  dsimp only
  cases hsuccess : (PointService.usePointsFifo db.ledger now row.user row.earnedPoints
      .cancelDeduct (some o)).1.success with
  | true => simp
  | false => simp [Db.log]

/-- Two earnings of 300, a thousand seconds apart. -/
def twoEarnings : Ledger :=
  [0, 1000].foldl (fun L now =>
    match PointService.addPoints L now 7 300 with
    | .ok out => out.2
    | .error _ => L) Ledger.empty

/-- The first earning is due and not yet expired by the batch, so 500 of the
600 points on the account cannot be reclaimed.  The second is used up by the
attempt. -/
theorem failed_reclaim_drains :
    (PointService.usePointsFifo twoEarnings (earnLifetime + 500) 7 500 .cancelDeduct
      (some 1)).1.success = false ∧
    ¬ ((PointService.usePointsFifo twoEarnings (earnLifetime + 500) 7 500 .cancelDeduct
        (some 1)).1.success = false →
      (PointService.usePointsFifo twoEarnings (earnLifetime + 500) 7 500 .cancelDeduct
        (some 1)).2 = twoEarnings) := by
  refine ⟨by decide, fun h => ?_⟩
  have hshort : Short twoEarnings (earnLifetime + 500) 7 500 .cancelDeduct :=
    ⟨rfl, by decide, by decide, by decide⟩
  exact (usePointsFifo_unchanged_iff (some 1) none).mp h hshort


theorem movesPoints_reclaim (db : Db) (now : Time) (o : OrderId) (order : Order) (k : Nat)
    (reason : String) : MovesPoints db (reclaimEarnedPoints db now o order k reason).2 := by
  unfold reclaimEarnedPoints
  dsimp only
  split
  · exact ⟨rfl, rfl, rfl, [], by simp⟩
  · exact ⟨rfl, rfl, rfl, _, rfl⟩

theorem movesPoints_settleOnCanceled (db : Db) (now : Time) (k : Nat) (o : OrderId)
    (order : Order) : MovesPoints db (settlePointsOnCanceled db now k o order) := by
  unfold settlePointsOnCanceled
  have hreclaimed : MovesPoints db
      (if (order.status = .paid ∨ order.status = .preparing) ∧ 0 < order.earnedPoints then
        (reclaimEarnedPoints db now o order k "주문 취소").2 else db) := by
    split
    · exact movesPoints_reclaim db now o order k _
    · exact MovesPoints.refl db
  dsimp only
  by_cases hused : (order.status = .confirmed ∨ order.status = .paid ∨ order.status = .preparing) ∧
      0 < order.usedPoints
  · rw [if_pos hused]
    exact hreclaimed.trans (movesPoints_refund _ now order.user order.usedPoints o _)
  · rw [if_neg hused]
    exact hreclaimed

/-- The stock that comes back with a canceled payment. -/
theorem restoreOnCanceled_tables (db : Db) (order : Order) :
    (restoreOnCanceled db order).payments = db.payments ∧
    (restoreOnCanceled db order).orders = db.orders ∧
    (restoreOnCanceled db order).ledger = db.ledger ∧
    (restoreOnCanceled db order).logs = db.logs := by
  unfold restoreOnCanceled restoreStockForOrder
  split
  · exact ⟨rfl, rfl, rfl, rfl⟩
  · split
    · exact ⟨rfl, rfl, rfl, rfl⟩
    · exact ⟨rfl, rfl, rfl, rfl⟩

/-- The branches of `handle_waiting_for_deposit` that write. -/
inductive WaitingCase (db : Db) (now : Time) (k : Nat) (payment : Payment) (order : Order)
    (row : Payment) : WaitingResult → Db → Prop where
  | depositReverted {saved : Db} (hpaid : payment.status = .done)
      (hsaved : (revertDeposit db now k payment.order order).savePayment k row = .ok saved) :
      WaitingCase db now k payment order row .depositReverted saved
  | issued {saved : Db} (hpaid : payment.status ≠ .done)
      (hsaved : (db.log k .webhook "가상계좌 발급 웹훅 처리, 입금 대기").savePayment k row
        = .ok saved) :
      WaitingCase db now k payment order row .issued saved

theorem handleWaitingForDeposit_ok {db db' : Db} {now : Time} {event : TossPayment}
    {result : WaitingResult} (h : handleWaitingForDeposit db now event = .ok (result, db')) :
    db' = db ∨ ∃ id k payment order row, event.orderId = some id ∧
      db.payments.ofTossOrderId? id = some (k, payment) ∧
      payment.status ≠ .waitingForDeposit ∧ payment.status.isInvalid = false ∧
      db.orders.get? payment.order = some order ∧
      payment.markAsWaitingForDeposit now event = .ok row ∧
      WaitingCase db now k payment order row result db' := by
  unfold handleWaitingForDeposit at h
  split at h
  · cases h
    exact Or.inl rfl
  · rename_i id hid
    split at h
    · cases h
      exact Or.inl rfl
    · rename_i k payment hof
      split at h
      · cases h
        exact Or.inl rfl
      · rename_i hwaiting
        have hnw : payment.status ≠ .waitingForDeposit := by
          simpa [Payment.isWaitingForDeposit] using hwaiting
        split at h
        · cases h
          exact Or.inl rfl
        · rename_i hinvalid
          rw [Bool.not_eq_true] at hinvalid
          obtain ⟨order, horder, h⟩ := bind_eq_ok.mp h
          rw [Db.getOrder_eq_ok] at horder
          obtain ⟨row, hrow, h⟩ := bind_eq_ok.mp h
          refine Or.inr ⟨id, k, payment, order, row, hid, hof, hnw, hinvalid, horder, hrow, ?_⟩
          split at h
          · rename_i hpaid
            obtain ⟨saved, hsaved, h⟩ := bind_eq_ok.mp h
            cases h
            exact .depositReverted (of_decide_eq_true hpaid) hsaved
          · rename_i hpaid
            obtain ⟨saved, hsaved, h⟩ := bind_eq_ok.mp h
            cases h
            exact .issued (by simpa [Payment.isPaid] using hpaid) hsaved

/-- A deposit was reverted: the payment was settled. -/
theorem handleWaitingForDeposit_reverted {db db' : Db} {now : Time} {event : TossPayment}
    {id : TossOrderId} {k : Nat} {payment : Payment} (hid : event.orderId = some id)
    (hof : db.payments.ofTossOrderId? id = some (k, payment))
    (h : handleWaitingForDeposit db now event = .ok (.depositReverted, db')) :
    payment.status = .done ∧ ∃ order row, db.orders.get? payment.order = some order ∧
      payment.markAsWaitingForDeposit now event = .ok row ∧
      (revertDeposit db now k payment.order order).savePayment k row = .ok db' := by
  unfold handleWaitingForDeposit at h
  rw [hid] at h
  dsimp only at h
  rw [hof] at h
  dsimp only at h
  split at h
  · cases h
  · split at h
    · cases h
    · obtain ⟨order, horder, h⟩ := bind_eq_ok.mp h
      rw [Db.getOrder_eq_ok] at horder
      obtain ⟨row, hrow, h⟩ := bind_eq_ok.mp h
      split at h
      · rename_i hpaid
        obtain ⟨saved, hsaved, h⟩ := bind_eq_ok.mp h
        cases h
        exact ⟨of_decide_eq_true hpaid, order, row, horder, hrow, hsaved⟩
      · obtain ⟨saved, _, h⟩ := bind_eq_ok.mp h
        cases h

/-- The revert of a deposit puts the order back to `confirmed` and leaves the
payments to the caller. -/
theorem revertDeposit_tables (db : Db) (now : Time) (k : Nat) (o : OrderId) (order : Order) :
    (revertDeposit db now k o order).payments = db.payments ∧
    (∃ n, (revertDeposit db now k o order).orders = db.orders.modify o fun x =>
      { x with status := .confirmed, earnedPoints := n, updatedAt := now }) ∧
    ∃ logs, (revertDeposit db now k o order).logs = db.logs ++ logs := by
  unfold revertDeposit
  dsimp only
  generalize hr : (if 0 < order.earnedPoints then
    reclaimEarnedPoints (db.updateItems takeSold order.items) now o order k "가상계좌 입금 취소"
    else (false, db.updateItems takeSold order.items)) = reclaimed
  have hm : MovesPoints (db.updateItems takeSold order.items) reclaimed.2 := by
    rw [← hr]
    split
    · exact movesPoints_reclaim _ now o order k _
    · exact MovesPoints.refl _
  obtain ⟨logs, hlogs⟩ := hm.logs
  refine ⟨hm.payments, ⟨if reclaimed.1 then 0 else order.earnedPoints, ?_⟩,
    logs ++ [⟨k, .webhook, "가상계좌 입금 취소 — 입금 대기로 복귀", none⟩], ?_⟩
  · simp [hm.orders]
  · simp [hlogs]

/-- `handle_payment_failed` wrote the row it had read, closed. -/
theorem failPayment_ok {db : Db} {now : Time} {k : Nat} {payment : Payment}
    {event : TossPayment} {published : Bool} {out : Outcome Unit}
    (h : failPayment db now k payment event published = .ok out) :
    ∃ row, (payment.SameCharge row ∧ row.paymentKey = payment.paymentKey) ∧
      (db.orders.get? payment.order).isSome = true ∧
      (row.status = .aborted ∨ row.status = .expired) ∧
      db.payments.save k row = .ok out.db.payments ∧ out.db.orders = db.orders ∧
      out.db.products = db.products ∧ (∃ logs, out.db.logs = db.logs ++ logs) ∧
      ∀ m ∈ out.sent, ∃ reason, m = .rollback payment.order reason := by
  unfold failPayment at h
  obtain ⟨saved, hsaved, h⟩ := bind_eq_ok.mp h
  obtain ⟨payments, hsave, rfl⟩ := Db.savePayment_eq_ok.mp hsaved
  obtain ⟨order, horder, h⟩ := bind_eq_ok.mp h
  rw [Db.getOrder_eq_ok] at horder
  cases h
  refine ⟨_, ?_, by rw [horder, Option.isSome_some], ?_, hsave, rfl, rfl, ⟨_, rfl⟩, ?_⟩
  · split
    · exact ⟨⟨rfl, rfl, rfl, rfl, rfl⟩, rfl⟩
    · exact ⟨⟨rfl, rfl, rfl, rfl, rfl⟩, rfl⟩
  · split
    · exact Or.inr rfl
    · exact Or.inl rfl
  · intro m hm
    dsimp only at hm
    split at hm
    · exact ⟨_, List.mem_singleton.mp hm⟩
    · cases hm

end TossWebhookService

/-! ## The failure callbacks -/

namespace PaymentViews

theorem postFailure_ok {db db' : Db} {now : Time} {k : Nat} {payment : Payment}
    {code message : String} (h : postFailure db now k payment code message = .ok db') :
    db.payments.save k (payment.markAsFailed now ("[" ++ code ++ "] " ++ message))
        = .ok db'.payments ∧
      db'.orders = db.orders ∧ db'.products = db.products ∧ ∃ logs, db'.logs = db.logs ++ logs := by
  unfold postFailure at h
  obtain ⟨saved, hsaved, h⟩ := bind_eq_ok.mp h
  obtain ⟨payments, hsave, rfl⟩ := Db.savePayment_eq_ok.mp hsaved
  cases h
  exact ⟨hsave, rfl, rfl, _, rfl⟩

theorem paymentFail_ok {db db' : Db} {now : Time} {k : Nat} {payment : Payment}
    {message : Option String} (h : paymentFail db now k payment message = .ok db') :
    ∃ reason, message = some reason ∧
      db.payments.save k (payment.markAsFailed now reason) = .ok db'.payments ∧
      db'.orders = db.orders ∧ db'.products = db.products ∧ db'.logs = db.logs := by
  cases message with
  | none => cases h
  | some reason =>
    obtain ⟨payments, hsave, rfl⟩ := Db.savePayment_eq_ok.mp h
    exact ⟨reason, rfl, hsave, rfl, rfl, rfl⟩

end PaymentViews

end Shopping
