import Shopping.Orders.Outcomes
import Shopping.Payments.Tasks

/-!
# What the payment functions commit

The branches of each function of the payment service and of the payment
tasks, for the calls that return.  A branch names the rows the function found
and wrote, so a proof about a function is a case analysis over its branches.
-/

namespace Shopping

/-! ## Moving points -/

/-- What only moves points and writes logs. -/
structure MovesPoints (db db' : Db) : Prop where
  payments : db'.payments = db.payments
  orders : db'.orders = db.orders
  products : db'.products = db.products
  logs : ∃ logs, db'.logs = db.logs ++ logs

theorem MovesPoints.refl (db : Db) : MovesPoints db db := ⟨rfl, rfl, rfl, [], by simp⟩

theorem MovesPoints.trans {db db' db'' : Db} (h : MovesPoints db db')
    (h' : MovesPoints db' db'') : MovesPoints db db'' := by
  obtain ⟨xs, hxs⟩ := h.logs
  obtain ⟨ys, hys⟩ := h'.logs
  exact ⟨h'.payments.trans h.payments, h'.orders.trans h.orders, h'.products.trans h.products,
    xs ++ ys, by rw [hys, hxs, List.append_assoc]⟩

theorem MovesPoints.log {db db' : Db} (h : MovesPoints db db') (k : Nat) (logType : LogType)
    (message : String) : MovesPoints db (db'.log k logType message) :=
  h.trans ⟨rfl, rfl, rfl, _, rfl⟩

theorem movesPoints_refund (db : Db) (now : Time) (user : UserId) (amount : Int) (o : OrderId)
    (type : PointType) : MovesPoints db (db.refundUsedPoints now user amount o type) :=
  ⟨rfl, rfl, rfl, [], by simp⟩

/-! ## Requesting -/

namespace PaymentService

theorem setIdempotencyKey_eq (db : Db) (now : Time) (key : Option String) (o : OrderId)
    (user : UserId) (k : Nat) :
    ∃ keys, setIdempotencyKey db now key o user k = { db with idempotencyKeys := keys } := by
  unfold setIdempotencyKey
  split
  · exact ⟨db.idempotencyKeys, rfl⟩
  · exact ⟨_, rfl⟩

@[simp] theorem setIdempotencyKey_payments (db : Db) (now : Time) (key : Option String)
    (o : OrderId) (user : UserId) (k : Nat) :
    (setIdempotencyKey db now key o user k).payments = db.payments := by
  obtain ⟨keys, h⟩ := setIdempotencyKey_eq db now key o user k
  rw [h]

@[simp] theorem setIdempotencyKey_orders (db : Db) (now : Time) (key : Option String)
    (o : OrderId) (user : UserId) (k : Nat) :
    (setIdempotencyKey db now key o user k).orders = db.orders := by
  obtain ⟨keys, h⟩ := setIdempotencyKey_eq db now key o user k
  rw [h]

/-- `create_payment` wrote: the order's payments are gone but for a new one,
which is ready. -/
structure Requests (db : Db) (o : OrderId) (k : Nat) (row : Payment) (db' : Db) : Prop where
  found : (db.orders.get? o).isSome = true
  order : row.order = o
  ready : row.status = .ready
  notCanceled : row.isCanceled = false
  payments : (db.payments.deleteOf o).create row = .ok (k, db'.payments)
  orders : db'.orders = db.orders

theorem createPayment_ok {db db' : Db} {now : Time} {o : OrderId} {order : Order}
    {method : String} {key : Option String} {k : Nat}
    (h : createPayment db now o order method key = .ok (k, db')) :
    db' = db ∨ checkIdempotencyKey db now key o order.user = none ∧
      ∃ row, Requests db o k row db' := by
  unfold createPayment at h
  split at h
  · cases h
    exact Or.inl rfl
  · rename_i hnew
    refine Or.inr ⟨hnew, ?_⟩
    obtain ⟨found, hget, h⟩ := bind_eq_ok.mp h
    rw [Db.getOrder_eq_ok] at hget
    obtain ⟨⟨k', payments⟩, hcreate, h⟩ := bind_eq_ok.mp h
    cases h
    exact ⟨_, by rw [hget, Option.isSome_some], rfl, rfl, rfl,
      by simpa [deletePayments] using hcreate, by simp [deletePayments]⟩

theorem createFromRequest_ok {db db' : Db} {now : Time} {request : PaymentRequest}
    {method : String} {key : Option String} {k : Nat}
    (h : createFromRequest db now request method key = .ok (k, db')) :
    db' = db ∨ request.existing = none ∧
      checkIdempotencyKey db now (Payment.truthy key) request.orderId request.order.user = none ∧
      ∃ row, Requests db request.orderId k row db' := by
  unfold createFromRequest at h
  cases hex : request.existing with
  | some payment =>
    rw [hex] at h
    cases h
    exact Or.inl rfl
  | none =>
    rw [hex] at h
    exact (createPayment_ok h).imp_right fun hreq => ⟨rfl, hreq⟩

/-! ## Confirming -/

theorem recordVirtualAccountIssued_ok {db issued : Db} {now : Time} {k : Nat}
    {payment : Payment} {data : TossPayment}
    (h : recordVirtualAccountIssued db now k payment data = .ok issued) :
    ∃ row saved, payment.markAsWaitingForDeposit now data = .ok row ∧
      db.savePayment k row = .ok saved ∧
      issued = saved.log k .approve "가상계좌 발급 완료, 입금 대기" := by
  unfold recordVirtualAccountIssued at h
  obtain ⟨row, hrow, h⟩ := bind_eq_ok.mp h
  obtain ⟨saved, hsaved, h⟩ := bind_eq_ok.mp h
  cases h
  exact ⟨row, saved, hrow, hsaved, rfl⟩

/-- An earning for the order `o`, or a log about it: nothing else changes
than the ledger, the earned points of the order, and the logs. -/
structure Earns (db : Db) (o : OrderId) (db' : Db) : Prop where
  payments : db'.payments = db.payments
  products : db'.products = db.products
  orders : db'.orders = db.orders ∨
    ∃ n, db'.orders = db.orders.modify o fun x => { x with earnedPoints := n }
  logs : ∃ logs, db'.logs = db.logs ++ logs

theorem earnOnConfirm_ok {db db' : Db} {now : Time} {k : Nat} {o : OrderId} {order : Order}
    {user : UserId} {n : Int} (h : earnOnConfirm db now k o order user = .ok (n, db')) :
    Earns db o db' := by
  unfold earnOnConfirm at h
  split at h
  · dsimp only at h
    split at h
    · split at h
      · cases h
      · cases h
        exact ⟨rfl, rfl, Or.inr ⟨_, rfl⟩, _, rfl⟩
    · cases h
      exact ⟨rfl, rfl, Or.inl rfl, [], by simp⟩
  · split at h
    · cases h
      exact ⟨rfl, rfl, Or.inl rfl, _, rfl⟩
    · cases h
      exact ⟨rfl, rfl, Or.inl rfl, [], by simp⟩

/-- The branches of `confirm_payment_sync`. -/
inductive SyncCase (db : Db) (now : Time) (k : Nat) (user : UserId) (payment : Payment) :
    TossPayment → Db → Prop where
  | waiting {data : TossPayment} {row : Payment} {saved : Db}
      (hrow : payment.markAsWaitingForDeposit now data = .ok row)
      (hsaved : db.savePayment k row = .ok saved) :
      SyncCase db now k user payment data (saved.log k .approve "가상계좌 발급 완료, 입금 대기")
  | paid {data : TossPayment} {order : Order} {row : Payment} {saved earned : Db}
      (horder : db.orders.get? payment.order = some order)
      (hrow : payment.markAsPaid now data = .ok row) (hsaved : db.savePayment k row = .ok saved)
      (hearned : Earns (((saved.updateItems addSold order.items).saveOrder payment.order
        (Order.withPaid row.method now)).deactivateCarts user) payment.order earned) :
      SyncCase db now k user payment data (earned.log k .approve "결제 승인 완료")

theorem confirmPaymentSync_ok {db db' : Db} {now : Time} {k : Nat} {user : UserId}
    {toss : Except TossPaymentError TossPayment} {result : ConfirmResult}
    (h : confirmPaymentSync db now k user toss = .ok (result, db')) :
    ∃ payment data, toss = .ok data ∧ db.payments.get? k = some payment ∧
      payment.status.admitsConfirm = true ∧ SyncCase db now k user payment data db' := by
  unfold confirmPaymentSync at h
  obtain ⟨payment, hget, h⟩ := bind_eq_ok.mp h
  rw [Db.getPayment_eq_ok] at hget
  split at h
  · cases h
  · rename_i hpaid
    split at h
    · cases h
    · rename_i hwaiting
      split at h
      · cases h
      · rename_i hinvalid
        have hadmits : payment.status.admitsConfirm = true := by
          simp_all [PaymentStatus.admitsConfirm, Payment.isPaid, Payment.isWaitingForDeposit]
        cases toss with
        | error e => cases h
        | ok data =>
          refine ⟨payment, data, rfl, hget, hadmits, ?_⟩
          dsimp only at h
          split at h
          · obtain ⟨issued, hissued, h⟩ := bind_eq_ok.mp h
            obtain ⟨row, saved, hrow, hsaved, rfl⟩ := recordVirtualAccountIssued_ok hissued
            cases h
            exact .waiting hrow hsaved
          · obtain ⟨order, horder, h⟩ := bind_eq_ok.mp h
            rw [Db.getOrder_eq_ok] at horder
            obtain ⟨row, hrow, h⟩ := bind_eq_ok.mp h
            obtain ⟨saved, hsaved, h⟩ := bind_eq_ok.mp h
            obtain ⟨⟨n, earned⟩, hearned, h⟩ := bind_eq_ok.mp h
            cases h
            exact .paid horder hrow hsaved (earnOnConfirm_ok hearned)

theorem confirmPaymentAsync_ok {db : Db} {now : Time} {k : Nat} {paymentKey : String}
    {order : OrderId} {amount : Int} {user : UserId} {published : Bool} {out : Outcome Unit}
    (h : confirmPaymentAsync db now k paymentKey order amount user published = .ok out) :
    ∃ payment saved, db.payments.get? k = some payment ∧ payment.status.admitsConfirm = true ∧
      payment.status ≠ .inProgress ∧
      db.savePayment k { payment with
        status := .inProgress, paymentKey := some paymentKey, updatedAt := now } = .ok saved ∧
      out.db = saved ∧
      out.sent = (if published then
        [.confirm paymentKey order amount payment.tossOrderId k user] else []) := by
  unfold confirmPaymentAsync at h
  obtain ⟨payment, hget, h⟩ := bind_eq_ok.mp h
  rw [Db.getPayment_eq_ok] at hget
  split at h
  · cases h
  · rename_i hpaid
    split at h
    · cases h
    · rename_i hprogress
      split at h
      · cases h
      · rename_i hwaiting
        split at h
        · cases h
        · rename_i hinvalid
          have hadmits : payment.status.admitsConfirm = true := by
            simp_all [PaymentStatus.admitsConfirm, Payment.isPaid, Payment.isWaitingForDeposit]
          split at h
          · cases h
          · rename_i saved hsaved
            cases h
            exact ⟨payment, saved, hget, hadmits, hprogress, hsaved, rfl, rfl⟩

/-! ## Cancelling -/

theorem deductEarned_ok {db db' : Db} {now : Time} {k : Nat} {o : OrderId} {user : UserId}
    {order : Order} (h : deductEarned db now k o user order = .ok db') : MovesPoints db db' := by
  unfold deductEarned at h
  split at h
  · cases h
    exact ⟨rfl, rfl, rfl, [], by simp⟩
  · split at h
    · cases h
    · dsimp only at h
      split at h
      · cases h
      · cases h
        exact ⟨rfl, rfl, rfl, _, rfl⟩

/-- The branches of `cancel_payment`. -/
inductive CancelCase (db : Db) (now : Time) (k : Nat) (user : UserId) (payment : Payment)
    (order : Order) (row : Payment) : Db → Prop where
  | refundOnly {saved : Db} (hcanceled : order.status = .canceled)
      (hsaved : db.savePayment k row = .ok saved) :
      CancelCase db now k user payment order row
        (saved.log k .cancel "이미 취소된 주문의 결제 환불 (재고·포인트는 주문 취소 때 복구됨)")
  | canceled {saved refunded deducted : Db} (hpaid : order.status = .paid)
      (hsaved : db.savePayment k row = .ok saved)
      (hrefunded : refunded =
        let canceled := (saved.updateItems addStockTakeSold order.items).saveOrder payment.order
          (Order.withStatus .canceled now)
        if 0 < order.usedPoints then
          (canceled.refundUsedPoints now user order.usedPoints payment.order
            .cancelRefund).log k .cancel
              ("사용 포인트 " ++ toString order.usedPoints ++ "점 환불")
        else canceled)
      (hdeducted : deductEarned refunded now k payment.order user order = .ok deducted) :
      CancelCase db now k user payment order row
        (deducted.log k .cancel "결제가 성공적으로 취소되었습니다.")

theorem cancelPayment_ok {db db' : Db} {now : Time} {k : Nat} {user : UserId}
    {toss : Except TossPaymentError TossPayment} {result : CancelResult}
    (h : cancelPayment db now k user toss = .ok (result, db')) :
    ∃ payment order data row, db.payments.get? k = some payment ∧
      db.orders.get? payment.order = some order ∧ payment.isCanceled = false ∧
      payment.status = .done ∧ payment.markAsCanceled now data = .ok row ∧
      order.user = user ∧ CancelCase db now k user payment order row db' := by
  unfold cancelPayment at h
  split at h
  · cases h
  · rename_i payment hget
    obtain ⟨order, horder, h⟩ := bind_eq_ok.mp h
    rw [Db.getOrder_eq_ok] at horder
    split at h
    · cases h
    · rename_i huser
      split at h
      · cases h
      · rename_i hcanceled
        split at h
        · cases h
        · rename_i hdone
          split at h
          · cases h
          · rename_i hstatus
            obtain ⟨_, _, h⟩ := bind_eq_ok.mp h
            cases toss with
            | error e => cases h
            | ok data =>
              obtain ⟨row, hrow, h⟩ := bind_eq_ok.mp h
              obtain ⟨saved, hsaved, h⟩ := bind_eq_ok.mp h
              rw [Bool.not_eq_true] at hcanceled
              refine ⟨payment, order, data, row, hget, horder, hcanceled, not_not.mp hdone, hrow,
                not_not.mp huser, ?_⟩
              split at h
              · rename_i hoc
                cases h
                exact .refundOnly hoc hsaved
              · rename_i hoc
                obtain ⟨deducted, hdeducted, h⟩ := bind_eq_ok.mp h
                cases h
                have hpaid : order.status = .paid := by
                  by_contra hne
                  exact hstatus ⟨hne, hoc⟩
                exact .canceled hpaid hsaved rfl hdeducted

/-- `cancel_virtual_account_before_deposit` closed the account, and then
cancelled the order. -/
theorem cancelVirtualAccountBeforeDeposit_ok {db db' : Db} {now : Time} {o : OrderId}
    {user : UserId} {toss : Except TossPaymentError TossPayment}
    (h : cancelVirtualAccountBeforeDeposit db now o user toss = .ok db') :
    ∃ k payment data row saved, db.payments.ofOrder? o = some (k, payment) ∧
      payment.status = .waitingForDeposit ∧ payment.markAsCanceled now data = .ok row ∧
      db.savePayment k row = .ok saved ∧
      ∃ order, Cancels (saved.log k .cancel "입금 전 가상계좌 반납 — 주문 취소") now o .canceled
        order db' := by
  unfold cancelVirtualAccountBeforeDeposit at h
  split at h
  · cases h
  · rename_i k payment hof
    obtain ⟨order, horder, h⟩ := bind_eq_ok.mp h
    split at h
    · cases h
    · rename_i hwaiting
      split at h
      · cases h
      · cases toss with
        | error e => cases h
        | ok data =>
          obtain ⟨row, hrow, h⟩ := bind_eq_ok.mp h
          obtain ⟨saved, hsaved, h⟩ := bind_eq_ok.mp h
          exact ⟨k, payment, data, row, saved, hof, not_not.mp (not_or.mp hwaiting).2, hrow,
            hsaved, OrderService.cancelOrder_ok h⟩

/-- `cancel_by_customer` is one of the three cancellations. -/
theorem cancelByCustomer_ok {db db' : Db} {now : Time} {o : OrderId} {order : Order}
    {user : UserId} {toss : Except TossPaymentError TossPayment} {result : CustomerCancel}
    (h : cancelByCustomer db now o order user toss = .ok (result, db')) :
    (∃ k p out, db.payments.ofOrder? o = some (k, p) ∧
      cancelPayment db now k user toss = .ok (out, db')) ∨
    cancelVirtualAccountBeforeDeposit db now o user toss = .ok db' ∨
    OrderService.cancelOrder db now o = .ok db' := by
  unfold cancelByCustomer at h
  split at h
  · split at h
    · cases h
    · rename_i k p hof
      split at h
      · cases h
      · cases h
      · rename_i out hcancel
        cases h
        exact Or.inl ⟨k, p, out.1, hof, hcancel⟩
  · split at h
    · split at h
      · cases h
      · cases h
      · rename_i hcancel
        cases h
        exact Or.inr (Or.inl hcancel)
    · obtain ⟨_, hcancel, h⟩ := map_eq_ok.mp h
      cases h
      exact Or.inr (Or.inr hcancel)

/-! ## Payment with points only -/

/-- `complete_points_only_payment` settled the order, whatever its status
is: only the order that the view read was checked. -/
structure PointsOnly (db : Db) (now : Time) (o : OrderId) (seen order : Order) (k : Nat)
    (payment : Payment) (found db' : Db) : Prop where
  seenConfirmed : seen.status = .confirmed
  orderFound : db.orders.get? o = some order
  notPaid : payment.status ≠ .done
  paymentFound : getOrCreatePointsPayment db now o = .ok (k, payment, found)
  saved : found.payments.save k
    { payment with status := .done, method := "points", updatedAt := now } = .ok db'.payments
  orders : db'.orders = db.orders.modify o (Order.withPaid "points" now)
  products : db'.products = updateProducts db.products addSold order.items
  logs : ∃ logs, db'.logs = db.logs ++ logs

theorem getOrCreatePointsPayment_ok {db found : Db} {now : Time} {o : OrderId} {k : Nat}
    {payment : Payment} (h : getOrCreatePointsPayment db now o = .ok (k, payment, found)) :
    found.orders = db.orders ∧ found.products = db.products ∧ found.logs = db.logs ∧
      payment.order = o ∧ (found = db ∧ db.payments.ofOrder? o = some (k, payment) ∨
        db.payments.ofOrder? o = none ∧ payment.status = .ready ∧ payment.isCanceled = false ∧
          db.payments.create payment = .ok (k, found.payments)) := by
  unfold getOrCreatePointsPayment at h
  split at h
  · rename_i hof
    cases h
    exact ⟨rfl, rfl, rfl, (PaymentTable.ofOrder?_eq_some.mp hof).2, Or.inl ⟨rfl, hof⟩⟩
  · rename_i hof
    obtain ⟨⟨k', payments⟩, hcreate, h⟩ := map_eq_ok.mp h
    cases h
    exact ⟨rfl, rfl, rfl, rfl, Or.inr ⟨hof, rfl, rfl, hcreate⟩⟩

theorem completePointsOnlyPayment_ok {db db' : Db} {now : Time} {o : OrderId} {seen : Order}
    {user : UserId} {n : Int} (h : completePointsOnlyPayment db now o seen user = .ok (n, db')) :
    ∃ order k payment found, PointsOnly db now o seen order k payment found db' := by
  unfold completePointsOnlyPayment at h
  split at h
  · cases h
  · rename_i hseen
    split at h
    · cases h
    · dsimp only at h
      split at h
      · cases h
      · obtain ⟨order, horder, h⟩ := bind_eq_ok.mp h
        rw [Db.getOrder_eq_ok] at horder
        obtain ⟨⟨k, payment, found⟩, hfound, h⟩ := bind_eq_ok.mp h
        dsimp only at h
        split at h
        · cases h
        · rename_i hpaid
          obtain ⟨saved, hsaved, h⟩ := bind_eq_ok.mp h
          obtain ⟨payments, hsave, rfl⟩ := Db.savePayment_eq_ok.mp hsaved
          have hf := getOrCreatePointsPayment_ok hfound
          cases h
          refine ⟨order, k, payment, found, not_not.mp hseen, horder, ?_, hfound, hsave, ?_, ?_,
            ?_⟩
          · simpa [Payment.isPaid] using hpaid
          · simp [hf.1]
          · simp [hf.2.1]
          · exact ⟨_, by rw [← hf.2.2.1]; rfl⟩

end PaymentService

/-! ## Finalising -/

namespace PaymentTasks

/-- The branches of `finalize_payment_confirm`. -/
inductive FinalizeCase (db : Db) (now : Time) (response : TossPayment) (k : Nat) (user : UserId)
    (published : Bool) (payment : Payment) : Outcome FinalizeResult → Prop where
  | alreadyProcessed (hpaid : payment.status = .done) :
      FinalizeCase db now response k user published payment
        { result := .alreadyProcessed, db := db }
  | waiting {row : Payment} {saved : Db} (hpaid : payment.status ≠ .done)
      (hstatus : response.status = some .waitingForDeposit)
      (hrow : payment.markAsWaitingForDeposit now response = .ok row)
      (hsaved : db.savePayment k row = .ok saved) :
      FinalizeCase db now response k user published payment
        { result := .waitingForDeposit
          db := saved.log k .approve "가상계좌 발급 완료, 입금 대기" }
  | orderCanceled {order : Order} {row : Payment} {saved : Db} (hpaid : payment.status ≠ .done)
      (hstatus : response.status ≠ some .waitingForDeposit)
      (horder : db.orders.get? payment.order = some order) (hcanceled : order.status = .canceled)
      (hrow : payment.markAsPaid now response = .ok row)
      (hsaved : db.savePayment k row = .ok saved) :
      FinalizeCase db now response k user published payment
        { result := .orderCanceled
          db := saved.log k .error "취소된 주문의 결제가 승인됨 — 결제 취소로 환불 필요" }
  | success {order : Order} {row : Payment} {saved : Db} (hpaid : payment.status ≠ .done)
      (hstatus : response.status ≠ some .waitingForDeposit)
      (horder : db.orders.get? payment.order = some order) (hcanceled : order.status ≠ .canceled)
      (hrow : payment.markAsPaid now response = .ok row)
      (hsaved : db.savePayment k row = .ok saved) :
      FinalizeCase db now response k user published payment
        { result := .success
          db := (((saved.updateItems addSold order.items).saveOrder payment.order
            (Order.withPaid row.method now)).deactivateCarts user).log k .approve "결제 승인 완료"
          sent := if decide (0 < order.finalAmount) && published then
              [.addPoints user payment.order]
            else [] }

/-- The alert is a log. -/
theorem alertFinalizeExhausted_movesPoints (db : Db) (k : Nat) :
    MovesPoints db (alertFinalizeExhausted db k) := by
  unfold alertFinalizeExhausted
  split
  · exact .refl db
  · exact (MovesPoints.refl db).log k _ _

@[simp] theorem alertFinalizeExhausted_ledger (db : Db) (k : Nat) :
    (alertFinalizeExhausted db k).ledger = db.ledger := by
  unfold alertFinalizeExhausted
  split
  · rfl
  · rfl

theorem finalizePaymentConfirm_ok {db : Db} {now : Time} {response : TossPayment} {k : Nat}
    {user : UserId} {published : Bool} {out : Outcome FinalizeResult}
    (h : finalizePaymentConfirm db now response k user published = .ok out) :
    ∃ payment, db.payments.get? k = some payment ∧
      FinalizeCase db now response k user published payment out := by
  unfold finalizePaymentConfirm at h
  obtain ⟨payment, hget, h⟩ := bind_eq_ok.mp h
  rw [Db.getPayment_eq_ok] at hget
  refine ⟨payment, hget, ?_⟩
  split at h
  · rename_i hpaid
    cases h
    exact .alreadyProcessed (of_decide_eq_true hpaid)
  · rename_i hpaid
    have hne : payment.status ≠ .done := by simpa [Payment.isPaid] using hpaid
    split at h
    · rename_i hstatus
      obtain ⟨issued, hissued, h⟩ := bind_eq_ok.mp h
      obtain ⟨row, saved, hrow, hsaved, rfl⟩ :=
        PaymentService.recordVirtualAccountIssued_ok hissued
      cases h
      exact .waiting hne hstatus hrow hsaved
    · rename_i hstatus
      obtain ⟨order, horder, h⟩ := bind_eq_ok.mp h
      rw [Db.getOrder_eq_ok] at horder
      obtain ⟨row, hrow, h⟩ := bind_eq_ok.mp h
      obtain ⟨saved, hsaved, h⟩ := bind_eq_ok.mp h
      split at h
      · rename_i hcanceled
        cases h
        exact .orderCanceled hne hstatus horder hcanceled hrow hsaved
      · rename_i hcanceled
        cases h
        exact .success hne hstatus horder hcanceled hrow hsaved

/-! ## Rolling back -/

/-- `rollback_payment_failure` failed the order: the order was unpaid, and a
payment of it that is not closed already is aborted. -/
structure RollsBack (db : Db) (now : Time) (o : OrderId) (order : Order) (db' : Db) : Prop where
  found : db.orders.get? o = some order
  unpaid : order.status.isUnpaid = true
  orders : ∃ reason, db'.orders =
    db.orders.modify o (Order.withFailure .paymentFailed reason now)
  products : db'.products = updateProducts db.products addStock order.items
  payments : ∀ i, db'.payments.ofOrder? i =
    if i = o then (db.payments.ofOrder? o).map fun e =>
      (e.1, if e.2.status ≠ .aborted ∧ e.2.status ≠ .expired then
        { e.2 with status := .aborted } else e.2)
    else db.payments.ofOrder? i
  keeps : db.payments.Keeps db'.payments
  logs : ∃ logs, db'.logs = db.logs ++ logs

theorem abortPaymentOf_ofOrder? (db : Db) (o : OrderId) (reason : String) (i : OrderId) :
    (abortPaymentOf db o reason).payments.ofOrder? i =
      if i = o then (db.payments.ofOrder? o).map fun e =>
        (e.1, if e.2.status ≠ .aborted ∧ e.2.status ≠ .expired then
          { e.2 with status := .aborted } else e.2)
      else db.payments.ofOrder? i := by
  unfold abortPaymentOf
  split
  · rename_i hnone
    split
    · rename_i hi
      rw [hi, hnone]
      rfl
    · rfl
  · rename_i k p hof
    rw [Db.log_payments, PaymentTable.ofOrder?_setStatus]
    split
    · rename_i hi
      rw [hi, hof]
      simp
    · rename_i hi
      cases hoi : db.payments.ofOrder? i with
      | none => rfl
      | some e =>
        obtain ⟨j, q⟩ := e
        have hj : j ≠ k := by
          intro hjk
          subst hjk
          obtain ⟨hq, hqo⟩ := PaymentTable.ofOrder?_eq_some.mp hoi
          obtain ⟨hp, hpo⟩ := PaymentTable.ofOrder?_eq_some.mp hof
          rw [hp] at hq
          cases hq
          exact hi (hqo.symm.trans hpo)
        simp [hj]

theorem abortPaymentOf_tables (db : Db) (o : OrderId) (reason : String) :
    (abortPaymentOf db o reason).orders = db.orders ∧
      (abortPaymentOf db o reason).products = db.products ∧
      db.payments.Keeps (abortPaymentOf db o reason).payments ∧
      ∃ logs, (abortPaymentOf db o reason).logs = db.logs ++ logs := by
  unfold abortPaymentOf
  split
  · exact ⟨rfl, rfl, PaymentTable.Keeps.refl _, [], by simp⟩
  · exact ⟨rfl, rfl, PaymentTable.keeps_setStatus _ _ _, _, rfl⟩

/-- An order that is not unpaid is left alone. -/
theorem rollbackPaymentFailure_skips {db : Db} {o : OrderId} {order : Order}
    (hget : db.orders.get? o = some order) (hpaid : order.status.isUnpaid = false) (now : Time)
    (reason : String) : (rollbackPaymentFailure db now o reason).2 = db := by
  unfold rollbackPaymentFailure
  rw [hget]
  dsimp only
  split
  · rfl
  · split
    · rfl
    · split
      · rfl
      · cases hs : order.status <;> simp_all [OrderStatus.isUnpaid]

theorem rollbackPaymentFailure_unpaid {db : Db} {o : OrderId} {order : Order}
    (hget : db.orders.get? o = some order) (hunpaid : order.status.isUnpaid = true) (now : Time)
    (reason : String) :
    RollsBack db now o order (rollbackPaymentFailure db now o reason).2 := by
  have hfailed : ¬ (order.status = .paymentFailed ∨ order.status = .canceled) := by
    rintro (hs | hs)
    · rw [hs] at hunpaid
      cases hunpaid
    · rw [hs] at hunpaid
      cases hunpaid
  have hpaid : order.status ≠ .paid := by
    intro hs
    rw [hs] at hunpaid
    cases hunpaid
  have hopen : ¬ (order.status ≠ .pending ∧ order.status ≠ .confirmed) := by
    rintro ⟨hpending, hconfirmed⟩
    cases hs : order.status <;> simp_all [OrderStatus.isUnpaid]
  unfold rollbackPaymentFailure
  rw [hget]
  dsimp only
  rw [if_neg hfailed, if_neg hpaid, if_neg hopen]
  generalize hr : (if 0 < order.usedPoints then
    (db.updateItems addStock order.items).refundUsedPoints now order.user
      order.usedPoints o .paymentFailRefund
    else db.updateItems addStock order.items) = refunded
  have hbase : refunded.orders = db.orders ∧ refunded.payments = db.payments ∧
      refunded.products = updateProducts db.products addStock order.items ∧
      refunded.logs = db.logs := by
    rw [← hr]
    split
    · exact ⟨rfl, rfl, rfl, rfl⟩
    · exact ⟨rfl, rfl, rfl, rfl⟩
  obtain ⟨hbo, hbp, hbs, hbl⟩ := hbase
  have htables := abortPaymentOf_tables (refunded.saveOrder o (Order.withFailure
    .paymentFailed (if reason = "" then "결제 승인 실패" else reason) now)) o reason
  obtain ⟨hto, htp, htk, logs, htl⟩ := htables
  refine ⟨hget, hunpaid, ⟨_, by rw [hto, Db.saveOrder_orders, hbo]⟩,
    by rw [htp, Db.saveOrder_products, hbs], fun i => ?_, ?_, logs,
    by rw [htl, Db.saveOrder_logs, hbl]⟩
  · rw [abortPaymentOf_ofOrder?, Db.saveOrder_payments, hbp]
  · rwa [Db.saveOrder_payments, hbp] at htk

theorem rollbackPaymentFailure_cases (db : Db) (now : Time) (o : OrderId) (reason : String) :
    (rollbackPaymentFailure db now o reason).2 = db ∨
      ∃ order, RollsBack db now o order (rollbackPaymentFailure db now o reason).2 := by
  cases hget : db.orders.get? o with
  | none =>
    left
    unfold rollbackPaymentFailure
    rw [hget]
  | some order =>
    cases hunpaid : order.status.isUnpaid with
    | false => exact Or.inl (rollbackPaymentFailure_skips hget hunpaid now reason)
    | true => exact Or.inr ⟨order, rollbackPaymentFailure_unpaid hget hunpaid now reason⟩

/-! ## Watching -/

/-- `reconcile_stalled_payments` writes logs, and publishes the finalisation
of payments that the provider confirms. -/
theorem reconcileLoop_spec (lookup : String → Except TossPaymentError TossPayment)
    (rows : List (Nat × Payment)) (db : Db) :
    MovesPoints db (reconcileLoop lookup db rows).1 ∧
      ∀ m ∈ (reconcileLoop lookup db rows).2, ∃ data k p order, (k, p) ∈ rows ∧
        confirmsCharge data p.tossOrderId p.amount = true ∧
        db.orders.get? p.order = some order ∧ m = .finalize data k order.user := by
  have hflag : ∀ (x : Db) k reason, MovesPoints x (flagStalledPaymentUnresolved x k reason) := by
    intro x k reason
    unfold flagStalledPaymentUnresolved
    split
    · exact MovesPoints.refl x
    · exact (MovesPoints.refl x).log k _ _
  induction rows generalizing db with
  | nil => exact ⟨MovesPoints.refl db, by simp [reconcileLoop]⟩
  | cons row rest ih =>
    obtain ⟨k, payment⟩ := row
    -- What the rest publishes is published by the whole loop, over logs that were added before.
    have hrest : ∀ x, MovesPoints db x → MovesPoints db (reconcileLoop lookup x rest).1 ∧
        ∀ m ∈ (reconcileLoop lookup x rest).2, ∃ data j p order, (j, p) ∈ (k, payment) :: rest ∧
          confirmsCharge data p.tossOrderId p.amount = true ∧
          db.orders.get? p.order = some order ∧ m = .finalize data j order.user := by
      intro x hx
      obtain ⟨hdb, hsent⟩ := ih x
      refine ⟨hx.trans hdb, fun m hm => ?_⟩
      obtain ⟨data, j, p, order, hmem, hconf, horder, hm⟩ := hsent m hm
      rw [hx.orders] at horder
      exact ⟨data, j, p, order, List.mem_cons_of_mem _ hmem, hconf, horder, hm⟩
    rw [reconcileLoop]
    split
    · exact hrest _ (hflag db k _)
    · rename_i key hkey
      split
      · split
        · exact hrest _ (hflag db k _)
        · exact hrest _ (MovesPoints.refl db)
      · rename_i data hdata
        split
        · rename_i hconf
          have hlogged := hrest _ ((MovesPoints.refl db).log k .approve
            ("대사: 멈춘 결제의 토스 상태 " ++ statusText data.status ++ " 확인 → 결제 마감 재발행"))
          dsimp only
          split
          · exact hlogged
          · rename_i order horder
            refine ⟨hlogged.1, fun m hm => ?_⟩
            rcases List.mem_cons.mp hm with hm | hm
            · exact ⟨data, k, payment, order, List.mem_cons_self, hconf, horder, hm⟩
            · exact hlogged.2 m hm
        · exact hrest _ (hflag db k _)

theorem logOnPayment_moves (db : Db) (o : OrderId) (logType : LogType) (message : String) :
    MovesPoints db (logOnPayment db o logType message) := by
  unfold logOnPayment
  split
  · exact MovesPoints.refl db
  · exact (MovesPoints.refl db).log _ _ _

@[simp] theorem logOnPayment_ledger (db : Db) (o : OrderId) (logType : LogType)
    (message : String) : (logOnPayment db o logType message).ledger = db.ledger := by
  unfold logOnPayment
  split
  · rfl
  · rfl

/-- What `call_toss_confirm_api` commits: a log at most, and when it gives up,
the payment is aborted after it. -/
theorem callTossConfirmApi_commits (db : Db) (o : OrderId) (amount : Int) (id : TossOrderId)
    (k : Nat) (user : UserId) (answer : TossAnswer) (retriesLeft published : Bool) :
    ∃ logged, MovesPoints db logged ∧ logged.ledger = db.ledger ∧
      let out := callTossConfirmApi db o amount id k user answer retriesLeft published
      (out.db = logged ∨
        (∃ log reason, out.result = .abort log reason) ∧ out.db = markConfirmAborted logged o) := by
  have hlogged : ∀ (lt : LogType) (text : Option String),
      MovesPoints db (text.elim db (logOnPayment db o lt)) ∧
        (text.elim db (logOnPayment db o lt)).ledger = db.ledger := by
    intro lt text
    cases text with
    | none => exact ⟨.refl db, rfl⟩
    | some text => exact ⟨logOnPayment_moves db o lt text, logOnPayment_ledger db o lt text⟩
  unfold callTossConfirmApi
  cases hdecision : confirmDecision id amount retriesLeft answer with
  | finalize response reconciled =>
    obtain ⟨hmoves, hledger⟩ := hlogged .approve reconciled
    refine ⟨_, hmoves, hledger, Or.inl ?_⟩
    cases reconciled with
    | none => rfl
    | some message => rfl
  | retry text =>
    obtain ⟨hmoves, hledger⟩ := hlogged .error text
    refine ⟨_, hmoves, hledger, Or.inl ?_⟩
    cases text with
    | none => rfl
    | some message => rfl
  | unresolved text =>
    obtain ⟨hmoves, hledger⟩ := hlogged .error text
    refine ⟨_, hmoves, hledger, Or.inl ?_⟩
    cases text with
    | none => rfl
    | some message => rfl
  | abort text reason =>
    obtain ⟨hmoves, hledger⟩ := hlogged .error (some text)
    exact ⟨_, hmoves, hledger, Or.inr ⟨⟨text, reason, rfl⟩, rfl⟩⟩

end PaymentTasks

/-! ## Earning -/

theorem PointTasks.addPointsAfterPayment_ok {db db' : Db} {now : Time} {user : UserId}
    {o : OrderId} {result : PointTasks.EarnResult}
    (h : PointTasks.addPointsAfterPayment db now user o = .ok (result, db')) :
    PaymentService.Earns db o db' := by
  have hsame : PaymentService.Earns db o db := ⟨rfl, rfl, Or.inl rfl, [], by simp⟩
  unfold PointTasks.addPointsAfterPayment at h
  obtain ⟨order, _, h⟩ := bind_eq_ok.mp h
  split at h
  · cases h
    exact hsame
  · split at h
    · cases h
      exact hsame
    · dsimp only at h
      split at h
      · cases h
        exact hsame
      · split at h
        · cases h
        · rename_i history ledger hadd
          generalize hn : earnPoints order.totalAmount (db.membership user).earnRate = n at h
          generalize hearned : ({ db with ledger := ledger }.saveOrder o fun x =>
            { x with earnedPoints := n }) = earned at h
          cases h
          have hlog := PaymentTasks.logOnPayment_moves earned o .approve
            ("포인트 " ++ toString n ++ "점 적립")
          have htables : earned.payments = db.payments ∧ earned.products = db.products ∧
              earned.orders = (db.orders.modify o fun x => { x with earnedPoints := n }) ∧
              earned.logs = db.logs := by
            rw [← hearned]
            exact ⟨rfl, rfl, rfl, rfl⟩
          obtain ⟨hp, hs, ho, hl⟩ := htables
          refine ⟨hlog.payments.trans hp, hlog.products.trans hs,
            Or.inr ⟨n, hlog.orders.trans ho⟩, ?_⟩
          rw [← hl]
          exact hlog.logs

end Shopping
