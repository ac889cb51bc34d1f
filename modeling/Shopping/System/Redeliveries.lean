import Shopping.Lib.Idempotent
import Shopping.System.WebhookDesk

/-!
# Webhooks that are delivered again

The provider sends a webhook again until it is answered with 200, up to seven
times, so that a report comes any number of times, and reports of different
payments come in between.  The marks in the cache hold back some of them, for a
minute.

What a handler does settles the payment for the reports of that status, and a
report of a settled payment does nothing but write a log.  `redelivered_once`
makes of this that the shop ends as if every payment had been reported at most
once.
-/

namespace Shopping

open TossWebhookService TossWebhookView

/-! ## Logs that are there already -/

/-- The database with more logs before its own. -/
def Db.behind (older : List PaymentLog) (db : Db) : Db := { db with logs := older ++ db.logs }

/-- The database without its logs. -/
def Db.withoutLogs (db : Db) : Db := { db with logs := [] }

section

variable (older : List PaymentLog) (db : Db) (now : Time)

@[simp] theorem Db.behind_ledger : (db.behind older).ledger = db.ledger := rfl
@[simp] theorem Db.behind_membership : (db.behind older).membership = db.membership := rfl
@[simp] theorem Db.behind_payments : (db.behind older).payments = db.payments := rfl
@[simp] theorem Db.behind_orders : (db.behind older).orders = db.orders := rfl

theorem Db.behind_withoutLogs : db.withoutLogs.behind db.logs = db := by
  unfold Db.behind Db.withoutLogs
  simp

theorem Db.log_behind (k : Nat) (logType : LogType) (message : String) :
    (db.behind older).log k logType message = (db.log k logType message).behind older := by
  simp [Db.behind, Db.log]

theorem Db.saveOrder_behind (o : OrderId) (f : Order → Order) :
    (db.behind older).saveOrder o f = (db.saveOrder o f).behind older := rfl

theorem Db.savePayment_behind (k : Nat) (row : Payment) :
    (db.behind older).savePayment k row = (db.savePayment k row).map (Db.behind older) := by
  unfold Db.savePayment
  show (db.payments.save k row).map _ = _
  cases db.payments.save k row with
  | error e => rfl
  | ok payments => rfl

theorem markWebhookProcessed_behind (id : TossOrderId) (event : TossStatus) :
    markWebhookProcessed (db.behind older) now id event
      = (markWebhookProcessed db now id event).behind older := by
  unfold markWebhookProcessed
  show (if isWebhookDuplicate db now id event = true then _ else _) = _
  split
  · rfl
  · rfl

theorem earnOnDone_behind (o : OrderId) (order : Order) :
    earnOnDone (db.behind older) now o order
      = (earnOnDone db now o order).map (Db.behind older) := by
  unfold earnOnDone
  split
  · rfl
  · simp only [Db.behind_membership, Db.behind_ledger]
    by_cases hpoints : 0 < earnPoints order.totalAmount (db.membership order.user).earnRate
    · simp only [hpoints, if_true]
      cases PointService.addPoints db.ledger now order.user
          (earnPoints order.totalAmount (db.membership order.user).earnRate) .earn (some o) with
      | error e => rfl
      | ok out => rfl
    · simp only [hpoints, if_false]
      rfl

theorem reclaimEarnedPoints_behind (o : OrderId) (order : Order) (k : Nat) (reason : String) :
    reclaimEarnedPoints (db.behind older) now o order k reason
      = ((reclaimEarnedPoints db now o order k reason).1,
        (reclaimEarnedPoints db now o order k reason).2.behind older) := by
  unfold reclaimEarnedPoints
  simp only [Db.behind_ledger]
  by_cases hsuccess : (PointService.usePointsFifo db.ledger now order.user order.earnedPoints
      .cancelDeduct (some o)).1.success = true
  · simp only [hsuccess, if_true]
    rfl
  · simp only [hsuccess, Bool.false_eq_true, if_false]
    exact Prod.ext rfl (Db.log_behind older { db with ledger := _ } k .error _)

theorem settlePointsOnCanceled_behind (k : Nat) (o : OrderId) (order : Order) :
    settlePointsOnCanceled (db.behind older) now k o order
      = (settlePointsOnCanceled db now k o order).behind older := by
  unfold settlePointsOnCanceled
  dsimp only
  rw [reclaimEarnedPoints_behind]
  by_cases hearned : (order.status = .paid ∨ order.status = .preparing) ∧ 0 < order.earnedPoints
  · simp only [hearned]
    split
    · rfl
    · rfl
  · simp only [hearned, if_false]
    split
    · rfl
    · rfl

theorem restoreOnCanceled_behind (order : Order) :
    restoreOnCanceled (db.behind older) order = (restoreOnCanceled db order).behind older := by
  unfold restoreOnCanceled
  split
  · rfl
  · split
    · rfl
    · rfl

theorem revertDeposit_behind (k : Nat) (o : OrderId) (order : Order) :
    revertDeposit (db.behind older) now k o order
      = (revertDeposit db now k o order).behind older := by
  unfold revertDeposit
  dsimp only
  have hunsold : (db.behind older).updateItems takeSold order.items
      = (db.updateItems takeSold order.items).behind older := rfl
  rw [hunsold, reclaimEarnedPoints_behind]
  by_cases hearned : 0 < order.earnedPoints
  · rw [if_pos hearned, if_pos hearned, Db.saveOrder_behind, Db.log_behind]
  · rw [if_neg hearned, if_neg hearned, Db.saveOrder_behind, Db.log_behind]

theorem Db.getOrder_behind (o : OrderId) : (db.behind older).getOrder o = db.getOrder o := rfl

/-- The result of a handler, with more logs before. -/
def behindResult {ρ : Type} (r : ρ × Db) : ρ × Db := (r.1, r.2.behind older)

/-- The writes of a deposit on the items, the order and the carts, and the points that it earns. -/
theorem settled_behind (older : List PaymentLog) (saved : Db) (now : Time) (o : OrderId)
    (order : Order) (method : String) :
    earnOnDone ((((saved.behind older).updateItems addSold order.items).saveOrder o
        (Order.withPaid method now)).deactivateCarts order.user) now o order
      = (earnOnDone (((saved.updateItems addSold order.items).saveOrder o
          (Order.withPaid method now)).deactivateCarts order.user) now o order).map
            (Db.behind older) := by
  have hsettled : (((saved.behind older).updateItems addSold order.items).saveOrder o
      (Order.withPaid method now)).deactivateCarts order.user
      = (((saved.updateItems addSold order.items).saveOrder o
        (Order.withPaid method now)).deactivateCarts order.user).behind older := rfl
  rw [hsettled, earnOnDone_behind]

theorem handlePaymentDone_behind (event : TossPayment) :
    handlePaymentDone (db.behind older) now event
      = (handlePaymentDone db now event).map (behindResult older) := by
  unfold handlePaymentDone
  cases event.orderId with
  | none => rfl
  | some id =>
    have hdup : isWebhookDuplicate (db.behind older) now id .done
        = isWebhookDuplicate db now id .done := rfl
    dsimp only
    rw [hdup, Db.behind_payments]
    by_cases hmarked : isWebhookDuplicate db now id .done = true
    · simp only [hmarked, if_true]
      rfl
    · simp only [hmarked]
      cases db.payments.ofTossOrderId? id with
      | none => rfl
      | some found =>
        obtain ⟨k, payment⟩ := found
        dsimp only
        by_cases hpaid : payment.isPaid = true
        · simp only [hpaid, if_true]
          rfl
        · by_cases haborted : payment.status = .aborted
          · simp only [hpaid, haborted, if_true, Db.log_behind]
            rfl
          · by_cases hcanceled : payment.status = .canceled
            · simp only [hpaid, hcanceled, if_true]
              rfl
            · by_cases hexpired : payment.status = .expired
              · simp only [hpaid, hexpired, if_true, Db.log_behind]
                rfl
              · simp only [hpaid, haborted, hcanceled, hexpired, if_false, Db.getOrder_behind]
                cases db.getOrder payment.order with
                | error e => rfl
                | ok order =>
                  cases payment.markAsPaid now event with
                  | error e => rfl
                  | ok row =>
                    simp only [ok_bind, Db.savePayment_behind]
                    cases db.savePayment k row with
                    | error e => rfl
                    | ok saved =>
                      simp only [Except.map, ok_bind]
                      by_cases hoc : order.status = .canceled
                      · simp only [hoc, if_true, Db.log_behind, markWebhookProcessed_behind]
                        rfl
                      · by_cases hop : order.status = .paid
                        · simp only [hop, if_true, markWebhookProcessed_behind]
                          rfl
                        · simp only [hoc, hop, if_false]
                          rw [settled_behind]
                          cases earnOnDone (((saved.updateItems addSold order.items).saveOrder
                              payment.order (Order.withPaid (methodOrCard row.method)
                                now)).deactivateCarts order.user) now payment.order order with
                          | error e => rfl
                          | ok earned =>
                            simp only [Except.map, ok_bind, Db.log_behind,
                              markWebhookProcessed_behind]
                            rfl

theorem handlePaymentCanceled_behind (event : TossPayment) :
    handlePaymentCanceled (db.behind older) now event
      = (handlePaymentCanceled db now event).map (behindResult older) := by
  unfold handlePaymentCanceled
  cases event.orderId with
  | none => rfl
  | some id =>
    have hdup : isWebhookDuplicate (db.behind older) now id .canceled
        = isWebhookDuplicate db now id .canceled := rfl
    dsimp only
    rw [hdup, Db.behind_payments]
    by_cases hmarked : isWebhookDuplicate db now id .canceled = true
    · simp only [hmarked, if_true]
      rfl
    · simp only [hmarked]
      cases db.payments.ofTossOrderId? id with
      | none => rfl
      | some found =>
        obtain ⟨k, payment⟩ := found
        dsimp only
        by_cases hisCanceled : payment.isCanceled = true
        · simp only [hisCanceled, if_true]
          rfl
        · by_cases haborted : payment.status = .aborted
          · simp only [hisCanceled, haborted, if_true]
            rfl
          · simp only [hisCanceled, haborted, if_false, Bool.false_eq_true]
            cases payment.markAsCanceled now event with
            | error e => rfl
            | ok row =>
              simp only [ok_bind, Db.savePayment_behind]
              cases db.savePayment k row with
              | error e => rfl
              | ok saved =>
                simp only [Except.map, ok_bind, Db.getOrder_behind]
                cases db.getOrder payment.order with
                | error e => rfl
                | ok order =>
                  simp only [ok_bind]
                  by_cases hoc : order.status = .canceled
                  · simp only [hoc, if_true, markWebhookProcessed_behind]
                    rfl
                  · simp only [hoc, if_false, restoreOnCanceled_behind,
                      settlePointsOnCanceled_behind, Db.saveOrder_behind, Db.log_behind,
                      markWebhookProcessed_behind]
                    rfl

theorem handleWaitingForDeposit_behind (event : TossPayment) :
    handleWaitingForDeposit (db.behind older) now event
      = (handleWaitingForDeposit db now event).map (behindResult older) := by
  unfold handleWaitingForDeposit
  cases event.orderId with
  | none => rfl
  | some id =>
    dsimp only
    rw [Db.behind_payments]
    cases db.payments.ofTossOrderId? id with
    | none => rfl
    | some found =>
      obtain ⟨k, payment⟩ := found
      dsimp only
      by_cases hwaiting : payment.isWaitingForDeposit = true
      · simp only [hwaiting, if_true]
        rfl
      · by_cases hinvalid : payment.status.isInvalid = true
        · simp only [hwaiting, hinvalid, if_true]
          rfl
        · simp only [hwaiting, hinvalid, Db.getOrder_behind]
          cases db.getOrder payment.order with
          | error e => rfl
          | ok order =>
            cases payment.markAsWaitingForDeposit now event with
            | error e => rfl
            | ok row =>
              simp only [ok_bind]
              by_cases hpaid : payment.isPaid = true
              · simp only [hpaid, if_true, revertDeposit_behind, Db.savePayment_behind]
                cases (revertDeposit db now k payment.order order).savePayment k row with
                | error e => rfl
                | ok saved => rfl
              · simp only [hpaid, Db.log_behind, Db.savePayment_behind]
                cases (db.log k .webhook "가상계좌 발급 웹훅 처리, 입금 대기").savePayment k row with
                | error e => rfl
                | ok saved => rfl

theorem failPayment_behind (k : Nat) (payment : Payment) (event : TossPayment)
    (published : Bool) : failPayment (db.behind older) now k payment event published
      = (failPayment db now k payment event published).map fun out =>
          { out with db := out.db.behind older } := by
  unfold failPayment
  dsimp only
  rw [Db.savePayment_behind]
  cases db.savePayment k (if event.status = some .expired then
      payment.markAsExpired now (failReason event)
    else payment.markAsFailed now (failReason event)) with
  | error e => rfl
  | ok saved =>
    simp only [Except.map, ok_bind, Db.getOrder_behind]
    cases db.getOrder payment.order with
    | error e => rfl
    | ok order =>
      simp only [ok_bind, Db.log_behind]

theorem dispatch_behind {info : TossPayment} (hfailure : reportsFailure info = false) :
    dispatch (db.behind older) now info = (dispatch db now info).map (Db.behind older) := by
  have hne := of_decide_eq_false hfailure
  unfold dispatch
  cases hstatus : info.status with
  | none => rfl
  | some status =>
    cases status with
    | done =>
      simp only [handlePaymentDone_behind]
      cases handlePaymentDone db now info with
      | error e => rfl
      | ok out => rfl
    | canceled =>
      simp only [handlePaymentCanceled_behind]
      cases handlePaymentCanceled db now info with
      | error e => rfl
      | ok out => rfl
    | waitingForDeposit =>
      simp only [handleWaitingForDeposit_behind]
      cases handleWaitingForDeposit db now info with
      | error e => rfl
      | ok out => rfl
    | aborted => exact absurd (Or.inl hstatus) hne
    | expired => exact absurd (Or.inr hstatus) hne
    | ready | inProgress | partialCanceled => rfl

/-- A webhook does the same whatever was logged before. -/
theorem process_behind (info : TossPayment) (published : Bool) :
    process (db.behind older) now info published
      = { process db now info published with
          db := (process db now info published).db.behind older } := by
  unfold process
  cases hfailure : reportsFailure info with
  | false =>
    simp only [Bool.false_eq_true, if_false]
    unfold handleLocked
    rw [dispatch_behind older db now hfailure]
    cases dispatch db now info with
    | error e => rfl
    | ok db' => rfl
  | true =>
    simp only [if_true]
    have hread : readFailure (db.behind older) info = readFailure db info := rfl
    rw [hread]
    cases readFailure db info with
    | none => rfl
    | some found =>
      obtain ⟨k, payment⟩ := found
      dsimp only
      unfold saveFailure
      rw [failPayment_behind]
      cases failPayment db now k payment info true with
      | error e => rfl
      | ok out =>
        simp only [Except.map]
        split
        · rfl
        · rfl

end

/-! ## Settled payments -/

/-- A report of the status finds nothing to do. -/
def settledFor (p : Payment) : TossStatus → Bool
  | .done => p.isPaid
  | .canceled => p.isCanceled
  | .waitingForDeposit => p.isWaitingForDeposit
  | .aborted | .expired => !acceptsFailure p
  | .ready | .inProgress | .partialCanceled => true

/-- `toss_order_id` is unique. -/
def UniqueNumbers (db : Db) : Prop :=
  ∀ j k p q, db.payments.get? j = some p → db.payments.get? k = some q →
    p.tossOrderId = q.tossOrderId → j = k

section

variable {db : Db} {now : Time} {info : TossPayment} {published : Bool} {id : TossOrderId}
  {k : Nat} {p : Payment} {status : TossStatus}

theorem UniqueNumbers.found (h : UniqueNumbers db) (hp : db.payments.get? k = some p) :
    db.payments.ofTossOrderId? p.tossOrderId = some (k, p) :=
  Table.find?_of_unique hp (decide_eq_true rfl) fun j q hq hid =>
    h j k q p hq hp (of_decide_eq_true hid)

theorem KeepsNames.unique {db' : Db} (hn : KeepsNames db db') (h : UniqueNumbers db) :
    UniqueNumbers db' := by
  intro j k p q hp hq hid
  have hj := hn.payments j
  have hk := hn.payments k
  rw [hp, Option.map_some, eq_comm, Option.map_eq_some_iff] at hj
  rw [hq, Option.map_some, eq_comm, Option.map_eq_some_iff] at hk
  obtain ⟨p₀, hp₀, hpeq⟩ := hj
  obtain ⟨q₀, hq₀, hqeq⟩ := hk
  refine h j k p₀ q₀ hp₀ hq₀ ?_
  rw [(Prod.mk.inj hpeq).2, (Prod.mk.inj hqeq).2, hid]

/-- A report of a settled payment does nothing. -/
theorem process_settled (now : Time) (published : Bool) (hid : info.orderId = some id)
    (hof : db.payments.ofTossOrderId? id = some (k, p)) (hstatus : info.status = some status)
    (h : settledFor p status = true) :
    (process db now info published).db = db ∧ (process db now info published).sent = [] := by
  cases status with
  | done =>
    have hpaid : p.isPaid = true := h
    simp only [process, reportsFailure, hstatus, handleLocked, dispatch, handlePaymentDone, hid,
      hof, hpaid, if_true]
    by_cases hdup : isWebhookDuplicate db now id .done = true
    · simp [hdup, processed, Except.map]
    · simp [hdup, processed, Except.map]
  | canceled =>
    have hcanceled : p.isCanceled = true := h
    simp only [process, reportsFailure, hstatus, handleLocked, dispatch, handlePaymentCanceled, hid,
      hof, hcanceled, if_true]
    by_cases hdup : isWebhookDuplicate db now id .canceled = true
    · simp [hdup, processed, Except.map]
    · simp [hdup, processed, Except.map]
  | waitingForDeposit =>
    have hwaiting : p.isWaitingForDeposit = true := h
    simp [process, reportsFailure, hstatus, handleLocked, dispatch, handleWaitingForDeposit, hid,
      hof, hwaiting, processed, Except.map]
  | aborted =>
    have hclosed : acceptsFailure p = false := by simpa [settledFor] using h
    simp [process, reportsFailure, hstatus, readFailure, hid, hof, hclosed, processed,
      Option.filter]
  | expired =>
    have hclosed : acceptsFailure p = false := by simpa [settledFor] using h
    simp [process, reportsFailure, hstatus, readFailure, hid, hof, hclosed, processed,
      Option.filter]
  | ready | inProgress | partialCanceled =>
    simp [process, reportsFailure, hstatus, handleLocked, dispatch, processed]

variable (id status) in
/-- The payment of the number is settled for the status. -/
def SettledIn (db : Db) : Prop :=
  ∃ k p, db.payments.get? k = some p ∧ p.tossOrderId = id ∧ settledFor p status = true

/-- The handler wrote nothing but logs, or it settled the payment. -/
def LogsOrSettles (id : TossOrderId) (status : TossStatus) (db db' : Db) : Prop :=
  (∃ logs, db' = { db with logs := logs }) ∨ SettledIn id status db'

theorem LogsOrSettles.refl (db : Db) : LogsOrSettles id status db db := Or.inl ⟨db.logs, rfl⟩

/-- The row that was written settles the payment. -/
theorem SettledIn.of_saved {db' saved : Db} {row : Payment}
    (hof : db.payments.ofTossOrderId? id = some (k, p)) (hsaved : db.savePayment k row = .ok saved)
    (hkept : db'.payments = saved.payments) (hrow : p.tossOrderId = row.tossOrderId)
    (h : settledFor row status = true) : SettledIn id status db' := by
  obtain ⟨payments, hsave, rfl⟩ := Db.savePayment_eq_ok.mp hsaved
  have hid : p.tossOrderId = id := of_decide_eq_true (Table.find?_eq_some_get hof).2
  refine ⟨k, row, ?_, hrow.symm.trans hid, h⟩
  rw [hkept, PaymentTable.get?_save hsave, if_pos rfl]

theorem handlePaymentDone_settled {result : DoneResult} {db' : Db} (hid : info.orderId = some id)
    (h : handlePaymentDone db now info = .ok (result, db')) : LogsOrSettles id .done db db' := by
  rcases handlePaymentDone_ok h with ⟨rfl, _⟩ | ⟨id', k, p, hid', hof, hcase⟩
  · exact .refl db'
  · cases hid.symm.trans hid'
    have hpaid : ∀ {row : Payment}, p.markAsPaid now info = .ok row →
        p.tossOrderId = row.tossOrderId ∧ settledFor row .done = true := fun hrow =>
      ⟨(Payment.markAsPaid_spec hrow).2.tossOrderId.symm,
        decide_eq_true (Payment.markAsPaid_spec hrow).1⟩
    cases hcase with
    | alreadyPaid _ | finalState _ => exact .refl db
    | chargedButFailed _ | depositAfterExpiry _ => exact Or.inl ⟨_, rfl⟩
    | chargedOnCanceledOrder _ _ _ hrow hsaved =>
      obtain ⟨htoss, hdone⟩ := hpaid hrow
      exact Or.inr (.of_saved hof hsaved (by simp) htoss hdone)
    | orderAlreadyPaid _ _ _ hrow hsaved =>
      obtain ⟨htoss, hdone⟩ := hpaid hrow
      exact Or.inr (.of_saved hof hsaved (by simp) htoss hdone)
    | settled _ _ _ _ hrow hsaved hearned =>
      obtain ⟨htoss, hdone⟩ := hpaid hrow
      refine Or.inr (.of_saved hof hsaved ?_ htoss hdone)
      simp [hearned.payments]

theorem handlePaymentCanceled_settled {result : CanceledResult} {db' : Db}
    (hid : info.orderId = some id) (h : handlePaymentCanceled db now info = .ok (result, db')) :
    LogsOrSettles id .canceled db db' := by
  rcases handlePaymentCanceled_ok h with rfl |
    ⟨id', k, p, x, row, hid', hof, _, _, _, hrow, hcase⟩
  · exact .refl db'
  · cases hid.symm.trans hid'
    have htoss := (markAsCanceled_names hrow).2
    have hcanceled : settledFor row .canceled = true := (Payment.markAsCanceled_spec hrow).2.1
    cases hcase with
    | orderAlreadyCanceled _ hsaved => exact Or.inr (.of_saved hof hsaved (by simp) htoss hcanceled)
    | @canceled saved _ hsaved =>
      refine Or.inr (.of_saved hof hsaved ?_ htoss hcanceled)
      have hsettled := movesPoints_settleOnCanceled (restoreOnCanceled saved x) now k p.order x
      simp [hsettled.payments, (restoreOnCanceled_tables saved x).1]

theorem handleWaitingForDeposit_settled {result : WaitingResult} {db' : Db}
    (hid : info.orderId = some id) (h : handleWaitingForDeposit db now info = .ok (result, db')) :
    LogsOrSettles id .waitingForDeposit db db' := by
  rcases handleWaitingForDeposit_ok h with rfl |
    ⟨id', k, p, x, row, hid', hof, _, _, _, hrow, hcase⟩
  · exact .refl db'
  · cases hid.symm.trans hid'
    obtain ⟨hwaiting, hsame⟩ := Payment.markAsWaitingForDeposit_spec hrow
    have hsettled : settledFor row .waitingForDeposit = true := decide_eq_true hwaiting
    cases hcase with
    | depositReverted _ hsaved =>
      have hof' : (revertDeposit db now k p.order x).payments.ofTossOrderId? id = some (k, p) := by
        rw [(revertDeposit_tables db now k p.order x).1, hof]
      exact Or.inr (.of_saved hof' hsaved rfl hsame.tossOrderId.symm hsettled)
    | issued _ hsaved =>
      have hof' : (db.log k .webhook "가상계좌 발급 웹훅 처리, 입금 대기").payments.ofTossOrderId? id
          = some (k, p) := hof
      exact Or.inr (.of_saved hof' hsaved rfl hsame.tossOrderId.symm hsettled)

theorem saveFailure_settled (now : Time) (info : TossPayment) (published : Bool)
    (hof : db.payments.ofTossOrderId? id = some (k, p))
    (hstatus : status = .aborted ∨ status = .expired) :
    (saveFailure db now k p info published).db = db ∧
        (saveFailure db now k p info published).sent = [] ∨
      SettledIn id status (saveFailure db now k p info published).db := by
  unfold saveFailure
  cases hfail : failPayment db now k p info true with
  | error e => exact Or.inl ⟨rfl, rfl⟩
  | ok out =>
    obtain ⟨row, ⟨hsame, _⟩, _, hrow, hsave, _⟩ := failPayment_ok hfail
    have hclosed : settledFor row status = true := by
      rcases hstatus with rfl | rfl
      · rcases hrow with hrow | hrow
        · simp [settledFor, acceptsFailure, hrow]
        · simp [settledFor, acceptsFailure, hrow]
      · rcases hrow with hrow | hrow
        · simp [settledFor, acceptsFailure, hrow]
        · simp [settledFor, acceptsFailure, hrow]
    have hid : p.tossOrderId = id := of_decide_eq_true (Table.find?_eq_some_get hof).2
    have hget : out.db.payments.get? k = some row := by
      rw [PaymentTable.get?_save hsave, if_pos rfl]
    refine Or.inr ⟨k, row, ?_, hsame.tossOrderId.trans hid, hclosed⟩
    dsimp only
    split
    · exact hget
    · exact hget

/-- What a report does: nothing but logs, or it settles the payment for the
reports like it. -/
theorem process_settles (db : Db) (now : Time) (published : Bool) (hid : info.orderId = some id)
    (hstatus : info.status = some status) :
    LogsOrSettles id status db (process db now info published).db ∧
      ((process db now info published).sent = [] ∨
        SettledIn id status (process db now info published).db) := by
  unfold process
  cases hfailure : reportsFailure info with
  | true =>
    have hfailed : status = .aborted ∨ status = .expired := by
      simpa [reportsFailure, hstatus] using hfailure
    simp only [if_true]
    cases hread : readFailure db info with
    | none => exact ⟨.refl db, Or.inl rfl⟩
    | some found =>
      obtain ⟨k, p⟩ := found
      have hof : db.payments.ofTossOrderId? id = some (k, p) := by
        have hbind := (Option.filter_eq_some_iff.mp hread).1
        rwa [hid, Option.bind_some] at hbind
      dsimp only
      rcases saveFailure_settled now info published hof hfailed with ⟨hdb, hsent⟩ | hsettled
      · rw [hdb, hsent]
        exact ⟨.refl db, Or.inl rfl⟩
      · exact ⟨Or.inr hsettled, Or.inr hsettled⟩
  | false =>
    have hne := of_decide_eq_false hfailure
    simp only [Bool.false_eq_true, if_false]
    unfold handleLocked
    cases hdispatch : dispatch db now info with
    | error e => exact ⟨.refl db, Or.inl rfl⟩
    | ok db' =>
      refine ⟨?_, Or.inl rfl⟩
      show LogsOrSettles id status db db'
      unfold dispatch at hdispatch
      cases status with
      | done =>
        simp only [hstatus] at hdispatch
        obtain ⟨⟨result, _⟩, hdone, rfl⟩ := map_eq_ok.mp hdispatch
        exact handlePaymentDone_settled hid hdone
      | canceled =>
        simp only [hstatus] at hdispatch
        obtain ⟨⟨result, _⟩, hcanceled, rfl⟩ := map_eq_ok.mp hdispatch
        exact handlePaymentCanceled_settled hid hcanceled
      | waitingForDeposit =>
        simp only [hstatus] at hdispatch
        obtain ⟨⟨result, _⟩, hwaiting, rfl⟩ := map_eq_ok.mp hdispatch
        exact handleWaitingForDeposit_settled hid hwaiting
      | aborted => exact absurd (Or.inl hstatus) hne
      | expired => exact absurd (Or.inr hstatus) hne
      | ready | inProgress | partialCanceled =>
        simp only [hstatus] at hdispatch
        cases hdispatch
        exact .refl db

/-- A report keeps to its payment. -/
theorem process_within (db : Db) (now : Time) (info : TossPayment) (published : Bool) :
    HandledWithin info db (process db now info published).db := by
  unfold process
  cases hfailure : reportsFailure info with
  | false => exact handleLocked_within hfailure
  | true =>
    simp only [if_true]
    cases hread : readFailure db info with
    | none => exact .refl info db
    | some found =>
      obtain ⟨k, p⟩ := found
      obtain ⟨id, hid, hof⟩ := Option.bind_eq_some_iff.mp (Option.filter_eq_some_iff.mp hread).1
      have hp : db.payments.get? k = some p := PaymentTable.ofTossOrderId?_get hof
      dsimp only
      rcases saveFailure_within now info published ⟨p, hp, rfl, rfl⟩ with
        ⟨hdb, _⟩ | ⟨x, hx, hw, _⟩
      · rw [hdb]
        exact .refl info db
      · exact Or.inr ⟨id, k, p, x, hid, hof, hx, hw⟩

end

/-! ## Deliveries -/

/-- A report that is handled: the reading of the clock, what the provider
answered, and whether the broker takes a message. -/
structure WebhookDelivery where
  now : Time
  info : TossPayment
  published : Bool

/-- The shop and what it published, after a delivery. -/
def deliver (s : Db × List Message) (d : WebhookDelivery) : Db × List Message :=
  let out := process s.1 d.now d.info d.published
  (out.db, s.2 ++ out.sent)

/-- The same without the logs. -/
def deliverQuietly (s : Db × List Message) (d : WebhookDelivery) : Db × List Message :=
  ((deliver s d).1.withoutLogs, (deliver s d).2)

/-- A state without its logs. -/
def quiet (s : Db × List Message) : Db × List Message := (s.1.withoutLogs, s.2)

theorem deliverQuietly_quiet (s : Db × List Message) (d : WebhookDelivery) :
    deliverQuietly (quiet s) d = quiet (deliver s d) := by
  have hprocess := process_behind s.1.logs s.1.withoutLogs d.now d.info d.published
  rw [Db.behind_withoutLogs] at hprocess
  unfold deliverQuietly deliver quiet
  rw [hprocess]
  rfl

theorem foldl_deliverQuietly (ds : List WebhookDelivery) (s : Db × List Message) :
    ds.foldl deliverQuietly (quiet s) = quiet (ds.foldl deliver s) :=
  List.foldl_hom quiet deliverQuietly_quiet

section

variable {s : Db × List Message} {d : WebhookDelivery}

/-- A report without a number or a status is for no handler. -/
theorem process_nothing (db : Db) (now : Time) (published : Bool) {info : TossPayment}
    (h : info.orderId = none ∨ info.status = none) :
    (process db now info published).db = db ∧ (process db now info published).sent = [] := by
  rcases h with hid | hstatus
  · cases hstatus : info.status with
    | none => simp [process, reportsFailure, hstatus, handleLocked, dispatch, processed]
    | some status =>
      cases status with
      | done =>
        simp [process, reportsFailure, hstatus, handleLocked, dispatch, handlePaymentDone, hid,
          processed, Except.map]
      | canceled =>
        simp [process, reportsFailure, hstatus, handleLocked, dispatch, handlePaymentCanceled, hid,
          processed, Except.map]
      | waitingForDeposit =>
        simp [process, reportsFailure, hstatus, handleLocked, dispatch, handleWaitingForDeposit,
          hid, processed, Except.map]
      | aborted | expired =>
        simp [process, reportsFailure, hstatus, readFailure, hid, processed]
      | ready | inProgress | partialCanceled =>
        simp [process, reportsFailure, hstatus, handleLocked, dispatch, processed]
  · simp [process, reportsFailure, hstatus, handleLocked, dispatch, processed]

/-- A delivery that does nothing but logs. -/
theorem deliverQuietly_eq (hquiet : s.1.withoutLogs = s.1)
    (hdb : ∃ logs, (process s.1 d.now d.info d.published).db = { s.1 with logs := logs })
    (hsent : (process s.1 d.now d.info d.published).sent = []) : deliverQuietly s d = s := by
  obtain ⟨logs, hdb⟩ := hdb
  unfold deliverQuietly deliver
  dsimp only
  rw [hsent, List.append_nil, hdb]
  exact Prod.ext hquiet rfl

theorem UniqueNumbers.deliver (h : UniqueNumbers s.1) : UniqueNumbers (deliver s d).1 := by
  have hstart : LeavesUnreported (fun _ => True) s.1 s.1 :=
    (WebhookDesk.Confined.start s.1).leaves
  have hnames : KeepsNames s.1 s.1 := ⟨fun _ => rfl, fun _ => rfl⟩
  exact (hstart.handled hnames (fun _ _ => trivial) (process_within _ _ _ _)).2.unique h

/-- The rows of other numbers stay. -/
theorem SettledIn.deliver {id : TossOrderId} {status : TossStatus} (h : SettledIn id status s.1)
    (hne : d.info.orderId ≠ some id) : SettledIn id status (deliver s d).1 := by
  obtain ⟨k, p, hp, hid, hsettled⟩ := h
  refine ⟨k, p, ?_, hid, hsettled⟩
  show (process s.1 d.now d.info d.published).db.payments.get? k = some p
  rcases process_within s.1 d.now d.info d.published with
    ⟨logs, hdb⟩ | ⟨id', k', p', x, hid', hof, _, hw⟩
  · rw [hdb]
    exact hp
  · have hk : k ≠ k' := by
      rintro rfl
      have hfound := Table.find?_eq_some_get hof
      cases hp.symm.trans hfound.1
      apply hne
      rw [hid', ← hid, of_decide_eq_true hfound.2]
    rw [hw.payments k hk, hp]

/-- The delivery shows the status that the payment has at the provider. -/
def WebhookDelivery.Shows (status : TossOrderId → Option TossStatus) (d : WebhookDelivery) :
    Prop :=
  ∀ id, d.info.orderId = some id → d.info.status = status id

/-- The payment of a report is settled for its status at the provider. -/
def SettledAs (status : TossOrderId → Option TossStatus) (o : Option TossOrderId)
    (s : Db × List Message) : Prop :=
  ∃ id st, o = some id ∧ status id = some st ∧ SettledIn id st s.1

/-- A state of quiet deliveries. -/
def Quiet (s : Db × List Message) : Prop := UniqueNumbers s.1 ∧ s.1.withoutLogs = s.1

variable {status : TossOrderId → Option TossStatus}

theorem Quiet.deliver (h : Quiet s) : Quiet (deliverQuietly s d) := ⟨h.1.deliver, rfl⟩

theorem Quiet.again (h : Quiet s) (hd : d.Shows status) (hs : SettledAs status d.info.orderId s) :
    deliverQuietly s d = s := by
  obtain ⟨id, st, hid, hst, k, p, hp, htoss, hsettled⟩ := hs
  have hof : s.1.payments.ofTossOrderId? id = some (k, p) := by
    rw [← htoss]
    exact h.1.found hp
  obtain ⟨hdb, hsent⟩ := process_settled d.now d.published hid hof ((hd id hid).trans hst) hsettled
  exact deliverQuietly_eq h.2 ⟨s.1.logs, hdb⟩ hsent

theorem Quiet.new (h : Quiet s) (hd : d.Shows status) :
    deliverQuietly s d = s ∨ SettledAs status d.info.orderId (deliverQuietly s d) := by
  by_cases hnone : d.info.orderId = none ∨ d.info.status = none
  · obtain ⟨hdb, hsent⟩ := process_nothing s.1 d.now d.published hnone
    exact Or.inl (deliverQuietly_eq h.2 ⟨s.1.logs, hdb⟩ hsent)
  · rw [not_or] at hnone
    obtain ⟨id, hid⟩ := Option.ne_none_iff_exists'.mp hnone.1
    obtain ⟨st, hst⟩ := Option.ne_none_iff_exists'.mp hnone.2
    have hsettle : SettledIn id st (process s.1 d.now d.info d.published).db →
        SettledAs status d.info.orderId (deliverQuietly s d) := fun hsettled =>
      ⟨id, st, hid, (hd id hid).symm.trans hst, hsettled⟩
    obtain ⟨hdb, hsent⟩ := process_settles s.1 d.now d.published hid hst
    rcases hsent with hsent | hsettled
    · rcases hdb with hlogs | hsettled
      · exact Or.inl (deliverQuietly_eq h.2 hlogs hsent)
      · exact Or.inr (hsettle hsettled)
    · exact Or.inr (hsettle hsettled)

theorem Quiet.keeps (h : Quiet s) (hd : d.Shows status) {o : Option TossOrderId}
    (hs : SettledAs status o s) : SettledAs status o (deliverQuietly s d) := by
  by_cases ho : d.info.orderId = o
  · rw [← ho] at hs ⊢
    rw [h.again hd hs]
    exact hs
  · obtain ⟨id, st, hid, hst, hsettled⟩ := hs
    refine ⟨id, st, hid, hst, ?_⟩
    exact hsettled.deliver fun hc => ho (hc.trans hid.symm)

/-- The reports come any number of times and in any order.  While the status of
each payment stays the same at the provider, the shop ends, up to its logs, as
after some of the deliveries with every payment in them at most once, and has
published the same. -/
theorem redelivered_once {db : Db} {ds : List WebhookDelivery} (hunique : UniqueNumbers db)
    (hds : ∀ d ∈ ds, d.Shows status) :
    ∃ once : List WebhookDelivery, once.Sublist ds ∧
      (once.map fun d => d.info.orderId).Nodup ∧
      (once.foldl deliver (db, [])).1.withoutLogs = (ds.foldl deliver (db, [])).1.withoutLogs ∧
      (once.foldl deliver (db, [])).2 = (ds.foldl deliver (db, [])).2 := by
  have hstart : Quiet (quiet (db, [])) := ⟨hunique, rfl⟩
  have honce : ∃ once : List WebhookDelivery, once.Sublist ds ∧
      (once.map fun d => d.info.orderId).Nodup ∧
      once.foldl deliverQuietly (quiet (db, [])) = ds.foldl deliverQuietly (quiet (db, [])) := by
    refine foldl_once (P := WebhookDelivery.Shows status) Quiet (SettledAs status) ?_ ?_ ?_ ?_
      hds hstart
    · exact fun _ _ _ hI => hI.deliver
    · exact fun _ _ hd hI => hI.new hd
    · exact fun _ _ hd hI hs => hI.again hd hs
    · exact fun _ _ _ hd hI hs => hI.keeps hd hs
  obtain ⟨once, hsub, hnodup, hfold⟩ := honce
  rw [foldl_deliverQuietly, foldl_deliverQuietly] at hfold
  have hdb : (quiet (once.foldl deliver (db, []))).1 = (quiet (ds.foldl deliver (db, []))).1 := by
    rw [hfold]
  have hsent : (quiet (once.foldl deliver (db, []))).2 = (quiet (ds.foldl deliver (db, []))).2 := by
    rw [hfold]
  exact ⟨once, hsub, hnodup, hdb, hsent⟩

/-- The deposit of the order 1 is reported now, a second later, and a day
later. -/
def depositReports : List WebhookDelivery :=
  [⟨5, World.approval, true⟩, ⟨6, World.approval, true⟩, ⟨86405, World.approval, true⟩]

/-- One of the deliveries would have been enough. -/
theorem redelivered_once_deposit :
    ∃ once : List WebhookDelivery, once.length ≤ 1 ∧
      (once.foldl deliver (twoCustomers, [])).1.withoutLogs
        = (depositReports.foldl deliver (twoCustomers, [])).1.withoutLogs := by
  have hunique : UniqueNumbers twoCustomers := by
    have hrow : ∀ j p, twoCustomers.payments.get? j = some p → j = 1 := by
      intro j p hp
      have hone : j = 1 ∨ twoCustomers.payments.get? j = none := by
        by_cases hj : j = 1
        · exact Or.inl hj
        · refine Or.inr ?_
          show (Table.empty.insert _).get? j = none
          rw [Table.get?_insert, Table.next_empty, if_neg hj, Table.get?_empty]
      rcases hone with hj | hnone
      · exact hj
      · rw [hnone] at hp
        cases hp
    intro j k p q hp hq _
    rw [hrow j p hp, hrow k q hq]
  have hshows : ∀ d ∈ depositReports, d.Shows fun _ => some .done := by
    intro d hd id _
    simp only [depositReports, List.mem_cons, List.not_mem_nil, or_false] at hd
    rcases hd with rfl | rfl | rfl
    · rfl
    · rfl
    · rfl
  obtain ⟨once, hsub, hnodup, hdb, _⟩ := redelivered_once hunique hshows
  refine ⟨once, ?_, hdb⟩
  have hmem : (once.map fun d => d.info.orderId) ⊆ [some (.orderNumber 1)] := by
    intro o ho
    obtain ⟨d, hd, rfl⟩ := List.mem_map.mp ho
    have hd' := hsub.mem hd
    simp only [depositReports, List.mem_cons, List.not_mem_nil, or_false] at hd'
    rcases hd' with rfl | rfl | rfl
    · exact List.mem_cons_self
    · exact List.mem_cons_self
    · exact List.mem_cons_self
  have hlength := (hnodup.subperm hmem).length_le
  simpa using hlength

end

end Shopping
