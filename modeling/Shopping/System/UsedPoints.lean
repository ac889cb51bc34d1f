import Shopping.Points.UsedRows
import Shopping.System.OrderOnce
import Shopping.System.Prices

/-!
# What an event books of used points

The processing books the use of an order's points, a cancellation or a
rollback books their refund, and the completion of a return a part of it; no
other event books a use or a refund.  `UsedStep` are these four cases.

`Closing` are the four functions that close an order, canceled or failed, with
what each of them looks at before it gives the points back.
-/

namespace Shopping

open PaymentService PaymentTasks TossWebhookService OrderTasks

/-- The uses and refunds that are booked. -/
def Db.usedRows (db : Db) : List Entry := db.ledger.usedRows

theorem Db.usedRows_of_ledger {db db' : Db} (h : db'.ledger = db.ledger) :
    db'.usedRows = db.usedRows := by
  unfold Db.usedRows
  rw [h]

theorem Db.hasHistory_use (db : Db) (o : OrderId) : db.hasHistory o .use = hasUse o db.usedRows :=
  db.ledger.hasUse_eq o

/-- A refund of a positive amount. -/
theorem Db.refundUsedPoints_usedRows (db : Db) (now : Time) (user : UserId) {n : Int} (o : OrderId)
    {type : PointType} (r : Option Nat) (hpos : 0 < n) (ht : type.isUsedPointsRefund = true) :
    (db.refundUsedPoints now user n o type r).usedRows = db.usedRows ++ [⟨some o, type, n⟩] :=
  PointService.refund_usedRows db.ledger now user o r hpos ht

/-! ## Functions that book nothing -/

section

variable {db db' : Db} {now : Time} {k : Nat} {o : OrderId}

theorem savePayment_usedRows {row : Payment} {saved : Db} (h : db.savePayment k row = .ok saved) :
    saved.usedRows = db.usedRows := Db.usedRows_of_ledger (savePayment_payments h).2.2.2.2

theorem TossWebhookService.markWebhookProcessed_usedRows (db : Db) (now : Time) (id : TossOrderId)
    (status : TossStatus) : (markWebhookProcessed db now id status).usedRows = db.usedRows :=
  Db.usedRows_of_ledger (markWebhookProcessed_ledger db now id status)

theorem PaymentService.earnOnConfirm_usedRows {order : Order} {user : UserId} {n : Int}
    (h : earnOnConfirm db now k o order user = .ok (n, db')) : db'.usedRows = db.usedRows := by
  unfold earnOnConfirm at h
  split at h
  · dsimp only at h
    split at h
    · split at h
      · cases h
      · rename_i hadd
        cases h
        exact PointService.addPoints_usedRows hadd
    · cases h
      rfl
  · split at h
    · cases h
      rfl
    · cases h
      rfl

theorem TossWebhookService.earnOnDone_usedRows {order : Order}
    (h : earnOnDone db now o order = .ok db') : db'.usedRows = db.usedRows := by
  unfold earnOnDone at h
  split at h
  · cases h
    rfl
  · dsimp only at h
    split at h
    · split at h
      · cases h
      · rename_i hadd
        cases h
        exact PointService.addPoints_usedRows hadd
    · cases h
      rfl

theorem PaymentService.deductEarned_usedRows {order : Order} {user : UserId}
    (h : deductEarned db now k o user order = .ok db') : db'.usedRows = db.usedRows := by
  unfold deductEarned at h
  split at h
  · cases h
    rfl
  · split at h
    · cases h
    · dsimp only at h
      split at h
      · cases h
      · cases h
        exact PointService.reclaim_usedRows db.ledger now user order.earnedPoints (some o) none

theorem TossWebhookService.reclaimEarnedPoints_usedRows (db : Db) (now : Time) (o : OrderId)
    (order : Order) (k : Nat) (reason : String) :
    (reclaimEarnedPoints db now o order k reason).2.usedRows = db.usedRows := by
  have hrows := PointService.reclaim_usedRows db.ledger now order.user order.earnedPoints (some o)
    none
  unfold reclaimEarnedPoints
  dsimp only
  split
  · exact hrows
  · exact hrows

theorem PaymentService.confirmPaymentSync_usedRows {user : UserId}
    {toss : Except TossPaymentError TossPayment} {result : ConfirmResult}
    (h : confirmPaymentSync db now k user toss = .ok (result, db')) :
    db'.usedRows = db.usedRows := by
  unfold confirmPaymentSync at h
  obtain ⟨payment, _, h⟩ := bind_eq_ok.mp h
  split at h
  · cases h
  · split at h
    · cases h
    · split at h
      · cases h
      · cases toss with
        | error e => cases h
        | ok data =>
          dsimp only at h
          split at h
          · obtain ⟨issued, hissued, h⟩ := bind_eq_ok.mp h
            obtain ⟨row, saved, _, hsaved, rfl⟩ := recordVirtualAccountIssued_ok hissued
            have hsame := savePayment_usedRows hsaved
            cases h
            exact hsame
          · obtain ⟨order, _, h⟩ := bind_eq_ok.mp h
            obtain ⟨row, _, h⟩ := bind_eq_ok.mp h
            obtain ⟨saved, hsaved, h⟩ := bind_eq_ok.mp h
            obtain ⟨⟨n, earned⟩, hearned, h⟩ := bind_eq_ok.mp h
            have hsame := savePayment_usedRows hsaved
            cases h
            exact (earnOnConfirm_usedRows hearned).trans hsame

theorem TossWebhookService.handlePaymentDone_usedRows {event : TossPayment} {result : DoneResult}
    (h : handlePaymentDone db now event = .ok (result, db')) : db'.usedRows = db.usedRows := by
  unfold handlePaymentDone at h
  split at h
  · cases h
    rfl
  · split at h
    · cases h
      rfl
    · split at h
      · cases h
        rfl
      · split at h
        · cases h
          rfl
        · split at h
          · cases h
            rfl
          · split at h
            · cases h
              rfl
            · split at h
              · cases h
                rfl
              · obtain ⟨order, _, h⟩ := bind_eq_ok.mp h
                obtain ⟨row, _, h⟩ := bind_eq_ok.mp h
                obtain ⟨saved, hsaved, h⟩ := bind_eq_ok.mp h
                have hsame := savePayment_usedRows hsaved
                split at h
                · cases h
                  exact (markWebhookProcessed_usedRows _ now _ .done).trans hsame
                · split at h
                  · cases h
                    exact (markWebhookProcessed_usedRows _ now _ .done).trans hsame
                  · obtain ⟨earned, hearned, h⟩ := bind_eq_ok.mp h
                    cases h
                    exact (markWebhookProcessed_usedRows _ now _ .done).trans
                      ((earnOnDone_usedRows hearned).trans hsame)

theorem TossWebhookService.handleWaitingForDeposit_usedRows {event : TossPayment}
    {result : WaitingResult} (h : handleWaitingForDeposit db now event = .ok (result, db')) :
    db'.usedRows = db.usedRows := by
  rcases handleWaitingForDeposit_ok h with heq |
    ⟨_, _, p, order, row, _, _, _, _, _, _, hcase⟩
  · rw [heq]
  · cases hcase with
    | depositReverted _ hsaved =>
      refine (savePayment_usedRows hsaved).trans ?_
      unfold revertDeposit
      dsimp only
      split
      · exact reclaimEarnedPoints_usedRows (db.updateItems takeSold order.items) now p.order order
          _ "가상계좌 입금 취소"
      · rfl
    | issued _ hsaved =>
      have hsame := savePayment_usedRows hsaved
      exact hsame

theorem PaymentTasks.finalizePaymentConfirm_usedRows {response : TossPayment} {user : UserId}
    {published : Bool} {out : Outcome FinalizeResult}
    (h : finalizePaymentConfirm db now response k user published = .ok out) :
    out.db.usedRows = db.usedRows := by
  obtain ⟨p, _, hcase⟩ := finalizePaymentConfirm_ok h
  cases hcase with
  | alreadyProcessed _ => rfl
  | waiting _ _ _ hsaved =>
    have hsame := savePayment_usedRows hsaved
    exact hsame
  | orderCanceled _ _ _ _ _ hsaved =>
    have hsame := savePayment_usedRows hsaved
    exact hsame
  | success _ _ _ _ _ hsaved =>
    have hsame := savePayment_usedRows hsaved
    exact hsame

theorem PaymentTasks.callTossConfirmApi_usedRows (db : Db) (o : OrderId) (amount : Int)
    (id : TossOrderId) (k : Nat) (user : UserId) (answer : TossAnswer)
    (retriesLeft published : Bool) :
    (callTossConfirmApi db o amount id k user answer retriesLeft published).db.usedRows
      = db.usedRows := by
  obtain ⟨logged, _, hledger, hdb | ⟨_, hdb⟩⟩ :=
    callTossConfirmApi_commits db o amount id k user answer retriesLeft published
  · rw [hdb]
    exact Db.usedRows_of_ledger hledger
  · rw [hdb]
    exact Db.usedRows_of_ledger hledger

theorem PaymentTasks.reconcileLoop_usedRows
    (lookup : String → Except TossPaymentError TossPayment) (rows : List (Nat × Payment))
    (db : Db) : (reconcileLoop lookup db rows).1.usedRows = db.usedRows := by
  have hflag : ∀ (x : Db) (k : Nat) (reason : String),
      (flagStalledPaymentUnresolved x k reason).usedRows = x.usedRows := by
    intro x k reason
    unfold flagStalledPaymentUnresolved
    split
    · rfl
    · rfl
  induction rows generalizing db with
  | nil => rfl
  | cons row rest ih =>
    obtain ⟨k, payment⟩ := row
    rw [reconcileLoop]
    split
    · exact (ih _).trans (hflag db k _)
    · split
      · split
        · exact (ih _).trans (hflag db k _)
        · exact ih db
      · split
        · dsimp only
          split
          · exact ih _
          · exact ih _
        · exact (ih _).trans (hflag db k _)

theorem PointTasks.addPointsAfterPayment_usedRows {user : UserId} {result : EarnResult}
    (h : addPointsAfterPayment db now user o = .ok (result, db')) : db'.usedRows = db.usedRows := by
  unfold addPointsAfterPayment at h
  obtain ⟨order, _, h⟩ := bind_eq_ok.mp h
  split at h
  · cases h
    rfl
  · split at h
    · cases h
      rfl
    · dsimp only at h
      split at h
      · cases h
        rfl
      · split at h
        · cases h
        · rename_i hadd
          cases h
          exact (Db.usedRows_of_ledger (logOnPayment_ledger _ o _ _)).trans
            (PointService.addPoints_usedRows hadd)

theorem PaymentService.createFromRequest_usedRows {request : PaymentRequest} {method : String}
    {key : Option String} {n : Nat}
    (h : createFromRequest db now request method key = .ok (n, db')) :
    db'.usedRows = db.usedRows := by
  have hkey : ∀ (x : Db) (key : Option String) (o : OrderId) (user : UserId) (k : Nat),
      (setIdempotencyKey x now key o user k).usedRows = x.usedRows := by
    intro x key o user k
    unfold setIdempotencyKey
    split
    · rfl
    · rfl
  unfold createFromRequest at h
  split at h
  · cases h
    rfl
  · unfold createPayment at h
    split at h
    · cases h
      rfl
    · obtain ⟨_, _, h⟩ := bind_eq_ok.mp h
      obtain ⟨_, _, h⟩ := bind_eq_ok.mp h
      cases h
      exact hkey _ _ _ _ _

theorem PaymentService.confirmPaymentAsync_usedRows {paymentKey : String} {order : OrderId}
    {amount : Int} {user : UserId} {published : Bool} {out : Outcome Unit}
    (h : confirmPaymentAsync db now k paymentKey order amount user published = .ok out) :
    out.db.usedRows = db.usedRows := by
  obtain ⟨p, saved, _, _, _, hsaved, hdb, _⟩ := confirmPaymentAsync_ok h
  rw [hdb]
  exact savePayment_usedRows hsaved

theorem OrderService.placeOrder_usedRows {user : UserId} {cart : CartId} {draft : OrderDraft}
    {out : OrderId × Db} (h : placeOrder db now user cart draft = .ok out) :
    out.2.usedRows = db.usedRows := by
  unfold placeOrder at h
  split at h
  · cases h
  · split at h
    · cases h
    · split at h
      · cases h
      · cases h
        rfl

theorem PaymentService.completePointsOnlyPayment_usedRows {seen : Order} {user : UserId} {n : Int}
    (h : completePointsOnlyPayment db now o seen user = .ok (n, db')) :
    db'.usedRows = db.usedRows := by
  unfold completePointsOnlyPayment at h
  split at h
  · cases h
  · split at h
    · cases h
    · dsimp only at h
      split at h
      · cases h
      · obtain ⟨order, _, h⟩ := bind_eq_ok.mp h
        obtain ⟨⟨k, payment, found⟩, hfound, h⟩ := bind_eq_ok.mp h
        dsimp only at h
        split at h
        · cases h
        · obtain ⟨saved, hsaved, h⟩ := bind_eq_ok.mp h
          have hsame := savePayment_usedRows hsaved
          have hfoundRows : found.usedRows = db.usedRows := by
            unfold getOrCreatePointsPayment at hfound
            split at hfound
            · cases hfound
              rfl
            · obtain ⟨_, _, hfound⟩ := map_eq_ok.mp hfound
              cases hfound
              rfl
          cases h
          exact hsame.trans hfoundRows

/-! ## The processing -/

/-- The processing books the use that its message asks for, of a pending
order, or nothing. -/
theorem OrderTasks.processOrderHeavyTasks_usedRows {cart : CartId} {usePoints : Int}
    {out : Outcome ProcessResult} (h : processOrderHeavyTasks db now o cart usePoints = .ok out) :
    out.db.usedRows = db.usedRows ∨ db.statusOf o = some .pending ∧ 0 < usePoints ∧
      out.db.statusOf o = some .confirmed ∧
      out.db.usedRows = db.usedRows ++ [⟨some o, .use, -usePoints⟩] := by
  unfold processOrderHeavyTasks at h
  obtain ⟨order, hget, h⟩ := bind_eq_ok.mp h
  rw [Db.getOrder_eq_ok] at hget
  split at h
  · cases h
    exact Or.inl rfl
  · rename_i hpending
    rw [not_not] at hpending
    split at h
    · cases h
    · obtain ⟨⟨products, items, shortage⟩, _, h⟩ := bind_eq_ok.mp h
      dsimp only at h
      have hfail : ∀ {x failed : Db} {reason : String},
          failOrder x now o cart reason = .ok failed → failed.usedRows = x.usedRows := by
        intro x failed reason hf
        obtain ⟨_, hfails⟩ := failOrder_ok hf
        exact Db.usedRows_of_ledger hfails.ledger
      split at h
      · obtain ⟨failed, hf, h⟩ := bind_eq_ok.mp h
        cases h
        have hsame := hfail hf
        exact Or.inl hsame
      · by_cases hpos : 0 < usePoints
        · simp only [if_pos hpos] at h
          split at h
          · rename_i hrefused
            obtain ⟨failed, hf, h⟩ := bind_eq_ok.mp h
            cases h
            have hsame := hfail hf
            have hledger := congrArg Ledger.usedRows (usePointsFifo_refused hrefused)
            exact Or.inl (hsame.trans hledger)
          · rename_i hsuccess
            rw [Bool.not_eq_false] at hsuccess
            cases h
            refine Or.inr ⟨?_, hpos, ?_, PointService.use_usedRows hsuccess⟩
            · unfold Db.statusOf
              rw [hget, Option.map_some, hpending]
            · simp [Db.statusOf, hget, Order.withStatus]
        · simp only [if_neg hpos] at h
          split at h
          · obtain ⟨failed, hf, h⟩ := bind_eq_ok.mp h
            cases h
            have hsame := hfail hf
            exact Or.inl hsame
          · cases h
            exact Or.inl rfl

end

/-! ## The closings -/

/-- The functions that close an order. -/
inductive Closing where
  | cancelOrder
  /-- `rollback_payment_failure`. -/
  | rollback
  | cancelPayment
  /-- `handle_payment_canceled`. -/
  | webhookCanceled
  deriving DecidableEq, Repr

namespace Closing

/-- The orders that the function closes, as far as their status goes. -/
def accepts (s : OrderStatus) : Closing → Bool
  | .cancelOrder | .rollback => s.isUnpaid
  | .cancelPayment => decide (s = .paid)
  | .webhookCanceled => decide (s ≠ .canceled)

/-- The payments that the function takes; `cancel_order` and the rollback need
none. -/
def takes (p : Payment) : Closing → Bool
  | .cancelOrder | .rollback => true
  | .cancelPayment => !p.isCanceled && decide (p.status = .done)
  | .webhookCanceled => !p.isCanceled && decide (p.status ≠ .aborted)

/-- The function gives the used points back, if there are any. -/
def givesBack (db : Db) (o : OrderId) (s : OrderStatus) : Closing → Bool
  | .cancelOrder => hasUse o db.usedRows
  | .rollback | .cancelPayment => true
  | .webhookCanceled => decide (s = .confirmed ∨ s = .paid ∨ s = .preparing)

def refundType : Closing → PointType
  | .rollback => .paymentFailRefund
  | _ => .cancelRefund

/-- The status that the order gets. -/
def status : Closing → OrderStatus
  | .rollback => .paymentFailed
  | _ => .canceled

theorem refundType_isRefund (c : Closing) : c.refundType.isUsedPointsRefund = true := by
  cases c with
  | _ => rfl

end Closing

/-- The function closed the order, and gave its used points back or not. -/
structure ClosesBy (c : Closing) (db : Db) (o : OrderId) (order : Order) (db' : Db) : Prop where
  found : db.orders.get? o = some order
  accepts : c.accepts order.status = true
  rows : db'.usedRows = db.usedRows ++
    if 0 < order.usedPoints ∧ c.givesBack db o order.status = true then
      [⟨some o, c.refundType, order.usedPoints⟩]
    else []
  status : db'.statusOf o = some c.status
  others : ∀ i, i ≠ o → db'.statusOf i = db.statusOf i

section

variable {db db' : Db} {now : Time} {k : Nat} {o : OrderId}

/-- An update of the row of `o` to the status of the closing. -/
theorem ClosesBy.of_modify {c : Closing} {order : Order} {f : Order → Order}
    (hfound : db.orders.get? o = some order) (haccepts : c.accepts order.status = true)
    (hrows : db'.usedRows = db.usedRows ++
      if 0 < order.usedPoints ∧ c.givesBack db o order.status = true then
        [⟨some o, c.refundType, order.usedPoints⟩]
      else [])
    (horders : db'.orders = db.orders.modify o f) (hf : ∀ x, (f x).status = c.status) :
    ClosesBy c db o order db' := by
  refine ⟨hfound, haccepts, hrows, ?_, fun i hi => statusOf_modify_ne horders hi⟩
  rw [statusOf_modify horders hf, if_pos rfl]
  unfold Db.statusOf
  rw [hfound]
  rfl

theorem OrderService.cancelOrder_closes {closed : PaymentStatus}
    (h : cancelOrder db now o closed = .ok db') :
    ∃ order, ClosesBy .cancelOrder db o order db' := by
  obtain ⟨order, hc⟩ := cancelOrder_ok h
  refine ⟨order, .of_modify hc.found hc.unpaid ?_ hc.orders fun _ => rfl⟩
  unfold cancelOrder at h
  rw [Db.getOrder_eq_ok.mpr hc.found, ok_bind, hc.unpaid] at h
  simp only [Bool.true_eq_false, if_false] at h
  split at h
  · cases h
  · generalize hcanceled : ((closePayments db o closed).updateItems addStock order.items).saveOrder
      o (Order.withStatus .canceled now) = canceled at h
    have hrows : canceled.usedRows = db.usedRows := by
      rw [← hcanceled]
      rfl
    have huse : canceled.hasHistory o .use = hasUse o db.usedRows := by
      rw [Db.hasHistory_use, hrows]
    rw [huse] at h
    unfold Closing.givesBack
    by_cases hback : 0 < order.usedPoints ∧ hasUse o db.usedRows = true
    · rw [if_pos hback] at h ⊢
      cases h
      rw [Db.refundUsedPoints_usedRows canceled now order.user o none hback.1 rfl, hrows]
      rfl
    · rw [if_neg hback] at h ⊢
      cases h
      rw [hrows, List.append_nil]

/-- A later update that leaves the status and the history. -/
theorem ClosesBy.after {c : Closing} {order : Order} {db'' : Db} (h : ClosesBy c db o order db')
    (hrows : db''.usedRows = db'.usedRows) (hstatus : ∀ i, db''.statusOf i = db'.statusOf i) :
    ClosesBy c db o order db'' := by
  refine ⟨h.found, h.accepts, hrows.trans h.rows, (hstatus o).trans h.status, fun i hi => ?_⟩
  exact (hstatus i).trans (h.others i hi)

/-- An earlier write that leaves the orders and the history. -/
theorem ClosesBy.before {c : Closing} {order : Order} {db₀ : Db} (h : ClosesBy c db o order db')
    (hrows : db.usedRows = db₀.usedRows) (horders : db.orders = db₀.orders) :
    ClosesBy c db₀ o order db' := by
  have hgives : c.givesBack db o order.status = c.givesBack db₀ o order.status := by
    cases c with
    | cancelOrder =>
      unfold Closing.givesBack
      rw [hrows]
    | _ => rfl
  refine ⟨?_, h.accepts, ?_, h.status, fun i hi => ?_⟩
  · rw [← horders]
    exact h.found
  · rw [← hrows, ← hgives]
    exact h.rows
  · rw [h.others i hi]
    exact statusOf_of_orders horders i

theorem OrderTasks.expireOrder_closes {expired : Bool}
    (h : expireOrder db now o = .ok (expired, db')) :
    db' = db ∨ ∃ order, ClosesBy .cancelOrder db o order db' := by
  unfold expireOrder at h
  obtain ⟨order, _, h⟩ := bind_eq_ok.mp h
  split at h
  · cases h
    exact Or.inl rfl
  · cases hcancel : OrderService.cancelOrder db now o .expired with
    | error e =>
      rw [hcancel] at h
      cases e <;> cases h
      exact Or.inl rfl
    | ok canceled =>
      rw [hcancel] at h
      obtain ⟨order, hcloses⟩ := OrderService.cancelOrder_closes hcancel
      refine Or.inr ⟨order, ?_⟩
      have hmarked : ClosesBy .cancelOrder db o order (canceled.saveOrder o fun x =>
          { x with failureReason := orderExpiredFailureReason }) :=
        hcloses.after rfl (statusOf_modify_same
          (f := fun x => { x with failureReason := orderExpiredFailureReason }) rfl fun _ => rfl)
      dsimp only at h
      split at h
      · cases h
        exact hmarked
      · cases h
        exact hmarked.after rfl fun _ => rfl

theorem PaymentTasks.rollbackPaymentFailure_closes (db : Db) (now : Time) (o : OrderId)
    (reason : String) : (rollbackPaymentFailure db now o reason).2 = db ∨
      ∃ order, ClosesBy .rollback db o order (rollbackPaymentFailure db now o reason).2 := by
  rcases rollbackPaymentFailure_cases db now o reason with hsame | ⟨order, hr⟩
  · exact Or.inl hsame
  · obtain ⟨_, horders⟩ := hr.orders
    refine Or.inr ⟨order, .of_modify hr.found hr.unpaid ?_ horders fun _ => rfl⟩
    have hstatus : (order.status ≠ .paymentFailed ∧ order.status ≠ .canceled) ∧
        order.status ≠ .paid ∧ (order.status = .pending ∨ order.status = .confirmed) := by
      have hunpaid := hr.unpaid
      revert hunpaid
      cases order.status with
      | _ => decide
    obtain ⟨⟨hfailed, hcanceled⟩, hpaid, hopen⟩ := hstatus
    have habort : ∀ (x : Db) (r : String), (abortPaymentOf x o r).usedRows = x.usedRows := by
      intro x r
      unfold abortPaymentOf
      split
      · rfl
      · rfl
    unfold rollbackPaymentFailure
    simp only [hr.found, hfailed, hcanceled, hpaid, or_self, if_false]
    rw [if_neg (not_and_or.mpr (hopen.imp not_not.mpr not_not.mpr)), habort]
    show (if 0 < order.usedPoints then _ else _ : Db).usedRows = _
    by_cases hpos : 0 < order.usedPoints
    · rw [if_pos hpos, if_pos ⟨hpos, rfl⟩]
      exact Db.refundUsedPoints_usedRows _ now order.user o none hpos rfl
    · rw [if_neg hpos, if_neg (fun hc => hpos hc.1), List.append_nil]
      rfl

/-- `cancel_payment` only records the refund, or it closes the order. -/
theorem PaymentService.cancelPayment_closes {user : UserId}
    {toss : Except TossPaymentError TossPayment} {result : CancelResult}
    (h : cancelPayment db now k user toss = .ok (result, db')) :
    ∃ p, db.payments.get? k = some p ∧ Closing.cancelPayment.takes p = true ∧
      (db'.usedRows = db.usedRows ∧ db'.orders = db.orders ∨
        ∃ order, ClosesBy .cancelPayment db p.order order db') := by
  obtain ⟨p, order, data, row, hget, horder, hopen, hdone, _, _, hcase⟩ := cancelPayment_ok h
  refine ⟨p, hget, by simp [Closing.takes, hopen, hdone], ?_⟩
  cases hcase with
  | refundOnly _ hsaved =>
    have hsame := savePayment_usedRows hsaved
    exact Or.inl ⟨hsame, (savePayment_payments hsaved).2.1⟩
  | canceled hpaid hsaved hrefunded hdeducted =>
    rename_i saved refunded deducted
    have hsame := savePayment_usedRows hsaved
    refine Or.inr ⟨order, .of_modify (f := Order.withStatus .canceled now) horder
      (decide_eq_true hpaid) ?_ ?_ fun _ => rfl⟩
    · show deducted.usedRows = _
      rw [deductEarned_usedRows hdeducted, hrefunded]
      dsimp only
      by_cases hpos : 0 < order.usedPoints
      · rw [if_pos hpos, if_pos ⟨hpos, rfl⟩, ← hsame]
        exact Db.refundUsedPoints_usedRows _ now user p.order none hpos rfl
      · rw [if_neg hpos, if_neg (fun hc => hpos hc.1), List.append_nil, ← hsame]
        rfl
    · rw [Db.log_orders, (deductEarned_ok hdeducted).orders, hrefunded,
        ← (savePayment_payments hsaved).2.1]
      dsimp only
      split
      · rfl
      · rfl

theorem PaymentService.cancelVirtualAccountBeforeDeposit_closes {user : UserId}
    {toss : Except TossPaymentError TossPayment}
    (h : cancelVirtualAccountBeforeDeposit db now o user toss = .ok db') :
    ∃ order, ClosesBy .cancelOrder db o order db' := by
  unfold cancelVirtualAccountBeforeDeposit at h
  split at h
  · cases h
  · obtain ⟨order, _, h⟩ := bind_eq_ok.mp h
    split at h
    · cases h
    · split at h
      · cases h
      · cases toss with
        | error e => cases h
        | ok data =>
          obtain ⟨row, _, h⟩ := bind_eq_ok.mp h
          obtain ⟨saved, hsaved, h⟩ := bind_eq_ok.mp h
          obtain ⟨order, hcloses⟩ := OrderService.cancelOrder_closes h
          have hrows := savePayment_usedRows hsaved
          have horders := (savePayment_payments hsaved).2.1
          exact ⟨order, hcloses.before hrows horders⟩

theorem TossWebhookService.settlePointsOnCanceled_usedRows (db : Db) (now : Time) (k : Nat)
    (o : OrderId) (order : Order) : (settlePointsOnCanceled db now k o order).usedRows
      = db.usedRows ++ if 0 < order.usedPoints ∧
          Closing.webhookCanceled.givesBack db o order.status = true then
        [⟨some o, .cancelRefund, order.usedPoints⟩] else [] := by
  have hreclaimed : (if (order.status = .paid ∨ order.status = .preparing) ∧
      0 < order.earnedPoints then (reclaimEarnedPoints db now o order k "주문 취소").2
      else db).usedRows = db.usedRows := by
    split
    · exact reclaimEarnedPoints_usedRows db now o order k _
    · rfl
  have hgives : Closing.webhookCanceled.givesBack db o order.status = true ↔
      order.status = .confirmed ∨ order.status = .paid ∨ order.status = .preparing :=
    decide_eq_true_iff
  unfold settlePointsOnCanceled
  dsimp only
  by_cases hback : (order.status = .confirmed ∨ order.status = .paid ∨
      order.status = .preparing) ∧ 0 < order.usedPoints
  · rw [if_pos hback, Db.refundUsedPoints_usedRows _ now order.user o none hback.2 rfl,
      hreclaimed, if_pos ⟨hback.2, hgives.mpr hback.1⟩]
  · rw [if_neg hback, hreclaimed, if_neg (fun hc => hback ⟨hgives.mp hc.2, hc.1⟩), List.append_nil]

theorem TossWebhookService.handlePaymentCanceled_closes {event : TossPayment}
    {result : CanceledResult} (h : handlePaymentCanceled db now event = .ok (result, db')) :
    db'.usedRows = db.usedRows ∧ db'.orders = db.orders ∨
      ∃ id k p order, event.orderId = some id ∧ db.payments.ofTossOrderId? id = some (k, p) ∧
        Closing.webhookCanceled.takes p = true ∧
        ClosesBy .webhookCanceled db p.order order db' := by
  rcases handlePaymentCanceled_ok h with heq |
    ⟨id, k, p, order, row, hid, hof, hopen, haborted, horder, _, hcase⟩
  · rw [heq]
    exact Or.inl ⟨rfl, rfl⟩
  · cases hcase with
    | orderAlreadyCanceled _ hsaved =>
      have hsame := savePayment_usedRows hsaved
      exact Or.inl ⟨(markWebhookProcessed_usedRows _ now id .canceled).trans hsame,
        by rw [markWebhookProcessed_orders, (savePayment_payments hsaved).2.1]⟩
    | canceled hcanceled hsaved =>
      rename_i saved
      have hsame := savePayment_usedRows hsaved
      obtain ⟨_, hro, hrl, _⟩ := restoreOnCanceled_tables saved order
      have hmoves := movesPoints_settleOnCanceled (restoreOnCanceled saved order) now k p.order
        order
      have htakes : Closing.webhookCanceled.takes p = true := by
        simp [Closing.takes, hopen, haborted]
      refine Or.inr ⟨id, k, p, order, hid, hof, htakes,
        .of_modify (f := Order.withStatus .canceled now)
          horder (decide_eq_true hcanceled) ?_ ?_ fun _ => rfl⟩
      · rw [markWebhookProcessed_usedRows]
        show (settlePointsOnCanceled (restoreOnCanceled saved order) now k p.order order).usedRows
          = _
        rw [settlePointsOnCanceled_usedRows, Db.usedRows_of_ledger hrl, hsame]
        rfl
      · rw [markWebhookProcessed_orders, Db.log_orders, Db.saveOrder_orders, hmoves.orders, hro,
          (savePayment_payments hsaved).2.1]

/-! ## The completion of a return -/

/-- `complete_refund` books the points of its split for the order. -/
theorem ReturnService.completeRefund_usedRows {id : Nat}
    {toss : Except TossPaymentError TossPayment} {out : RefundSplit × Db}
    (h : completeRefund db now id toss = .ok out) : ∃ r order, db.returns.get? id = some r ∧
      db.orders.get? r.order = some order ∧ out.2.usedRows = db.usedRows ++
        if 0 < (refundSplit db order r).pointsBack then
          [⟨some r.order, .cancelRefund, (refundSplit db order r).pointsBack⟩]
        else [] := by
  unfold completeRefund at h
  split at h
  · cases h
  · rename_i r hget
    split at h
    · cases h
    · split at h
      · cases h
      · split at h
        · cases h
        · obtain ⟨order, horder, h⟩ := bind_eq_ok.mp h
          rw [Db.getOrder_eq_ok] at horder
          obtain ⟨_, _, h⟩ := bind_eq_ok.mp h
          obtain ⟨_, _, h⟩ := bind_eq_ok.mp h
          obtain ⟨paid, hpaid, h⟩ := bind_eq_ok.mp h
          obtain ⟨reclaimed, hreclaimed, h⟩ := bind_eq_ok.mp h
          cases h
          obtain ⟨_, _, _, hledger, _⟩ := refundCash_ok hpaid
          obtain ⟨_, _, _, hfinish, _⟩ := finishReturn_tables reclaimed now id r.order order
          refine ⟨r, order, hget, horder, (Db.usedRows_of_ledger hfinish).trans ?_⟩
          -- The reclaim of the earned points is no use.
          have htaken : ∀ x : Db, reclaimShare x now id r (refundSplit db order r).earnedBack
              = .ok reclaimed → reclaimed.usedRows = x.usedRows := by
            intro x hx
            unfold reclaimShare at hx
            split at hx
            · cases hx
              rfl
            · dsimp only at hx
              split at hx
              · cases hx
              · cases hx
                exact PointService.reclaim_usedRows x.ledger now r.user _ (some r.order) (some id)
          rw [htaken _ hreclaimed]
          rw [← Db.usedRows_of_ledger hledger]
          by_cases hpos : 0 < (refundSplit db order r).pointsBack
          · rw [if_pos hpos, if_pos hpos]
            exact Db.refundUsedPoints_usedRows _ now r.user r.order (some id) hpos rfl
          · rw [if_neg hpos, if_neg hpos, List.append_nil]
            rfl

end

/-! ## The events -/

/-- The order is closed: its points should be back. -/
def OrderStatus.isClosed : OrderStatus → Bool
  | .canceled | .paymentFailed => true
  | _ => false

/-- No order is closed that was not. -/
def StaysOpen (db db' : Db) : Prop :=
  ∀ o s, db'.statusOf o = some s → s.isClosed = true → db.statusOf o = some s

theorem StaysOpen.of_orders {db db' : Db} (h : db'.orders = db.orders) : StaysOpen db db' := by
  intro o s hs _
  rw [← statusOf_of_orders h]
  exact hs

/-- The functions that close an order. -/
def Act.isClosing : Act → Bool
  | .webhookCanceled | .rollback | .cancelOrder _ | .cancelPayment | .cancelVirtualAccount => true
  | _ => false

theorem Move.opens {act : Act} {c c' : Charge} (h : Move act c c') (hact : act.isClosing = false) :
    c'.order = c.order ∨ ∃ s, c'.order = some s ∧ s.isClosed = false := by
  cases h with
  | pointsReturned hs =>
    rcases hs with rfl | rfl
    · exact Or.inl rfl
    · exact Or.inr ⟨.refunded, rfl, rfl⟩
  | cashReturned hs _ =>
    rcases hs with rfl | rfl
    · exact Or.inl rfl
    · exact Or.inr ⟨.refunded, rfl, rfl⟩
  | _ => first | exact Or.inl rfl | exact Or.inr ⟨_, rfl, rfl⟩ | cases hact

theorem Acts.staysOpen {act : Act} {o : OrderId} {db db' : Db} (h : Acts act o db db')
    (hact : act.isClosing = false) : StaysOpen db db' := by
  intro i s hs hclosed
  have hafter : (db'.charge i).order = some s := hs
  show (db.charge i).order = some s
  by_cases hi : i = o
  · subst hi
    rcases h.move.opens hact with hsame | ⟨s', hs', hopen⟩
    · rw [← hsame]
      exact hafter
    · rw [hs'] at hafter
      cases hafter
      rw [hopen] at hclosed
      cases hclosed
  · rw [← h.frame i hi]
    exact hafter

namespace World

/-- What an event closes, if it closes an order. -/
def closing (w : World) : Event → Option (Closing × OrderId)
  | .cancelOrder o | .expireOrder o | .cancelVirtualAccount o _ _ => some (.cancelOrder, o)
  | .cancelByCustomer n _ _ =>
    (w.orderReads[n]?).map fun seen =>
      (if seen.2.status = .paid then .cancelPayment else .cancelOrder, seen.1)
  | .deliver n _ =>
    match w.messages[n]? with
    | some (.rollback o _) => some (.rollback, o)
    | _ => none
  | .webhookCanceled event =>
    (event.orderId.bind w.db.payments.ofTossOrderId?).bind fun e =>
      if Closing.webhookCanceled.takes e.2 then some (.webhookCanceled, e.2.order) else none
  | .cancelPayment k _ _ =>
    (w.db.payments.get? k).bind fun p =>
      if Closing.cancelPayment.takes p then some (.cancelPayment, p.order) else none
  | _ => none

/-- What the event closes depends on a payment. -/
def looksAtPayment : Event → Bool
  | .webhookCanceled _ | .cancelPayment .. => true
  | _ => false

/-- An event that closes nothing. -/
theorem run_staysOpen (w : World) (now : Time) (e : Event) (h : w.closing e = none)
    (hne : looksAtPayment e = false) : StaysOpen w.db (w.run now e).db := by
  by_cases hfail : ∃ n published, e = .writeFailure n published
  · obtain ⟨n, published, rfl⟩ := hfail
    exact .of_orders (run_writeFailure_orders w now n published)
  · rcases run_refines now fun n published he => absurd ⟨n, published, he⟩ hfail with
      hsame | ⟨act, i, hdoes, hacts⟩
    · intro o s hs _
      have hafter : ((w.run now e).db.charge o).order = some s := hs
      rw [hsame o] at hafter
      exact hafter
    · refine hacts.staysOpen ?_
      cases hdoes with
      | cancelOrder => cases h
      | expireOrder => cases h
      | cancelVirtualAccount => cases h
      | customer hread _ =>
        rw [closing, hread] at h
        cases h
      | rollback hmsg =>
        rw [closing, hmsg] at h
        cases h
      | cancelPayment _ => cases hne
      | webhookCanceled => cases hne
      | _ => rfl

end World

/-- The return that an event completes. -/
def Event.completed : Event → Option Nat
  | .completeRefund id _ => some id
  | _ => none

/-- What a step does to the used points, when it may close the order of
`closing` and complete the return `completed`. -/
inductive UsedStep (closing : Option (Closing × OrderId)) (completed : Option Nat) (w w' : World) :
    Prop where
  | quiet (hrows : w'.db.usedRows = w.db.usedRows) (hopen : StaysOpen w.db w'.db)
  | uses {o : OrderId} {cart : CartId} {n : Int} (hmsg : .processOrder o cart n ∈ w.messages)
      (hpending : w.db.statusOf o = some .pending) (hpos : 0 < n)
      (hprocessed : w'.db.statusOf o = some .confirmed)
      (hrows : w'.db.usedRows = w.db.usedRows ++ [⟨some o, .use, -n⟩])
      (hopen : StaysOpen w.db w'.db)
  | closes {c : Closing} {o : OrderId} {order : Order} (hclosing : closing = some (c, o))
      (hcloses : ClosesBy c w.db o order w'.db)
  | returns {id : Nat} {r : Return} {order : Order} (hcompleted : completed = some id)
      (hfound : w.db.returns.get? id = some r)
      (horder : w.db.orders.get? r.order = some order)
      (hpos : 0 < (ReturnService.refundSplit w.db order r).pointsBack)
      (hrows : w'.db.usedRows = w.db.usedRows ++
        [⟨some r.order, .cancelRefund, (ReturnService.refundSplit w.db order r).pointsBack⟩])
      (hopen : StaysOpen w.db w'.db)

/-- Only the database after the step counts. -/
theorem UsedStep.of_db {closing : Option (Closing × OrderId)} {completed : Option Nat}
    {w w' w'' : World} (h : UsedStep closing completed w w') (hdb : w''.db = w'.db) :
    UsedStep closing completed w w'' := by
  cases h with
  | quiet hrows hopen =>
    rw [← hdb] at hrows hopen
    exact .quiet hrows hopen
  | uses hmsg hpending hpos hprocessed hrows hopen =>
    rw [← hdb] at hprocessed hrows hopen
    exact .uses hmsg hpending hpos hprocessed hrows hopen
  | closes hclosing hcloses =>
    rw [← hdb] at hcloses
    exact .closes hclosing hcloses
  | returns hcompleted hfound horder hpos hrows hopen =>
    rw [← hdb] at hrows hopen
    exact .returns hcompleted hfound horder hpos hrows hopen

/-- The step of an event of the shop. -/
abbrev World.Uses (w : World) (e : Event) (w' : World) : Prop :=
  UsedStep (w.closing e) e.completed w w'

namespace World

variable {w : World} {now : Time}

/-- The write of a failure callback books nothing. -/
theorem writeFailure_usedRows {n : Nat} {published : Bool} {db : Db}
    (h : Commits w now (.writeFailure n published) db) : db.usedRows = w.db.usedRows := by
  cases h with
  | failView hread hcall =>
    unfold PaymentViews.postFailure at hcall
    obtain ⟨saved, hsaved, hcall⟩ := bind_eq_ok.mp hcall
    have hsame := savePayment_usedRows hsaved
    cases hcall
    exact hsame
  | @failCallback _ _ k payment message db hread hcall =>
    cases message with
    | none => cases hcall
    | some message => exact savePayment_usedRows hcall
  | failWebhook hread hcall =>
    unfold failPayment at hcall
    obtain ⟨saved, hsaved, hcall⟩ := bind_eq_ok.mp hcall
    obtain ⟨_, _, hcall⟩ := bind_eq_ok.mp hcall
    have hsame := savePayment_usedRows hsaved
    cases hcall
    exact hsame

/-- `cancel_payment` only records the refund, or it closes the order. -/
theorem cancelPayment_usedStep {e : Event} {k : Nat} {user : UserId}
    {toss : Except TossPaymentError TossPayment} {result : CancelResult} {db : Db} {p : Payment}
    (hcancel : PaymentService.cancelPayment w.db now k user toss = .ok (result, db))
    (hget : w.db.payments.get? k = some p)
    (hevent : w.closing e = some (.cancelPayment, p.order)) : w.Uses e (w.commit db) := by
  obtain ⟨q, hq, _, hcase⟩ := PaymentService.cancelPayment_closes hcancel
  rw [hget] at hq
  cases hq
  rcases hcase with ⟨hrows, horders⟩ | ⟨order, hcloses⟩
  · exact .quiet hrows (.of_orders horders)
  · exact .closes hevent hcloses

/-- `cancel_by_customer` is one of the cancellations. -/
theorem cancelByCustomer_usedStep {n : Nat} {user : UserId}
    {toss : Except TossPaymentError TossPayment} {o : OrderId} {order : Order}
    {out : PaymentService.CustomerCancel × Db} (hread : w.orderReads[n]? = some (o, order))
    (hcall : PaymentService.cancelByCustomer w.db now o order user toss = .ok out) :
    w.Uses (.cancelByCustomer n user toss) (w.commit out.2) := by
  have hevent : w.closing (.cancelByCustomer n user toss)
      = some (if order.status = .paid then .cancelPayment else .cancelOrder, o) := by
    rw [closing, hread]
    rfl
  have hclose : order.status ≠ .paid → (∃ x, ClosesBy .cancelOrder w.db o x out.2) →
      w.Uses (.cancelByCustomer n user toss) (w.commit out.2) := by
    rintro hpaid ⟨x, hcloses⟩
    rw [if_neg hpaid] at hevent
    exact .closes hevent hcloses
  unfold PaymentService.cancelByCustomer at hcall
  split at hcall
  · rename_i hpaid
    rw [if_pos hpaid] at hevent
    split at hcall
    · cases hcall
    · rename_i k p hof
      obtain ⟨hget, hord⟩ := PaymentTable.ofOrder?_eq_some.mp hof
      split at hcall
      · cases hcall
      · cases hcall
      · rename_i hcancel
        cases hcall
        rw [← hord] at hevent
        exact cancelPayment_usedStep hcancel hget hevent
  · rename_i hpaid
    split at hcall
    · split at hcall
      · cases hcall
      · cases hcall
      · rename_i hcancel
        cases hcall
        exact hclose hpaid (cancelVirtualAccountBeforeDeposit_closes hcancel)
    · obtain ⟨_, hcancel, hmap⟩ := map_eq_ok.mp hcall
      cases hmap
      exact hclose hpaid (OrderService.cancelOrder_closes hcancel)

/-- What a call does to the used points is one of the four. -/
theorem commits_usedStep {e : Event} {db : Db} (h : Commits w now e db)
    (hopen : w.closing e = none → looksAtPayment e = false → StaysOpen w.db db) :
    w.Uses e (w.commit db) := by
  cases id h with
  | placeOrder hread hcall => exact .quiet (OrderService.placeOrder_usedRows hcall) (hopen rfl rfl)
  | @republishStalled n giveUp published seen hread =>
    refine .quiet ?_ (hopen rfl rfl)
    rcases (republishLoop_one now giveUp (fun _ => published) w.db seen.1 seen.2).1 with
      hsame | ⟨order, habandons⟩
    · exact congrArg Db.usedRows hsame
    · exact Db.usedRows_of_ledger habandons.ledger
  | cancelOrder hcall =>
    obtain ⟨order, hcloses⟩ := OrderService.cancelOrder_closes hcall
    exact .closes rfl hcloses
  | cancelByCustomer hread hcall => exact cancelByCustomer_usedStep hread hcall
  | expireOrder hcall =>
    rcases expireOrder_closes hcall with hsame | ⟨order, hcloses⟩
    · exact .quiet (congrArg Db.usedRows hsame) (.of_orders (congrArg Db.orders hsame))
    · exact .closes rfl hcloses
  | createRequest hread hcall => exact .quiet (createFromRequest_usedRows hcall) (hopen rfl rfl)
  | confirmAsync hread hcall => exact .quiet (confirmPaymentAsync_usedRows hcall) (hopen rfl rfl)
  | confirmSync hcall => exact .quiet (confirmPaymentSync_usedRows hcall) (hopen rfl rfl)
  | processOrder hmsg hcall =>
    have hstays := hopen (by rw [closing, hmsg]) rfl
    rcases processOrderHeavyTasks_usedRows hcall with hrows | ⟨hpending, hpos, hconfirmed, hrows⟩
    · exact .quiet hrows hstays
    · exact .uses (List.mem_of_getElem? hmsg) hpending hpos hconfirmed hrows hstays
  | confirm hmsg =>
    exact .quiet (callTossConfirmApi_usedRows _ _ _ _ _ _ _ _ _)
      (hopen (by rw [closing, hmsg]) rfl)
  | finalize hmsg hcall =>
    exact .quiet (finalizePaymentConfirm_usedRows hcall) (hopen (by rw [closing, hmsg]) rfl)
  | alertFinalize hmsg =>
    exact .quiet (Db.usedRows_of_ledger (alertFinalizeExhausted_ledger _ _))
      (hopen (by rw [closing, hmsg]) rfl)
  | @rollback n d o reason hmsg =>
    rcases rollbackPaymentFailure_closes w.db now o reason with hsame | ⟨order, hcloses⟩
    · exact .quiet (congrArg Db.usedRows hsame) (.of_orders (congrArg Db.orders hsame))
    · exact .closes (by rw [closing, hmsg]) hcloses
  | addPoints hmsg hcall =>
    exact .quiet (PointTasks.addPointsAfterPayment_usedRows hcall)
      (hopen (by rw [closing, hmsg]) rfl)
  | reconcile => exact .quiet (reconcileLoop_usedRows _ _ _) (hopen rfl rfl)
  | failView | failCallback | failWebhook =>
    exact .quiet (writeFailure_usedRows h) (hopen rfl rfl)
  | webhookDone hcall => exact .quiet (handlePaymentDone_usedRows hcall) (hopen rfl rfl)
  | webhookCanceled hcall =>
    rcases handlePaymentCanceled_closes hcall with ⟨hrows, horders⟩ |
      ⟨id, k, p, order, hid, hof, htakes, hcloses⟩
    · exact .quiet hrows (.of_orders horders)
    · refine .closes ?_ hcloses
      rw [closing, hid, Option.bind_some, hof, Option.bind_some, if_pos htakes]
  | webhookWaiting hcall => exact .quiet (handleWaitingForDeposit_usedRows hcall) (hopen rfl rfl)
  | cancelPayment hcall =>
    obtain ⟨p, hget, htakes, _⟩ := PaymentService.cancelPayment_closes hcall
    refine cancelPayment_usedStep hcall hget ?_
    rw [closing, hget, Option.bind_some, if_pos htakes]
  | cancelVirtualAccount hcall =>
    obtain ⟨order, hcloses⟩ := cancelVirtualAccountBeforeDeposit_closes hcall
    exact .closes rfl hcloses
  | completePointsOnly hread hcall =>
    exact .quiet (completePointsOnlyPayment_usedRows hcall) (hopen rfl rfl)
  | completeRefund hread hcall =>
    obtain ⟨r, order, hr, horder, hrows⟩ := ReturnService.completeRefund_usedRows hcall
    split at hrows
    · rename_i hpos
      exact .returns rfl hr horder hpos hrows (hopen rfl rfl)
    · rw [List.append_nil] at hrows
      exact .quiet hrows (hopen rfl rfl)

/-- What an event does to the used points is one of the four. -/
theorem run_usedStep (w : World) (now : Time) (e : Event) : w.Uses e (w.run now e) := by
  rcases run_wrote w now e with hdb | hcommits
  · exact .quiet (congrArg Db.usedRows hdb) (.of_orders (congrArg Db.orders hdb))
  · exact (commits_usedStep hcommits (run_staysOpen w now e)).of_db rfl

end World

end Shopping
