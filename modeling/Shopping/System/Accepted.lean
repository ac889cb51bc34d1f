import Shopping.Points.Reclaims
import Shopping.Points.Runs
import Shopping.Returns.Service
import Shopping.System.World

/-!
# After the provider took the cancellation

`cancel_payment` and `complete_refund` check what they can before they call
the provider, since the money does not come back when they raise after it.
`CancelAccepted` and `RefundAccepted` are these checks.  With a ledger in
order no point step after them fails: the refund comes before the reclaim, and
`Backed.reclaim_after_refund` says that it only adds to what the check saw.
-/

namespace Shopping

open PointService

/-- The point steps after the provider's answer: the refund of the points
used, the second look at the balance, and the reclaim of the points earned. -/
structure PointStepsSucceed (L : Ledger) (now : Time) (user : UserId) (used earned : Int)
    (order : OrderId) (returnId : Option Nat) : Prop where
  refund : 0 < used →
    (refundUsedPoints L now user used order .cancelRefund returnId).1.success = true
  balance : 0 < earned → earned ≤ (refundIfUsed L now user used order returnId).points user
  reclaim : 0 < earned →
    (usePointsFifo (refundIfUsed L now user used order returnId) now user earned .cancelDeduct
      (some order) returnId).1.success = true

theorem Backed.pointStepsSucceed {L : Ledger} (h : Backed L) {now : Time} {user : UserId}
    {used earned : Int} (husable : 0 < earned → earned ≤ getUsablePoints L now user)
    (order : OrderId) (returnId : Option Nat) :
    PointStepsSucceed L now user used earned order returnId where
  refund hpos := refundUsedPoints_success hpos _ _
  balance hpos := (h.reclaim_after_refund hpos (husable hpos) returnId).1
  reclaim hpos := (h.reclaim_after_refund hpos (husable hpos) returnId).2

namespace PaymentService

/-- `cancel_payment` passes its checks and calls the provider. -/
structure CancelAccepted (db : Db) (now : Time) (k : Nat) (user : UserId) (payment : Payment)
    (order : Order) : Prop where
  paymentFound : db.payments.get? k = some payment
  orderFound : db.orders.get? payment.order = some order
  owned : order.user = user
  notCanceled : payment.isCanceled = false
  done : payment.status = .done
  status : order.status = .paid ∨ order.status = .canceled
  reclaimable : checkReclaimable db now user order = .ok ()

section

variable {db : Db} {now : Time} {k : Nat} {user : UserId} {payment : Payment} {order : Order}

theorem checkReclaimable_ok (h : checkReclaimable db now user order = .ok ())
    (hstatus : order.status ≠ .canceled) (hpos : 0 < order.earnedPoints) :
    order.earnedPoints ≤ getUsablePoints db.ledger now user := by
  unfold checkReclaimable at h
  rw [if_neg (by rintro (hc | hc); exacts [hstatus hc, absurd hpos (not_lt.mpr hc)])] at h
  dsimp only at h
  split at h
  · cases h
  · rename_i hge
    exact le_trans (not_lt.mp hge) (min_le_right _ _)

theorem deductEarned_returns {db : Db} {o : OrderId} {order : Order}
    (hbalance : 0 < order.earnedPoints → order.earnedPoints ≤ db.ledger.points user)
    (hreclaim : 0 < order.earnedPoints → (usePointsFifo db.ledger now user order.earnedPoints
      .cancelDeduct (some o)).1.success = true) :
    ∃ db', deductEarned db now k o user order = .ok db' := by
  unfold deductEarned
  by_cases h0 : order.earnedPoints ≤ 0
  · exact ⟨db, if_pos h0⟩
  · have hpos := not_le.mp h0
    rw [if_neg h0, if_neg (not_lt.mpr (hbalance hpos))]
    dsimp only
    rw [hreclaim hpos]
    exact ⟨_, rfl⟩

/-- A call that returned passed the checks. -/
theorem cancelPayment_accepted {toss : Except TossPaymentError TossPayment}
    {out : CancelResult × Db} (h : cancelPayment db now k user toss = .ok out) :
    ∃ payment order, CancelAccepted db now k user payment order := by
  unfold cancelPayment at h
  split at h
  · cases h
  · rename_i payment hget
    obtain ⟨order, horder, h⟩ := bind_eq_ok.mp h
    rw [Db.getOrder_eq_ok] at horder
    split at h
    · cases h
    · rename_i howned
      split at h
      · cases h
      · rename_i hcanceled
        split at h
        · cases h
        · rename_i hdone
          split at h
          · cases h
          · rename_i hstatus
            obtain ⟨_, hcheck, _⟩ := bind_eq_ok.mp h
            refine ⟨payment, order, hget, horder, not_not.mp howned, ?_, not_not.mp hdone, ?_,
              hcheck⟩
            · rwa [Bool.not_eq_true] at hcanceled
            · by_contra hc
              exact hstatus (not_or.mp hc)

/-- Nothing of ours fails after the provider took the cancellation. -/
theorem CancelAccepted.returns (h : CancelAccepted db now k user payment order)
    (hL : Backed db.ledger) {data : TossPayment} {row : Payment} {saved : Db}
    (hrow : payment.markAsCanceled now data = .ok row)
    (hsaved : db.savePayment k row = .ok saved) :
    ∃ out, cancelPayment db now k user (.ok data) = .ok out := by
  have hledger : saved.ledger = db.ledger := by
    obtain ⟨payments, _, rfl⟩ := Db.savePayment_eq_ok.mp hsaved
    rfl
  unfold cancelPayment
  rw [h.paymentFound]
  dsimp only
  rw [Db.getOrder_eq_ok.mpr h.orderFound, ok_bind, if_neg (not_not.mpr h.owned), h.notCanceled,
    if_neg (by simp), if_neg (not_not.mpr h.done),
    if_neg (fun hc => h.status.elim hc.1 hc.2), h.reclaimable, ok_bind]
  rw [hrow, ok_bind, hsaved, ok_bind]
  by_cases hcanceled : order.status = .canceled
  · rw [if_pos hcanceled]
    exact ⟨_, rfl⟩
  · rw [if_neg hcanceled]
    have hsteps : PointStepsSucceed db.ledger now user order.usedPoints order.earnedPoints
        payment.order none :=
      hL.pointStepsSucceed (checkReclaimable_ok h.reclaimable hcanceled) payment.order none
    have hrefunded : ∀ text : String,
        (if 0 < order.usedPoints then
          (((saved.updateItems addStockTakeSold order.items).saveOrder payment.order
            (Order.withStatus .canceled now)).refundUsedPoints now user order.usedPoints
              payment.order .cancelRefund).log k .cancel text
        else (saved.updateItems addStockTakeSold order.items).saveOrder payment.order
          (Order.withStatus .canceled now)).ledger
            = refundIfUsed db.ledger now user order.usedPoints payment.order none := by
      intro text
      unfold refundIfUsed
      split
      · rw [← hledger]
        rfl
      · rw [← hledger]
        rfl
    obtain ⟨db', hdeduct⟩ := deductEarned_returns (k := k)
      (o := payment.order)
      (fun hpos => (hrefunded _).symm ▸ hsteps.balance hpos)
      (fun hpos => (hrefunded _).symm ▸ hsteps.reclaim hpos)
    rw [hdeduct, ok_bind]
    exact ⟨_, rfl⟩

end

end PaymentService

namespace ReturnService

/-- `complete_refund` passes its checks and calls the provider. -/
structure RefundAccepted (db : Db) (now : Time) (id : Nat) (r : Return) (order : Order) :
    Prop where
  found : db.returns.get? id = some r
  type : r.type = .refund
  received : r.status = .received
  unsettled : isSettled db id = false
  orderFound : db.orders.get? r.order = some order
  earned : checkEarned db now r.user (refundSplit db order r) = .ok ()
  balance : checkBalance (db.payments.ofOrder? r.order) (refundSplit db order r).cashBack = .ok ()

section

variable {db : Db} {now : Time} {id : Nat} {r : Return} {order : Order}

theorem checkEarned_ok {user : UserId} {s : RefundSplit} (h : checkEarned db now user s = .ok ())
    (hpos : 0 < s.earnedBack) : s.earnedBack ≤ getUsablePoints db.ledger now user := by
  unfold checkEarned at h
  rw [if_neg (not_le.mpr hpos)] at h
  dsimp only at h
  split at h
  · cases h
  · rename_i hge
    exact le_trans (not_lt.mp hge) (min_le_right _ _)

/-- Nothing of ours fails after the provider took the partial cancellation. -/
theorem RefundAccepted.returns (h : RefundAccepted db now id r order) (hL : Backed db.ledger)
    {data : TossPayment} {paid : Db}
    (hpaid : refundCash db now id r (refundSplit db order r).cashBack (.ok data) = .ok paid) :
    ∃ out, completeRefund db now id (.ok data) = .ok out := by
  have hledger : paid.ledger = db.ledger := by
    unfold refundCash at hpaid
    split at hpaid
    · cases hpaid
      rfl
    · split at hpaid
      · cases hpaid
      · obtain ⟨row, _, hpaid⟩ := bind_eq_ok.mp hpaid
        obtain ⟨saved, hsaved, hpaid⟩ := bind_eq_ok.mp hpaid
        obtain ⟨payments, _, rfl⟩ := Db.savePayment_eq_ok.mp hsaved
        cases hpaid
        rfl
  have hsteps : PointStepsSucceed db.ledger now r.user (refundSplit db order r).pointsBack
      (refundSplit db order r).earnedBack r.order (some id) :=
    hL.pointStepsSucceed (checkEarned_ok h.earned) r.order (some id)
  have hrepaid : (if 0 < (refundSplit db order r).pointsBack then
      ({ paid with products := restockReturned paid.products r.items } : Db).refundUsedPoints now
        r.user (refundSplit db order r).pointsBack r.order .cancelRefund (some id)
      else { paid with products := restockReturned paid.products r.items }).ledger
        = refundIfUsed db.ledger now r.user (refundSplit db order r).pointsBack r.order
            (some id) := by
    unfold refundIfUsed
    split
    · rw [← hledger]
      rfl
    · rw [← hledger]
  unfold completeRefund
  rw [h.found]
  dsimp only
  rw [if_neg (not_not.mpr h.type), if_neg (not_not.mpr h.received), h.unsettled,
    if_neg (by simp), Db.getOrder_eq_ok.mpr h.orderFound, ok_bind]
  rw [h.earned, ok_bind, h.balance, ok_bind, hpaid, ok_bind]
  unfold reclaimShare
  by_cases h0 : (refundSplit db order r).earnedBack ≤ 0
  · rw [if_pos h0, ok_bind]
    exact ⟨_, rfl⟩
  · have hreclaim := hsteps.reclaim (not_le.mp h0)
    rw [← hrepaid] at hreclaim
    rw [if_neg h0]
    dsimp only
    rw [hreclaim, if_neg (by simp), ok_bind]
    exact ⟨_, rfl⟩

end

end ReturnService

/-- With a ledger in order: once the checks of `cancel_payment` or of
`complete_refund` passed, every point step after the provider's answer
succeeds, and the call returns as soon as the answer is recorded on the
payment. -/
theorem nothing_fails_after_toss {db : Db} (hL : Backed db.ledger) (now : Time) :
    (∀ k user payment order, PaymentService.CancelAccepted db now k user payment order →
      (order.status ≠ .canceled → PointStepsSucceed db.ledger now user order.usedPoints
        order.earnedPoints payment.order none) ∧
      ∀ data row saved, payment.markAsCanceled now data = .ok row →
        db.savePayment k row = .ok saved →
          ∃ out, PaymentService.cancelPayment db now k user (.ok data) = .ok out) ∧
    ∀ id r order, ReturnService.RefundAccepted db now id r order →
      PointStepsSucceed db.ledger now r.user (ReturnService.refundSplit db order r).pointsBack
        (ReturnService.refundSplit db order r).earnedBack r.order (some id) ∧
      ∀ data paid, ReturnService.refundCash db now id r
          (ReturnService.refundSplit db order r).cashBack (.ok data) = .ok paid →
        ∃ out, ReturnService.completeRefund db now id (.ok data) = .ok out := by
  refine ⟨fun k user payment order h => ⟨fun hstatus => ?_, fun data row saved hrow hsaved => ?_⟩,
    fun id r order h => ⟨?_, fun data paid hpaid => ?_⟩⟩
  · exact hL.pointStepsSucceed (PaymentService.checkReclaimable_ok h.reclaimable hstatus) _ _
  · exact h.returns hL hrow hsaved
  · exact hL.pointStepsSucceed (ReturnService.checkEarned_ok h.earned) _ _
  · exact h.returns hL hpaid

/-- The user 7 earned 600 points, used 300 of them for the order 1, and earned
100 with it. -/
def settledOps : List (Time × PointOp) :=
  [(0, .add 7 600 .earn none none), (1, .use 7 300 .use (some 1) none),
    (2, .add 7 100 .earn (some 1) none)]

def settledLedger : Ledger :=
  (usePointsFifo (Ledger.empty.post 0 7 600 .earn none {}) 1 7 300 .use (some 1)).2.post 2 7 100
    .earn (some 1) {}

theorem backed_settledLedger : Backed settledLedger := by
  have hexec : exec (pointStep fun _ => 7) (0, Ledger.empty) settledOps
      = some (2, settledLedger) := rfl
  exact (pointRun_sound (Run.of_exec (fun _ _ => trivial) hexec)).backed

/-- The paid order, with used and with earned points. -/
def settledOrder : Order :=
  { World.oneOrder .paid with usedPoints := 300, finalAmount := 12700, earnedPoints := 100 }

def settledPayment : Payment := { World.onePayment .done with amount := 12700 }

def settledShop : Db :=
  { (World.shop .paid .done).db with
    ledger := settledLedger
    orders := Table.empty.insert settledOrder
    payments := .single settledPayment }

/-- The cancellation of the paid order passes its checks; the account has its
600 points again. -/
theorem nothing_fails_after_toss_paid :
    Backed settledShop.ledger ∧
      PointStepsSucceed settledShop.ledger 3 7 300 100 1 none ∧
      (∃ out, PaymentService.cancelPayment settledShop 3 1 7 (.ok { status := some .canceled })
        = .ok out) ∧
      settledLedger.points 7 = 400 ∧
      (usePointsFifo (refundIfUsed settledLedger 3 7 300 1 none) 3 7 100 .cancelDeduct
        (some 1)).2.points 7 = 600 := by
  have haccepted : PaymentService.CancelAccepted settledShop 3 1 7 settledPayment settledOrder :=
    ⟨rfl, rfl, rfl, rfl, rfl, Or.inl rfl, by decide⟩
  have h := (@nothing_fails_after_toss settledShop backed_settledLedger 3).1 1 7 _ _ haccepted
  exact ⟨backed_settledLedger, h.1 (by decide), h.2 { status := some .canceled } _ _ rfl rfl,
    by decide +kernel, by decide +kernel⟩

end Shopping
