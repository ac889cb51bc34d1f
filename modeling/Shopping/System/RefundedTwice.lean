import Shopping.System.RefundRetries

/-!
# Returns whose status is put back

`complete_refund` refuses a return that has a row in the payment log or in the
history of the points.  It makes the first only with cash to give back, and the
second only with points to give back or to take.  A return without any of them
leaves no row, and when its status is put back to received the next call makes
the refund again.

`LeavesRecord` says which returns leave a row, by the amounts of the return and
its order.  These are refunded once, whatever happens afterwards, and no others
(`refunded_once_iff`).
-/

namespace Shopping

open ReturnService

/-! ## Runs -/

inductive RefundEvent where
  /-- A call of `complete_refund`, with the provider's answer. -/
  | complete (id : Nat) (toss : Except TossPaymentError TossPayment)
  /-- The status of the return is put back to received by hand. -/
  | putBack (id : Nat) (completedAt : Option Time)
  /-- Anything else in the shop. -/
  | other (db : Db)

namespace RefundEvent

/-- The row of a return that is put back. -/
def putBackRow (completedAt : Option Time) (r : Return) : Return :=
  { r with status := .received, completedAt := completedAt }

def putBackReturn (db : Db) (id : Nat) (completedAt : Option Time) : Db :=
  { db with returns := db.returns.modify id (putBackRow completedAt) }

/-- One event, at the clock reading `e.1`.  A call that raises is rolled
back. -/
def step (db : Db) (e : Time × RefundEvent) : Option Db :=
  match e.2 with
  | .complete id toss =>
    match completeRefund db e.1 id toss with
    | .error _ => some db
    | .ok out => some out.2
  | .putBack id completedAt => some (putBackReturn db id completedAt)
  | .other db' => some db'

end RefundEvent

open RefundEvent

/-- No return is deleted or changes its type, and no row of the log or of the
history that names a return is deleted. -/
structure KeepsRecords (db db' : Db) : Prop where
  returns : ∀ id r, db.returns.get? id = some r →
    ∃ r', db'.returns.get? id = some r' ∧ r'.type = r.type
  settled : ∀ id, isSettled db id = true → isSettled db' id = true

/-- What else happens in the shop keeps the records. -/
def RefundEvent.keepsRecords (db : Db) (e : Time × RefundEvent) : Prop :=
  match e.2 with
  | .other db' => KeepsRecords db db'
  | _ => True

/-- In every run from here, each call for the return raises a `ValueError`. -/
def NeverAgain (db : Db) (id : Nat) : Prop :=
  ∀ es db', Run RefundEvent.step RefundEvent.keepsRecords db es db' → ∀ now toss,
    ∃ message, completeRefund db' now id toss = .error (.valueError message)

/-! ## Which returns leave a record -/

/-- Some of the earned points are taken back, or the goods are worth more than
their share of the used points and the fee, or they are worth more than the fee
and the points were really used. -/
def LeavesRecord (db : Db) (order : Order) (r : Return) : Prop :=
  0 < earnedShare order (completedGoods db r.order) r.refundAmount ∨
    pointsShare order (completedGoods db r.order) r.refundAmount
      < r.refundAmount - r.returnShippingFee ∨
    r.returnShippingFee < r.refundAmount ∧ db.hasHistory r.order .use = true

instance (db : Db) (order : Order) (r : Return) : Decidable (LeavesRecord db order r) :=
  inferInstanceAs (Decidable (_ ∨ _ ∨ _))

section

variable {db db' : Db} {now : Time} {id : Nat} {r : Return} {order : Order} {s : RefundSplit}
  {toss : Except TossPaymentError TossPayment}

/-- The fee is taken from the cash, then from the points: something is left of
the two when the goods are worth more than the fee. -/
theorem takeFee_pos {goods points fee : Int} {hasUse : Bool} :
    0 < (takeFee (goods - points - fee) points).1 ∨
      (0 < (takeFee (goods - points - fee) points).2 ∧ hasUse = true) ↔
    points < goods - fee ∨ fee < goods ∧ hasUse = true := by
  unfold takeFee
  split
  · rename_i hneg
    dsimp only
    have hleft : 0 < max (points + (goods - points - fee)) 0 ↔ fee < goods := by omega
    rw [hleft, or_iff_right (lt_irrefl 0), or_iff_right (by omega)]
  · rename_i hpos
    dsimp only
    have hcash : 0 < goods - points - fee ↔ points < goods - fee := by omega
    rw [hcash]
    cases hasUse with
    | false => simp
    | true =>
      simp only [and_true]
      omega

/-- A return leaves a record when one of its shares is positive. -/
theorem leavesRecord_iff : LeavesRecord db order r ↔
    0 < (refundSplit db order r).cashBack ∨ 0 < (refundSplit db order r).pointsBack ∨
      0 < (refundSplit db order r).earnedBack := by
  have hpoints : 0 < (refundSplit db order r).pointsBack ↔
      0 < (takeFee (r.refundAmount
        - pointsShare order (completedGoods db r.order) r.refundAmount - r.returnShippingFee)
        (pointsShare order (completedGoods db r.order) r.refundAmount)).2 ∧
      db.hasHistory r.order .use = true := by
    unfold refundSplit
    dsimp only
    split
    · rename_i hdropped
      rw [hdropped.2]
      simp
    · rename_i hkept
      rw [not_and, Bool.not_eq_false] at hkept
      exact (and_iff_left_of_imp hkept).symm
  rw [hpoints, ← or_assoc]
  refine Iff.trans ?_ (or_congr takeFee_pos.symm Iff.rfl)
  exact or_comm

/-! ## What a call leaves -/

theorem isSettled_iff {db : Db} {id : Nat} : isSettled db id = true ↔
    (∃ l ∈ db.logs, l.returnId = some id) ∨ some id ∈ db.ledger.returnIds := by
  unfold isSettled
  rw [Bool.or_eq_true, List.any_eq_true,
    Ledger.any_column (fun h => h.metadata.returnId) db.ledger fun x => decide (x = some id),
    List.any_eq_true]
  refine or_congr ?_ ?_
  · exact exists_congr fun l => and_congr_right fun _ => decide_eq_true_iff
  · constructor
    · rintro ⟨x, hx, hid⟩
      rw [← of_decide_eq_true hid]
      exact hx
    · exact fun h => ⟨some id, h, decide_eq_true rfl⟩

/-- What a call adds to the log and to the history: rows that name the return,
one for the cash and one for the points. -/
structure Records (db db' : Db) (id : Nat) (s : RefundSplit) (newLogs : List PaymentLog)
    (named : List (Option Nat)) : Prop where
  logs : db'.logs = db.logs ++ newLogs
  history : db'.ledger.returnIds = db.ledger.returnIds ++ named
  cash : 0 < s.cashBack → ∃ l ∈ newLogs, l.returnId = some id
  points : 0 < s.pointsBack ∨ 0 < s.earnedBack → some id ∈ named

theorem refundCash_records {cashBack : Int}
    (h : refundCash db now id r cashBack toss = .ok db') :
    ∃ logs, db'.logs = db.logs ++ logs ∧ (0 < cashBack → ∃ l ∈ logs, l.returnId = some id) := by
  unfold refundCash at h
  split at h
  · rename_i hcash
    cases h
    exact ⟨[], (List.append_nil _).symm, fun hpos => absurd hpos (not_lt.mpr hcash)⟩
  · split at h
    · cases h
    · cases toss with
      | error e => cases h
      | ok data =>
        obtain ⟨row, _, h⟩ := bind_eq_ok.mp h
        obtain ⟨saved, hsaved, h⟩ := bind_eq_ok.mp h
        obtain ⟨payments, _, rfl⟩ := Db.savePayment_eq_ok.mp hsaved
        cases h
        exact ⟨_, rfl, fun _ => ⟨_, List.mem_cons_self, rfl⟩⟩

theorem reclaimShare_records {earnedBack : Int}
    (h : reclaimShare db now id r earnedBack = .ok db') :
    ∃ more, db'.logs = db.logs ∧ db'.returns = db.returns ∧
      db'.ledger.returnIds = db.ledger.returnIds ++ more ∧ (0 < earnedBack → some id ∈ more) := by
  unfold reclaimShare at h
  split at h
  · rename_i hearned
    cases h
    exact ⟨[], rfl, rfl, (List.append_nil _).symm, fun hpos => absurd hpos (not_lt.mpr hearned)⟩
  · dsimp only at h
    split at h
    · cases h
    · rename_i hsuccess
      cases h
      rw [Bool.not_eq_false] at hsuccess
      refine ⟨[some id], rfl, rfl, ?_, fun _ => List.mem_cons_self⟩
      dsimp only
      rw [PointService.usePointsFifo_returnIds, if_pos hsuccess]

/-- The rows of a settled refund. -/
theorem settleRefund_records {done : RefundSplit}
    (h : settleRefund db now id r order s toss = .ok (done, db')) :
    db'.returns = db.returns.modify id (markCompleted now) ∧
      ∃ newLogs named, Records db db' id s newLogs named := by
  unfold settleRefund at h
  obtain ⟨paid, hpaid, h⟩ := bind_eq_ok.mp h
  obtain ⟨logs, hlogs, hcash⟩ := refundCash_records hpaid
  obtain ⟨_, _, hreturns, hledger, _⟩ := refundCash_ok hpaid
  dsimp only at h
  generalize hrepaid : (if 0 < s.pointsBack then
      ({ paid with products := restockReturned paid.products r.items }).refundUsedPoints
        now r.user s.pointsBack r.order .cancelRefund (some id)
    else { paid with products := restockReturned paid.products r.items }) = repaid at h
  have hgiven : ∃ given, repaid.ledger.returnIds = paid.ledger.returnIds ++ given ∧
      repaid.logs = paid.logs ∧ repaid.returns = paid.returns ∧
      (0 < s.pointsBack → some id ∈ given) := by
    rw [← hrepaid]
    split
    · rename_i hpos
      obtain ⟨given, hids, hmem⟩ := PointService.refundUsedPoints_returnIds paid.ledger now r.user
        s.pointsBack r.order .cancelRefund (some id)
      exact ⟨given, hids, rfl, rfl, hmem⟩
    · rename_i hnone
      exact ⟨[], (List.append_nil _).symm, rfl, rfl, fun hpos => absurd hpos hnone⟩
  obtain ⟨given, hids, hgivenLogs, hgivenReturns, hmem⟩ := hgiven
  obtain ⟨reclaimed, hreclaimed, h⟩ := bind_eq_ok.mp h
  obtain ⟨taken, htakenLogs, htakenReturns, htaken, htakenMem⟩ := reclaimShare_records hreclaimed
  cases h
  obtain ⟨hfreturns, _, _, hfledger, hflogs⟩ :=
    finishReturn_tables reclaimed now id r.order order
  refine ⟨?_, logs, given ++ taken, ?_, ?_, hcash, ?_⟩
  · rw [hfreturns, htakenReturns, hgivenReturns, hreturns]
  · rw [hflogs, htakenLogs, hgivenLogs, hlogs]
  · rw [hfledger, htaken, hids, hledger, List.append_assoc]
  · rintro (hpoints | hearned)
    · exact List.mem_append_left _ (hmem hpoints)
    · exact List.mem_append_right _ (htakenMem hearned)

/-- A call that succeeds passed its checks. -/
theorem checked_of_complete {done : RefundSplit}
    (h : completeRefund db now id toss = .ok (done, db')) :
    ∃ r order, Checked db id r order done ∧ isSettled db id = false ∧
      settleRefund db now id r order done toss = .ok (done, db') := by
  rw [completeRefund_eq] at h
  obtain ⟨⟨r, order, s⟩, hcheck, hsettle⟩ := bind_eq_ok.mp h
  have hchecked := checkRefund_ok hcheck
  have hdone : done = s := by
    unfold settleRefund at hsettle
    obtain ⟨_, _, hsettle⟩ := bind_eq_ok.mp hsettle
    obtain ⟨_, _, hsettle⟩ := bind_eq_ok.mp hsettle
    cases hsettle
    rfl
  rw [hdone] at hsettle ⊢
  refine ⟨r, order, hchecked, ?_, hsettle⟩
  unfold checkRefund at hcheck
  rw [hchecked.found] at hcheck
  dsimp only at hcheck
  split_ifs at hcheck with _ _ hsettled
  exact Bool.eq_false_iff.mpr hsettled

/-! ## After a record -/

/-- A call keeps the records, and every other one does too. -/
theorem completeRefund_keeps {done : RefundSplit}
    (h : completeRefund db now id toss = .ok (done, db')) : KeepsRecords db db' := by
  obtain ⟨r, order, _, _, hsettle⟩ := checked_of_complete h
  obtain ⟨hreturns, logs, more, hrecords⟩ := settleRefund_records hsettle
  constructor
  · intro j x hx
    rw [hreturns]
    refine Table.modify_keeps hx ?_ id ?_
    · rfl
    · rfl
  · intro j hj
    rw [isSettled_iff] at hj ⊢
    rw [hrecords.logs, hrecords.history]
    rcases hj with ⟨l, hl, hid⟩ | hj
    · exact Or.inl ⟨l, List.mem_append_left _ hl, hid⟩
    · exact Or.inr (List.mem_append_left _ hj)

theorem KeepsRecords.refl (db : Db) : KeepsRecords db db :=
  ⟨fun _ r hr => ⟨r, hr, rfl⟩, fun _ h => h⟩

theorem step_keepsRecords {e : Time × RefundEvent} (hok : RefundEvent.keepsRecords db e)
    (h : RefundEvent.step db e = some db') : KeepsRecords db db' := by
  obtain ⟨now, event⟩ := e
  cases event with
  | complete id toss =>
    dsimp only [RefundEvent.step] at h
    split at h
    · cases h
      exact .refl db
    · rename_i hcomplete
      cases h
      exact completeRefund_keeps hcomplete
  | putBack id completedAt =>
    cases h
    refine ⟨fun j x hx => Table.modify_keeps hx ?_ id ?_, fun _ h => h⟩
    · rfl
    · rfl
  | other db' =>
    cases h
    exact hok

/-- A refund return with a record. -/
structure Refunded (id : Nat) (db : Db) : Prop where
  settled : isSettled db id = true
  found : ∃ r, db.returns.get? id = some r ∧ r.type = .refund

theorem Refunded.keep (h : Refunded id db) (hkeeps : KeepsRecords db db') : Refunded id db' := by
  obtain ⟨r, hr, htype⟩ := h.found
  obtain ⟨r', hr', hsame⟩ := hkeeps.returns id r hr
  exact ⟨hkeeps.settled id h.settled, r', hr', hsame.trans htype⟩

/-- Every call for it raises. -/
theorem Refunded.raises (h : Refunded id db) (now : Time)
    (toss : Except TossPaymentError TossPayment) :
    ∃ message, completeRefund db now id toss = .error (.valueError message) := by
  obtain ⟨r, hr, htype⟩ := h.found
  unfold completeRefund
  rw [hr]
  dsimp only
  rw [if_neg (not_not.mpr htype)]
  split
  · exact ⟨_, rfl⟩
  · rw [if_pos h.settled]
    exact ⟨_, rfl⟩

theorem Refunded.neverAgain (h : Refunded id db) : NeverAgain db id := by
  intro es db' hrun now toss
  have hend : Refunded id db' := hrun.invariant (Refunded id) h
    fun t e u ht hok hstep => ht.keep (step_keepsRecords hok hstep)
  exact hend.raises now toss

/-! ## Without a record -/

/-- A call with nothing to give back and nothing to take restocks, and completes
the return. -/
theorem settleRefund_nothing (hcash : s.cashBack ≤ 0) (hpoints : s.pointsBack ≤ 0)
    (hearned : s.earnedBack ≤ 0) : settleRefund db now id r order s toss
      = .ok (s, finishReturn { db with products := restockReturned db.products r.items } now id
          r.order order) := by
  unfold settleRefund refundCash
  rw [if_pos hcash, ok_bind]
  dsimp only
  rw [if_neg (not_lt.mpr hpoints)]
  unfold reclaimShare
  rw [if_pos hearned, ok_bind]

/-- The value of what came back of the order, when a completed return is put
back. -/
theorem completedGoods_putBack (hr : db.returns.get? id = some r)
    (hreceived : r.status = .received) (now : Time) (completedAt : Option Time)
    (hreturns : db'.returns = (db.returns.modify id (markCompleted now)).modify id
      (putBackRow completedAt)) (o : OrderId) :
    completedGoods db' o = completedGoods db o := by
  unfold completedGoods
  rw [hreturns, Table.modify_modify, Table.sum_modify hr]
  have hbefore : isCompleted o r = false := by simp [isCompleted, hreceived]
  have hafter : isCompleted o (putBackRow completedAt (markCompleted now r)) = false := by
    simp [isCompleted, putBackRow]
  rw [hbefore]
  simp [hafter]

/-- The shares of an order do not depend on its status. -/
theorem refundSplit_congr {order' : Order} {r' : Return}
    (htotal : order'.totalAmount = order.totalAmount) (hused : order'.usedPoints = order.usedPoints)
    (hearned : order'.earnedPoints = order.earnedPoints) (ho : r'.order = r.order)
    (hamount : r'.refundAmount = r.refundAmount)
    (hfee : r'.returnShippingFee = r.returnShippingFee)
    (hgoods : completedGoods db' r.order = completedGoods db r.order)
    (hledger : db'.ledger = db.ledger) : refundSplit db' order' r' = refundSplit db order r := by
  have hhistory : db'.hasHistory r.order .use = db.hasHistory r.order .use := by
    unfold Db.hasHistory
    rw [hledger]
  unfold refundSplit pointsShare earnedShare
  dsimp only
  rw [ho, hamount, hfee, hgoods, htotal, hused, hearned, hhistory]

/-- The order is there after a completed return, with its amounts. -/
theorem finishReturn_order {o : OrderId} (ho : db.orders.get? o = some order) (now : Time)
    (id : Nat) :
    ∃ order', (finishReturn db now id o order).orders.get? o = some order' ∧
      order'.totalAmount = order.totalAmount ∧ order'.usedPoints = order.usedPoints ∧
      order'.earnedPoints = order.earnedPoints := by
  obtain ⟨_, horders | horders, _⟩ := finishReturn_tables db now id o order
  · exact ⟨order, by rw [horders, ho], rfl, rfl, rfl⟩
  · refine ⟨Order.withStatus .refunded now order, ?_, rfl, rfl, rfl⟩
    rw [horders, Table.get?_modify_self, ho]
    rfl

/-- The checks of a call with nothing to give back and nothing to take. -/
theorem checkRefund_nothing (now : Time) (hr : db.returns.get? id = some r)
    (htype : r.type = .refund) (hreceived : r.status = .received)
    (hsettled : isSettled db id = false) (ho : db.orders.get? r.order = some order)
    (hcash : (refundSplit db order r).cashBack ≤ 0)
    (hearned : (refundSplit db order r).earnedBack ≤ 0) :
    checkRefund db now id = .ok (r, order, refundSplit db order r) := by
  unfold checkRefund
  rw [hr]
  dsimp only
  rw [if_neg (not_not.mpr htype), if_neg (not_not.mpr hreceived),
    if_neg (Bool.eq_false_iff.mp hsettled), Db.getOrder_eq_ok.mpr ho, ok_bind]
  unfold checkEarned checkBalance
  rw [if_pos hearned, ok_bind, if_pos hcash, ok_bind]

/-- A return that left no record is refunded again when its status is put
back. -/
theorem completeRefund_again {done : RefundSplit}
    (h : completeRefund db now id toss = .ok (done, db')) (hr : db.returns.get? id = some r)
    (ho : db.orders.get? r.order = some order) (hnone : ¬ LeavesRecord db order r)
    (completedAt : Option Time) (now' : Time) (toss' : Except TossPaymentError TossPayment) :
    ∃ out, completeRefund (putBackReturn db' id completedAt) now' id toss' = .ok out := by
  obtain ⟨r', order', hchecked, hunsettled, hsettle⟩ := checked_of_complete h
  cases hr.symm.trans hchecked.found
  cases ho.symm.trans hchecked.orderFound
  rw [leavesRecord_iff, ← hchecked.split] at hnone
  push Not at hnone
  obtain ⟨hcash, hpoints, hearned⟩ := hnone
  rw [settleRefund_nothing hcash hpoints hearned] at hsettle
  cases hsettle
  -- The split is what it was, and there is still no record.
  obtain ⟨hreturns, _, _, hledger, hlogs⟩ := finishReturn_tables
    { db with products := restockReturned db.products r.items } now id r.order order
  have hrestocked : ({ db with products := restockReturned db.products r.items } : Db).orders.get?
      r.order = some order := ho
  obtain ⟨order', ho', htotal, hused, hearned'⟩ := finishReturn_order hrestocked now id
  generalize finishReturn { db with products := restockReturned db.products r.items } now id
    r.order order = finished at hreturns hledger hlogs ho'
  have hr' : (putBackReturn finished id completedAt).returns.get? id
      = some (putBackRow completedAt (markCompleted now r)) := by
    unfold putBackReturn
    rw [Table.get?_modify_self, hreturns, Table.get?_modify_self, hr]
    rfl
  have hsplit : refundSplit (putBackReturn finished id completedAt) order'
      (putBackRow completedAt (markCompleted now r)) = refundSplit db order r := by
    refine refundSplit_congr htotal hused hearned' rfl rfl rfl ?_ hledger
    refine completedGoods_putBack hr hchecked.received now completedAt ?_ _
    unfold putBackReturn
    rw [hreturns]
  rw [hchecked.split, ← hsplit] at hcash hpoints hearned
  have hunsettled' : isSettled (putBackReturn finished id completedAt) id = false := by
    rw [← hunsettled]
    unfold isSettled putBackReturn
    dsimp only
    rw [hlogs, hledger]
  have hcheck := checkRefund_nothing now' hr' hchecked.type rfl hunsettled' ho' hcash hearned
  simp only [completeRefund_eq, hcheck, ok_bind]
  exact ⟨_, settleRefund_nothing hcash hpoints hearned⟩

theorem not_neverAgain {done : RefundSplit} (h : completeRefund db now id toss = .ok (done, db'))
    (hr : db.returns.get? id = some r) (ho : db.orders.get? r.order = some order)
    (hnone : ¬ LeavesRecord db order r) : ¬ NeverAgain db' id := by
  intro hnever
  obtain ⟨out, hagain⟩ := completeRefund_again h hr ho hnone none now toss
  have hrun : Run RefundEvent.step RefundEvent.keepsRecords db' [(now, .putBack id none)]
      (putBackReturn db' id none) := Run.nil.snoc trivial rfl
  obtain ⟨message, hraises⟩ := hnever _ _ hrun now toss
  rw [hagain] at hraises
  cases hraises

theorem refunded_of_leavesRecord {done : RefundSplit}
    (h : completeRefund db now id toss = .ok (done, db')) (hr : db.returns.get? id = some r)
    (ho : db.orders.get? r.order = some order) (hleaves : LeavesRecord db order r) :
    Refunded id db' := by
  obtain ⟨r', order', hchecked, _, hsettle⟩ := checked_of_complete h
  cases hr.symm.trans hchecked.found
  cases ho.symm.trans hchecked.orderFound
  rw [leavesRecord_iff, ← hchecked.split] at hleaves
  obtain ⟨hreturns, newLogs, named, hrecords⟩ := settleRefund_records hsettle
  refine ⟨?_, markCompleted now r, ?_, hchecked.type⟩
  · rw [isSettled_iff, hrecords.logs, hrecords.history]
    rcases hleaves with hcash | hpoints
    · obtain ⟨l, hl, hid⟩ := hrecords.cash hcash
      exact Or.inl ⟨l, List.mem_append_right _ hl, hid⟩
    · exact Or.inr (List.mem_append_right _ (hrecords.points hpoints))
  · rw [hreturns, Table.get?_modify_self, hr]
    rfl

end

/-- A return that was refunded is never refunded again, in any run after it in
which its status is put back any number of times, exactly when the first call
left a record: every later call raises a `ValueError`. -/
theorem refunded_once_iff {db db' : Db} {now : Time} {id : Nat} {r : Return} {order : Order}
    {toss : Except TossPaymentError TossPayment} {s : RefundSplit}
    (hr : db.returns.get? id = some r) (ho : db.orders.get? r.order = some order)
    (h : completeRefund db now id toss = .ok (s, db')) :
    NeverAgain db' id ↔ LeavesRecord db order r := by
  constructor
  · intro hnever
    by_contra hnone
    exact not_neverAgain h hr ho hnone hnever
  · exact fun hleaves => (refunded_of_leavesRecord h hr ho hleaves).neverAgain

/-- The first of the three returns gives cash back. -/
theorem refunded_once_cash :
    ∃ s db', completeRefund returnShop.db 1 1 (.ok {}) = .ok (s, db') ∧ NeverAgain db' 1 := by
  have hsucceeds : (completeRefund returnShop.db 1 1 (.ok {})).toBool = true := by
    decide +kernel
  cases h : completeRefund returnShop.db 1 1 (.ok {}) with
  | error e =>
    rw [h] at hsucceeds
    cases hsucceeds
  | ok out =>
    have hfound : returnShop.db.returns.get? 1 = some (returnOf "R1" 3334) := rfl
    exact ⟨out.1, out.2, rfl, (refunded_once_iff hfound rfl h).mpr (by decide +kernel)⟩

/-- The user got 6000 points, and used them for an order of 3000 and its
shipping. -/
def feeLedger : Ledger :=
  match PointService.addPoints Ledger.empty 0 7 6000 with
  | .error _ => Ledger.empty
  | .ok given => (PointService.usePointsFifo given.2 0 7 6000 .use (some 1)).2

/-- That order, delivered. -/
def feeOrder : Order :=
  { World.oneOrder .delivered with
    totalAmount := 3000, usedPoints := 6000, finalAmount := 0
    items := [⟨some 1, "책", 1, 3000⟩] }

/-- The return of its one item, whose fee is as much as the item. -/
def feeReturn : Return := { returnOf "R1" 3000 with returnShippingFee := 3000 }

def feeShop : Db :=
  { (World.shop .delivered .done).db with
    ledger := feeLedger
    products := Table.empty.insert ⟨"책", 3000, 9, 2, true⟩
    orders := Table.empty.insert feeOrder
    payments := PaymentTable.single { World.onePayment .done with amount := 0 }
    returns := Table.empty.insert feeReturn }

/-- Stock and sold count of the product. -/
def unitsOf (db : Db) : Option (Int × Int) :=
  (db.products.get? 1).map fun p => (p.stock, p.soldCount)

/-- The return gives nothing back.  With its status put back, it is completed a
second time, and moves the stock a second time. -/
theorem refunded_twice :
    ∃ db₁ db₂, exec RefundEvent.step feeShop [(1, .complete 1 (.ok {}))] = some db₁ ∧
      exec RefundEvent.step db₁ [(2, .putBack 1 none), (3, .complete 1 (.ok {}))] = some db₂ ∧
      unitsOf feeShop = some (9, 2) ∧ unitsOf db₁ = some (10, 1) ∧ unitsOf db₂ = some (11, 0) ∧
      ¬ NeverAgain db₁ 1 := by
  have hsucceeds : (completeRefund feeShop 1 1 (.ok {})).toBool = true := by
    decide +kernel
  cases h : completeRefund feeShop 1 1 (.ok {}) with
  | error e =>
    rw [h] at hsucceeds
    cases hsucceeds
  | ok out =>
    have hfirst : exec RefundEvent.step feeShop [(1, .complete 1 (.ok {}))] = some out.2 := by
      simp only [exec, RefundEvent.step, h, Option.bind_some]
    have hstocks : ((exec RefundEvent.step feeShop [(1, .complete 1 (.ok {}))]).any fun db₁ =>
        decide (unitsOf db₁ = some (10, 1)) &&
          (exec RefundEvent.step db₁ [(2, .putBack 1 none), (3, .complete 1 (.ok {}))]).any
            fun db₂ => decide (unitsOf db₂ = some (11, 0))) = true := by decide +kernel
    rw [hfirst, Option.any_some, Bool.and_eq_true, Option.any_eq_true] at hstocks
    obtain ⟨hstock₁, db₂, hsecond, hstock₂⟩ := hstocks
    have hfound : feeShop.returns.get? 1 = some feeReturn := rfl
    have horder : feeShop.orders.get? 1 = some feeOrder := rfl
    exact ⟨out.2, db₂, hfirst, hsecond, by decide, of_decide_eq_true hstock₁,
      of_decide_eq_true hstock₂, not_neverAgain h hfound horder (by decide +kernel)⟩

end Shopping
