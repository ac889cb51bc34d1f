import Shopping.Points.Runs
import Shopping.System.Commits
import Shopping.System.UsedPoints

/-!
# The shop and the ledger machine

Whatever the shop does to points it does through calls of `PointService`, on
the account of the customer whom the order belongs to.  `LedgerStep` says so of
one step of the shop: the calls that take the ledger from before to after, with
the owners of the orders kept.

`shop_run_refines_ledger` puts the steps together: a run of the shop is,
on the ledger, a run of the ledger machine.  What was proved of every run of
that machine holds of the shop.
-/

namespace Shopping

open PaymentService PaymentTasks TossWebhookService OrderTasks ReturnService

/-! ## Calls of the ledger machine -/

/-- Calls at one clock reading, one after the other. -/
def PointOp.applyAll (owner : OrderId → UserId) (now : Time) (L : Ledger) (ops : List PointOp) :
    Ledger := ops.foldl (fun L op => op.apply owner now L) L

/-- Some calls take one ledger to the other. -/
def Posts (owner : OrderId → UserId) (now : Time) (L L' : Ledger) : Prop :=
  ∃ ops : List PointOp, (∀ op ∈ ops, op.allowed owner = true) ∧
    PointOp.applyAll owner now L ops = L'

section

variable {owner : OrderId → UserId} {now : Time} {L L' L'' : Ledger}

theorem Posts.refl (L : Ledger) : Posts owner now L L :=
  ⟨[], fun _ hop => absurd hop List.not_mem_nil, rfl⟩

theorem Posts.one (op : PointOp) (hop : op.allowed owner = true) :
    Posts owner now L (op.apply owner now L) := by
  refine ⟨[op], fun op' hop' => ?_, rfl⟩
  rw [List.mem_singleton] at hop'
  rw [hop', hop]

theorem Posts.trans (h : Posts owner now L L') (h' : Posts owner now L' L'') :
    Posts owner now L L'' := by
  obtain ⟨ops, hok, rfl⟩ := h
  obtain ⟨ops', hok', rfl⟩ := h'
  refine ⟨ops ++ ops', fun op hop => ?_, ?_⟩
  · rcases List.mem_append.mp hop with hop | hop
    · exact hok op hop
    · exact hok' op hop
  · unfold PointOp.applyAll
    rw [List.foldl_append]

/-- The calls are a run of the ledger machine, at a clock that does not go
back. -/
theorem Posts.run {t : Time} (h : Posts owner now L L') (hle : t ≤ now) :
    ∃ ops t', t ≤ t' ∧ t' ≤ now ∧
      Run (pointStep owner) (fun _ _ => True) (t, L) ops (t', L') := by
  obtain ⟨ops, hok, rfl⟩ := h
  induction ops generalizing L t with
  | nil => exact ⟨[], t, le_refl t, hle, Run.nil⟩
  | cons op rest ih =>
    have hop := hok op List.mem_cons_self
    have hstep : pointStep owner (t, L) (now, op) = some (now, op.apply owner now L) := by
      unfold pointStep
      rw [if_pos ⟨hle, hop⟩]
    have hfirst : Run (pointStep owner) (fun _ _ => True) (t, L) [(now, op)]
        (now, op.apply owner now L) := Run.nil.snoc trivial hstep
    obtain ⟨ops, t', hge, hle', hrest⟩ := ih (L := op.apply owner now L) (le_refl now)
      fun op' hop' => hok op' (List.mem_cons_of_mem op hop')
    exact ⟨[(now, op)] ++ ops, t', hle.trans hge, hle', hfirst.append hrest⟩

end

/-! ## Steps of the shop -/

/-- The customer of every order and of every return of it. -/
structure OwnedBy (owner : OrderId → UserId) (db : Db) : Prop where
  orders : ∀ o x, db.orders.get? o = some x → owner o = x.user
  returns : ∀ id r, db.returns.get? id = some r → owner r.order = r.user

/-- Every return is of an order that is there, and of its customer. -/
def ReturnsOwned (db : Db) : Prop :=
  ∀ id r, db.returns.get? id = some r → ∃ x, db.orders.get? r.order = some x ∧ x.user = r.user

/-- Orders and returns keep their customers, and the ledger moved by calls of
the ledger machine. -/
structure LedgerStep (now : Time) (db db' : Db) : Prop where
  owned : ∀ owner, OwnedBy owner db' → OwnedBy owner db
  returned : ReturnsOwned db → ReturnsOwned db'
  posts : ∀ owner, OwnedBy owner db' → Posts owner now db.ledger db'.ledger

section

variable {now : Time} {db db' db'' : Db}

theorem LedgerStep.trans (h : LedgerStep now db db') (h' : LedgerStep now db' db'') :
    LedgerStep now db db'' := by
  refine ⟨fun owner ho => h.owned owner (h'.owned owner ho), fun hr => h'.returned (h.returned hr),
    fun owner ho => ?_⟩
  exact (h.posts owner (h'.owned owner ho)).trans (h'.posts owner ho)

theorem LedgerStep.refl (db : Db) : LedgerStep now db db :=
  ⟨fun _ h => h, fun h => h, fun _ _ => .refl _⟩

theorem LedgerStep.of_eq (h : db' = db) : LedgerStep now db db' := by
  rw [h]
  exact .refl db

/-- A write to other tables. -/
theorem LedgerStep.write (hl : db'.ledger = db.ledger) (ho : db'.orders = db.orders)
    (hr : db'.returns = db.returns) : LedgerStep now db db' := by
  refine ⟨fun owner h => ⟨?_, ?_⟩, fun h => ?_, fun owner _ => ?_⟩
  · rw [← ho]
    exact h.orders
  · rw [← hr]
    exact h.returns
  · unfold ReturnsOwned
    rw [ho, hr]
    exact h
  · rw [hl]
    exact .refl _

theorem LedgerStep.log (h : LedgerStep now db db') (k : Nat) (logType : LogType)
    (message : String) (returnId : Option Nat := none) :
    LedgerStep now db (db'.log k logType message returnId) := h.trans (.write rfl rfl rfl)

/-- A write to the row of an order that leaves its customer. -/
theorem LedgerStep.saveOrder (db : Db) (o : OrderId) {f : Order → Order}
    (hf : ∀ x, (f x).user = x.user) : LedgerStep now db (db.saveOrder o f) := by
  have hrow : ∀ i x, db.orders.get? i = some x →
      ∃ y, (db.saveOrder o f).orders.get? i = some y ∧ y.user = x.user := by
    intro i x hx
    rw [Db.saveOrder_orders, Table.get?_modify, hx]
    split
    · exact ⟨f x, rfl, hf x⟩
    · exact ⟨x, rfl, rfl⟩
  refine ⟨fun owner h => ⟨fun i x hx => ?_, h.returns⟩, fun h id r hr => ?_, fun _ _ => .refl _⟩
  · obtain ⟨y, hy, huser⟩ := hrow i x hx
    rw [h.orders i y hy, huser]
  · obtain ⟨x, hx, huser⟩ := h id r hr
    obtain ⟨y, hy, huser'⟩ := hrow r.order x hx
    exact ⟨y, hy, huser'.trans huser⟩

/-- A write to the row of a return that leaves its order and its customer. -/
theorem LedgerStep.saveReturn (db : Db) (id : Nat) {f : Return → Return}
    (hf : ∀ r, (f r).order = r.order ∧ (f r).user = r.user) :
    LedgerStep now db { db with returns := db.returns.modify id f } := by
  refine ⟨fun owner h => ⟨h.orders, fun j r hr => ?_⟩, fun h j r hr => ?_, fun _ _ => .refl _⟩
  · have hrow : (db.returns.modify id f).get? j = some (if j = id then f r else r) := by
      rw [Table.get?_modify, hr]
      split
      · rfl
      · rfl
    have howner := h.returns j _ hrow
    split at howner
    · rw [(hf r).1, (hf r).2] at howner
      exact howner
    · exact howner
  · rcases Table.modify_cases hr with ⟨before, _, hbefore, rfl⟩ | ⟨_, hr⟩
    · obtain ⟨x, hx, huser⟩ := h j before hbefore
      exact ⟨x, by rw [(hf before).1, hx], by rw [huser, (hf before).2]⟩
    · exact h j r hr

theorem LedgerStep.savePayment {k : Nat} {row : Payment} {saved : Db}
    (h : db.savePayment k row = .ok saved) : LedgerStep now db saved := by
  obtain ⟨payments, _, rfl⟩ := Db.savePayment_eq_ok.mp h
  exact .write rfl rfl rfl

theorem LedgerStep.mark (db : Db) (id : TossOrderId) (status : TossStatus) :
    LedgerStep now db (markWebhookProcessed db now id status) := by
  unfold markWebhookProcessed
  split
  · exact .refl db
  · exact .write rfl rfl rfl

/-- The points that an order used go back to its customer. -/
theorem LedgerStep.refund {o : OrderId} {user : UserId} (n : Int) {type : PointType}
    (returnId : Option Nat) (ht : type.isUsedPointsRefund = true)
    (hu : ∀ owner, OwnedBy owner db → owner o = user) :
    LedgerStep now db (db.refundUsedPoints now user n o type returnId) := by
  have howned : ∀ owner, OwnedBy owner (db.refundUsedPoints now user n o type returnId) →
      OwnedBy owner db := fun _ h => ⟨h.orders, h.returns⟩
  refine ⟨howned, fun h => h, fun owner h => ?_⟩
  have hpost : Posts owner now db.ledger
      ((PointOp.refund o n type returnId).apply owner now db.ledger) := .one _ ht
  simp only [PointOp.apply, hu owner (howned owner h)] at hpost
  exact hpost

/-- Points of the customer are used or taken back. -/
theorem LedgerStep.use {o : OrderId} {user : UserId} (n : Int) {type : PointType}
    (returnId : Option Nat) (ht : type = .use ∨ type = .cancelDeduct)
    (hu : ∀ owner, OwnedBy owner db → owner o = user) :
    LedgerStep now db { db with
      ledger := (PointService.usePointsFifo db.ledger now user n type (some o) returnId).2 } := by
  have howned : ∀ owner, OwnedBy owner { db with
      ledger := (PointService.usePointsFifo db.ledger now user n type (some o) returnId).2 } →
        OwnedBy owner db := fun _ h => ⟨h.orders, h.returns⟩
  refine ⟨howned, fun h => h, fun owner h => ?_⟩
  refine Posts.one (.use user n type (some o) returnId) ?_
  have howner := hu owner (howned owner h)
  rcases ht with rfl | rfl
  · simp [PointOp.allowed, howner]
  · simp [PointOp.allowed, howner]

/-- Points are earned, on any account. -/
theorem LedgerStep.earn {user : UserId} {n : Int} {o : OrderId} {earned : Bool} {ledger : Ledger}
    (h : PointService.addPoints db.ledger now user n .earn (some o) = .ok (earned, ledger)) :
    LedgerStep now db { db with ledger := ledger } := by
  refine ⟨fun _ ho => ⟨ho.orders, ho.returns⟩, fun h => h, fun owner _ => ?_⟩
  have hpost : Posts owner now db.ledger
      ((PointOp.add user n .earn (some o) none).apply owner now db.ledger) := .one _ rfl
  simp only [PointOp.apply, h] at hpost
  exact hpost

/-- The customer of an order that is there. -/
theorem OwnedBy.of_found {o : OrderId} {x : Order} (hx : db.orders.get? o = some x) :
    ∀ owner, OwnedBy owner db → owner o = x.user := fun _ h => h.orders o x hx

/-- Who owned an order before a step owns it after. -/
theorem LedgerStep.keeps {o : OrderId} {user : UserId} (h : LedgerStep now db db')
    (hu : ∀ owner, OwnedBy owner db → owner o = user) :
    ∀ owner, OwnedBy owner db' → owner o = user := fun owner ho => hu owner (h.owned owner ho)

end

/-! ## The functions of the shop -/

section

variable {db db' : Db} {now : Time} {k : Nat} {o : OrderId}

/-- The earning of a settlement, with the note of it on the order. -/
theorem LedgerStep.earnNoted {user : UserId} {n : Int} {earned : Bool} {ledger : Ledger}
    (h : PointService.addPoints db.ledger now user n .earn (some o) = .ok (earned, ledger)) :
    LedgerStep now db ({ db with ledger := ledger }.saveOrder o fun x =>
      { x with earnedPoints := n }) := (LedgerStep.earn h).trans (.saveOrder _ o fun _ => rfl)

theorem PaymentService.earnOnConfirm_ledgerStep {order : Order} {user : UserId} {n : Int}
    (h : earnOnConfirm db now k o order user = .ok (n, db')) : LedgerStep now db db' := by
  unfold earnOnConfirm at h
  split at h
  · dsimp only at h
    split at h
    · split at h
      · cases h
      · rename_i hadd
        cases h
        exact (LedgerStep.earnNoted hadd).log _ _ _
    · cases h
      exact .refl db
  · split at h
    · cases h
      exact .write rfl rfl rfl
    · cases h
      exact .refl db

theorem TossWebhookService.earnOnDone_ledgerStep {order : Order}
    (h : earnOnDone db now o order = .ok db') : LedgerStep now db db' := by
  unfold earnOnDone at h
  split at h
  · cases h
    exact .refl db
  · dsimp only at h
    split at h
    · split at h
      · cases h
      · rename_i hadd
        cases h
        exact .earnNoted hadd
    · cases h
      exact .refl db

theorem PaymentService.deductEarned_ledgerStep {order : Order} {user : UserId}
    (hu : ∀ owner, OwnedBy owner db → owner o = user)
    (h : deductEarned db now k o user order = .ok db') : LedgerStep now db db' := by
  unfold deductEarned at h
  split at h
  · cases h
    exact .refl db
  · split at h
    · cases h
    · dsimp only at h
      split at h
      · cases h
      · cases h
        exact (LedgerStep.use order.earnedPoints none (Or.inr rfl) hu).log _ _ _

theorem TossWebhookService.reclaimEarnedPoints_ledgerStep (db : Db) (now : Time) (o : OrderId)
    (order : Order) (k : Nat) (reason : String)
    (hu : ∀ owner, OwnedBy owner db → owner o = order.user) :
    LedgerStep now db (reclaimEarnedPoints db now o order k reason).2 := by
  have huse : LedgerStep now db { db with
      ledger := (PointService.usePointsFifo db.ledger now order.user order.earnedPoints
        .cancelDeduct (some o)).2 } := .use order.earnedPoints none (Or.inr rfl) hu
  unfold reclaimEarnedPoints
  dsimp only
  split
  · exact huse
  · exact huse.log _ _ _

/-- An order is settled: the sale, its status, and the carts put away. -/
theorem LedgerStep.settle (db : Db) (now : Time) (o : OrderId) (items : List OrderItem)
    (method : String) (user : UserId) : LedgerStep now db
      (((db.updateItems addSold items).saveOrder o (Order.withPaid method now)).deactivateCarts
        user) := by
  have hsold : LedgerStep now db (db.updateItems addSold items) := .write rfl rfl rfl
  have hpaid := hsold.trans (LedgerStep.saveOrder _ o (f := Order.withPaid method now) fun _ => rfl)
  exact hpaid.trans (.write rfl rfl rfl)

theorem PaymentService.confirmPaymentSync_ledgerStep {user : UserId}
    {toss : Except TossPaymentError TossPayment} {result : ConfirmResult}
    (h : confirmPaymentSync db now k user toss = .ok (result, db')) : LedgerStep now db db' := by
  unfold confirmPaymentSync at h
  obtain ⟨payment, _, h⟩ := bind_eq_ok.mp h
  split at h
  · cases h
  · split at h
    · cases h
    · split at h
      · cases h
      · cases toss with
        | error e => cases h
        | ok data =>
          dsimp only at h
          split at h
          · obtain ⟨issued, hissued, h⟩ := bind_eq_ok.mp h
            obtain ⟨row, saved, _, hsaved, rfl⟩ := recordVirtualAccountIssued_ok hissued
            cases h
            exact (LedgerStep.savePayment hsaved).log _ _ _
          · obtain ⟨order, _, h⟩ := bind_eq_ok.mp h
            obtain ⟨row, _, h⟩ := bind_eq_ok.mp h
            obtain ⟨saved, hsaved, h⟩ := bind_eq_ok.mp h
            obtain ⟨⟨n, earned⟩, hearned, h⟩ := bind_eq_ok.mp h
            cases h
            have hsettled := (LedgerStep.savePayment hsaved).trans
              (.settle saved now payment.order order.items row.method user)
            have hdone := hsettled.trans (earnOnConfirm_ledgerStep hearned)
            exact hdone.log _ _ _

theorem TossWebhookService.handlePaymentDone_ledgerStep {event : TossPayment} {result : DoneResult}
    (h : handlePaymentDone db now event = .ok (result, db')) : LedgerStep now db db' := by
  unfold handlePaymentDone at h
  split at h
  · cases h
    exact .refl db
  · split at h
    · cases h
      exact .refl db
    · split at h
      · cases h
        exact .refl db
      · rename_i payment _
        split at h
        · cases h
          exact .refl db
        · split at h
          · cases h
            exact .write rfl rfl rfl
          · split at h
            · cases h
              exact .refl db
            · split at h
              · cases h
                exact .write rfl rfl rfl
              · obtain ⟨order, _, h⟩ := bind_eq_ok.mp h
                obtain ⟨row, _, h⟩ := bind_eq_ok.mp h
                obtain ⟨saved, hsaved, h⟩ := bind_eq_ok.mp h
                have hsave : LedgerStep now db saved := .savePayment hsaved
                split at h
                · cases h
                  exact (hsave.log _ _ _).trans (.mark _ _ .done)
                · split at h
                  · cases h
                    exact hsave.trans (.mark _ _ .done)
                  · obtain ⟨earned, hearned, h⟩ := bind_eq_ok.mp h
                    cases h
                    have hsettled := hsave.trans (.settle saved now payment.order order.items
                      (methodOrCard row.method) order.user)
                    have hdone := hsettled.trans (earnOnDone_ledgerStep hearned)
                    exact (hdone.log _ _ _).trans (.mark _ _ .done)

/-- The points of a canceled order: the earned ones are taken back, the used
ones are given back. -/
theorem TossWebhookService.settlePointsOnCanceled_ledgerStep (db : Db) (now : Time) (k : Nat)
    {o : OrderId} {order : Order} (hu : ∀ owner, OwnedBy owner db → owner o = order.user) :
    LedgerStep now db (settlePointsOnCanceled db now k o order) := by
  unfold settlePointsOnCanceled
  dsimp only
  generalize hreclaimed : (if (order.status = .paid ∨ order.status = .preparing) ∧
      0 < order.earnedPoints then (reclaimEarnedPoints db now o order k "주문 취소").2
    else db) = reclaimed
  have hreclaim : LedgerStep now db reclaimed := by
    rw [← hreclaimed]
    split
    · exact reclaimEarnedPoints_ledgerStep db now o order k "주문 취소" hu
    · exact .refl db
  split
  · exact hreclaim.trans (.refund order.usedPoints none rfl (hreclaim.keeps hu))
  · exact hreclaim

theorem TossWebhookService.restoreOnCanceled_ledgerStep (db : Db) (now : Time) (order : Order) :
    LedgerStep now db (restoreOnCanceled db order) := by
  unfold restoreOnCanceled
  split
  · exact .write rfl rfl rfl
  · split
    · exact .write rfl rfl rfl
    · exact .refl db

theorem TossWebhookService.handlePaymentCanceled_ledgerStep {event : TossPayment}
    {result : CanceledResult} (h : handlePaymentCanceled db now event = .ok (result, db')) :
    LedgerStep now db db' := by
  rcases handlePaymentCanceled_ok h with heq |
    ⟨id, k, p, order, row, _, _, _, _, horder, _, hcase⟩
  · exact .of_eq heq
  · have hu := OwnedBy.of_found horder
    cases hcase with
    | orderAlreadyCanceled _ hsaved =>
      exact (LedgerStep.savePayment hsaved).trans (.mark _ _ .canceled)
    | @canceled saved _ hsaved =>
      have hrestored := (LedgerStep.savePayment hsaved).trans
        (restoreOnCanceled_ledgerStep saved now order)
      have hsettled := hrestored.trans
        (settlePointsOnCanceled_ledgerStep _ now k (hrestored.keeps hu))
      have hsavedOrder := hsettled.trans (LedgerStep.saveOrder _ p.order
        (f := Order.withStatus .canceled now) fun _ => rfl)
      exact (hsavedOrder.log _ _ _).trans (.mark _ _ .canceled)

theorem TossWebhookService.revertDeposit_ledgerStep (db : Db) (now : Time) (k : Nat)
    {o : OrderId} {order : Order} (hu : ∀ owner, OwnedBy owner db → owner o = order.user) :
    LedgerStep now db (revertDeposit db now k o order) := by
  have hunsold : LedgerStep now db (db.updateItems takeSold order.items) := .write rfl rfl rfl
  unfold revertDeposit
  dsimp only
  generalize hreclaimed : (if 0 < order.earnedPoints then
      reclaimEarnedPoints (db.updateItems takeSold order.items) now o order k "가상계좌 입금 취소"
    else (false, db.updateItems takeSold order.items)) = reclaimed
  have hreclaim : LedgerStep now db reclaimed.2 := by
    rw [← hreclaimed]
    split
    · exact hunsold.trans (reclaimEarnedPoints_ledgerStep _ now o order k _ (hunsold.keeps hu))
    · exact hunsold
  have horder := hreclaim.trans (LedgerStep.saveOrder reclaimed.2 o (f := fun x =>
    { x with
      status := .confirmed
      earnedPoints := if reclaimed.1 then 0 else order.earnedPoints
      updatedAt := now }) fun _ => rfl)
  exact horder.trans (.write rfl rfl rfl)

theorem TossWebhookService.handleWaitingForDeposit_ledgerStep {event : TossPayment}
    {result : WaitingResult} (h : handleWaitingForDeposit db now event = .ok (result, db')) :
    LedgerStep now db db' := by
  rcases handleWaitingForDeposit_ok h with heq |
    ⟨id, k, p, order, row, _, _, _, _, horder, _, hcase⟩
  · exact .of_eq heq
  · cases hcase with
    | depositReverted _ hsaved =>
      exact (revertDeposit_ledgerStep db now k (OwnedBy.of_found horder)).trans
        (.savePayment hsaved)
    | issued _ hsaved =>
      have hlogged : LedgerStep now db (db.log k .webhook "가상계좌 발급 웹훅 처리, 입금 대기") :=
        .write rfl rfl rfl
      exact hlogged.trans (.savePayment hsaved)

theorem PaymentTasks.finalizePaymentConfirm_ledgerStep {response : TossPayment} {user : UserId}
    {published : Bool} {out : Outcome FinalizeResult}
    (h : finalizePaymentConfirm db now response k user published = .ok out) :
    LedgerStep now db out.db := by
  obtain ⟨p, _, hcase⟩ := finalizePaymentConfirm_ok h
  cases hcase with
  | alreadyProcessed _ => exact .refl db
  | waiting _ _ _ hsaved => exact (LedgerStep.savePayment hsaved).log _ _ _
  | orderCanceled _ _ _ _ _ hsaved => exact (LedgerStep.savePayment hsaved).log _ _ _
  | @success order row saved _ _ _ _ _ hsaved =>
    have hsettled := (LedgerStep.savePayment hsaved).trans
      (.settle saved now p.order order.items row.method user)
    exact hsettled.log _ _ _

theorem PaymentTasks.logOnPayment_ledgerStep (db : Db) (o : OrderId) (logType : LogType)
    (message : String) : LedgerStep now db (logOnPayment db o logType message) := by
  unfold logOnPayment
  split
  · exact .refl db
  · exact (LedgerStep.refl db).log _ _ _

theorem PaymentTasks.callTossConfirmApi_ledgerStep (db : Db) (o : OrderId) (amount : Int)
    (id : TossOrderId) (k : Nat) (user : UserId) (answer : TossAnswer)
    (retriesLeft published : Bool) : LedgerStep now db
      (callTossConfirmApi db o amount id k user answer retriesLeft published).db := by
  have hlog : ∀ (logType : LogType) (text : Option String),
      LedgerStep now db (text.elim db (logOnPayment db o logType)) := by
    intro logType text
    cases text with
    | none => exact .refl db
    | some text => exact logOnPayment_ledgerStep db o logType text
  unfold callTossConfirmApi
  cases confirmDecision id amount retriesLeft answer with
  | finalize response reconciled =>
    have hlogged := hlog .approve reconciled
    cases reconciled with
    | none => exact hlogged
    | some message => exact hlogged
  | retry text =>
    have hlogged := hlog .error text
    cases text with
    | none => exact hlogged
    | some message => exact hlogged
  | unresolved text =>
    have hlogged := hlog .error text
    cases text with
    | none => exact hlogged
    | some message => exact hlogged
  | abort log reason =>
    exact (logOnPayment_ledgerStep db o .error log).trans (.write rfl rfl rfl)

theorem PaymentTasks.reconcileLoop_ledgerStep
    (lookup : String → Except TossPaymentError TossPayment) (rows : List (Nat × Payment))
    (db : Db) : LedgerStep now db (reconcileLoop lookup db rows).1 := by
  have hflag : ∀ (x : Db) (k : Nat) (reason : String),
      LedgerStep now x (flagStalledPaymentUnresolved x k reason) := by
    intro x k reason
    unfold flagStalledPaymentUnresolved
    split
    · exact .refl x
    · exact (LedgerStep.refl x).log _ _ _
  induction rows generalizing db with
  | nil => exact .refl db
  | cons row rest ih =>
    obtain ⟨k, payment⟩ := row
    rw [reconcileLoop]
    split
    · exact (hflag db k _).trans (ih _)
    · split
      · split
        · exact (hflag db k _).trans (ih _)
        · exact ih db
      · rename_i data _
        split
        · have hlogged : LedgerStep now db (db.log k .approve
              ("대사: 멈춘 결제의 토스 상태 " ++ statusText data.status
                ++ " 확인 → 결제 마감 재발행")) := (LedgerStep.refl db).log _ _ _
          dsimp only
          split
          · exact hlogged.trans (ih _)
          · exact hlogged.trans (ih _)
        · exact (hflag db k _).trans (ih _)

theorem PointTasks.addPointsAfterPayment_ledgerStep {user : UserId} {result : EarnResult}
    (h : addPointsAfterPayment db now user o = .ok (result, db')) : LedgerStep now db db' := by
  unfold addPointsAfterPayment at h
  obtain ⟨order, _, h⟩ := bind_eq_ok.mp h
  split at h
  · cases h
    exact .refl db
  · split at h
    · cases h
      exact .refl db
    · dsimp only at h
      split at h
      · cases h
        exact .refl db
      · split at h
        · cases h
        · rename_i hadd
          cases h
          exact (LedgerStep.earnNoted hadd).trans (logOnPayment_ledgerStep _ o _ _)

theorem PaymentService.createFromRequest_ledgerStep {request : PaymentRequest} {method : String}
    {key : Option String} {n : Nat}
    (h : createFromRequest db now request method key = .ok (n, db')) : LedgerStep now db db' := by
  unfold createFromRequest at h
  split at h
  · cases h
    exact .refl db
  · unfold createPayment at h
    split at h
    · cases h
      exact .refl db
    · obtain ⟨_, _, h⟩ := bind_eq_ok.mp h
      obtain ⟨⟨j, payments⟩, _, h⟩ := bind_eq_ok.mp h
      cases h
      obtain ⟨keys, hkeys⟩ := setIdempotencyKey_eq { deletePayments db request.orderId with
        payments := payments } now (Payment.truthy key) request.orderId request.order.user n
      rw [hkeys]
      exact .write rfl rfl rfl

theorem PaymentService.confirmPaymentAsync_ledgerStep {paymentKey : String} {order : OrderId}
    {amount : Int} {user : UserId} {published : Bool} {out : Outcome Unit}
    (h : confirmPaymentAsync db now k paymentKey order amount user published = .ok out) :
    LedgerStep now db out.db := by
  obtain ⟨p, saved, _, _, _, hsaved, hdb, _⟩ := confirmPaymentAsync_ok h
  rw [hdb]
  exact .savePayment hsaved

theorem OrderService.placeOrder_ledgerStep {user : UserId} {cart : CartId} {draft : OrderDraft}
    {out : OrderId × Db} (h : placeOrder db now user cart draft = .ok out) :
    LedgerStep now db out.2 := by
  unfold placeOrder at h
  split at h
  · cases h
  · split at h
    · cases h
    · split at h
      · cases h
      · cases h
        refine ⟨fun owner ho => ⟨fun o x hx => ?_, ho.returns⟩, fun hret id r hr => ?_,
          fun _ _ => .refl _⟩
        · exact ho.orders o x (Table.get?_insert_of_some hx _)
        · obtain ⟨x, hx, huser⟩ := hret id r hr
          exact ⟨x, Table.get?_insert_of_some hx _, huser⟩

theorem PaymentService.completePointsOnlyPayment_ledgerStep {seen : Order} {user : UserId} {n : Int}
    (h : completePointsOnlyPayment db now o seen user = .ok (n, db')) : LedgerStep now db db' := by
  unfold completePointsOnlyPayment at h
  split at h
  · cases h
  · split at h
    · cases h
    · dsimp only at h
      split at h
      · cases h
      · obtain ⟨order, _, h⟩ := bind_eq_ok.mp h
        obtain ⟨⟨k, payment, found⟩, hfound, h⟩ := bind_eq_ok.mp h
        dsimp only at h
        split at h
        · cases h
        · obtain ⟨saved, hsaved, h⟩ := bind_eq_ok.mp h
          have hfind : LedgerStep now db found := by
            unfold getOrCreatePointsPayment at hfound
            split at hfound
            · cases hfound
              exact .refl db
            · obtain ⟨_, _, hfound⟩ := map_eq_ok.mp hfound
              cases hfound
              exact .write rfl rfl rfl
          cases h
          have hsettled := (hfind.trans (.savePayment hsaved)).trans
            (.settle saved now o order.items "points" user)
          exact hsettled.log _ _ _

theorem OrderTasks.restoreCart_ledgerStep {cart : CartId} (h : restoreCart db cart = .ok db') :
    LedgerStep now db db' := by
  obtain ⟨carts, rfl⟩ := restoreCart_ok h
  exact .write rfl rfl rfl

theorem OrderTasks.failOrder_ledgerStep {cart : CartId} {reason : String}
    (h : failOrder db now o cart reason = .ok db') : LedgerStep now db db' := by
  unfold failOrder at h
  obtain ⟨order, _, h⟩ := bind_eq_ok.mp h
  split at h
  · cases h
  · have hback : LedgerStep now db (db.updateItems addStock order.items) := .write rfl rfl rfl
    have hfailed := hback.trans (LedgerStep.saveOrder _ o
      (f := Order.withFailure .failed reason now) fun _ => rfl)
    exact hfailed.trans (restoreCart_ledgerStep h)

theorem OrderTasks.processOrderHeavyTasks_ledgerStep {cart : CartId} {usePoints : Int}
    {out : Outcome ProcessResult} (h : processOrderHeavyTasks db now o cart usePoints = .ok out) :
    LedgerStep now db out.db := by
  unfold processOrderHeavyTasks at h
  obtain ⟨order, hget, h⟩ := bind_eq_ok.mp h
  rw [Db.getOrder_eq_ok] at hget
  split at h
  · cases h
    exact .refl db
  · split at h
    · cases h
    · obtain ⟨⟨products, items, shortage⟩, _, h⟩ := bind_eq_ok.mp h
      dsimp only at h
      have hproducts : LedgerStep now db { db with products := products } := .write rfl rfl rfl
      have htaken := hproducts.trans (LedgerStep.saveOrder _ o
        (f := fun x => { x with items := x.items ++ items }) fun _ => rfl)
      split at h
      · obtain ⟨failed, hf, h⟩ := bind_eq_ok.mp h
        cases h
        exact htaken.trans (failOrder_ledgerStep hf)
      · by_cases hpos : 0 < usePoints
        · simp only [if_pos hpos] at h
          have hused := htaken.trans (.use usePoints none (Or.inl rfl)
            (htaken.keeps (OwnedBy.of_found hget)))
          split at h
          · obtain ⟨failed, hf, h⟩ := bind_eq_ok.mp h
            cases h
            exact hused.trans (failOrder_ledgerStep hf)
          · cases h
            have hconfirmed := hused.trans (LedgerStep.saveOrder _ o
              (f := Order.withStatus .confirmed now) fun _ => rfl)
            exact hconfirmed.trans (.write rfl rfl rfl)
        · simp only [if_neg hpos] at h
          split at h
          · obtain ⟨failed, hf, h⟩ := bind_eq_ok.mp h
            cases h
            exact htaken.trans (failOrder_ledgerStep hf)
          · cases h
            have hconfirmed := htaken.trans (LedgerStep.saveOrder _ o
              (f := Order.withStatus .confirmed now) fun _ => rfl)
            exact hconfirmed.trans (.write rfl rfl rfl)

theorem OrderTasks.abandonStalledOrder_ledgerStep {abandoned : Bool}
    (h : abandonStalledOrder db now o = .ok (abandoned, db')) : LedgerStep now db db' := by
  unfold abandonStalledOrder at h
  obtain ⟨order, _, h⟩ := bind_eq_ok.mp h
  split at h
  · cases h
    exact .refl db
  · have hfailed : LedgerStep now db (db.saveOrder o
        (Order.withFailure .failed orderStalledFailureReason now)) := .saveOrder db o fun _ => rfl
    dsimp only at h
    split at h
    · cases h
      exact hfailed
    · obtain ⟨restored, hrestored, h⟩ := map_eq_ok.mp h
      cases h
      exact hfailed.trans (restoreCart_ledgerStep hrestored)

theorem OrderTasks.republishLoop_ledgerStep (giveUp : Time) (published : OrderId → Bool) (db : Db)
    (rows : List (OrderId × Order)) :
    LedgerStep now db (republishLoop now giveUp published db rows).1 := by
  induction rows generalizing db with
  | nil => exact .refl db
  | cons row rest ih =>
    obtain ⟨i, seen⟩ := row
    rw [republishLoop]
    split
    · split
      · rename_i hout
        exact (abandonStalledOrder_ledgerStep hout).trans (ih _)
      · exact ih db
    · split
      · exact ih db
      · dsimp only
        split
        · exact ih db
        · exact ih db

theorem OrderService.cancelOrder_ledgerStep {closed : PaymentStatus}
    (h : cancelOrder db now o closed = .ok db') : LedgerStep now db db' := by
  unfold cancelOrder at h
  obtain ⟨order, hget, h⟩ := bind_eq_ok.mp h
  rw [Db.getOrder_eq_ok] at hget
  split at h
  · split at h
    · cases h
    · cases h
  · dsimp only at h
    split at h
    · cases h
    · have hclosed : LedgerStep now db (closePayments db o closed) := .write rfl rfl rfl
      have hrestocked : LedgerStep now db
          ((closePayments db o closed).updateItems addStock order.items) :=
        hclosed.trans (.write rfl rfl rfl)
      have hcanceled := hrestocked.trans (LedgerStep.saveOrder _ o
        (f := Order.withStatus .canceled now) fun _ => rfl)
      cases h
      split
      · exact hcanceled.trans (.refund order.usedPoints none rfl
          (hcanceled.keeps (OwnedBy.of_found hget)))
      · exact hcanceled

theorem OrderTasks.expireOrder_ledgerStep {expired : Bool}
    (h : expireOrder db now o = .ok (expired, db')) : LedgerStep now db db' := by
  unfold expireOrder at h
  obtain ⟨order, _, h⟩ := bind_eq_ok.mp h
  split at h
  · cases h
    exact .refl db
  · cases hcancel : OrderService.cancelOrder db now o .expired with
    | error e =>
      rw [hcancel] at h
      cases e <;> cases h
      exact .refl db
    | ok canceled =>
      rw [hcancel] at h
      have hmarked := (OrderService.cancelOrder_ledgerStep hcancel).trans
        (LedgerStep.saveOrder canceled o
          (f := fun x => { x with failureReason := orderExpiredFailureReason }) fun _ => rfl)
      dsimp only at h
      split at h
      · cases h
        exact hmarked
      · cases h
        exact hmarked.log _ _ _

theorem PaymentTasks.rollbackPaymentFailure_ledgerStep (db : Db) (now : Time) (o : OrderId)
    (reason : String) : LedgerStep now db (rollbackPaymentFailure db now o reason).2 := by
  unfold rollbackPaymentFailure
  split
  · exact .refl db
  · rename_i order hget
    split
    · exact .refl db
    · split
      · exact .refl db
      · split
        · exact .refl db
        · have habort : ∀ x : Db, LedgerStep now x (abortPaymentOf x o reason) := by
            intro x
            unfold abortPaymentOf
            split
            · exact .refl x
            · exact .write rfl rfl rfl
          have hback : LedgerStep now db (db.updateItems addStock order.items) := .write rfl rfl rfl
          have hrefund : LedgerStep now db (if 0 < order.usedPoints then
              (db.updateItems addStock order.items).refundUsedPoints now order.user
                order.usedPoints o .paymentFailRefund
            else db.updateItems addStock order.items) := by
            split
            · exact hback.trans (.refund order.usedPoints none rfl
                (hback.keeps (OwnedBy.of_found hget)))
            · exact hback
          have hfailed := hrefund.trans (LedgerStep.saveOrder _ o
            (f := Order.withFailure .paymentFailed (if reason = "" then "결제 승인 실패" else reason)
              now) fun _ => rfl)
          exact hfailed.trans (habort _)

theorem PaymentService.cancelPayment_ledgerStep {user : UserId}
    {toss : Except TossPaymentError TossPayment} {result : CancelResult}
    (h : cancelPayment db now k user toss = .ok (result, db')) : LedgerStep now db db' := by
  obtain ⟨p, order, data, row, _, horder, _, _, _, huser, hcase⟩ := cancelPayment_ok h
  have hu : ∀ owner, OwnedBy owner db → owner p.order = user := by
    rw [← huser]
    exact OwnedBy.of_found horder
  cases hcase with
  | refundOnly _ hsaved => exact (LedgerStep.savePayment hsaved).log _ _ _
  | @canceled saved refunded deducted _ hsaved hrefunded hdeducted =>
    have hrestocked : LedgerStep now db (saved.updateItems addStockTakeSold order.items) :=
      (LedgerStep.savePayment hsaved).trans (.write rfl rfl rfl)
    have hcanceled := hrestocked.trans (LedgerStep.saveOrder _ p.order
      (f := Order.withStatus .canceled now) fun _ => rfl)
    have hrefund : LedgerStep now db refunded := by
      rw [hrefunded]
      dsimp only
      split
      · exact (hcanceled.trans (.refund order.usedPoints none rfl (hcanceled.keeps hu))).log _ _ _
      · exact hcanceled
    exact (hrefund.trans (deductEarned_ledgerStep (hrefund.keeps hu) hdeducted)).log _ _ _

theorem PaymentService.cancelVirtualAccount_ledgerStep {user : UserId}
    {toss : Except TossPaymentError TossPayment}
    (h : cancelVirtualAccountBeforeDeposit db now o user toss = .ok db') :
    LedgerStep now db db' := by
  unfold cancelVirtualAccountBeforeDeposit at h
  split at h
  · cases h
  · obtain ⟨order, _, h⟩ := bind_eq_ok.mp h
    split at h
    · cases h
    · split at h
      · cases h
      · cases toss with
        | error e => cases h
        | ok data =>
          obtain ⟨row, _, h⟩ := bind_eq_ok.mp h
          obtain ⟨saved, hsaved, h⟩ := bind_eq_ok.mp h
          exact ((LedgerStep.savePayment hsaved).log _ _ _).trans
            (OrderService.cancelOrder_ledgerStep h)

theorem PaymentService.cancelByCustomer_ledgerStep {seen : Order} {user : UserId}
    {toss : Except TossPaymentError TossPayment} {out : CustomerCancel × Db}
    (h : cancelByCustomer db now o seen user toss = .ok out) : LedgerStep now db out.2 := by
  rcases cancelByCustomer_ok h with ⟨k, p, result, _, hcancel⟩ | hcancel | hcancel
  · exact cancelPayment_ledgerStep hcancel
  · exact cancelVirtualAccount_ledgerStep hcancel
  · exact OrderService.cancelOrder_ledgerStep hcancel

/-- The share of a return: its points go back, its earned points are taken. -/
theorem ReturnService.completeRefund_ledgerStep {id : Nat}
    {toss : Except TossPaymentError TossPayment} {s : RefundSplit}
    (h : completeRefund db now id toss = .ok (s, db')) : LedgerStep now db db' := by
  unfold completeRefund at h
  split at h
  · cases h
  · rename_i r hget
    have hu : ∀ owner, OwnedBy owner db → owner r.order = r.user :=
      fun owner ho => ho.returns id r hget
    split at h
    · cases h
    · split at h
      · cases h
      · split at h
        · cases h
        · obtain ⟨order, _, h⟩ := bind_eq_ok.mp h
          obtain ⟨_, _, h⟩ := bind_eq_ok.mp h
          obtain ⟨_, _, h⟩ := bind_eq_ok.mp h
          obtain ⟨paid, hpaid, h⟩ := bind_eq_ok.mp h
          obtain ⟨_, hpo, hpr, hpl, _⟩ := refundCash_ok hpaid
          dsimp only at h
          have hcash : LedgerStep now db paid := .write hpl hpo hpr
          have hrestocked : LedgerStep now db
              { paid with products := restockReturned paid.products r.items } :=
            hcash.trans (.write rfl rfl rfl)
          generalize hrepaid : (if 0 < (refundSplit db order r).pointsBack then
              ({ paid with products := restockReturned paid.products r.items }).refundUsedPoints
                now r.user (refundSplit db order r).pointsBack r.order .cancelRefund (some id)
            else { paid with products := restockReturned paid.products r.items }) = repaid at h
          have hrepay : LedgerStep now db repaid := by
            rw [← hrepaid]
            split
            · exact hrestocked.trans (.refund _ (some id) rfl (hrestocked.keeps hu))
            · exact hrestocked
          obtain ⟨reclaimed, hreclaimed, h⟩ := bind_eq_ok.mp h
          have hreclaim : LedgerStep now db reclaimed := by
            unfold reclaimShare at hreclaimed
            split at hreclaimed
            · cases hreclaimed
              exact hrepay
            · dsimp only at hreclaimed
              split at hreclaimed
              · cases hreclaimed
              · cases hreclaimed
                exact hrepay.trans (.use _ (some id) (Or.inr rfl) (hrepay.keeps hu))
          cases h
          have hdone := hreclaim.trans (LedgerStep.saveReturn reclaimed id
            (f := markCompleted now) fun _ => ⟨rfl, rfl⟩)
          unfold finishReturn
          dsimp only
          split
          · exact hdone.trans (.saveOrder _ r.order fun _ => rfl)
          · exact hdone

theorem PaymentTasks.alertFinalizeExhausted_ledgerStep (db : Db) (k : Nat) :
    LedgerStep now db (alertFinalizeExhausted db k) := by
  unfold alertFinalizeExhausted
  split
  · exact .refl db
  · exact (LedgerStep.refl db).log _ _ _

theorem TossWebhookService.failPayment_ledgerStep {payment : Payment} {event : TossPayment}
    {published : Bool} {out : Outcome Unit}
    (h : failPayment db now k payment event published = .ok out) : LedgerStep now db out.db := by
  unfold failPayment at h
  obtain ⟨saved, hsaved, h⟩ := bind_eq_ok.mp h
  obtain ⟨order, _, h⟩ := bind_eq_ok.mp h
  cases h
  exact (LedgerStep.savePayment hsaved).log _ _ _

theorem PaymentViews.postFailure_ledgerStep {payment : Payment} {code message : String}
    (h : PaymentViews.postFailure db now k payment code message = .ok db') :
    LedgerStep now db db' := by
  unfold PaymentViews.postFailure at h
  obtain ⟨saved, hsaved, h⟩ := bind_eq_ok.mp h
  cases h
  exact (LedgerStep.savePayment hsaved).log _ _ _

theorem PaymentViews.paymentFail_ledgerStep {payment : Payment} {message : Option String}
    (h : PaymentViews.paymentFail db now k payment message = .ok db') : LedgerStep now db db' := by
  cases message with
  | none => cases h
  | some message => exact .savePayment h

end

/-! ## Runs of the shop -/

/-- The call of an event is a step of the ledger. -/
theorem Commits.ledgerStep {w : World} {now : Time} {e : Event} {db : Db}
    (h : Commits w now e db) : LedgerStep now w.db db := by
  cases h with
  | placeOrder _ hcall => exact OrderService.placeOrder_ledgerStep hcall
  | republishStalled _ => exact OrderTasks.republishLoop_ledgerStep _ _ _ _
  | cancelOrder hcall => exact OrderService.cancelOrder_ledgerStep hcall
  | cancelByCustomer _ hcall => exact PaymentService.cancelByCustomer_ledgerStep hcall
  | expireOrder hcall => exact OrderTasks.expireOrder_ledgerStep hcall
  | createRequest _ hcall => exact PaymentService.createFromRequest_ledgerStep hcall
  | confirmAsync _ hcall => exact PaymentService.confirmPaymentAsync_ledgerStep hcall
  | confirmSync hcall => exact PaymentService.confirmPaymentSync_ledgerStep hcall
  | processOrder _ hcall => exact OrderTasks.processOrderHeavyTasks_ledgerStep hcall
  | confirm _ => exact PaymentTasks.callTossConfirmApi_ledgerStep _ _ _ _ _ _ _ _ _
  | finalize _ hcall => exact PaymentTasks.finalizePaymentConfirm_ledgerStep hcall
  | alertFinalize _ => exact PaymentTasks.alertFinalizeExhausted_ledgerStep _ _
  | rollback _ => exact PaymentTasks.rollbackPaymentFailure_ledgerStep _ _ _ _
  | addPoints _ hcall => exact PointTasks.addPointsAfterPayment_ledgerStep hcall
  | reconcile => exact PaymentTasks.reconcileLoop_ledgerStep _ _ _
  | failView _ hcall => exact PaymentViews.postFailure_ledgerStep hcall
  | failCallback _ hcall => exact PaymentViews.paymentFail_ledgerStep hcall
  | failWebhook _ hcall => exact TossWebhookService.failPayment_ledgerStep hcall
  | webhookDone hcall => exact TossWebhookService.handlePaymentDone_ledgerStep hcall
  | webhookCanceled hcall => exact TossWebhookService.handlePaymentCanceled_ledgerStep hcall
  | webhookWaiting hcall => exact TossWebhookService.handleWaitingForDeposit_ledgerStep hcall
  | cancelPayment hcall => exact PaymentService.cancelPayment_ledgerStep hcall
  | cancelVirtualAccount hcall => exact PaymentService.cancelVirtualAccount_ledgerStep hcall
  | completePointsOnly _ hcall => exact PaymentService.completePointsOnlyPayment_ledgerStep hcall
  | completeRefund _ hcall => exact ReturnService.completeRefund_ledgerStep hcall

theorem World.run_ledgerStep (w : World) (now : Time) (e : Event) :
    LedgerStep now w.db (w.run now e).db :=
  World.run_of (P := LedgerStep now w.db) (.refl w.db) fun _ h => h.ledgerStep

/-- The shop with the reading of its clock, which does not go back. -/
def World.clockedStep (s : Time × World) (e : Time × Event) : Option (Time × World) :=
  if s.1 ≤ e.1 then some (e.1, s.2.run e.1 e.2) else none

/-- The customer of an order. -/
def ownerIn (db : Db) (o : OrderId) : UserId := ((db.orders.get? o).map Order.user).getD 0

theorem ReturnsOwned.ownedBy {db : Db} (h : ReturnsOwned db) : OwnedBy (ownerIn db) db := by
  refine ⟨fun o x hx => ?_, fun id r hr => ?_⟩
  · simp [ownerIn, hx]
  · obtain ⟨x, hx, huser⟩ := h id r hr
    simp [ownerIn, hx, huser]

section

variable {t₀ t : Time} {w₀ w : World} {es : List (Time × Event)}

theorem ReturnsOwned.run (h₀ : ReturnsOwned w₀.db)
    (h : Run World.clockedStep (fun _ _ => True) (t₀, w₀) es (t, w)) : ReturnsOwned w.db := by
  refine Run.invariant (fun s => ReturnsOwned s.2.db) h₀ (fun s e s' hs _ hstep => ?_) h
  unfold World.clockedStep at hstep
  split at hstep
  · cases hstep
    exact (World.run_ledgerStep s.2 e.1 e.2).returned hs
  · cases hstep

/-- The owners are those at the end of the run, so the induction is for every
owner that fits. -/
theorem ledger_of_run {s s' : Time × World}
    (h : Run World.clockedStep (fun _ _ => True) s es s') {owner : OrderId → UserId}
    (howned : OwnedBy owner s'.2.db) :
    OwnedBy owner s.2.db ∧ ∃ ops t', t' ≤ s'.1 ∧
      Run (pointStep owner) (fun _ _ => True) (s.1, s.2.db.ledger) ops (t', s'.2.db.ledger) := by
  induction h with
  | nil => exact ⟨howned, [], s.1, le_refl _, Run.nil⟩
  | @snoc es u e u' hrun _ hstep ih =>
    unfold World.clockedStep at hstep
    split at hstep
    · rename_i hle
      cases hstep
      have hledger := World.run_ledgerStep u.2 e.1 e.2
      obtain ⟨hstart, ops, t', hle', hops⟩ := ih (hledger.owned owner howned)
      obtain ⟨more, t'', _, hle'', hmore⟩ := (hledger.posts owner howned).run (hle'.trans hle)
      exact ⟨hstart, ops ++ more, t'', hle'', hops.append hmore⟩
    · cases hstep

/-- The invariant of the ledger machine holds in the shop. -/
theorem sound_of_run (hreturns : ReturnsOwned w₀.db) (hempty : w₀.db.ledger = Ledger.empty)
    (h : Run World.clockedStep (fun _ _ => True) (t₀, w₀) es (t, w)) :
    Sound (ownerIn w.db) t w.db.ledger := by
  obtain ⟨_, ops, t', hle, hops⟩ := ledger_of_run h (hreturns.run h).ownedBy
  have hops' : Run (pointStep (ownerIn w.db)) (fun _ _ => True) (t₀, Ledger.empty) ops
      (t', w.db.ledger) := by
    rw [← hempty]
    exact hops
  exact (pointRun_sound hops').mono hle

/-- A run of the shop is a run of the ledger machine on its ledger, with every
point on the account of the order's customer.  From an empty ledger, the
balance of every user is the sum of the history and the balance of its newest
row, never negative, and covers what the earn rows have left. -/
theorem shop_run_refines_ledger (hreturns : ReturnsOwned w₀.db)
    (h : Run World.clockedStep (fun _ _ => True) (t₀, w₀) es (t, w)) :
    (∃ ops t', t' ≤ t ∧ Run (pointStep (ownerIn w.db)) (fun _ _ => True)
      (t₀, w₀.db.ledger) ops (t', w.db.ledger)) ∧
    (w₀.db.ledger = Ledger.empty → Sound (ownerIn w.db) t w.db.ledger ∧
      ∀ u, w.db.ledger.points u = w.db.ledger.pointsSum u ∧
        w.db.ledger.getUserBalance u = w.db.ledger.points u ∧
        0 ≤ w.db.ledger.remainingSum u ∧ w.db.ledger.remainingSum u ≤ w.db.ledger.points u) := by
  have howned : OwnedBy (ownerIn w.db) w.db := (hreturns.run h).ownedBy
  obtain ⟨_, ops, t', hle, hops⟩ := ledger_of_run h howned
  refine ⟨⟨ops, t', hle, hops⟩, fun hempty => ?_⟩
  have hsound := sound_of_run hreturns hempty h
  refine ⟨hsound, fun u => ⟨hsound.booked.points_eq u, hsound.booked.getUserBalance_eq u, ?_, ?_⟩⟩
  · exact remainingSum_nonneg w.db.ledger u
  · exact hsound.solvent u

end

/-- The customer pays and earns 100 points, and cancels later. -/
def World.paidAndCanceled : List (Time × Event) :=
  [(5, .confirmSync 1 7 (.ok World.approval)),
    (9, .cancelPayment 1 7 (.ok { status := some .canceled }))]

theorem shop_run_refines_ledger_sample :
    ∃ t w, exec World.clockedStep (0, World.shop .confirmed .inProgress) World.paidAndCanceled
        = some (t, w) ∧
      (∃ ops t', t' ≤ t ∧ Run (pointStep (ownerIn w.db)) (fun _ _ => True)
        (0, Ledger.empty) ops (t', w.db.ledger)) ∧
      w.db.ledger.getUserBalance 7 = w.db.ledger.points 7 := by
  obtain ⟨⟨t, w⟩, hw⟩ : ∃ s, exec World.clockedStep (0, World.shop .confirmed .inProgress)
      World.paidAndCanceled = some s := Option.isSome_iff_exists.mp (by decide +kernel)
  have hreturns : ReturnsOwned (World.shop .confirmed .inProgress).db := by
    intro id r hr
    cases hr
  have h := shop_run_refines_ledger hreturns (Run.of_exec (fun _ _ => trivial) hw)
  exact ⟨t, w, hw, h.1, ((h.2 rfl).2 7).2.1⟩

/-- Both entries are in the history of the account. -/
example : (exec World.clockedStep (0, World.shop .confirmed .inProgress)
    World.paidAndCanceled).any (fun s =>
      decide ((s.2.db.ledger.rowsOf 7).map (fun r => r.2.points) = [100, -100])) = true := by
  decide +kernel

end Shopping
