import Shopping.Lib.Run
import Shopping.Payments.WebhookEntry
import Shopping.Payments.WebhookOutcomes
import Shopping.Points.Reclaims
import Shopping.System.World

/-!
# What a posted webhook can change

The webhook address is open to everybody, and any number of requests are
worked on at a time: a request asks the provider, then waits for the lock of
its payment, and a report of a failure is handled in two steps.  With nothing
between its steps a request is `toss_webhook` (`exec_alone`).

Each handler works on one payment, its order, the customer of the order and
the products in it (`Within`).  In every run of the desk the rest of the shop
stays as it is: `webhook_posts_authentic` says so of all that the provider
itself did not report under the number of the body.
-/

namespace Shopping

open PaymentService TossWebhookService TossWebhookView

/-! ## Accounts of others -/

theorem consumeLoop_points (now : Time) (L : Ledger) (rows : List (Nat × PointHistory)) (n : Int) :
    (PointService.consumeLoop now L rows n).1.points = L.points := by
  induction rows generalizing L n with
  | nil => rfl
  | cons row rest ih =>
    unfold PointService.consumeLoop
    dsimp only
    split
    · rfl
    · split
      · rw [ih]
      · rw [ih, Ledger.saveRow_points]

theorem restoreLoop_points (now : Time) (o : OrderId) (left : Nat → Int) (L : Ledger)
    (rows : List (Nat × PointHistory)) (n : Int) :
    (PointService.restoreLoop now o left L rows n).1.points = L.points := by
  induction rows generalizing L n with
  | nil => rfl
  | cons row rest ih =>
    unfold PointService.restoreLoop
    dsimp only
    split
    · rfl
    · split
      · rw [ih]
      · rw [ih, Ledger.saveRow_points]

section

variable {L : Ledger} {now : Time} {user v : UserId} {amount : Int} {type : PointType}
  {order : Option OrderId} {returnId : Option Nat}

theorem addPoints_points_of_ne {done : Bool} {L' : Ledger} (hv : v ≠ user)
    (h : PointService.addPoints L now user amount type order returnId = .ok (done, L')) :
    L'.points v = L.points v := by
  unfold PointService.addPoints at h
  split at h
  · cases h
    rfl
  · dsimp only at h
    split at h
    · cases h
    · cases h
      rw [Ledger.createHistory_points, Ledger.setPoints_points_of_ne L hv]

theorem usePointsFifo_points_of_ne (hv : v ≠ user) :
    (PointService.usePointsFifo L now user amount type order returnId).2.points v = L.points v := by
  unfold PointService.usePointsFifo PointService.consumePointsFifo
  split
  · rfl
  · split
    · rfl
    · dsimp only
      split
      · rw [consumeLoop_points]
      · rw [Ledger.createHistory_points, Ledger.setPoints_points_of_ne _ hv, consumeLoop_points]

theorem refundUsedPoints_points_of_ne {o : OrderId} (hv : v ≠ user) :
    (PointService.refundUsedPoints L now user amount o type returnId).2.points v = L.points v := by
  unfold PointService.refundUsedPoints
  split
  · rfl
  · dsimp only
    split
    · rw [Ledger.createHistory_points, Ledger.setPoints_points_of_ne _ hv,
        Ledger.createHistory_points, Ledger.setPoints_points_of_ne _ hv, restoreLoop_points]
    · rw [Ledger.createHistory_points, Ledger.setPoints_points_of_ne _ hv, restoreLoop_points]

end

/-- A product that no item has keeps its row. -/
theorem updateProducts_of_forall_ne {products : Table Product} {f : Int → Product → Product}
    {items : List OrderItem} {j : ProductId} (h : ∀ it ∈ items, it.product ≠ some j) :
    (updateProducts products f items).get? j = products.get? j := by
  induction items generalizing products with
  | nil => rfl
  | cons it rest ih =>
    have hrest : ∀ it ∈ rest, it.product ≠ some j := fun it' hit =>
      h it' (List.mem_cons_of_mem it hit)
    rw [updateProducts]
    cases hit : it.product with
    | none => exact ih hrest
    | some k =>
      have hk : j ≠ k := by
        rintro rfl
        exact h it List.mem_cons_self hit
      dsimp only
      rw [ih hrest, Table.get?_modify, if_neg hk]

/-! ## The scope of a change -/

/-- One payment with what belongs to it. -/
structure PaymentScope where
  payment : Nat
  order : OrderId
  user : UserId
  items : List OrderItem

/-- A change of one payment and what belongs to it; the payments keep their
orders and numbers, and the order its customer and its items. -/
structure PaymentScope.Within (s : PaymentScope) (db db' : Db) : Prop where
  payments : ∀ j, j ≠ s.payment → db'.payments.get? j = db.payments.get? j
  row : (db'.payments.get? s.payment).map (fun p => (p.order, p.tossOrderId))
    = (db.payments.get? s.payment).map fun p => (p.order, p.tossOrderId)
  orders : ∀ o, o ≠ s.order → db'.orders.get? o = db.orders.get? o
  order : (db'.orders.get? s.order).map (fun x => (x.user, x.items))
    = (db.orders.get? s.order).map fun x => (x.user, x.items)
  products : ∀ j, (∀ it ∈ s.items, it.product ≠ some j) →
    db'.products.get? j = db.products.get? j
  carts : ∀ c cart, cart.user ≠ some s.user → db.carts.get? c = some cart →
    db'.carts.get? c = some cart
  points : ∀ u, u ≠ s.user → db'.ledger.points u = db.ledger.points u
  returns : db'.returns = db.returns
  membership : db'.membership = db.membership
  idempotencyKeys : db'.idempotencyKeys = db.idempotencyKeys

namespace PaymentScope.Within

variable {s : PaymentScope} {db db' db'' : Db} {now : Time}

theorem refl (s : PaymentScope) (db : Db) : s.Within db db :=
  ⟨fun _ _ => rfl, rfl, fun _ _ => rfl, rfl, fun _ _ => rfl, fun _ _ _ h => h, fun _ _ => rfl, rfl,
    rfl, rfl⟩

theorem trans (h : s.Within db db') (h' : s.Within db' db'') : s.Within db db'' where
  payments j hj := (h'.payments j hj).trans (h.payments j hj)
  row := h'.row.trans h.row
  orders o ho := (h'.orders o ho).trans (h.orders o ho)
  order := h'.order.trans h.order
  products j hj := (h'.products j hj).trans (h.products j hj)
  carts c cart hc hcart := h'.carts c cart hc (h.carts c cart hc hcart)
  points u hu := (h'.points u hu).trans (h.points u hu)
  returns := h'.returns.trans h.returns
  membership := h'.membership.trans h.membership
  idempotencyKeys := h'.idempotencyKeys.trans h.idempotencyKeys

theorem log (h : s.Within db db') (k : Nat) (logType : LogType) (message : String) :
    s.Within db (db'.log k logType message) :=
  h.trans { refl s db' with }

theorem mark (h : s.Within db db') (id : TossOrderId) (event : TossStatus) :
    s.Within db (markWebhookProcessed db' now id event) := by
  obtain ⟨marks, hmarks⟩ := markWebhookProcessed_eq db' now id event
  rw [hmarks]
  exact h.trans { refl s db' with }

/-- The row of the payment is written, with its order and its number. -/
theorem savePayment {p row : Payment} (hp : db.payments.get? s.payment = some p)
    (horder : row.order = p.order) (hid : row.tossOrderId = p.tossOrderId)
    (h : db.savePayment s.payment row = .ok db') : s.Within db db' := by
  obtain ⟨payments, hsave, rfl⟩ := Db.savePayment_eq_ok.mp h
  refine { refl s db with payments := fun j hj => ?_, row := ?_ }
  · show payments.get? j = db.payments.get? j
    rw [PaymentTable.get?_save hsave, if_neg hj]
  · show (payments.get? s.payment).map _ = _
    rw [PaymentTable.get?_save hsave, if_pos rfl, hp, Option.map_some, Option.map_some, horder, hid]

theorem saveOrder (db : Db) {f : Order → Order} (hf : ∀ x, (f x).user = x.user)
    (hitems : ∀ x, (f x).items = x.items) : s.Within db (db.saveOrder s.order f) := by
  refine { refl s db with orders := fun o ho => ?_, order := ?_ }
  · rw [Db.saveOrder_orders, Table.get?_modify, if_neg ho]
  · rw [Db.saveOrder_orders, Table.get?_modify, if_pos rfl, Option.map_map]
    simp [Function.comp_def, hf, hitems]

theorem updateItems (db : Db) (f : Int → Product → Product) :
    s.Within db (db.updateItems f s.items) := by
  refine { refl s db with products := fun j hj => ?_ }
  exact updateProducts_of_forall_ne hj

theorem deactivateCarts (db : Db) : s.Within db (db.deactivateCarts s.user) := by
  refine { refl s db with carts := fun c cart hne hcart => ?_ }
  show (db.carts.mapRows _).get? c = some cart
  rw [Table.get?_mapRows, hcart, Option.map_some, if_neg fun hc => hne hc.1]

/-- The ledger moved, with the balances of the others. -/
theorem ledger {L : Ledger} (h : ∀ u, u ≠ s.user → L.points u = db.ledger.points u) :
    s.Within db { db with ledger := L } := { refl s db with points := h }

theorem refund (db : Db) (n : Int) (o : OrderId) (type : PointType) (returnId : Option Nat) :
    s.Within db (db.refundUsedPoints now s.user n o type returnId) :=
  ledger fun _ hu => refundUsedPoints_points_of_ne hu

end PaymentScope.Within

/-! ## The handlers -/

/-- The scope of a payment and its order. -/
def scopeOf (k : Nat) (p : Payment) (x : Order) : PaymentScope := ⟨k, p.order, x.user, x.items⟩

/-- A report changed what belongs to the payment that it names, or nothing but
the logs. -/
def HandledWithin (info : TossPayment) (db db' : Db) : Prop :=
  (∃ logs, db' = { db with logs := logs }) ∨
    ∃ id k p x, info.orderId = some id ∧ db.payments.ofTossOrderId? id = some (k, p) ∧
      db.orders.get? p.order = some x ∧ (scopeOf k p x).Within db db'

section

variable {db db' : Db} {now : Time} {k : Nat} {p : Payment} {x : Order}

theorem HandledWithin.refl (info : TossPayment) (db : Db) : HandledWithin info db db :=
  Or.inl ⟨db.logs, rfl⟩

theorem earnOnDone_within (h : earnOnDone db now p.order x = .ok db') :
    (scopeOf k p x).Within db db' := by
  unfold earnOnDone at h
  split at h
  · cases h
    exact .refl _ db
  · dsimp only at h
    split at h
    · split at h
      · cases h
      · rename_i hadd
        cases h
        have hearned : (scopeOf k p x).Within db { db with ledger := _ } := .ledger fun u hu =>
          addPoints_points_of_ne hu hadd
        exact hearned.trans (.saveOrder _ (fun _ => rfl) fun _ => rfl)
    · cases h
      exact .refl _ db

theorem reclaimEarnedPoints_within (db : Db) (now : Time) (k : Nat) (p : Payment) (x : Order)
    (reason : String) :
    (scopeOf k p x).Within db (reclaimEarnedPoints db now p.order x k reason).2 := by
  have hused : (scopeOf k p x).Within db { db with
      ledger := (PointService.usePointsFifo db.ledger now x.user x.earnedPoints .cancelDeduct
        (some p.order)).2 } :=
    .ledger fun u hu => usePointsFifo_points_of_ne hu
  unfold reclaimEarnedPoints
  dsimp only
  split
  · exact hused
  · exact hused.log _ _ _

theorem settlePointsOnCanceled_within (db : Db) (now : Time) (k : Nat) (p : Payment) (x : Order) :
    (scopeOf k p x).Within db (settlePointsOnCanceled db now k p.order x) := by
  unfold settlePointsOnCanceled
  dsimp only
  generalize hreclaimed : (if (x.status = .paid ∨ x.status = .preparing) ∧
      0 < x.earnedPoints then (reclaimEarnedPoints db now p.order x k "주문 취소").2
    else db) = reclaimed
  have hreclaim : (scopeOf k p x).Within db reclaimed := by
    rw [← hreclaimed]
    split
    · exact reclaimEarnedPoints_within db now k p x "주문 취소"
    · exact .refl _ db
  split
  · exact hreclaim.trans (.refund reclaimed _ _ _ _)
  · exact hreclaim

theorem restoreOnCanceled_within (db : Db) (k : Nat) (p : Payment) (x : Order) :
    (scopeOf k p x).Within db (restoreOnCanceled db x) := by
  unfold restoreOnCanceled restoreStockForOrder
  split
  · exact .updateItems db _
  · split
    · exact .updateItems db _
    · exact .refl _ db

theorem revertDeposit_within (db : Db) (now : Time) (k : Nat) (p : Payment) (x : Order) :
    (scopeOf k p x).Within db (revertDeposit db now k p.order x) := by
  have hunsold : (scopeOf k p x).Within db (db.updateItems takeSold x.items) :=
    .updateItems db takeSold
  unfold revertDeposit
  dsimp only
  generalize hreclaimed : (if 0 < x.earnedPoints then
      reclaimEarnedPoints (db.updateItems takeSold x.items) now p.order x k "가상계좌 입금 취소"
    else (false, db.updateItems takeSold x.items)) = reclaimed
  have hreclaim : (scopeOf k p x).Within db reclaimed.2 := by
    rw [← hreclaimed]
    split
    · exact hunsold.trans (reclaimEarnedPoints_within _ now k p x _)
    · exact hunsold
  have hsaved := hreclaim.trans (.saveOrder reclaimed.2 (f := fun row =>
    { row with
      status := .confirmed
      earnedPoints := if reclaimed.1 then 0 else x.earnedPoints
      updatedAt := now }) (fun _ => rfl) fun _ => rfl)
  exact hsaved.log _ _ _

theorem markAsCanceled_names {row : Payment} {info : TossPayment}
    (h : p.markAsCanceled now info = .ok row) :
    p.order = row.order ∧ p.tossOrderId = row.tossOrderId := by
  simp only [Payment.markAsCanceled, bind_eq_ok] at h
  obtain ⟨_, _, h⟩ := h
  cases h
  exact ⟨rfl, rfl⟩

/-- The row of the payment is written by one of its methods. -/
theorem savePayment_within {row : Payment} {saved : Db} (hp : db.payments.get? k = some p)
    (hrow : p.order = row.order ∧ p.tossOrderId = row.tossOrderId)
    (h : db.savePayment k row = .ok saved) : (scopeOf k p x).Within db saved :=
  .savePayment (s := scopeOf k p x) hp hrow.1.symm hrow.2.symm h

theorem handlePaymentDone_within {info : TossPayment} {result : DoneResult}
    (h : handlePaymentDone db now info = .ok (result, db')) : HandledWithin info db db' := by
  unfold handlePaymentDone at h
  split at h
  · cases h
    exact .refl info db
  · rename_i id hid
    split at h
    · cases h
      exact .refl info db
    · split at h
      · cases h
        exact .refl info db
      · rename_i k p hof
        have hp : db.payments.get? k = some p := PaymentTable.ofTossOrderId?_get hof
        split at h
        · cases h
          exact .refl info db
        · split at h
          · cases h
            exact Or.inl ⟨_, rfl⟩
          · split at h
            · cases h
              exact .refl info db
            · split at h
              · cases h
                exact Or.inl ⟨_, rfl⟩
              · obtain ⟨x, hx, h⟩ := bind_eq_ok.mp h
                rw [Db.getOrder_eq_ok] at hx
                obtain ⟨row, hrow, h⟩ := bind_eq_ok.mp h
                obtain ⟨saved, hsaved, h⟩ := bind_eq_ok.mp h
                have hsame := (Payment.markAsPaid_spec hrow).2
                have hsave : (scopeOf k p x).Within db saved :=
                  savePayment_within hp ⟨hsame.order.symm, hsame.tossOrderId.symm⟩ hsaved
                refine Or.inr ⟨id, k, p, x, hid, hof, hx, ?_⟩
                split at h
                · cases h
                  exact (hsave.log _ _ _).mark _ _
                · split at h
                  · cases h
                    exact hsave.mark _ _
                  · obtain ⟨earned, hearned, h⟩ := bind_eq_ok.mp h
                    cases h
                    have hsold := hsave.trans (.updateItems saved addSold)
                    have hpaid := hsold.trans (.saveOrder _
                      (f := Order.withPaid (methodOrCard row.method) now) (fun _ => rfl)
                      fun _ => rfl)
                    have hcarts := hpaid.trans (.deactivateCarts _)
                    have hdone := hcarts.trans (earnOnDone_within hearned)
                    exact (hdone.log _ _ _).mark _ _

theorem handlePaymentCanceled_within {info : TossPayment} {result : CanceledResult}
    (h : handlePaymentCanceled db now info = .ok (result, db')) : HandledWithin info db db' := by
  rcases handlePaymentCanceled_ok h with rfl |
    ⟨id, k, p, x, row, hid, hof, _, _, hx, hrow, hcase⟩
  · exact .refl info db'
  · have hp : db.payments.get? k = some p := PaymentTable.ofTossOrderId?_get hof
    have hsame := markAsCanceled_names hrow
    refine Or.inr ⟨id, k, p, x, hid, hof, hx, ?_⟩
    cases hcase with
    | orderAlreadyCanceled _ hsaved => exact (savePayment_within hp hsame hsaved).mark _ _
    | @canceled saved _ hsaved =>
      have hsave : (scopeOf k p x).Within db saved := savePayment_within hp hsame hsaved
      have hrestored := hsave.trans (restoreOnCanceled_within saved k p x)
      have hsettled := hrestored.trans (settlePointsOnCanceled_within _ now k p x)
      have hcanceled := hsettled.trans (.saveOrder _ (f := Order.withStatus .canceled now)
        (fun _ => rfl) fun _ => rfl)
      exact (hcanceled.log _ _ _).mark _ _

theorem handleWaitingForDeposit_within {info : TossPayment} {result : WaitingResult}
    (h : handleWaitingForDeposit db now info = .ok (result, db')) : HandledWithin info db db' := by
  rcases handleWaitingForDeposit_ok h with rfl |
    ⟨id, k, p, x, row, hid, hof, _, _, hx, hrow, hcase⟩
  · exact .refl info db'
  · have hp : db.payments.get? k = some p := PaymentTable.ofTossOrderId?_get hof
    have hsame := (Payment.markAsWaitingForDeposit_spec hrow).2
    have hrow' : p.order = row.order ∧ p.tossOrderId = row.tossOrderId :=
      ⟨hsame.order.symm, hsame.tossOrderId.symm⟩
    refine Or.inr ⟨id, k, p, x, hid, hof, hx, ?_⟩
    cases hcase with
    | depositReverted _ hsaved =>
      have hreverted := revertDeposit_within db now k p x
      have hp' : (revertDeposit db now k p.order x).payments.get? k = some p := by
        rw [(revertDeposit_tables db now k p.order x).1, hp]
      exact hreverted.trans (savePayment_within hp' hrow' hsaved)
    | issued _ hsaved =>
      have hlogged := (PaymentScope.Within.refl (scopeOf k p x) db).log k .webhook
        "가상계좌 발급 웹훅 처리, 입금 대기"
      exact hlogged.trans (savePayment_within hp hrow' hsaved)

/-- A handler in one transaction keeps to the payment that the provider
reports. -/
theorem handleLocked_within {info : TossPayment} (hfailure : reportsFailure info = false) :
    HandledWithin info db (handleLocked db now info).db := by
  have hne := of_decide_eq_false hfailure
  unfold handleLocked
  split
  · exact .refl info db
  · rename_i db' hdispatch
    show HandledWithin info db db'
    unfold dispatch at hdispatch
    split at hdispatch
    · obtain ⟨⟨result, _⟩, hdone, rfl⟩ := map_eq_ok.mp hdispatch
      exact handlePaymentDone_within hdone
    · obtain ⟨⟨result, _⟩, hcanceled, rfl⟩ := map_eq_ok.mp hdispatch
      exact handlePaymentCanceled_within hcanceled
    · obtain ⟨⟨result, _⟩, hwaiting, rfl⟩ := map_eq_ok.mp hdispatch
      exact handleWaitingForDeposit_within hwaiting
    · rename_i hstatus
      exact absurd (Or.inl hstatus) hne
    · rename_i hstatus
      exact absurd (Or.inr hstatus) hne
    all_goals
      cases hdispatch
      exact .refl info db

/-- The writes of a failure, on the row that was read before. -/
theorem saveFailure_within (now : Time) (info : TossPayment) (published : Bool)
    (hp : ∃ q, db.payments.get? k = some q ∧ p.order = q.order ∧ p.tossOrderId = q.tossOrderId) :
    (saveFailure db now k p info published).db = db ∧
        (saveFailure db now k p info published).sent = [] ∨
      ∃ x, db.orders.get? p.order = some x ∧
        (scopeOf k p x).Within db (saveFailure db now k p info published).db ∧
        ∀ m ∈ (saveFailure db now k p info published).sent, ∃ reason,
          m = .rollback p.order reason := by
  unfold saveFailure
  cases hfail : failPayment db now k p info true with
  | error e => exact Or.inl ⟨rfl, rfl⟩
  | ok out =>
    obtain ⟨q, hq, horder, hid⟩ := hp
    unfold failPayment at hfail
    obtain ⟨saved, hsaved, hfail⟩ := bind_eq_ok.mp hfail
    obtain ⟨x, hx, hfail⟩ := bind_eq_ok.mp hfail
    have hsave : (scopeOf k p x).Within db saved := by
      refine .savePayment (s := scopeOf k p x) hq ?_ ?_ hsaved
      · split
        · exact horder
        · exact horder
      · split
        · exact hid
        · exact hid
    have hx' : db.orders.get? p.order = some x := by
      obtain ⟨payments, _, rfl⟩ := Db.savePayment_eq_ok.mp hsaved
      exact Db.getOrder_eq_ok.mp hx
    have hlogged : (scopeOf k p x).Within db out.db ∧
        (scopeOf k p x).Within db { out.db with logs := db.logs } := by
      cases hfail
      exact ⟨hsave.log _ _ _, hsave.trans { PaymentScope.Within.refl _ saved with }⟩
    have hsent : ∀ m ∈ out.sent, ∃ reason, m = .rollback p.order reason := by
      cases hfail
      intro m hm
      dsimp only at hm
      split at hm
      · exact ⟨_, List.mem_singleton.mp hm⟩
      · cases hm
    refine Or.inr ⟨x, hx', ?_⟩
    dsimp only
    split
    · exact ⟨hlogged.1, hsent⟩
    · refine ⟨hlogged.2, fun m hm => ?_⟩
      cases hm

end

/-! ## The desk -/

/-- A request that is worked on: the provider answered, or the failure was read
and is not written yet. -/
inductive PendingWebhook where
  | found (info : TossPayment)
  | failing (payment : Nat) (row : Payment) (info : TossPayment)
  deriving DecidableEq, Repr

/-- The shop and the webhook requests in it. -/
structure WebhookDesk where
  db : Db
  pending : List PendingWebhook := []
  sent : List Message := []

/-- What happens at the desk: somebody posts a body and the provider is asked;
a request gets its turn; a failure that was read is written. -/
inductive WebhookEvent where
  | post (body : Json) (ask : Ask)
  | handle (request : Nat) (now : Time)
  | save (request : Nat) (now : Time) (published : Bool)

namespace WebhookDesk

variable (env : WebhookEnv)

/-- A request with the answer of the provider gets its turn. -/
def handle (w : WebhookDesk) (n : Nat) (now : Time) (info : TossPayment) : WebhookDesk :=
  if reportsFailure info then
    match readFailure w.db info with
    | none => { w with pending := w.pending.eraseIdx n }
    | some (k, row) => { w with pending := w.pending.set n (.failing k row info) }
  else { w with db := (handleLocked w.db now info).db, pending := w.pending.eraseIdx n }

/-- A failure is written. -/
def save (w : WebhookDesk) (n : Nat) (now : Time) (k : Nat) (row : Payment) (info : TossPayment)
    (published : Bool) : WebhookDesk :=
  let out := saveFailure w.db now k row info published
  { db := out.db, pending := w.pending.eraseIdx n, sent := w.sent ++ out.sent }

/-- One event of the desk. -/
def step (w : WebhookDesk) : WebhookEvent → Option WebhookDesk
  | .post body ask =>
    match received env w.db ask body with
    | .error _ => some w
    | .ok info => some { w with pending := w.pending ++ [.found info] }
  | .handle n now =>
    match w.pending[n]? with
    | some (.found info) => some (w.handle n now info)
    | _ => none
  | .save n now published =>
    match w.pending[n]? with
    | some (.failing k row info) => some (w.save n now k row info published)
    | _ => none

/-- The events of one request, behind those that wait already. -/
def alone (w : WebhookDesk) (body : Json) (ask : Ask) (now : Time) (published : Bool) :
    List WebhookEvent :=
  match received env w.db ask body with
  | .error _ => [.post body ask]
  | .ok info =>
    if reportsFailure info = true ∧ (readFailure w.db info).isSome = true then
      [.post body ask, .handle w.pending.length now, .save w.pending.length now published]
    else [.post body ask, .handle w.pending.length now]

/-- A request whose events have nothing between them is `toss_webhook`. -/
theorem exec_alone (w : WebhookDesk) (body : Json) (ask : Ask) (now : Time) (published : Bool) :
    let out := tossWebhook env w.db now ask body published
    exec (step env) w (alone env w body ask now published)
      = some { w with db := out.db, sent := w.sent ++ out.sent } := by
  unfold tossWebhook alone
  cases hreceived : received env w.db ask body with
  | error reply => simp [exec, step, hreceived]
  | ok info =>
    have herase : ∀ x : PendingWebhook,
        (w.pending ++ [x]).eraseIdx w.pending.length = w.pending := by
      intro x
      simp [List.eraseIdx_append_of_length_le]
    unfold process
    by_cases hfailure : reportsFailure info = true
    · cases hread : readFailure w.db info with
      | none => simp [exec, step, handle, processed, hreceived, hfailure, hread, herase]
      | some e => simp [exec, step, handle, save, hreceived, hfailure, hread, herase]
    · have hsent : (handleLocked w.db now info).sent = [] := by
        unfold handleLocked
        split
        · rfl
        · rfl
      simp [exec, step, handle, hreceived, hfailure, herase, hsent]

end WebhookDesk

/-! ## What was not reported -/

section

variable (reported : TossOrderId → Prop)

/-- An order with a payment of which there was a report. -/
def ReportedOrder (db : Db) (o : OrderId) : Prop :=
  ∃ k p, db.payments.get? k = some p ∧ p.order = o ∧ reported p.tossOrderId

/-- A product in a reported order. -/
def ReportedProduct (db : Db) (j : ProductId) : Prop :=
  ∃ o x, ReportedOrder reported db o ∧ db.orders.get? o = some x ∧
    ∃ it ∈ x.items, it.product = some j

/-- The customer of a reported order. -/
def ReportedUser (db : Db) (u : UserId) : Prop :=
  ∃ o x, ReportedOrder reported db o ∧ db.orders.get? o = some x ∧ x.user = u

/-- What no report is about is as it was. -/
structure LeavesUnreported (db₀ db : Db) : Prop where
  payments : ∀ k p, db₀.payments.get? k = some p → ¬ reported p.tossOrderId →
    db.payments.get? k = some p
  orders : ∀ o, ¬ ReportedOrder reported db₀ o → db.orders.get? o = db₀.orders.get? o
  products : ∀ j, ¬ ReportedProduct reported db₀ j → db.products.get? j = db₀.products.get? j
  carts : ∀ c cart, db₀.carts.get? c = some cart →
    (∀ u, cart.user = some u → ¬ ReportedUser reported db₀ u) → db.carts.get? c = some cart
  points : ∀ u, ¬ ReportedUser reported db₀ u → db.ledger.points u = db₀.ledger.points u
  rest : db.returns = db₀.returns ∧ db.membership = db₀.membership ∧
    db.idempotencyKeys = db₀.idempotencyKeys

/-- The payments keep their orders and numbers, the orders their customers and
items. -/
structure KeepsNames (db₀ db : Db) : Prop where
  payments : ∀ k, (db.payments.get? k).map (fun p => (p.order, p.tossOrderId))
    = (db₀.payments.get? k).map fun p => (p.order, p.tossOrderId)
  orders : ∀ o, (db.orders.get? o).map (fun x => (x.user, x.items))
    = (db₀.orders.get? o).map fun x => (x.user, x.items)

/-- The provider reports only such payments under the number of a posted
body. -/
def reportsOnly (env : WebhookEnv) (w : WebhookDesk) : WebhookEvent → Prop
  | .post body ask => ∀ key info id, received env w.db ask body = .ok info →
      ask key = .ok info → info.orderId = some id → reported id
  | .handle _ _ | .save _ _ _ => True

variable {reported} {db₀ db db' : Db} {k : Nat} {p : Payment} {x : Order}

/-- A payment of the number of a report, by the numbers at the start. -/
theorem KeepsNames.reportedOrder (h : KeepsNames db₀ db)
    (hp : ∃ q, db.payments.get? k = some q ∧ p.order = q.order ∧ p.tossOrderId = q.tossOrderId)
    (hr : reported p.tossOrderId) :
    ReportedOrder reported db₀ p.order ∧
      ∀ p₀, db₀.payments.get? k = some p₀ → reported p₀.tossOrderId := by
  obtain ⟨q, hq, horder, hid⟩ := hp
  have hnames := h.payments k
  rw [hq, Option.map_some, eq_comm, Option.map_eq_some_iff] at hnames
  obtain ⟨p₀, hp₀, heq⟩ := hnames
  obtain ⟨horder₀, hid₀⟩ := Prod.mk.inj heq
  have hr₀ : reported p₀.tossOrderId := by
    rw [hid₀, ← hid]
    exact hr
  refine ⟨⟨k, p₀, hp₀, horder₀.trans horder.symm, hr₀⟩, fun p₁ hp₁ => ?_⟩
  rw [hp₀, Option.some.injEq] at hp₁
  rw [← hp₁]
  exact hr₀

/-- A change within a reported payment leaves what was not reported. -/
theorem LeavesUnreported.within (h : LeavesUnreported reported db₀ db) (hn : KeepsNames db₀ db)
    (hp : ∃ q, db.payments.get? k = some q ∧ p.order = q.order ∧ p.tossOrderId = q.tossOrderId)
    (hr : reported p.tossOrderId) (hx : db.orders.get? p.order = some x)
    (hw : (scopeOf k p x).Within db db') :
    LeavesUnreported reported db₀ db' ∧ KeepsNames db₀ db' := by
  obtain ⟨horder, hrow⟩ := hn.reportedOrder hp hr
  have hnames := hn.orders p.order
  rw [hx, Option.map_some, eq_comm, Option.map_eq_some_iff] at hnames
  obtain ⟨x₀, hx₀, heq⟩ := hnames
  obtain ⟨huser, hitems⟩ := Prod.mk.inj heq
  have hu : ReportedUser reported db₀ x.user := ⟨p.order, x₀, horder, hx₀, huser⟩
  constructor
  · constructor
    · intro j p₀ hp₀ hnot
      have hj : j ≠ k := by
        rintro rfl
        exact hnot (hrow p₀ hp₀)
      rw [hw.payments j hj]
      exact h.payments j p₀ hp₀ hnot
    · intro o hnot
      have ho : o ≠ p.order := by
        rintro rfl
        exact hnot horder
      rw [hw.orders o ho]
      exact h.orders o hnot
    · intro j hnot
      rw [hw.products j fun it hit hj => ?_]
      · exact h.products j hnot
      · refine hnot ⟨p.order, x₀, horder, hx₀, it, ?_, hj⟩
        rw [hitems]
        exact hit
    · intro c cart hcart hnot
      refine hw.carts c cart (fun hc => ?_) (h.carts c cart hcart hnot)
      exact hnot x.user hc hu
    · intro u hnot
      rw [hw.points u fun hc => hnot (hc ▸ hu)]
      exact h.points u hnot
    · rw [hw.returns, hw.membership, hw.idempotencyKeys]
      exact h.rest
  · constructor
    · intro j
      by_cases hj : j = k
      · rw [hj, ← hn.payments k]
        exact hw.row
      · rw [hw.payments j hj, hn.payments j]
    · intro o
      by_cases ho : o = p.order
      · rw [ho, ← hn.orders p.order]
        exact hw.order
      · rw [hw.orders o ho, hn.orders o]

/-- What a handler did leaves what was not reported. -/
theorem LeavesUnreported.handled {info : TossPayment} (h : LeavesUnreported reported db₀ db)
    (hn : KeepsNames db₀ db) (hr : ∀ id, info.orderId = some id → reported id)
    (hw : HandledWithin info db db') :
    LeavesUnreported reported db₀ db' ∧ KeepsNames db₀ db' := by
  rcases hw with ⟨logs, rfl⟩ | ⟨id, k, p, x, hid, hof, hx, hw⟩
  · exact ⟨{ h with }, { hn with }⟩
  · have hfound := Table.find?_eq_some_get hof
    have htoss : p.tossOrderId = id := of_decide_eq_true hfound.2
    have hrep : reported p.tossOrderId := by
      rw [htoss]
      exact hr id hid
    exact h.within hn ⟨p, PaymentTable.ofTossOrderId?_get hof, rfl, rfl⟩ hrep hx hw

/-! ## Runs of the desk -/

variable (reported) in
/-- What holds at the desk while the provider reports only `reported`. -/
structure WebhookDesk.Confined (db₀ : Db) (w : WebhookDesk) : Prop where
  leaves : LeavesUnreported reported db₀ w.db
  names : KeepsNames db₀ w.db
  found : ∀ info, .found info ∈ w.pending → ∀ id, info.orderId = some id → reported id
  failing : ∀ k row info, .failing k row info ∈ w.pending → reported row.tossOrderId ∧
    (db₀.payments.get? k).map (fun p => (p.order, p.tossOrderId))
      = some (row.order, row.tossOrderId)
  sent : ∀ m ∈ w.sent, ∃ o reason, m = .rollback o reason ∧ ReportedOrder reported db₀ o

namespace WebhookDesk

variable {env : WebhookEnv} {w w' : WebhookDesk} {n : Nat} {now : Time} {info : TossPayment}

theorem Confined.start (db₀ : Db) : Confined reported db₀ { db := db₀ } where
  leaves := ⟨fun _ _ h _ => h, fun _ _ => rfl, fun _ _ => rfl, fun _ _ h _ => h, fun _ _ => rfl,
    rfl, rfl, rfl⟩
  names := ⟨fun _ => rfl, fun _ => rfl⟩
  found _ h := absurd h List.not_mem_nil
  failing _ _ _ h := absurd h List.not_mem_nil
  sent _ h := absurd h List.not_mem_nil

/-- A request ends. -/
theorem Confined.finish (h : Confined reported db₀ w) {db : Db}
    (hdb : LeavesUnreported reported db₀ db ∧ KeepsNames db₀ db) (n : Nat) :
    Confined reported db₀ { w with db := db, pending := w.pending.eraseIdx n } where
  leaves := hdb.1
  names := hdb.2
  found info hm := h.found info (List.mem_of_mem_eraseIdx hm)
  failing k row info hm := h.failing k row info (List.mem_of_mem_eraseIdx hm)
  sent := h.sent

theorem Confined.handle (h : Confined reported db₀ w) (hn : w.pending[n]? = some (.found info)) :
    Confined reported db₀ (w.handle n now info) := by
  have hr := h.found info (List.mem_of_getElem? hn)
  unfold WebhookDesk.handle
  cases hfailure : reportsFailure info with
  | false => exact h.finish (h.leaves.handled h.names hr (handleLocked_within hfailure)) n
  | true =>
    rw [if_pos rfl]
    split
    · exact h.finish ⟨h.leaves, h.names⟩ n
    · rename_i k row hread
      refine { h with found := fun info' hm => ?_, failing := fun k' row' info' hm => ?_ }
      · rcases List.mem_or_eq_of_mem_set hm with hm | hm
        · exact h.found info' hm
        · cases hm
      · rcases List.mem_or_eq_of_mem_set hm with hm | hm
        · exact h.failing k' row' info' hm
        · cases hm
          obtain ⟨id, hid, hof⟩ :=
            Option.bind_eq_some_iff.mp (Option.filter_eq_some_iff.mp hread).1
          have hfound := Table.find?_eq_some_get hof
          have htoss : row.tossOrderId = id := of_decide_eq_true hfound.2
          refine ⟨htoss ▸ hr id hid, ?_⟩
          rw [← h.names.payments k, PaymentTable.ofTossOrderId?_get hof, Option.map_some]

theorem Confined.save (h : Confined reported db₀ w) {row : Payment} {published : Bool}
    (hn : w.pending[n]? = some (.failing k row info)) :
    Confined reported db₀ (w.save n now k row info published) := by
  obtain ⟨hr, hrow⟩ := h.failing k row info (List.mem_of_getElem? hn)
  have hp : ∃ q, w.db.payments.get? k = some q ∧ row.order = q.order ∧
      row.tossOrderId = q.tossOrderId := by
    rw [← h.names.payments k, Option.map_eq_some_iff] at hrow
    obtain ⟨q, hq, heq⟩ := hrow
    obtain ⟨horder, hid⟩ := Prod.mk.inj heq
    exact ⟨q, hq, horder.symm, hid.symm⟩
  unfold WebhookDesk.save
  dsimp only
  rcases saveFailure_within now info published hp with ⟨hdb, hsent⟩ | ⟨x, hx, hw, hsent⟩
  · rw [hdb, hsent, List.append_nil]
    exact h.finish ⟨h.leaves, h.names⟩ n
  · have hfinished := h.finish (h.leaves.within h.names hp hr hx hw) n
    refine { hfinished with sent := fun m hm => ?_ }
    rcases List.mem_append.mp hm with hm | hm
    · exact h.sent m hm
    · obtain ⟨reason, rfl⟩ := hsent m hm
      exact ⟨row.order, reason, rfl, (h.names.reportedOrder hp hr).1⟩

theorem Confined.step {e : WebhookEvent} (h : Confined reported db₀ w)
    (hok : reportsOnly reported env w e) (hstep : WebhookDesk.step env w e = some w') :
    Confined reported db₀ w' := by
  cases e with
  | post body ask =>
    unfold WebhookDesk.step at hstep
    dsimp only at hstep
    split at hstep
    · cases hstep
      exact h
    · rename_i info hreceived
      cases hstep
      obtain ⟨key, id, hask, hid⟩ := received_ok hreceived
      refine { h with found := fun info' hm => ?_, failing := fun k row info' hm => ?_ }
      · rcases List.mem_append.mp hm with hm | hm
        · exact h.found info' hm
        · cases List.mem_singleton.mp hm
          exact fun id' hid' => hok key info id' hreceived hask hid'
      · rcases List.mem_append.mp hm with hm | hm
        · exact h.failing k row info' hm
        · cases List.mem_singleton.mp hm
  | handle n now =>
    unfold WebhookDesk.step at hstep
    dsimp only at hstep
    split at hstep
    · rename_i info hn
      cases hstep
      exact h.handle hn
    · cases hstep
  | save n now published =>
    unfold WebhookDesk.step at hstep
    dsimp only at hstep
    split at hstep
    · rename_i k row info hn
      cases hstep
      exact h.save hn
    · cases hstep

end WebhookDesk

/-- Whatever is posted, by whomever and in whatever order the requests are
worked on: what the provider did not report itself stays as it is, and the only
messages are rollbacks of reported orders. -/
theorem webhook_posts_authentic {env : WebhookEnv} {es : List WebhookEvent} {w : WebhookDesk}
    (h : Run (WebhookDesk.step env) (reportsOnly reported env) { db := db₀ } es w) :
    LeavesUnreported reported db₀ w.db ∧
      ∀ m ∈ w.sent, ∃ o reason, m = .rollback o reason ∧ ReportedOrder reported db₀ o := by
  have hconfined : WebhookDesk.Confined reported db₀ w :=
    h.invariant (WebhookDesk.Confined reported db₀) (.start db₀) fun _ _ _ hI hok hstep =>
      hI.step hok hstep
  exact ⟨hconfined.leaves, hconfined.sent⟩

/-- Order numbers as texts. -/
def sampleEnv : WebhookEnv where
  text
    | .orderNumber o => toString o
    | .points o => "POINTS-" ++ toString o
  str lexeme := lexeme
  isZero lexeme := decide (lexeme = "0")

/-- The order 1 waits for a deposit, and the order 2 is of another customer. -/
def twoCustomers : Db :=
  { (World.shop .confirmed .waitingForDeposit).db with
    orders := (Table.empty.insert (World.oneOrder .confirmed)).insert
      { World.oneOrder .confirmed with user := 8 }
    payments := PaymentTable.single { World.onePayment .waitingForDeposit with
      paymentKey := some "key", tossSecret := "secret" } }

/-- The body of a status event. -/
def statusBody (paymentKey orderId : String) : Json :=
  .object [("eventType", .string "PAYMENT_STATUS_CHANGED"),
    ("data", .object [("paymentKey", .string paymentKey), ("orderId", .string orderId),
      ("status", .string "DONE")])]

/-- Somebody makes up a deposit of the order 2, and the deposit of the order 1
is reported. -/
def forgedAndReal : List WebhookEvent :=
  [.post (statusBody "made up" "2") fun _ => .error ⟨"NOT_FOUND_PAYMENT", "결제 조회 실패", 404⟩,
    .post (statusBody "key" "1") fun _ => .ok World.approval, .handle 0 5]

/-- The order 1 is paid, and the order 2 is as it was. -/
theorem webhook_posts_authentic_sample :
    ∃ w, Run (WebhookDesk.step sampleEnv) (reportsOnly (fun id => id = .orderNumber 1) sampleEnv)
        { db := twoCustomers } forgedAndReal w ∧
      (w.db.orders.get? 1).map Order.status = some .paid ∧
      w.db.orders.get? 2 = twoCustomers.orders.get? 2 := by
  have hexec : (exec (WebhookDesk.step sampleEnv) { db := twoCustomers } forgedAndReal).any
      (fun w => decide ((w.db.orders.get? 1).map Order.status = some .paid)) = true := by
    decide +kernel
  obtain ⟨w, hw, hpaid⟩ := (Option.any_eq_true _ _).mp hexec
  have hrun : Run (WebhookDesk.step sampleEnv)
      (reportsOnly (fun id => id = .orderNumber 1) sampleEnv) { db := twoCustomers }
      forgedAndReal w := by
    refine Run.of_exec_mem (fun e he s => ?_) hw
    simp only [forgedAndReal, List.mem_cons, List.not_mem_nil, or_false] at he
    rcases he with rfl | rfl | rfl
    · intro key info id _ hask _
      cases hask
    · intro key info id _ hask hid
      cases hask
      exact (Option.some.inj hid).symm
    · exact trivial
  refine ⟨w, hrun, of_decide_eq_true hpaid, (webhook_posts_authentic hrun).1.orders 2 ?_⟩
  rintro ⟨k, p, hp, horder, hid⟩
  have hone : twoCustomers.payments.table.any (fun _ p => decide (p.order = 2)) = false := by decide
  have hp' := Table.any_eq_false.mp hone k p hp
  exact absurd horder (of_decide_eq_false hp')

end

end Shopping
