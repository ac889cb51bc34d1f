import Shopping.System.RecoveryRetry

/-!
# Aborting a payment that takes too long

`check_sla_violations` and the first check of `retry_failed_payment` go by the
age of the payment alone, and publish its rollback.  The provider may have
approved the payment by then, with the finalisation still on its way, or may
approve it before the rollback is delivered.

`SlaShop` is the shop with the messages that were published and the orders
whose payment the provider approved.  A message is never taken away, so it can
be delivered late, again or never; for the same reason the sweep publishes all
of its rollbacks at once.  `asksFirst` is the condition under which the age is
as good as an answer of the provider.
-/

namespace Shopping

open PaymentRecovery PaymentTasks

/-! ## The shop -/

structure SlaShop where
  db : Db
  messages : List Message := []
  approved : List OrderId := []

inductive SlaEvent where
  | confirmAsync (k : Nat) (paymentKey : String) (amount : Int) (user : UserId) (published : Bool)
  /-- Delivers the n-th message; `approves` says whether the provider approves
  a confirmation by the end of it. -/
  | deliver (n : Nat) (d : Delivery) (approves : Bool)
  | reconcile (stall : Time) (lookup : String → Except TossPaymentError TossPayment)
  | checkSlaViolations (thresholdMinutes : Option Int) (published : Nat → Bool)
  | retryFailedPayment (k : Nat) (o : OrderId) (attempt : Nat) (blocked : Bool)
      (toss : Except TossPaymentError TossPayment) (approves published : Bool)

namespace SlaShop

/-- The shop with the database that a task left and what it published. -/
def commit (s : SlaShop) (db : Db) (sent : List Message := []) : SlaShop :=
  { s with db := db, messages := s.messages ++ sent }

/-- The provider approved the payments of these orders. -/
def approve (s : SlaShop) (orders : List OrderId) : SlaShop :=
  { s with approved := orders ++ s.approved }

/-- The order of the payment `k`. -/
def orderOf (s : SlaShop) (k : Nat) : Option OrderId := (s.db.payments.get? k).map Payment.order

/-- The order can still be rolled back. -/
def isUnpaid (s : SlaShop) (o : OrderId) : Bool := (s.db.statusOf o).any OrderStatus.isUnpaid

/-- A rollback of the order is among the messages. -/
def hasRollback (o : OrderId) (ms : List Message) : Bool :=
  ms.any fun m => match m with
    | .rollback i _ => decide (i = o)
    | _ => false

/-- A rollback of the order was published. -/
def rollsBack (s : SlaShop) (o : OrderId) : Bool := hasRollback o s.messages

/-- One execution of the task of a message. -/
def deliver (s : SlaShop) (now : Time) (d : Delivery) (approves : Bool) : Message → SlaShop
  | .confirm _ o amount id k user =>
    let out := callTossConfirmApi s.db o amount id k user d.answer d.retriesLeft d.published
    (s.commit out.db out.sent).approve (if approves then [o] else [])
  | .finalize response k user =>
    match finalizePaymentConfirm s.db now response k user d.published with
    | .ok out => s.commit out.db out.sent
    | .error _ => if d.retriesLeft then s else s.commit (alertFinalizeExhausted s.db k)
  | .rollback o reason => s.commit (rollbackPaymentFailure s.db now o reason).2
  | _ => s

/-- What happens in one event; `createdAt` has the times at which the payments
were created. -/
def run (createdAt : Nat → Time) (s : SlaShop) (now : Time) : SlaEvent → SlaShop
  | .confirmAsync k paymentKey amount user published =>
    match s.orderOf k with
    | none => s
    | some o =>
      match PaymentService.confirmPaymentAsync s.db now k paymentKey o amount user published with
      | .error _ => s
      | .ok out => s.commit out.db out.sent
  | .deliver n d approves =>
    match s.messages[n]? with
    | none => s
    | some m => s.deliver now d approves m
  | .reconcile stall lookup =>
    let out := reconcileStalledPayments s.db now stall lookup
    s.commit out.1 out.2
  | .checkSlaViolations thresholdMinutes published =>
    s.commit s.db (checkSlaViolations s.db now createdAt thresholdMinutes published).sent
  | .retryFailedPayment k o attempt blocked toss approves published =>
    let out := retryFailedPayment s.db now (createdAt k) blocked k o attempt toss published
    (s.commit out.db out.sent).approve
      (if approves && out.asked.isSome then (s.orderOf k).toList else [])

def step (createdAt : Nat → Time) (s : SlaShop) (e : Time × SlaEvent) : Option SlaShop :=
  some (s.run createdAt e.1 e.2)

/-! ## Asking first -/

/-- The payment and its order are there for `retry_failed_payment`. -/
def hasPayment (s : SlaShop) (k : Nat) : Bool :=
  (s.db.payments.get? k).any fun p => (s.db.orders.get? p.order).isSome

/-- `call_toss_confirm_api` gives up with a rollback. -/
def givesUp (id : TossOrderId) (amount : Int) (retriesLeft : Bool) (answer : TossAnswer) : Bool :=
  match confirmDecision id amount retriesLeft answer with
  | .abort _ _ => true
  | _ => false

/-- The orders whose rollback an event publishes: the age of the payment is
beyond the limit, or the confirmation is given up. -/
def abortsFor (createdAt : Nat → Time) (s : SlaShop) (now : Time) : SlaEvent → List OrderId
  | .deliver n d _ =>
    match s.messages[n]? with
    | some (.confirm _ o amount id _ _) =>
      if givesUp id amount d.retriesLeft d.answer && d.published then [o] else []
    | _ => []
  | .checkSlaViolations thresholdMinutes published =>
    ((stalePayments s.db now createdAt (thresholdMinutes.getD (slaTimeoutSeconds / 60))).filter
      fun e => published e.1).map fun e => e.2.order
  | .retryFailedPayment k o _ blocked _ _ published =>
    if !blocked && s.hasPayment k && checkSlaTimeout now (createdAt k) && published then [o] else []
  | _ => []

/-- `retry_failed_payment` comes as far as the provider. -/
def retryAsks (s : SlaShop) (now createdAt : Time) (blocked : Bool) (k : Nat) : Bool :=
  !blocked && s.hasPayment k && !checkSlaTimeout now createdAt &&
    (s.db.payments.get? k).any Payment.asksToss

/-- The orders whose payment the provider approves in an event. -/
def approvesFor (createdAt : Nat → Time) (s : SlaShop) (now : Time) : SlaEvent → List OrderId
  | .deliver n _ approves =>
    match s.messages[n]? with
    | some (.confirm _ o _ _ _ _) => if approves then [o] else []
    | _ => []
  | .retryFailedPayment k _ _ blocked _ approves _ =>
    if approves && s.retryAsks now (createdAt k) blocked k then (s.orderOf k).toList else []
  | _ => []

/-- No rollback is published for an unpaid order whose payment is approved, and
the payment of an unpaid order is not approved once its rollback is on the way. -/
def asksFirst (createdAt : Nat → Time) (s : SlaShop) (e : Time × SlaEvent) : Bool :=
  ((s.abortsFor createdAt e.1 e.2).all fun o =>
    !s.isUnpaid o || !decide (o ∈ s.approvesFor createdAt e.1 e.2 ++ s.approved)) &&
  (s.approvesFor createdAt e.1 e.2).all fun o => !s.isUnpaid o || !s.rollsBack o

/-- No order whose payment is approved becomes `payment_failed`. -/
def KeepsApproved (createdAt : Nat → Time) (s : SlaShop) (e : Time × SlaEvent) : Prop :=
  ∀ o ∈ s.approved, (s.run createdAt e.1 e.2).db.statusOf o = some .paymentFailed →
    s.db.statusOf o = some .paymentFailed

/-! ## What the tasks publish -/

theorem hasRollback_append (o : OrderId) (ms ns : List Message) :
    hasRollback o (ms ++ ns) = (hasRollback o ms || hasRollback o ns) := by
  unfold hasRollback
  exact List.any_append

theorem hasRollback_iff {o : OrderId} {ms : List Message} :
    hasRollback o ms = true ↔ ∃ reason, Message.rollback o reason ∈ ms := by
  unfold hasRollback
  rw [List.any_eq_true]
  constructor
  · rintro ⟨m, hm, hroll⟩
    cases m with
    | rollback i reason =>
      cases of_decide_eq_true hroll
      exact ⟨reason, hm⟩
    | _ => cases hroll
  · rintro ⟨reason, hm⟩
    exact ⟨_, hm, by simp⟩

/-- A confirmation writes no order, and publishes a rollback when it is given
up. -/
theorem callTossConfirmApi_spec (db : Db) (o : OrderId) (amount : Int) (id : TossOrderId)
    (k : Nat) (user : UserId) (answer : TossAnswer) (retriesLeft published : Bool) (i : OrderId) :
    (callTossConfirmApi db o amount id k user answer retriesLeft published).db.orders = db.orders ∧
      (hasRollback i (callTossConfirmApi db o amount id k user answer retriesLeft published).sent
        = true ↔ i ∈ if givesUp id amount retriesLeft answer && published then [o] else []) := by
  constructor
  · obtain ⟨logged, hmoves, _, hdb | ⟨_, hdb⟩⟩ :=
      callTossConfirmApi_commits db o amount id k user answer retriesLeft published
    · rw [hdb]
      exact hmoves.orders
    · rw [hdb]
      exact hmoves.orders
  · unfold callTossConfirmApi givesUp
    cases confirmDecision id amount retriesLeft answer with
    | finalize response reconciled => simp [hasRollback]
    | retry log => simp [hasRollback]
    | unresolved log => simp [hasRollback]
    | abort log reason =>
      cases published with
      | false => simp [hasRollback]
      | true => simp [hasRollback, eq_comm]

/-- The sweep publishes the rollback of each payment that it finds. -/
theorem slaLoop_hasRollback (db : Db) (now : Time) (createdAt : Nat → Time)
    (published : Nat → Bool) (rows : List (Nat × Payment)) (i : OrderId) :
    hasRollback i (slaLoop db now createdAt published rows).sent = true ↔
      i ∈ (rows.filter fun e => published e.1).map fun e => e.2.order := by
  induction rows with
  | nil => simp [slaLoop, hasRollback]
  | cons row rest ih =>
    obtain ⟨k, payment⟩ := row
    rw [slaLoop, hasRollback_append, Bool.or_eq_true, ih]
    by_cases hk : published k = true
    · have hone : hasRollback i (abortForSla db now (createdAt k) k payment.order
          (published k)).sent = true ↔ i = payment.order := by
        simp [abortForSla, hasRollback, hk, eq_comm]
      rw [hone, List.filter_cons_of_pos (by exact hk), List.map_cons, List.mem_cons]
    · have hone : ¬ hasRollback i (abortForSla db now (createdAt k) k payment.order
          (published k)).sent = true := by
        simp [abortForSla, hasRollback, hk]
      rw [List.filter_cons_of_neg (by exact hk)]
      exact or_iff_right hone

theorem recordRetried_orders {db saved : Db} {now : Time} {k : Nat} {payment : Payment}
    {attempt : Nat} {data : TossPayment}
    (h : recordRetried db now k payment attempt data = .ok saved) : saved.orders = db.orders := by
  unfold recordRetried at h
  obtain ⟨row, _, h⟩ := bind_eq_ok.mp h
  obtain ⟨written, hwritten, h⟩ := bind_eq_ok.mp h
  cases h
  exact (savePayment_payments hwritten).2.1

/-- The retry writes no order.  It publishes a rollback for the age of the
payment alone, and otherwise asks the provider. -/
theorem retryFailedPayment_spec (s : SlaShop) (now createdAt : Time) (blocked : Bool) (k : Nat)
    (o : OrderId) (attempt : Nat) (toss : Except TossPaymentError TossPayment) (published : Bool)
    (i : OrderId) :
    let out := retryFailedPayment s.db now createdAt blocked k o attempt toss published
    out.db.orders = s.db.orders ∧
      (hasRollback i out.sent = true ↔ i ∈
        if !blocked && s.hasPayment k && checkSlaTimeout now createdAt && published then [o]
        else []) ∧
      out.asked.isSome = s.retryAsks now createdAt blocked k := by
  unfold retryFailedPayment retryAsks hasPayment
  cases blocked with
  | true => simp [hasRollback]
  | false =>
    cases hget : s.db.payments.get? k with
    | none => simp [hasRollback]
    | some payment =>
      cases horder : s.db.orders.get? payment.order with
      | none => simp [hasRollback, horder]
      | some order =>
        cases hsla : checkSlaTimeout now createdAt with
        | true =>
          cases published with
          | false => simp [horder, abortForSla, hasRollback]
          | true => simp [horder, abortForSla, hasRollback, eq_comm]
        | false =>
          cases hpaid : payment.isPaid with
          | true => simp [horder, hpaid, hasRollback, Payment.asksToss]
          | false =>
            cases hkey : Payment.truthy payment.paymentKey with
            | none => simp [horder, hpaid, hkey, hasRollback, Payment.asksToss]
            | some key =>
              have hasks : payment.asksToss = true := by
                simp [Payment.asksToss, hpaid, hkey]
              cases toss with
              | error e =>
                cases published with
                | false => simp [horder, hpaid, hkey, hasks, hasRollback]
                | true => simp [horder, hpaid, hkey, hasks, hasRollback]
              | ok data =>
                cases hrec : recordRetried s.db now k payment attempt data with
                | error _ => simp [horder, hpaid, hkey, hrec, hasks, hasRollback]
                | ok saved =>
                  have horders := recordRetried_orders hrec
                  cases published with
                  | false => simp [horder, hpaid, hkey, hrec, hasks, horders, hasRollback]
                  | true => simp [horder, hpaid, hkey, hrec, hasks, horders, hasRollback]

theorem hasRollback_eq_false {o : OrderId} {ms : List Message}
    (h : ∀ m ∈ ms, ∀ reason, m ≠ .rollback o reason) : hasRollback o ms = false := by
  rw [Bool.eq_false_iff]
  intro hroll
  obtain ⟨reason, hm⟩ := hasRollback_iff.mp hroll
  exact h _ hm reason rfl

/-- A finalisation can only settle an order, and publishes no rollback. -/
theorem finalizePaymentConfirm_spec {db : Db} {now : Time} {response : TossPayment} {k : Nat}
    {user : UserId} {published : Bool} {out : Outcome FinalizeResult}
    (h : finalizePaymentConfirm db now response k user published = .ok out) :
    (∀ i, out.db.statusOf i = db.statusOf i ∨ out.db.statusOf i = some .paid) ∧
      ∀ i, hasRollback i out.sent = false := by
  obtain ⟨payment, _, hcase⟩ := finalizePaymentConfirm_ok h
  cases hcase with
  | alreadyProcessed _ => exact ⟨fun i => Or.inl rfl, fun i => rfl⟩
  | waiting _ _ _ hsaved =>
    exact ⟨fun i => Or.inl (statusOf_of_orders (savePayment_payments hsaved).2.1 i), fun i => rfl⟩
  | orderCanceled _ _ _ _ _ hsaved =>
    exact ⟨fun i => Or.inl (statusOf_of_orders (savePayment_payments hsaved).2.1 i), fun i => rfl⟩
  | success hpaid hstatus horder hcanceled hrow hsaved =>
    rename_i order row saved
    have horders : ((((saved.updateItems addSold order.items).saveOrder payment.order
        (Order.withPaid row.method now)).deactivateCarts user).log k .approve
          "결제 승인 완료").orders
        = db.orders.modify payment.order (Order.withPaid row.method now) := by
      rw [← (savePayment_payments hsaved).2.1]
      rfl
    refine ⟨fun i => ?_, fun i => ?_⟩
    · by_cases hi : i = payment.order
      · right
        unfold Db.statusOf
        rw [hi, horders, Table.get?_modify, if_pos rfl, horder]
        rfl
      · exact Or.inl (statusOf_modify_ne horders hi)
    · dsimp only
      split
      · rfl
      · rfl

/-! ## What a step does -/

/-- All that a step can do to the statuses of the orders, to the rollbacks that
are on the way and to the approvals. -/
inductive Stepped (createdAt : Nat → Time) (s : SlaShop) (now : Time) (e : SlaEvent)
    (t : SlaShop) : Prop
  | quiet : (∀ i, t.db.statusOf i = s.db.statusOf i) →
      (∀ i, t.rollsBack i = true ↔ s.rollsBack i = true ∨ i ∈ s.abortsFor createdAt now e) →
      t.approved = s.approvesFor createdAt now e ++ s.approved → Stepped createdAt s now e t
  /-- A finalisation, which publishes no rollback. -/
  | settle : s.abortsFor createdAt now e = [] → s.approvesFor createdAt now e = [] →
      (∀ i, t.db.statusOf i = s.db.statusOf i ∨ t.db.statusOf i = some .paid) →
      (∀ i, t.rollsBack i = s.rollsBack i) → t.approved = s.approved → Stepped createdAt s now e t
  | rollback {o : OrderId} : s.abortsFor createdAt now e = [] →
      s.approvesFor createdAt now e = [] → s.rollsBack o = true → s.isUnpaid o = true →
      (∀ i, t.db.statusOf i = if i = o then some .paymentFailed else s.db.statusOf i) →
      (∀ i, t.rollsBack i = s.rollsBack i) → t.approved = s.approved → Stepped createdAt s now e t

section

variable {createdAt : Nat → Time} {s t : SlaShop} {now : Time} {e : SlaEvent} {n : Nat}
  {d : Delivery} {approves : Bool}

/-- A step that does nothing. -/
theorem Stepped.idle (haborts : s.abortsFor createdAt now e = [])
    (happroves : s.approvesFor createdAt now e = []) : Stepped createdAt s now e s := by
  refine .quiet (fun _ => rfl) (fun i => ?_) ?_
  · simp [haborts]
  · simp [happroves]

/-- A call that publishes no rollback and asks nobody for an approval. -/
theorem Stepped.commit {db : Db} {sent : List Message}
    (haborts : s.abortsFor createdAt now e = [])
    (happroves : s.approvesFor createdAt now e = []) (horders : db.orders = s.db.orders)
    (hsent : ∀ i, hasRollback i sent = false) : Stepped createdAt s now e (s.commit db sent) := by
  refine .quiet (statusOf_of_orders horders) (fun i => ?_) ?_
  · show hasRollback i (s.messages ++ sent) = true ↔ _
    rw [hasRollback_append, hsent, Bool.or_false, haborts]
    simp [rollsBack]
  · rw [happroves]
    rfl

theorem isUnpaid_iff {o : OrderId} : s.isUnpaid o = true ↔
    ∃ order, s.db.orders.get? o = some order ∧ order.status.isUnpaid = true := by
  unfold isUnpaid Db.statusOf
  cases s.db.orders.get? o with
  | none => simp
  | some order => simp

/-- The rollback of an order that is still unpaid. -/
theorem rollback_unpaid {o : OrderId} (h : s.isUnpaid o = true) (now : Time) (reason : String)
    (i : OrderId) : (rollbackPaymentFailure s.db now o reason).2.statusOf i
      = if i = o then some .paymentFailed else s.db.statusOf i := by
  obtain ⟨order, hget, hunpaid⟩ := isUnpaid_iff.mp h
  have hback := rollbackPaymentFailure_unpaid hget hunpaid now reason
  obtain ⟨text, horders⟩ := hback.orders
  rw [statusOf_modify horders (fun _ => rfl)]
  unfold Db.statusOf
  rw [hget]
  rfl

theorem run_stepped_finalize {response : TossPayment} {k : Nat} {user : UserId}
    (hm : s.messages[n]? = some (.finalize response k user)) :
    Stepped createdAt s now (.deliver n d approves) (s.deliver now d approves
      (.finalize response k user)) := by
  have haborts : s.abortsFor createdAt now (.deliver n d approves) = [] := by
    simp [abortsFor, hm]
  have happroves : s.approvesFor createdAt now (.deliver n d approves) = [] := by
    simp [approvesFor, hm]
  simp only [deliver]
  cases hcall : finalizePaymentConfirm s.db now response k user d.published with
  | error err =>
    dsimp only
    split
    · exact .idle haborts happroves
    · exact .commit haborts happroves (alertFinalizeExhausted_movesPoints _ _).orders fun i => rfl
  | ok out =>
    obtain ⟨hstatus, hsent⟩ := finalizePaymentConfirm_spec hcall
    refine .settle haborts happroves hstatus (fun i => ?_) rfl
    show hasRollback i (s.messages ++ out.sent) = hasRollback i s.messages
    rw [hasRollback_append, hsent, Bool.or_false]

theorem run_stepped (createdAt : Nat → Time) (s : SlaShop) (now : Time) (e : SlaEvent) :
    Stepped createdAt s now e (s.run createdAt now e) := by
  cases e with
  | confirmAsync k paymentKey amount user published =>
    simp only [run]
    cases s.orderOf k with
    | none => exact .idle rfl rfl
    | some o =>
      dsimp only
      cases hcall : PaymentService.confirmPaymentAsync s.db now k paymentKey o amount user
          published with
      | error _ => exact .idle rfl rfl
      | ok out =>
        obtain ⟨payment, saved, _, _, _, hsaved, hdb, hsent⟩ :=
          PaymentService.confirmPaymentAsync_ok hcall
        refine .commit rfl rfl ?_ fun i => ?_
        · rw [hdb]
          exact (savePayment_payments hsaved).2.1
        · rw [hsent]
          cases published with
          | false => rfl
          | true => rfl
  | reconcile stall lookup =>
    obtain ⟨hmoves, hsends⟩ := reconcileLoop_spec lookup (s.db.payments.table.select fun _ p =>
      decide (p.status = .inProgress) && decide (p.updatedAt + stall < now)) s.db
    refine .commit rfl rfl hmoves.orders fun i => hasRollback_eq_false fun m hm reason => ?_
    obtain ⟨data, k, p, order, _, _, _, rfl⟩ := hsends m hm
    exact nofun
  | checkSlaViolations thresholdMinutes published =>
    refine .quiet (fun _ => rfl) (fun i => ?_) rfl
    show hasRollback i (s.messages ++ _) = true ↔ _
    rw [hasRollback_append, Bool.or_eq_true, checkSlaViolations, slaLoop_hasRollback]
    rfl
  | retryFailedPayment k o attempt blocked toss approves published =>
    obtain ⟨horders, hsent, hasked⟩ := retryFailedPayment_spec s now (createdAt k) blocked k o
      attempt toss published 0
    refine .quiet (statusOf_of_orders horders) (fun i => ?_) ?_
    · obtain ⟨_, hsent, _⟩ := retryFailedPayment_spec s now (createdAt k) blocked k o attempt toss
        published i
      show hasRollback i (s.messages ++ _) = true ↔ _
      rw [hasRollback_append, Bool.or_eq_true, hsent]
      rfl
    · simp only [run, approvesFor, ← hasked]
      rfl
  | deliver n d approves =>
    simp only [run]
    cases hm : s.messages[n]? with
    | none => exact .idle (by simp [abortsFor, hm]) (by simp [approvesFor, hm])
    | some m =>
      cases m with
      | confirm key o amount id k user =>
        obtain ⟨horders, _⟩ := callTossConfirmApi_spec s.db o amount id k user d.answer
          d.retriesLeft d.published 0
        refine .quiet (statusOf_of_orders horders) (fun i => ?_) ?_
        · obtain ⟨_, hsent⟩ := callTossConfirmApi_spec s.db o amount id k user d.answer
            d.retriesLeft d.published i
          show hasRollback i (s.messages ++ _) = true ↔ _
          rw [hasRollback_append, Bool.or_eq_true, hsent]
          simp [abortsFor, hm, rollsBack]
        · simp only [approvesFor, hm]
          rfl
      | finalize response k user => exact run_stepped_finalize hm
      | rollback o reason =>
        have haborts : s.abortsFor createdAt now (.deliver n d approves) = [] := by
          simp [abortsFor, hm]
        have happroves : s.approvesFor createdAt now (.deliver n d approves) = [] := by
          simp [approvesFor, hm]
        cases hunpaid : s.isUnpaid o with
        | true =>
          have hroll : s.rollsBack o = true :=
            hasRollback_iff.mpr ⟨reason, List.mem_of_getElem? hm⟩
          refine .rollback haborts happroves hroll hunpaid (rollback_unpaid hunpaid now reason)
            (fun i => ?_) rfl
          show hasRollback i (s.messages ++ []) = hasRollback i s.messages
          rw [List.append_nil]
        | false =>
          have hdb : (rollbackPaymentFailure s.db now o reason).2 = s.db := by
            rcases rollbackPaymentFailure_cases s.db now o reason with hdb | ⟨order, hback⟩
            · exact hdb
            · have hopen := isUnpaid_iff.mpr ⟨order, hback.found, hback.unpaid⟩
              rw [hunpaid] at hopen
              cases hopen
          exact .commit haborts happroves (congrArg Db.orders hdb) fun i => rfl
      | processOrder o cart usePoints =>
        exact .idle (by simp [abortsFor, hm]) (by simp [approvesFor, hm])
      | addPoints user o => exact .idle (by simp [abortsFor, hm]) (by simp [approvesFor, hm])

/-! ## Approved orders are spared -/

/-- No rollback is on the way for an unpaid order whose payment is approved. -/
def Spared (s : SlaShop) : Prop :=
  ∀ o ∈ s.approved, s.isUnpaid o = true → s.rollsBack o = false

theorem asksFirst_iff : s.asksFirst createdAt (now, e) = true ↔
    (∀ o ∈ s.abortsFor createdAt now e, s.isUnpaid o = true →
      o ∉ s.approvesFor createdAt now e ++ s.approved) ∧
    ∀ o ∈ s.approvesFor createdAt now e, s.isUnpaid o = true → s.rollsBack o = false := by
  unfold asksFirst
  simp only [Bool.and_eq_true, List.all_eq_true, Bool.or_eq_true, Bool.not_eq_true',
    ← Bool.not_eq_true, imp_iff_not_or, decide_eq_true_eq]

theorem isUnpaid_congr {o : OrderId} (h : t.db.statusOf o = s.db.statusOf o) :
    t.isUnpaid o = s.isUnpaid o := by
  unfold isUnpaid
  rw [h]

/-- An order that is unpaid after a step was unpaid before it. -/
theorem Stepped.unpaid_before (h : Stepped createdAt s now e t) {o : OrderId}
    (ho : t.isUnpaid o = true) : s.isUnpaid o = true := by
  cases h with
  | quiet hstatus _ _ => rwa [isUnpaid_congr (hstatus o)] at ho
  | settle _ _ hstatus _ _ =>
    rcases hstatus o with hsame | hpaid
    · rwa [isUnpaid_congr hsame] at ho
    · unfold isUnpaid at ho
      rw [hpaid] at ho
      cases ho
  | rollback _ _ _ _ hstatus _ _ =>
    have hs := hstatus o
    split at hs
    · unfold isUnpaid at ho
      rw [hs] at ho
      cases ho
    · rwa [isUnpaid_congr hs] at ho

theorem Spared.step (hs : s.Spared) (h : Stepped createdAt s now e t)
    (hok : s.asksFirst createdAt (now, e) = true) : t.Spared := by
  obtain ⟨haborts, happroves⟩ := asksFirst_iff.mp hok
  intro o ho hunpaid
  have hbefore := h.unpaid_before hunpaid
  cases h with
  | quiet _ hrolls happroved =>
    rw [happroved] at ho
    have hnot : ¬ (s.rollsBack o = true ∨ o ∈ s.abortsFor createdAt now e) := by
      rintro (hroll | habort)
      · have hfree : s.rollsBack o = false := by
          rcases List.mem_append.mp ho with hnew | hold
          · exact happroves o hnew hbefore
          · exact hs o hold hbefore
        rw [hfree] at hroll
        cases hroll
      · exact haborts o habort hbefore ho
    rw [← Bool.not_eq_true, hrolls]
    exact hnot
  | settle _ _ _ hrolls happroved =>
    rw [hrolls]
    exact hs o (happroved ▸ ho) hbefore
  | rollback _ _ _ _ _ hrolls happroved =>
    rw [hrolls]
    exact hs o (happroved ▸ ho) hbefore

/-- The condition is no stronger than needed to spare them. -/
theorem Spared.asksFirst (h : Stepped createdAt s now e t) (ht : t.Spared) :
    s.asksFirst createdAt (now, e) = true := by
  rw [asksFirst_iff]
  cases h with
  | quiet hstatus hrolls happroved =>
    have hfree : ∀ o ∈ s.approvesFor createdAt now e ++ s.approved, s.isUnpaid o = true →
        ¬ (s.rollsBack o = true ∨ o ∈ s.abortsFor createdAt now e) := by
      intro o ho hunpaid
      rw [← hrolls, Bool.not_eq_true]
      exact ht o (happroved ▸ ho) (by rwa [isUnpaid_congr (hstatus o)])
    refine ⟨fun o habort hunpaid ho => ?_, fun o ho hunpaid => ?_⟩
    · exact hfree o ho hunpaid (Or.inr habort)
    · rw [← Bool.not_eq_true]
      exact fun hroll => hfree o (List.mem_append_left _ ho) hunpaid (Or.inl hroll)
  | settle haborts happroves _ _ _ =>
    rw [haborts, happroves]
    exact ⟨fun o ho => (List.not_mem_nil ho).elim, fun o ho => (List.not_mem_nil ho).elim⟩
  | rollback haborts happroves _ _ _ _ _ =>
    rw [haborts, happroves]
    exact ⟨fun o ho => (List.not_mem_nil ho).elim, fun o ho => (List.not_mem_nil ho).elim⟩

theorem Spared.keepsApproved (hs : s.Spared) : s.KeepsApproved createdAt (now, e) := by
  intro o ho hfailed
  cases run_stepped createdAt s now e with
  | quiet hstatus _ _ => rwa [hstatus] at hfailed
  | settle _ _ hstatus _ _ =>
    rcases hstatus o with hsame | hpaid
    · rwa [hsame] at hfailed
    · rw [hpaid] at hfailed
      cases hfailed
  | rollback _ _ hrolls hunpaid hstatus _ _ =>
    rw [hstatus] at hfailed
    split at hfailed
    · rename_i heq
      subst heq
      rw [hs o ho hunpaid] at hrolls
      cases hrolls
    · exact hfailed

/-- When no delivery rolls an approved order back, there is none to deliver. -/
theorem spared_of_deliveries
    (h : ∀ later n d approves, s.KeepsApproved createdAt (later, .deliver n d approves)) :
    s.Spared := by
  intro o ho hunpaid
  rw [← Bool.not_eq_true]
  intro hroll
  obtain ⟨reason, hm⟩ := hasRollback_iff.mp hroll
  obtain ⟨n, hn⟩ := List.mem_iff_getElem?.mp hm
  have hfailed : (s.run createdAt 0 (.deliver n {} false)).db.statusOf o = some .paymentFailed := by
    simp only [run, hn, deliver]
    show (rollbackPaymentFailure s.db 0 o reason).2.statusOf o = _
    rw [rollback_unpaid hunpaid, if_pos rfl]
  have hbefore := h 0 n {} false o ho hfailed
  unfold isUnpaid at hunpaid
  rw [hbefore] at hunpaid
  cases hunpaid

end

end SlaShop

/-- In every run that asks first, no order whose payment the provider approved
becomes `payment_failed`.  At each point of such a run the next step asks first
exactly when no message that is on the way after it could roll such an order
back. -/
theorem sla_spares_approved {createdAt : Nat → Time} {db : Db} {messages : List Message}
    {es : List (Time × SlaEvent)} {t : SlaShop}
    (h : Run (SlaShop.step createdAt) (fun s e => s.asksFirst createdAt e = true)
      { db := db, messages := messages } es t) :
    Run (SlaShop.step createdAt) (fun s e => s.KeepsApproved createdAt e)
        { db := db, messages := messages } es t ∧
      ∀ now e, t.asksFirst createdAt (now, e) = true ↔ ∀ later n d approves,
        (t.run createdAt now e).KeepsApproved createdAt (later, .deliver n d approves) := by
  have hstart : SlaShop.Spared { db := db, messages := messages } := by
    intro o ho
    cases ho
  have hstep : ∀ s e u, SlaShop.Spared s → s.asksFirst createdAt e = true →
      SlaShop.step createdAt s e = some u → u.Spared := by
    intro s e u hs hok hu
    cases hu
    exact hs.step (SlaShop.run_stepped createdAt s e.1 e.2) hok
  have ht : t.Spared := h.invariant SlaShop.Spared hstart hstep
  refine ⟨h.mono_of_invariant SlaShop.Spared hstart hstep fun s e hs _ => hs.keepsApproved, ?_⟩
  intro now e
  have hstepped := SlaShop.run_stepped createdAt t now e
  constructor
  · intro hok later n d approves
    exact (ht.step hstepped hok).keepsApproved
  · intro hkeeps
    exact (SlaShop.spared_of_deliveries hkeeps).asksFirst hstepped

/-- A confirmed order that is paid with 3000 points and 10000 won, and its
payment. -/
def pointsPaidShop : Db :=
  { (World.shop .confirmed .ready).db with
    ledger := match PointService.addPoints Ledger.empty 0 7 3000 with
      | .error _ => Ledger.empty
      | .ok given => (PointService.usePointsFifo given.2 0 7 3000 .use (some 1)).2
    orders := Table.empty.insert
      { World.oneOrder .confirmed with usedPoints := 3000, finalAmount := 10000 }
    payments := PaymentTable.single { World.onePayment .ready with amount := 10000 } }

/-- The provider's approval of the payment. -/
def cashApproval : TossPayment := { World.approval with totalAmount := some 10000 }

/-- The payment is confirmed, and the provider approves it. -/
def approvedConfirm : List (Time × SlaEvent) :=
  [(1, .confirmAsync 1 "key" 10000 7 true),
    (2, .deliver 0 { answer := .confirmed cashApproval } true)]

/-- The finalisation comes first, then the sweep, the retry and the rollback
that the retry published. -/
def finalizedFirst : List (Time × SlaEvent) :=
  approvedConfirm ++ [(3, .deliver 1 {} false), (400, .checkSlaViolations none fun _ => true),
    (401, .retryFailedPayment 1 1 0 false (.ok cashApproval) false true),
    (402, .deliver 3 {} false)]

/-- The order is paid by the time that it could be rolled back. -/
theorem sla_spares_approved_finalized :
    ∃ t, Run (SlaShop.step fun _ => 0) (fun s e => s.asksFirst (fun _ => 0) e = true)
        { db := pointsPaidShop } finalizedFirst t ∧
      t.approved = [1] ∧ t.rollsBack 1 = true ∧ t.db.statusOf 1 = some .paid ∧
      Run (SlaShop.step fun _ => 0) (fun s e => s.KeepsApproved (fun _ => 0) e)
        { db := pointsPaidShop } finalizedFirst t := by
  obtain ⟨t, hrun, ht⟩ := Run.exists_of_execIf (by decide +kernel :
    (execIf (SlaShop.step fun _ => 0) (SlaShop.asksFirst fun _ => 0) { db := pointsPaidShop }
      finalizedFirst).any (fun t =>
        decide (t.approved = [1] ∧ t.rollsBack 1 = true ∧ t.db.statusOf 1 = some .paid)) = true)
  obtain ⟨happroved, hrolls, hpaid⟩ := of_decide_eq_true ht
  exact ⟨t, hrun, happroved, hrolls, hpaid, (sla_spares_approved hrun).1⟩

/-- The finalisation is still on its way when the sweep comes: the approved
order is rolled back, with its stock and its points. -/
theorem sweep_rolls_back_approved :
    ∃ s t, Run (SlaShop.step fun _ => 0) (fun _ _ => true = true) { db := pointsPaidShop }
        (approvedConfirm ++ [(400, .checkSlaViolations none fun _ => true)]) s ∧
      t = s.run (fun _ => 0) 401 (.deliver 2 {} false) ∧ s.approved = [1] ∧
      s.db.statusOf 1 = some .confirmed ∧ t.db.statusOf 1 = some .paymentFailed ∧
      (s.db.products.get? 1).map Product.stock = some 9 ∧
      (t.db.products.get? 1).map Product.stock = some 10 ∧
      s.db.ledger.points 7 = 0 ∧ t.db.ledger.points 7 = 3000 ∧
      ¬ s.KeepsApproved (fun _ => 0) (401, .deliver 2 {} false) := by
  obtain ⟨s, hrun, hs⟩ := Run.exists_of_execIf (by decide +kernel :
    (execIf (SlaShop.step fun _ => 0) (fun _ _ => true) { db := pointsPaidShop }
      (approvedConfirm ++ [(400, .checkSlaViolations none fun _ => true)])).any (fun s =>
        let t := s.run (fun _ => 0) 401 (.deliver 2 {} false)
        decide (s.approved = [1] ∧ s.db.statusOf 1 = some .confirmed ∧
          t.db.statusOf 1 = some .paymentFailed ∧
          (s.db.products.get? 1).map Product.stock = some 9 ∧
          (t.db.products.get? 1).map Product.stock = some 10 ∧
          s.db.ledger.points 7 = 0 ∧ t.db.ledger.points 7 = 3000)) = true)
  obtain ⟨happroved, hconfirmed, hfailed, hstock, hrestored, hpoints, hreturned⟩ :=
    of_decide_eq_true hs
  refine ⟨s, _, hrun, rfl, happroved, hconfirmed, hfailed, hstock, hrestored, hpoints, hreturned,
    fun hkeeps => ?_⟩
  have hbefore := hkeeps 1 (by rw [happroved]; exact List.mem_singleton.mpr rfl) hfailed
  rw [hconfirmed] at hbefore
  cases hbefore

end Shopping
