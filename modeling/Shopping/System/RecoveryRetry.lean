import Shopping.Payments.Recovery
import Shopping.System.SettlementPaths

/-!
# The recovery retry and the normal confirmation

`retry_failed_payment` asks the provider to confirm a payment and settles what
comes back.  `call_toss_confirm_api` with the finalisation after it does the
same for a payment that was confirmed in the normal way.  Both hand the
response to `finalize_payment_confirm`, but the retry has marked the payment
as paid before, so the finalisation takes it for one that is settled already.

`Observed` is what a customer and a seller see of either way, and
`RetryRefines` says that the retry leaves the same.  `retry_refines_iff` is
the exact condition.
-/

namespace Shopping

open PaymentRecovery

/-! ## What is compared -/

/-- The settlement and the carts. -/
structure Observed where
  settlement : Settlement
  carts : CartId → Option Cart

def Db.observed (db : Db) (k : Nat) (o : OrderId) : Observed where
  settlement := db.settlement k o
  carts := fun c => db.carts.get? c

/-- The same, but for the status of the payment. -/
def Observed.withPayment (s : Observed) (status : PaymentStatus) : Observed :=
  { s with settlement := { s.settlement with payment := some status } }

/-- Delivers an earning task. -/
def deliverEarning (now : Time) (db : Db) : Message → Db
  | .addPoints user o => committed db (PointTasks.addPointsAfterPayment db now user o)
  | _ => db

/-- Delivers a finalisation, and then what it publishes. -/
def deliverFinalize (now later : Time) (db : Db) : Message → Db
  | .finalize response k user =>
    match PaymentTasks.finalizePaymentConfirm db now response k user true with
    | .ok out => out.sent.foldl (deliverEarning later) out.db
    | .error _ => db
  | _ => db

/-- `retry_failed_payment`, and then what it publishes. -/
def settledByRetry (db : Db) (retried now later createdAt : Time) (k : Nat) (o : OrderId)
    (attempt : Nat) (data : TossPayment) : Db :=
  let out := retryFailedPayment db retried createdAt false k o attempt (.ok data) true
  out.sent.foldl (deliverFinalize now later) out.db

/-- `call_toss_confirm_api`, and then what it publishes. -/
def settledByChain (db : Db) (now later : Time) (k : Nat) (payment : Payment) (user : UserId)
    (data : TossPayment) (retriesLeft : Bool) : Db :=
  let out := PaymentTasks.callTossConfirmApi db payment.order payment.amount payment.tossOrderId k
    user (.confirmed data) retriesLeft true
  out.sent.foldl (deliverFinalize now later) out.db

/-- The retry of the payment `k` refines its normal confirmation. -/
structure RetryRefines (db : Db) (retry : Retry) (k : Nat) (payment : Payment) (order : Order)
    (data : TossPayment) (retried confirmed : Db) : Prop where
  refused : retry.asked.isSome = true → payment.status.admitsConfirm = true
  same : retry.asked.isSome = true →
    retried.observed k payment.order = confirmed.observed k payment.order
  paid : retry.asked.isSome = true → data.status = some .done → order.status = .confirmed →
    retried.statusOf payment.order = some .paid
  deposit : retry.asked.isSome = true → data.status = some .waitingForDeposit →
    (retried.payments.get? k).map Payment.status ≠ some .done

/-! ## When they agree -/

/-- The retry asks the provider about the payment. -/
def Payment.asksToss (p : Payment) : Bool := !p.isPaid && (Payment.truthy p.paymentKey).isSome

/-- `mark_as_paid` with the response goes through. -/
def recordsPaid (db : Db) (k : Nat) (p : Payment) (response : TossPayment) : Bool :=
  response.fitsPaid && !db.payments.conflicts k { p with paymentKey := response.paymentKey }

/-- A settlement of the order would change nothing but its payment. -/
structure NothingToSettle (db : Db) (o : OrderId) (order : Order) : Prop where
  paid : order.status = .paid
  sold : ∀ j p, db.products.get? j = some p → quantityOf j order.items = 0
  carts : ∀ c cart, db.carts.get? c = some cart →
    ¬ (cart.user = some order.user ∧ cart.isActive = true)
  earned : order.finalAmount ≤ 0 ∨ 0 < order.earnedPoints ∨
    PointService.earnExists db.ledger o = true ∨
    earnPoints order.totalAmount (db.membership order.user).earnRate ≤ 0

/-- What has to hold of a payment that the retry asks about. -/
def RetryAgrees (db : Db) (k : Nat) (payment : Payment) (order : Order) (data : TossPayment) :
    Prop :=
  payment.status.admitsConfirm = true ∧
    if data.status = some .waitingForDeposit then
      recordsPaid db k payment data = false ∧ recordsResponse db k payment data = false
    else
      order.status ≠ .confirmed ∧
        (recordsPaid db k payment data = false ∨ order.status = .canceled ∨
          NothingToSettle db payment.order order)

section

variable {db saved : Db} {k : Nat} {payment row : Payment} {order : Order} {data : TossPayment}

theorem recordsPaid_iff (db : Db) (now : Time) (k : Nat) (payment : Payment)
    (data : TossPayment) : recordsPaid db k payment data = true ↔
      ∃ row saved, payment.markAsPaid now data = .ok row ∧ db.savePayment k row = .ok saved := by
  unfold recordsPaid
  rw [Bool.and_eq_true, Bool.not_eq_true']
  constructor
  · intro ⟨hfits, hfree⟩
    obtain ⟨row, hrow⟩ := (Payment.markAsPaid_returns payment now data).mpr hfits
    rw [← conflicts_of_markAsPaid hrow] at hfree
    obtain ⟨saved, hsaved⟩ := (savePayment_returns db k row).mpr hfree
    exact ⟨row, saved, hrow, hsaved⟩
  · intro ⟨row, saved, hrow, hsaved⟩
    rw [← conflicts_of_markAsPaid hrow]
    exact ⟨(Payment.markAsPaid_returns payment now data).mp ⟨row, hrow⟩,
      (savePayment_returns db k row).mp ⟨saved, hsaved⟩⟩

/-- A response that settles is recorded as `mark_as_paid` writes it. -/
theorem recordsResponse_eq_recordsPaid (hst : data.status ≠ some .waitingForDeposit)
    (horder : db.orders.get? payment.order = some order) :
    recordsResponse db k payment data = recordsPaid db k payment data := by
  unfold recordsResponse recordsPaid Payment.rekeyed
  rw [if_neg hst, if_neg hst, horder, Option.isSome_some, Bool.true_and]

/-- A write of the payment alone. -/
theorem observed_savePayment (hsaved : db.savePayment k row = .ok saved) (logType : LogType)
    (message : String) (o : OrderId) :
    (saved.log k logType message).observed k o = (db.observed k o).withPayment row.status := by
  obtain ⟨payments, hsave, rfl⟩ := Db.savePayment_eq_ok.mp hsaved
  have hrow : payments.get? k = some row := by
    rw [PaymentTable.get?_save hsave, if_pos rfl]
  unfold Db.observed Db.settlement Observed.withPayment
  rw [Db.log_payments, hrow]
  rfl

/-! ## The retry -/

variable {retried now later createdAt : Time}

/-- The retry asks whatever the status of an unpaid payment is. -/
theorem retryFailedPayment_asked (hget : db.payments.get? k = some payment)
    (horder : db.orders.get? payment.order = some order)
    (hsla : checkSlaTimeout retried createdAt = false) (o : OrderId) (attempt : Nat)
    (toss : Except TossPaymentError TossPayment) (published : Bool) :
    (retryFailedPayment db retried createdAt false k o attempt toss published).asked.isSome
      = payment.asksToss := by
  unfold retryFailedPayment Payment.asksToss
  simp only [hget, horder, hsla, Option.bind_some, Option.map_some, Bool.false_eq_true, if_false]
  by_cases hpaid : payment.isPaid = true
  · rw [if_pos hpaid, hpaid]
    rfl
  · have hunpaid : payment.isPaid = false := Bool.eq_false_iff.mpr hpaid
    rw [if_neg hpaid, hunpaid]
    cases Payment.truthy payment.paymentKey with
    | none => rfl
    | some key =>
      cases toss with
      | error e =>
        dsimp only
        split
        · rfl
        · rfl
      | ok data =>
        dsimp only
        split
        · rfl
        · rfl

/-- The retry changes the payment alone: the finalisation after it finds the
payment paid. -/
theorem settledByRetry_observed (hget : db.payments.get? k = some payment)
    (horder : db.orders.get? payment.order = some order)
    (hsla : checkSlaTimeout retried createdAt = false) (hasks : payment.asksToss = true)
    (o : OrderId) (attempt : Nat) :
    (settledByRetry db retried now later createdAt k o attempt data).observed k payment.order
      = if recordsPaid db k payment data = true
        then (db.observed k payment.order).withPayment .done
        else db.observed k payment.order := by
  unfold Payment.asksToss at hasks
  rw [Bool.and_eq_true, Bool.not_eq_true', Option.isSome_iff_exists] at hasks
  obtain ⟨hpaid, key, hkey⟩ := hasks
  unfold settledByRetry retryFailedPayment
  simp only [hget, horder, hsla, hpaid, hkey, Option.bind_some, Option.map_some,
    Bool.false_eq_true, if_false, if_true]
  by_cases hrec : recordsPaid db k payment data = true
  · rw [if_pos hrec]
    obtain ⟨row, saved, hrow, hsaved⟩ := (recordsPaid_iff db retried k payment data).mp hrec
    have hdone := (Payment.markAsPaid_spec hrow).1
    have hwritten : saved.payments.get? k = some row := by
      obtain ⟨hsave, _⟩ := savePayment_payments hsaved
      rw [PaymentTable.get?_save hsave, if_pos rfl]
    have hsettled : row.isPaid = true := by
      unfold Payment.isPaid
      rw [hdone]
      rfl
    have hrecorded : recordRetried db retried k payment attempt data = .ok (saved.log k .approve
        ("결제 재시도 성공 (attempt=" ++ toString attempt ++ ")")) := by
      unfold recordRetried
      rw [hrow, ok_bind, hsaved, ok_bind]
    have hlocked : (saved.log k .approve ("결제 재시도 성공 (attempt=" ++ toString attempt
        ++ ")")).getPayment k = .ok row := Db.getPayment_eq_ok.mpr hwritten
    simp only [hrecorded, List.foldl_cons, List.foldl_nil, deliverFinalize,
      PaymentTasks.finalizePaymentConfirm, hlocked, ok_bind, hsettled, if_true]
    rw [observed_savePayment hsaved, hdone]
  · rw [if_neg hrec]
    cases hcall : recordRetried db retried k payment attempt data with
    | error e => rfl
    | ok saved =>
      unfold recordRetried at hcall
      obtain ⟨row, hrow, hcall⟩ := bind_eq_ok.mp hcall
      obtain ⟨saved, hsaved, _⟩ := bind_eq_ok.mp hcall
      exact absurd ((recordsPaid_iff db retried k payment data).mpr ⟨row, saved, hrow, hsaved⟩) hrec

/-! ## The normal confirmation -/

theorem addPointsAfterPayment_carts {db db' : Db} {user : UserId} {o : OrderId}
    {result : PointTasks.EarnResult}
    (h : PointTasks.addPointsAfterPayment db now user o = .ok (result, db')) :
    db'.carts = db.carts := by
  unfold PointTasks.addPointsAfterPayment at h
  obtain ⟨order, _, h⟩ := bind_eq_ok.mp h
  split at h
  · cases h
    rfl
  · split at h
    · cases h
      rfl
    · dsimp only at h
      split at h
      · cases h
        rfl
      · split at h
        · cases h
        · cases h
          unfold PaymentTasks.logOnPayment
          split
          · rfl
          · rfl

theorem committed_addPoints_carts (db : Db) (now : Time) (user : UserId) (o : OrderId) :
    (committed db (PointTasks.addPointsAfterPayment db now user o)).carts = db.carts := by
  cases hcall : PointTasks.addPointsAfterPayment db now user o with
  | error e => rfl
  | ok out => exact addPointsAfterPayment_carts hcall

/-- What the earning task books after a settlement. -/
def bookedPoints (db : Db) (o : OrderId) (order : Order) : Int :=
  if order.finalAmount ≤ 0 ∨ 0 < order.earnedPoints ∨ PointService.earnExists db.ledger o = true
    then 0
  else earnPoints order.totalAmount (db.membership order.user).earnRate

/-- The order is settled: paid, sold, earned and its carts put away. -/
def observedSettled (db : Db) (o : OrderId) (order : Order) : Observed where
  settlement := settledWith db o order (bookedPoints db o order)
  carts := fun c => (db.deactivateCarts order.user).carts.get? c

/-- A virtual account is recorded, and nothing else. -/
theorem settledByChain_issued (hget : db.payments.get? k = some payment)
    (hunpaid : payment.isPaid = false) (hst : data.status = some .waitingForDeposit)
    (user : UserId) (retriesLeft : Bool) :
    (settledByChain db now later k payment user data retriesLeft).observed k payment.order
      = if recordsResponse db k payment data = true
        then (db.observed k payment.order).withPayment .waitingForDeposit
        else db.observed k payment.order := by
  have hdone : payment.status ≠ .done := by simpa [Payment.isPaid] using hunpaid
  unfold settledByChain
  simp only [PaymentTasks.callTossConfirmApi, PaymentTasks.confirmDecision, List.foldl_cons,
    List.foldl_nil, deliverFinalize]
  cases hcall : PaymentTasks.finalizePaymentConfirm db now data k user true with
  | error e =>
    have hrec : ¬ recordsResponse db k payment data = true := by
      intro hrec
      obtain ⟨out, hout⟩ :=
        (finalizePaymentConfirm_returns hget hdone now data user true).mpr hrec
      rw [hcall] at hout
      cases hout
    rw [if_neg hrec]
  | ok out =>
    rw [if_pos ((finalizePaymentConfirm_returns hget hdone now data user true).mp ⟨out, hcall⟩)]
    obtain ⟨found, hfound, hcase⟩ := PaymentTasks.finalizePaymentConfirm_ok hcall
    obtain rfl : payment = found := Option.some.inj (hget.symm.trans hfound)
    cases hcase with
    | alreadyProcessed hpaid => exact absurd hpaid hdone
    | waiting _ _ hrow hsaved =>
      show (Db.log _ _ _ _).observed k payment.order = _
      rw [observed_savePayment hsaved, (Payment.markAsWaitingForDeposit_spec hrow).1]
    | orderCanceled _ hother => exact absurd hst hother
    | success _ hother => exact absurd hst hother

/-- The payment is recorded, and the order settled unless it is canceled. -/
theorem settledByChain_paid (hget : db.payments.get? k = some payment)
    (horder : db.orders.get? payment.order = some order) (hunpaid : payment.isPaid = false)
    (hst : data.status ≠ some .waitingForDeposit) (retriesLeft : Bool) :
    (settledByChain db now later k payment order.user data retriesLeft).observed k payment.order
      = if recordsPaid db k payment data = true then
          if order.status = .canceled then (db.observed k payment.order).withPayment .done
          else observedSettled db payment.order order
        else db.observed k payment.order := by
  have hdone : payment.status ≠ .done := by simpa [Payment.isPaid] using hunpaid
  unfold settledByChain
  simp only [PaymentTasks.callTossConfirmApi, PaymentTasks.confirmDecision, List.foldl_cons,
    List.foldl_nil, deliverFinalize]
  by_cases hrec : recordsPaid db k payment data = true
  · rw [if_pos hrec]
    obtain ⟨row, saved, hrow, hsaved⟩ := (recordsPaid_iff db now k payment data).mp hrec
    have hp := paid_of_saved hrow hsaved order payment.order row.method order.user
    have hcarts : saved.carts = db.carts := by
      obtain ⟨payments, _, rfl⟩ := Db.savePayment_eq_ok.mp hsaved
      rfl
    have hdeactivated : (((saved.updateItems addSold order.items).saveOrder payment.order
        (Order.withPaid row.method now)).deactivateCarts order.user).carts
          = (db.deactivateCarts order.user).carts := by
      unfold Db.deactivateCarts
      rw [← hcarts]
      rfl
    generalize hbase : ((saved.updateItems addSold order.items).saveOrder payment.order
      (Order.withPaid row.method now)).deactivateCarts order.user = paid at hp hdeactivated
    simp only [PaymentTasks.finalizePaymentConfirm, Db.getPayment_eq_ok.mpr hget,
      Db.getOrder_eq_ok.mpr horder, ok_bind, hunpaid, Bool.false_eq_true, if_false, if_neg hst,
      hrow, hsaved, hbase]
    by_cases hcanceled : order.status = .canceled
    · rw [if_pos hcanceled, if_pos hcanceled]
      show (Db.log _ _ _ _).observed k payment.order = _
      rw [observed_savePayment hsaved, (Payment.markAsPaid_spec hrow).1]
    · rw [if_neg hcanceled, if_neg hcanceled]
      by_cases hfinal : 0 < order.finalAmount
      · have hbooked : bookedPoints db payment.order order
            = if 0 < order.earnedPoints ∨ PointService.earnExists db.ledger payment.order = true
                then 0
              else earnPoints order.totalAmount (db.membership order.user).earnRate := by
          unfold bookedPoints
          simp only [not_le.mpr hfinal, false_or]
        simp only [decide_eq_true hfinal, Bool.true_and, if_true, List.foldl_cons, List.foldl_nil,
          deliverEarning]
        unfold Db.observed observedSettled
        rw [hp.settlement_task horder hfinal, hbooked, committed_addPoints_carts]
        congr 1
        funext c
        rw [← hdeactivated]
        rfl
      · have hbooked : bookedPoints db payment.order order = 0 := by
          unfold bookedPoints
          rw [if_pos (Or.inl (not_lt.mp hfinal))]
        simp only [decide_eq_false hfinal, Bool.false_and, Bool.false_eq_true, if_false,
          List.foldl_nil]
        have hsettled : (paid.log k .approve "결제 승인 완료").settlement k payment.order
            = settledWith db payment.order order 0 := hp.settlement horder rfl rfl rfl rfl le_rfl
        unfold Db.observed observedSettled
        rw [hbooked, ← hdeactivated, hsettled]
        rfl
  · rw [if_neg hrec]
    cases hcall : PaymentTasks.finalizePaymentConfirm db now data k order.user true with
    | error e => rfl
    | ok out =>
      rw [← recordsResponse_eq_recordsPaid hst horder] at hrec
      exact absurd ((finalizePaymentConfirm_returns hget hdone now data order.user true).mp
        ⟨out, hcall⟩) hrec

/-! ## The comparison -/

theorem statusOf_eq {o : OrderId} (horder : db.orders.get? o = some order) :
    db.statusOf o = some order.status := by
  unfold Db.statusOf
  rw [horder]
  rfl

theorem bookedPoints_nonpos {o : OrderId} : bookedPoints db o order ≤ 0 ↔
    order.finalAmount ≤ 0 ∨ 0 < order.earnedPoints ∨ PointService.earnExists db.ledger o = true ∨
      earnPoints order.totalAmount (db.membership order.user).earnRate ≤ 0 := by
  unfold bookedPoints
  by_cases h : order.finalAmount ≤ 0 ∨ 0 < order.earnedPoints ∨
      PointService.earnExists db.ledger o = true
  · rw [if_pos h]
    constructor
    · intro _
      exact h.imp_right fun h => h.imp_right Or.inl
    · intro _
      exact le_rfl
  · rw [if_neg h]
    constructor
    · intro hn
      exact Or.inr (Or.inr (Or.inr hn))
    · intro hany
      obtain hf | he | hx | hn := hany
      · exact absurd (Or.inl hf) h
      · exact absurd (Or.inr (Or.inl he)) h
      · exact absurd (Or.inr (Or.inr hx)) h
      · exact hn

/-- A settlement changes the payment alone exactly when there is nothing left
to settle. -/
theorem observedSettled_eq_iff {o : OrderId} (horder : db.orders.get? o = some order) :
    observedSettled db o order = (db.observed k o).withPayment .done ↔
      NothingToSettle db o order := by
  have hcarts : ∀ c, (db.deactivateCarts order.user).carts.get? c = (db.carts.get? c).map
      fun x => if x.user = some order.user ∧ x.isActive = true then { x with isActive := false }
        else x := fun c => Table.get?_mapRows db.carts _ c
  constructor
  · intro h
    have hsettled := congrArg Observed.settlement h
    have hstatus : some OrderStatus.paid = db.statusOf o := congrArg Settlement.order hsettled
    have hsold := congrArg Settlement.soldCount hsettled
    have hrows : db.ledger.earnRowsOf o ++ (if 0 < bookedPoints db o order then
        [bookedPoints db o order] else []) = db.ledger.earnRowsOf o :=
      congrArg Settlement.earnRows hsettled
    have hput := congrArg Observed.carts h
    rw [statusOf_eq horder] at hstatus
    refine ⟨(Option.some.inj hstatus).symm, fun j p hp => ?_, fun c cart hc hactive => ?_, ?_⟩
    · have hj : (db.products.get? j).map (fun p => p.soldCount + quantityOf j order.items)
          = (db.products.get? j).map Product.soldCount := congrFun hsold j
      rw [hp] at hj
      have hsum : p.soldCount + quantityOf j order.items = p.soldCount := Option.some.inj hj
      omega
    · have hsame : (db.deactivateCarts order.user).carts.get? c = db.carts.get? c :=
        congrFun hput c
      rw [hcarts, hc, Option.map_some, if_pos hactive] at hsame
      have hoff : false = cart.isActive := congrArg Cart.isActive (Option.some.inj hsame)
      rw [hactive.2] at hoff
      cases hoff
    · rw [← bookedPoints_nonpos]
      by_contra hpos
      rw [if_pos (not_le.mp hpos)] at hrows
      have hlen := congrArg List.length hrows
      simp at hlen
  · intro h
    have hn : ¬ 0 < bookedPoints db o order := not_lt.mpr (bookedPoints_nonpos.mpr h.earned)
    unfold observedSettled settledWith Db.observed Db.settlement Observed.withPayment
    simp only [statusOf_eq horder, h.paid, horder, if_neg hn,
      if_neg fun hc : 0 < bookedPoints db o order ∧ _ => hn hc.1, add_zero, List.append_nil,
      Option.map_some, hcarts]
    congr 1
    · congr 1
      funext j
      cases hp : db.products.get? j with
      | none => rfl
      | some p =>
        show some (p.soldCount + quantityOf j order.items) = some p.soldCount
        rw [h.sold j p hp, add_zero]
    · funext c
      cases hc : db.carts.get? c with
      | none => rfl
      | some cart =>
        rw [Option.map_some, if_neg (h.carts c cart hc)]

theorem withPayment_payment (s : Observed) (status : PaymentStatus) :
    (s.withPayment status).settlement.payment = some status := rfl

/-- A virtual account: the retry would mark the payment as paid. -/
theorem retry_agrees_issued (hget : db.payments.get? k = some payment)
    (hunpaid : payment.isPaid = false) (hadmits : payment.status.admitsConfirm = true) :
    (if recordsPaid db k payment data = true then (db.observed k payment.order).withPayment .done
        else db.observed k payment.order)
      = (if recordsResponse db k payment data = true then
          (db.observed k payment.order).withPayment .waitingForDeposit
        else db.observed k payment.order) ↔
      recordsPaid db k payment data = false ∧ recordsResponse db k payment data = false := by
  have hstatus : (db.observed k payment.order).settlement.payment = some payment.status := by
    show (db.payments.get? k).map Payment.status = _
    rw [hget]
    rfl
  have hdone : payment.status ≠ .done := by simpa [Payment.isPaid] using hunpaid
  have hwaiting : payment.status ≠ .waitingForDeposit := by
    have hopen := (open_of_admits hadmits).2.1
    simpa [Payment.isWaitingForDeposit] using hopen
  cases recordsPaid db k payment data with
  | true =>
    simp only [if_true, Bool.true_eq_false, false_and, iff_false]
    intro h
    have hpayment := congrArg (fun s => s.settlement.payment) h
    rw [withPayment_payment] at hpayment
    split at hpayment
    · cases hpayment
    · rw [hstatus] at hpayment
      exact hdone (Option.some.inj hpayment).symm
  | false =>
    cases recordsResponse db k payment data with
    | true =>
      simp only [Bool.false_eq_true, if_false, if_true, Bool.true_eq_false, and_false, iff_false]
      intro h
      have hpayment := congrArg (fun s => s.settlement.payment) h
      rw [withPayment_payment, hstatus] at hpayment
      exact hwaiting (Option.some.inj hpayment)
    | false => exact ⟨fun _ => ⟨rfl, rfl⟩, fun _ => rfl⟩

/-- A settlement: the retry leaves it to a finalisation that does nothing. -/
theorem retry_agrees_paid (horder : db.orders.get? payment.order = some order) :
    (if recordsPaid db k payment data = true then (db.observed k payment.order).withPayment .done
        else db.observed k payment.order)
      = (if recordsPaid db k payment data = true then
          if order.status = .canceled then (db.observed k payment.order).withPayment .done
          else observedSettled db payment.order order
        else db.observed k payment.order) ↔
      recordsPaid db k payment data = false ∨ order.status = .canceled ∨
        NothingToSettle db payment.order order := by
  cases recordsPaid db k payment data with
  | false => exact ⟨fun _ => Or.inl rfl, fun _ => rfl⟩
  | true =>
    simp only [if_true, Bool.true_eq_false, false_or]
    by_cases hcanceled : order.status = .canceled
    · rw [if_pos hcanceled]
      exact ⟨fun _ => Or.inl hcanceled, fun _ => rfl⟩
    · rw [if_neg hcanceled, eq_comm, observedSettled_eq_iff horder]
      exact ⟨Or.inr, fun h => h.resolve_left hcanceled⟩

/-- The retry never moves the order. -/
theorem settledByRetry_order (hget : db.payments.get? k = some payment)
    (horder : db.orders.get? payment.order = some order)
    (hsla : checkSlaTimeout retried createdAt = false) (hasks : payment.asksToss = true)
    (o : OrderId) (attempt : Nat) :
    (settledByRetry db retried now later createdAt k o attempt data).statusOf payment.order
      = some order.status := by
  have hretry : (settledByRetry db retried now later createdAt k o attempt data).observed k
      payment.order = _ := settledByRetry_observed hget horder hsla hasks o attempt
  have horders := congrArg (fun s => s.settlement.order) hretry
  have hsame : ((if recordsPaid db k payment data = true then
      (db.observed k payment.order).withPayment .done
      else db.observed k payment.order) : Observed).settlement.order
        = db.statusOf payment.order := by
    split
    · rfl
    · rfl
  exact (horders.trans hsame).trans (statusOf_eq horder)

/-- The retry refines the normal confirmation of the same response exactly
when it does not ask, or when the confirmation is not refused and has nothing
left to do: a virtual account that neither way can record, or a response for
an order that a settlement would not change. -/
theorem retry_refines_iff (hget : db.payments.get? k = some payment)
    (horder : db.orders.get? payment.order = some order)
    (hst : data.status = some .done ∨ data.status = some .waitingForDeposit)
    (hsla : checkSlaTimeout retried createdAt = false) (o : OrderId) (attempt : Nat)
    (now₁ later₁ now₂ later₂ : Time) (retriesLeft : Bool) :
    RetryRefines db (retryFailedPayment db retried createdAt false k o attempt (.ok data) true) k
        payment order data (settledByRetry db retried now₁ later₁ createdAt k o attempt data)
        (settledByChain db now₂ later₂ k payment order.user data retriesLeft) ↔
      (payment.asksToss = true → RetryAgrees db k payment order data) := by
  have hasked := retryFailedPayment_asked hget horder hsla o attempt (.ok data) true
  by_cases hasks : payment.asksToss = true
  · have hunpaid : payment.isPaid = false := by
      unfold Payment.asksToss at hasks
      rw [Bool.and_eq_true, Bool.not_eq_true'] at hasks
      exact hasks.1
    have hretry : (settledByRetry db retried now₁ later₁ createdAt k o attempt data).observed k
        payment.order = _ := settledByRetry_observed hget horder hsla hasks o attempt
    have hkept : (settledByRetry db retried now₁ later₁ createdAt k o attempt data).statusOf
        payment.order = _ := settledByRetry_order hget horder hsla hasks o attempt
    rw [hasks] at hasked
    constructor
    · intro h _
      have hadmits := h.refused hasked
      have hsame := h.same hasked
      rw [hretry] at hsame
      refine ⟨hadmits, ?_⟩
      obtain hst | hst := hst
      · have hpaid : data.status ≠ some .waitingForDeposit := by
          rw [hst]
          decide
        rw [settledByChain_paid hget horder hunpaid hpaid, retry_agrees_paid horder] at hsame
        rw [if_neg hpaid]
        refine ⟨fun hconfirmed => ?_, hsame⟩
        have hmoved := h.paid hasked hst hconfirmed
        rw [hkept, hconfirmed] at hmoved
        cases hmoved
      · rw [settledByChain_issued hget hunpaid hst, retry_agrees_issued hget hunpaid hadmits]
          at hsame
        rwa [if_pos hst]
    · intro h
      obtain ⟨hadmits, hagrees⟩ := h hasks
      obtain hst | hst := hst
      · have hpaid : data.status ≠ some .waitingForDeposit := by
          rw [hst]
          decide
        rw [if_neg hpaid] at hagrees
        constructor
        · intro _
          exact hadmits
        · intro _
          rw [hretry, settledByChain_paid hget horder hunpaid hpaid]
          exact (retry_agrees_paid horder).mpr hagrees.2
        · intro _ _ hconfirmed
          exact absurd hconfirmed hagrees.1
        · intro _ hissued
          exact absurd hissued hpaid
      · rw [if_pos hst] at hagrees
        constructor
        · intro _
          exact hadmits
        · intro _
          rw [hretry, settledByChain_issued hget hunpaid hst]
          exact (retry_agrees_issued hget hunpaid hadmits).mpr hagrees
        · intro _ hdone
          rw [hst] at hdone
          cases hdone
        · intro _ _
          show (Db.observed _ k payment.order).settlement.payment ≠ _
          rw [hretry, hagrees.1, if_neg Bool.false_ne_true]
          show (db.payments.get? k).map Payment.status ≠ _
          rw [hget]
          intro hc
          have hdone : payment.status = .done := Option.some.inj hc
          unfold Payment.isPaid at hunpaid
          rw [hdone] at hunpaid
          cases hunpaid
  · rw [Bool.not_eq_true] at hasks
    rw [hasks] at hasked
    constructor
    · intro _ hc
      rw [hasks] at hc
      cases hc
    · intro _
      constructor
      all_goals
        intro hc
        rw [hasked] at hc
        cases hc

end

/-! ## A confirmation whose answer was lost -/

/-- The payment is in progress under its key. -/
def unansweredShop (order : OrderStatus) : Db :=
  { (World.shop order .inProgress).db with
    payments := PaymentTable.single
      { World.onePayment .inProgress with paymentKey := some "key" } }

/-- The order was canceled meanwhile: both ways only mark the payment. -/
theorem retry_refines_iff_canceled :
    RetryRefines (unansweredShop .canceled)
      (retryFailedPayment (unansweredShop .canceled) 5 0 false 1 1 1 (.ok World.approval) true) 1
      { World.onePayment .inProgress with paymentKey := some "key" } (World.oneOrder .canceled)
      World.approval
      (settledByRetry (unansweredShop .canceled) 5 6 7 0 1 1 1 World.approval)
      (settledByChain (unansweredShop .canceled) 6 7 1
        { World.onePayment .inProgress with paymentKey := some "key" } 7 World.approval true) := by
  have hget : (unansweredShop .canceled).payments.get? 1
      = some { World.onePayment .inProgress with paymentKey := some "key" } := by decide
  have horder : (unansweredShop .canceled).orders.get? 1 = some (World.oneOrder .canceled) := by
    decide
  apply (retry_refines_iff hget horder (Or.inl rfl) (by decide) 1 1 6 7 6 7 true).mpr
  intro _
  exact ⟨by decide, by decide, Or.inr (Or.inl rfl)⟩

/-- A virtual account in place of an approval. -/
def issuedAccount : TossPayment :=
  { World.approval with status := some .waitingForDeposit }

/-- The confirmation that the customer sends, and the refusal that the
provider answers. -/
def refusedConfirmation : List (Time × Event) :=
  [(1, .confirmAsync 1 "key" 13000 7 true),
    (2, .deliver 0 { answer := .refused ⟨"REJECT_CARD_PAYMENT", "한도 초과", 400⟩ (.error
      ⟨"NOT_FOUND_PAYMENT", "없음", 404⟩) })]

/-- The answer of the provider to the confirmation was lost: the retry leaves
the confirmed order unpaid and unsold, and takes a virtual account for a paid
one.  It asks for a payment that the provider has refused, too. -/
theorem retry_leaves_order_unsettled :
    (∃ w payment order, Run World.step (fun _ _ => true = true) (World.shop .confirmed .ready)
        [(1, .confirmAsync 1 "key" 13000 7 true)] w ∧
      w.db.payments.get? 1 = some payment ∧ w.db.orders.get? payment.order = some order ∧
      ¬ RetryRefines w.db
        (retryFailedPayment w.db 5 0 false 1 1 1 (.ok World.approval) true) 1 payment order
        World.approval (settledByRetry w.db 5 6 7 0 1 1 1 World.approval)
        (settledByChain w.db 6 7 1 payment 7 World.approval true) ∧
      ((settledByChain w.db 6 7 1 payment 7 World.approval true).products.get? 1).map
        Product.soldCount = some 1 ∧
      ((settledByRetry w.db 5 6 7 0 1 1 1 World.approval).products.get? 1).map
        Product.soldCount = some 0 ∧
      ((settledByRetry w.db 5 6 7 0 1 1 1 issuedAccount).payments.get? 1).map Payment.status
        = some .done) ∧
    ∃ w, Run World.step (fun _ _ => true = true) (World.shop .confirmed .ready)
        refusedConfirmation w ∧
      (w.db.payments.get? 1).map Payment.status = some .aborted ∧
      (retryFailedPayment w.db 5 0 false 1 1 1 (.ok World.approval) true).asked
        = some ⟨"key", .orderNumber 1, 13000⟩ := by
  constructor
  · obtain ⟨w, hrun, hstate⟩ := Run.exists_of_execIf (by decide :
      (execIf World.step (fun _ _ => true) (World.shop .confirmed .ready)
        [(1, .confirmAsync 1 "key" 13000 7 true)]).any (fun w =>
          (w.db.payments.get? 1).any fun payment =>
            (w.db.orders.get? payment.order).any fun order => decide
              (payment.order = 1 ∧ order.status = .confirmed ∧
                (retryFailedPayment w.db 5 0 false 1 1 1 (.ok World.approval)
                  true).asked.isSome = true ∧
                (settledByRetry w.db 5 6 7 0 1 1 1 World.approval).statusOf 1
                  = some .confirmed ∧
                ((settledByChain w.db 6 7 1 payment 7 World.approval true).products.get? 1).map
                  Product.soldCount = some 1 ∧
                ((settledByRetry w.db 5 6 7 0 1 1 1 World.approval).products.get? 1).map
                  Product.soldCount = some 0 ∧
                ((settledByRetry w.db 5 6 7 0 1 1 1 issuedAccount).payments.get? 1).map
                  Payment.status = some .done)) = true)
    obtain ⟨payment, hget, hstate⟩ := (Option.any_eq_true _ _).mp hstate
    obtain ⟨order, horder, hstate⟩ := (Option.any_eq_true _ _).mp hstate
    obtain ⟨ho, hconfirmed, hasked, hkept, hsold, hunsold, hissued⟩ := of_decide_eq_true hstate
    refine ⟨w, payment, order, hrun, hget, horder, fun h => ?_, hsold, hunsold, hissued⟩
    have hpaid := h.paid hasked rfl hconfirmed
    rw [ho, hkept] at hpaid
    cases hpaid
  · obtain ⟨w, hrun, hstate⟩ := Run.exists_of_execIf (by decide :
      (execIf World.step (fun _ _ => true) (World.shop .confirmed .ready)
        refusedConfirmation).any (fun w => decide
          ((w.db.payments.get? 1).map Payment.status = some .aborted ∧
            (retryFailedPayment w.db 5 0 false 1 1 1 (.ok World.approval) true).asked
              = some ⟨"key", .orderNumber 1, 13000⟩)) = true)
    exact ⟨w, hrun, of_decide_eq_true hstate⟩

end Shopping
