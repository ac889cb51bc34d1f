import Shopping.System.Steps

/-!
# Redelivery to a closed payment

`finalize_payment_confirm` is delivered again by the broker, by its own
retries and by the reconciliation.  Its one guard is `is_paid`: a payment that
was closed after its settlement is not paid, and takes the old approval again.

`Charge.Closed` is the invariant.  Every function that closes payments keeps
it, and the finalisation breaks it exactly when the approval can be recorded.
-/

namespace Shopping

/-- The payment of the charge is closed. -/
def Charge.Closed (c : Charge) : Prop := c.payment.any PaymentStatus.isClosed = true

/-- The moves that open no payment: all but the requests, the confirmations
and the settlements. -/
def Act.keepsClosed : Act → Bool
  | .confirmAsync | .confirmSync | .finalize | .webhookDone | .webhookWaiting | .pointsOnly
  | .request => false
  | .cancelOrder closed => closed.isClosed
  | _ => true

theorem Charge.Closed.move {act : Act} {c c' : Charge} (h : Move act c c') (hc : c.Closed)
    (hact : act.keepsClosed = true) : c'.Closed := by
  cases h with
  | placeOrder => exact hc
  | orderConfirmed => exact hc
  | orderFailed => exact hc
  | abandonOrder => exact hc
  | abort => rfl
  | canceled hp => rfl
  | fail hq =>
    rcases hq with hq | hq
    · rw [hq]
      rfl
    · rw [hq]
      rfl
  | rollback hs =>
    rename_i s p c
    cases p with
    | none => exact hc
    | some q =>
      show q.rolledBack.isClosed = true
      unfold PaymentStatus.rolledBack
      split
      · rfl
      · exact hc
  | cancelOrder hs hp =>
    rename_i s p closed c
    cases p with
    | none => exact hc
    | some q => exact hact
  | cancelPayment hs => rfl
  | cancelVirtualAccount hs => rfl
  | pointsReturned hs => exact hc
  | cashReturned hs hq =>
    rcases hq with hq | hq
    · rw [hq]
      rfl
    · rw [hq]
      rfl
  | _ => cases hact

/-! ## One redelivery -/

/-- What a redelivery has to leave alone: the status and the canceled amount
of the payment `k`, the statuses of the orders, the sold counts and the
points. -/
structure Untouched (k : Nat) (db db' : Db) : Prop where
  payment : (db'.payments.get? k).map Payment.status = (db.payments.get? k).map Payment.status
  canceled : (db'.payments.get? k).map Payment.canceledAmount
    = (db.payments.get? k).map Payment.canceledAmount
  orders : ∀ o, db'.statusOf o = db.statusOf o
  sold : ∀ j, (db'.products.get? j).map Product.soldCount
    = (db.products.get? j).map Product.soldCount
  points : ∀ u, db'.ledger.points u = db.ledger.points u

theorem Untouched.of_tables {k : Nat} {db db' : Db} (hp : db'.payments = db.payments)
    (ho : db'.orders = db.orders) (hs : db'.products = db.products)
    (hl : db'.ledger = db.ledger) : Untouched k db db' := by
  constructor
  · rw [hp]
  · rw [hp]
  · exact statusOf_of_orders ho
  · intro j
    rw [hs]
  · intro u
    rw [hl]

/-- The event delivers an approval to a closed payment that can record it. -/
def reopens (w : World) : Event → Bool
  | .deliver n _ =>
    match w.messages[n]? with
    | some (.finalize response k _) => (w.db.payments.get? k).any fun p =>
        p.status.isClosed && recordsResponse w.db k p response
    | _ => false
  | _ => false

theorem PaymentStatus.ne_done_of_isClosed {p : PaymentStatus} (h : p.isClosed = true) :
    p ≠ .done := by
  intro hc
  rw [hc] at h
  cases h

/-- A finalisation that returns leaves a payment settled or waiting. -/
theorem finalizePaymentConfirm_status {db : Db} {now : Time} {response : TossPayment} {k : Nat}
    {user : UserId} {published : Bool} {out : Outcome PaymentTasks.FinalizeResult}
    (h : PaymentTasks.finalizePaymentConfirm db now response k user published = .ok out) :
    ∃ q, out.db.payments.get? k = some q ∧ q.status.isClosed = false := by
  obtain ⟨payment, hget, hcase⟩ := PaymentTasks.finalizePaymentConfirm_ok h
  have hrow : ∀ {row : Payment} {saved db' : Db}, db.savePayment k row = .ok saved →
      db'.payments = saved.payments → db'.payments.get? k = some row := by
    intro row saved db' hsaved hpay
    rw [hpay, PaymentTable.get?_save (savePayment_payments hsaved).1, if_pos rfl]
  cases hcase with
  | alreadyProcessed hpaid => exact ⟨payment, hget, by rw [hpaid]; rfl⟩
  | waiting hpaid hstatus hmark hsaved =>
    exact ⟨_, hrow hsaved rfl, by rw [(Payment.markAsWaitingForDeposit_spec hmark).1]; rfl⟩
  | orderCanceled hpaid hstatus horder hcanceled hmark hsaved =>
    exact ⟨_, hrow hsaved rfl, by rw [(Payment.markAsPaid_spec hmark).1]; rfl⟩
  | success hpaid hstatus horder hcanceled hmark hsaved =>
    exact ⟨_, hrow hsaved rfl, by rw [(Payment.markAsPaid_spec hmark).1]; rfl⟩

theorem redelivery_untouched_iff {w : World} {now : Time} {n k : Nat} {d : Delivery}
    {response : TossPayment} {user : UserId} {p : Payment}
    (hmsg : w.messages[n]? = some (.finalize response k user))
    (hget : w.db.payments.get? k = some p) (hclosed : p.status.isClosed = true) :
    Untouched k w.db (w.run now (.deliver n d)).db ↔ reopens w (.deliver n d) = false := by
  have hdone := PaymentStatus.ne_done_of_isClosed hclosed
  have hreturns := finalizePaymentConfirm_returns hget hdone now response user d.published
  have hreopens : reopens w (.deliver n d) = recordsResponse w.db k p response := by
    simp [reopens, hmsg, hget, hclosed]
  have hrun : w.run now (.deliver n d) = w.deliver now d (.finalize response k user) := by
    simp only [World.run, hmsg]
  rw [hreopens, hrun]
  cases hfin : PaymentTasks.finalizePaymentConfirm w.db now response k user d.published with
  | ok out =>
    rw [hreturns.mp ⟨out, hfin⟩]
    refine ⟨fun h => ?_, fun h => absurd h (by decide)⟩
    obtain ⟨q, hq, hopen⟩ := finalizePaymentConfirm_status hfin
    have hst := h.payment
    simp only [World.deliver, hfin, World.resolve_db, World.commit_db] at hst
    rw [hq, hget] at hst
    simp only [Option.map_some, Option.some.injEq] at hst
    rw [hst, hclosed] at hopen
    cases hopen
  | error e =>
    have hno : recordsResponse w.db k p response = false := by
      rw [← Bool.not_eq_true, ← hreturns]
      rintro ⟨out, hout⟩
      rw [hfin] at hout
      cases hout
    rw [hno]
    refine ⟨fun _ => rfl, fun _ => ?_⟩
    -- The task raised: nothing is written but the log of the last retry.
    simp only [World.deliver, hfin]
    split
    · exact .of_tables rfl rfl rfl rfl
    · have halert := PaymentTasks.alertFinalizeExhausted_movesPoints w.db k
      exact .of_tables halert.payments halert.orders halert.products
        (PaymentTasks.alertFinalizeExhausted_ledger w.db k)

/-! ## Runs -/

/-- Every event but those that request, confirm or settle a payment anew. -/
def closingEvent : Event → Bool
  | .createRequest _ _ _ | .confirmAsync _ _ _ _ _ | .confirmSync _ _ _ | .webhookDone _
  | .webhookWaiting _ | .completePointsOnly _ _ => false
  | _ => true

theorem Does.keepsClosed {w : World} {e : Event} {act : Act} {o : OrderId} (h : Does w e act o)
    (he : closingEvent e = true) (hfin : act ≠ .finalize) : act.keepsClosed = true := by
  cases h with
  | customer hread hcustomer =>
    rcases hcustomer with hc | hc | hc
    · rw [hc]
      rfl
    · rw [hc]
      rfl
    · rw [hc]
      rfl
  | finalize => exact absurd rfl hfin
  | _ => first | rfl | cases he

/-- Outside of a redelivery that is recorded, every event keeps what is
closed. -/
theorem closed_step {w : World} {now : Time} {e : Event} (hreads : ReadsKept w)
    (he : closingEvent e = true) (hre : reopens w e = false) {o : OrderId}
    (hc : (w.db.charge o).Closed) : ((w.run now e).db.charge o).Closed := by
  rcases World.run_refines now (fun _ _ _ => hreads) with hsame | ⟨act, i, hdoes, hacts⟩
  · rw [hsame o]
    exact hc
  · by_cases ho : o = i
    · subst ho
      refine hc.move hacts.move (hdoes.keepsClosed he ?_)
      intro hact
      subst hact
      cases hdoes with
      | customer _ hcustomer => simp at hcustomer
      | finalize hmsg hget hdone hrecords =>
        unfold Charge.Closed at hc
        rw [charge_of_payment hget] at hc
        simp only [Option.any_some] at hc
        simp [reopens, hmsg, hget, hc, hrecords] at hre
    · rw [hacts.frame o ho]
      exact hc

theorem closingEvent_ne_createRequest {e : Event} (he : closingEvent e = true)
    (n : Nat) (method : String) (key : Option String) : e ≠ .createRequest n method key := by
  intro hc
  subst hc
  cases he

/-- In every run in which no redelivered approval is recorded on a closed
payment: what was closed stays closed; and the next redelivery to a closed
payment leaves it and its order alone exactly when it cannot be recorded. -/
theorem closed_payment_stays {w₀ w : World} {es : List (Time × Event)} (hreads : ReadsKept w₀)
    (h : Run World.step (fun w e => (closingEvent e.2 && !reopens w e.2) = true) w₀ es w) :
    (∀ o, (w₀.db.charge o).Closed → (w.db.charge o).Closed) ∧
    (∀ now n d response k user p, w.messages[n]? = some (.finalize response k user) →
      w.db.payments.get? k = some p → p.status.isClosed = true →
      (Untouched k w.db (w.run now (.deliver n d)).db ↔ reopens w (.deliver n d) = false)) := by
  constructor
  · refine (h.invariant (fun w => ReadsKept w ∧
      ∀ o, (w₀.db.charge o).Closed → (w.db.charge o).Closed) ⟨hreads, fun _ => id⟩ ?_).2
    intro t e u ⟨hkept, hclosed⟩ hok hstep
    cases hstep
    rw [Bool.and_eq_true, Bool.not_eq_true'] at hok
    exact ⟨World.run_readsKept hkept fun n m key => closingEvent_ne_createRequest hok.1 n m key,
      fun o ho => closed_step hkept hok.1 hok.2 (hclosed o ho)⟩
  · intro now n d response k user p hmsg hget hclosed
    exact redelivery_untouched_iff hmsg hget hclosed

/-! ## A canceled payment and its old approval -/

/-- The order was paid and its payment canceled, with the approval still to be
delivered: as it came, and with a null for the method. -/
def canceledShop : World :=
  { World.shop .canceled .canceled with
    messages := [.finalize World.approval 1 7, .finalize { World.approval with method := .null } 1 7] }

theorem closed_payment_stays_canceled :
    ∃ w, Run World.step (fun w e => (closingEvent e.2 && !reopens w e.2) = true) canceledShop
        [(1, .deliver 1 { retriesLeft := false }), (2, .cancelOrder 1)] w ∧
      (w.db.charge 1).Closed ∧
      Untouched 1 w.db (w.run 3 (.deliver 1 {})).db ∧
      ¬ Untouched 1 w.db (w.run 3 (.deliver 0 {})).db := by
  obtain ⟨w, hrun, hstate⟩ := Run.exists_of_execIf (by decide :
    (execIf World.step (fun w e => closingEvent e.2 && !reopens w e.2) canceledShop
      [(1, .deliver 1 { retriesLeft := false }), (2, .cancelOrder 1)]).any (fun w => decide
        (w.messages = canceledShop.messages ∧ reopens w (.deliver 0 {}) = true ∧
          reopens w (.deliver 1 {}) = false) && (w.db.payments.get? 1).any fun p =>
            decide (p.status.isClosed = true)) = true)
  rw [Bool.and_eq_true, decide_eq_true_eq, Option.any_eq_true] at hstate
  obtain ⟨⟨hmsgs, hreopens, hrefused⟩, p, hget, hclosed⟩ := hstate
  have hreads : ReadsKept canceledShop := World.shop_readsKept .canceled .canceled
  have h := closed_payment_stays hreads hrun
  have hstart : (canceledShop.db.charge 1).Closed := by
    unfold Charge.Closed
    decide
  refine ⟨w, hrun, h.1 1 hstart, ?_, fun hc => ?_⟩
  · exact (h.2 3 1 {} _ 1 7 p (by rw [hmsgs]; rfl) hget (of_decide_eq_true hclosed)).mpr hrefused
  · have hno := (h.2 3 0 {} _ 1 7 p (by rw [hmsgs]; rfl) hget (of_decide_eq_true hclosed)).mp hc
    rw [hreopens] at hno
    cases hno

/-- A confirmation, its finalisation, and the cancellation of the payment. -/
def canceledAfterApproval : List (Time × Event) :=
  [(1, .confirmAsync 1 "key" 13000 7 true),
    (2, .deliver 0 { answer := .confirmed World.approval }),
    (3, .deliver 1 {}),
    (4, .cancelPayment 1 7 (.ok { status := some .canceled }))]

/-- The approval that is delivered again turns the canceled payment back to
done. -/
theorem redelivery_reopens_canceled_payment :
    ∃ w, Run World.step (fun _ _ => true = true) (World.shop .confirmed .ready)
        canceledAfterApproval w ∧
      w.messages[1]? = some (.finalize World.approval 1 7) ∧
      (w.db.charge 1).payment = some .canceled ∧
      ((w.run 5 (.deliver 1 {})).db.charge 1).payment = some .done := by
  obtain ⟨w, hrun, hstate⟩ := Run.exists_of_execIf (by decide :
    (execIf World.step (fun _ _ => true) (World.shop .confirmed .ready)
      canceledAfterApproval).any (fun w => decide
        (w.messages[1]? = some (.finalize World.approval 1 7) ∧
          (w.db.charge 1).payment = some .canceled ∧
          ((w.run 5 (.deliver 1 {})).db.charge 1).payment = some .done)) = true)
  exact ⟨w, hrun, of_decide_eq_true hstate⟩

end Shopping
