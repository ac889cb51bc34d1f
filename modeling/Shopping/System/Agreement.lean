import Shopping.System.Steps

/-!
# Orders and payments agree

`Charge.Agrees` is the invariant of the payment protocol: the payment of a
paid order is settled, and the order of a settled payment waits for nothing.
The second half is what makes the rollback harmless, which looks at the order
alone.

The settling functions and the cancellations keep it.  The functions that
record a failure look at no status when they write (`_mark_confirm_aborted`,
`payment_fail`) or at one they read before (`PaymentFailView.post`,
`handle_payment_failed`), so they keep it as long as they find the payment
unsettled.
-/

namespace Shopping

/-- A paid order has a settled payment, and an unpaid order has none. -/
structure Charge.Agrees (c : Charge) : Prop where
  settled : c.order = some .paid → c.payment = some .done
  waiting : ∀ s, c.order = some s → s.isUnpaid = true → c.payment ≠ some .done

/-- The moves of the payment protocol. -/
def Act.pays : Act → Bool
  | .confirmAsync | .confirmSync | .abort | .finalize | .webhookDone | .webhookCanceled
  | .webhookWaiting | .fail _ | .rollback | .cancelPayment => true
  | _ => false

/-- The moves that record a failure without a look at the payment. -/
def Act.failsPayment : Act → Bool
  | .abort | .fail _ => true
  | _ => false

/-- The moves that take a payment back from the customer's or the provider's
side. -/
def Act.unsettles : Act → Bool
  | .webhookCanceled | .webhookWaiting | .cancelPayment => true
  | _ => false

theorem PaymentStatus.ne_done_of_admitsConfirm {p : PaymentStatus} (h : p.admitsConfirm = true) :
    p ≠ .done := by
  intro hc
  rw [hc] at h
  cases h

theorem PaymentStatus.ne_done_of_isOpen {p : PaymentStatus} (h : p.isOpen = true) :
    p ≠ .done := by
  intro hc
  rw [hc] at h
  cases h

namespace Charge.Agrees

/-- A payment that is not settled moves to another such status, below an
order that stays. -/
theorem of_unsettled {o : Option OrderStatus} {p q : PaymentStatus} {c c' : Bool}
    (h : Agrees ⟨o, some p, c⟩) (hp : p ≠ .done) (hq : q ≠ .done) : Agrees ⟨o, some q, c'⟩ := by
  constructor
  · intro hpaid
    exact absurd (Option.some.inj (h.settled hpaid)) hp
  · intro s _ _ hdone
    exact hq (Option.some.inj hdone)

/-- A paid order with its settled payment. -/
theorem paid (c : Bool) : Agrees ⟨some .paid, some .done, c⟩ := by
  constructor
  · intro _
    rfl
  · intro s hs hunpaid
    cases hs
    cases hunpaid

/-- An order that is canceled or failed agrees with every payment. -/
theorem of_released {s : OrderStatus} {p : Option PaymentStatus} {c : Bool}
    (hs : s.isReleased = true) : Agrees ⟨some s, p, c⟩ := by
  constructor
  · intro hpaid
    cases hpaid
    cases hs
  · intro s' hs' hunpaid
    cases hs'
    cases s <;> simp_all [OrderStatus.isReleased, OrderStatus.isUnpaid]

/-- Every move of the protocol keeps the agreement, but for a failure that is
recorded on a settled payment. -/
theorem move {act : Act} {c c' : Charge} (h : Move act c c') (hc : c.Agrees)
    (hact : act.pays = true) (hfail : act.failsPayment = true → c.payment ≠ some .done) :
    c'.Agrees := by
  cases h with
  | confirmAsync hp _ =>
    exact hc.of_unsettled (PaymentStatus.ne_done_of_admitsConfirm hp) (by decide)
  | syncIssued hp => exact hc.of_unsettled (PaymentStatus.ne_done_of_admitsConfirm hp) (by decide)
  | syncPaid _ => exact paid _
  | abort =>
    exact hc.of_unsettled (fun hp => hfail rfl (congrArg some hp)) (by decide)
  | finalizeIssued hp => exact hc.of_unsettled hp (by decide)
  | finalizeCanceled _ => exact of_released rfl
  | finalizePaid _ _ => exact paid _
  | doneCanceled _ => exact of_released rfl
  | donePaid _ _ => exact paid _
  | canceled _ => exact of_released rfl
  | reverted =>
    constructor
    · intro hpaid
      cases hpaid
    · intro s _ _ hdone
      cases hdone
  | issued hp => exact hc.of_unsettled (PaymentStatus.ne_done_of_isOpen hp) (by decide)
  | fail hq =>
    refine hc.of_unsettled (fun hp => hfail rfl (congrArg some hp)) ?_
    rcases hq with hq | hq
    · rw [hq]
      decide
    · rw [hq]
      decide
  | rollback _ => exact of_released rfl
  | cancelPayment _ => exact of_released rfl
  | _ => cases hact

/-- A settled payment is left by the cancellations and by the revert of a
deposit alone. -/
theorem leaves_done {act : Act} {c c' : Charge} (h : Move act c c') (hc : c.Agrees)
    (hact : act.pays = true) (hfail : act.failsPayment = true → c.payment ≠ some .done)
    (hdone : c.payment = some .done) (hleft : c'.payment ≠ some .done) :
    act.unsettles = true := by
  cases h with
  | confirmAsync hp _ =>
    exact absurd (Option.some.inj hdone) (PaymentStatus.ne_done_of_admitsConfirm hp)
  | syncIssued hp =>
    exact absurd (Option.some.inj hdone) (PaymentStatus.ne_done_of_admitsConfirm hp)
  | syncPaid _ => exact absurd rfl hleft
  | abort => exact absurd hdone (hfail rfl)
  | finalizeIssued hp => exact absurd (Option.some.inj hdone) hp
  | finalizeCanceled _ => exact absurd rfl hleft
  | finalizePaid _ _ => exact absurd rfl hleft
  | doneCanceled _ => exact absurd rfl hleft
  | donePaid _ _ => exact absurd rfl hleft
  | canceled _ => rfl
  | reverted => rfl
  | issued _ => rfl
  | fail _ => exact absurd hdone (hfail rfl)
  | rollback hunpaid => exact absurd hdone (hc.waiting _ rfl hunpaid)
  | cancelPayment _ => rfl
  | _ => cases hact

end Charge.Agrees

/-! ## Runs -/

/-- The events of the payment protocol. -/
def paymentEvent (w : World) : Event → Bool
  | .confirmAsync _ _ _ _ _ | .confirmSync _ _ _ | .detectOrphaned _ | .reconcile _ _
  | .readForFailView _ _ _ _ | .readForFailCallback _ _ | .readForFailWebhook _
  | .writeFailure _ _ | .webhookDone _ | .webhookCanceled _ | .webhookWaiting _
  | .cancelPayment _ _ _ => true
  | .deliver n _ =>
    match w.messages[n]? with
    | some (.confirm _ _ _ _ _ _) | some (.finalize _ _ _) | some (.rollback _ _) => true
    | _ => false
  | _ => false

/-- The events that may take a settled payment back. -/
def unsettlingEvent : Event → Bool
  | .webhookCanceled _ | .webhookWaiting _ | .cancelPayment _ _ _ => true
  | _ => false

/-- The decision gives the payment up. -/
def PaymentTasks.ConfirmDecision.isAbort : PaymentTasks.ConfirmDecision → Bool
  | .abort _ _ => true
  | _ => false

/-- The event records a failure on a settled payment. -/
def failsSettled (w : World) : Event → Bool
  | .writeFailure n _ =>
    match w.failureReads[n]? with
    | some seen => writesFailure w.db seen && (w.db.payments.get? seen.row.1).any Payment.isPaid
    | none => false
  | .deliver n d =>
    match w.messages[n]? with
    | some (.confirm _ o amount id _ _) =>
      (PaymentTasks.confirmDecision id amount d.retriesLeft d.answer).isAbort &&
        decide ((w.db.charge o).payment = some .done)
    | _ => false
  | _ => false

theorem Does.pays {w : World} {e : Event} {act : Act} {o : OrderId} (h : Does w e act o)
    (he : paymentEvent w e = true) : act.pays = true := by
  cases h <;> first | rfl | simp_all [paymentEvent]

theorem Does.unsettles {w : World} {e : Event} {act : Act} {o : OrderId} (h : Does w e act o)
    (he : paymentEvent w e = true) (hact : act.unsettles = true) : unsettlingEvent e = true := by
  cases h <;> first | rfl | simp_all [paymentEvent, Act.unsettles]

/-- Outside of a failure on a settled payment, the failure moves find none. -/
theorem Does.failsPayment {w : World} {e : Event} {act : Act} {o : OrderId} (h : Does w e act o)
    (he : failsSettled w e = false) (hact : act.failsPayment = true) :
    (w.db.charge o).payment ≠ some .done := by
  cases h with
  | abort hmsg habort =>
    simpa [failsSettled, hmsg, habort, PaymentTasks.ConfirmDecision.isAbort] using he
  | fail hread hget hwrites =>
    rw [charge_of_payment hget]
    simpa [failsSettled, hread, hwrites, hget, Payment.isPaid] using he
  | customer _ hcustomer =>
    rcases hcustomer with hc | hc | hc
    · rw [hc] at hact
      cases hact
    · rw [hc] at hact
      cases hact
    · rw [hc] at hact
      cases hact
  | _ => cases hact

theorem paymentEvent_ne_createRequest {w : World} {e : Event} (he : paymentEvent w e = true)
    (n : Nat) (method : String) (key : Option String) : e ≠ .createRequest n method key := by
  intro hc
  subst hc
  cases he

theorem agrees_step {w : World} {now : Time} {e : Event} (hreads : ReadsKept w)
    (hI : ∀ o, (w.db.charge o).Agrees) (he : paymentEvent w e = true)
    (hfail : failsSettled w e = false) (o : OrderId) : ((w.run now e).db.charge o).Agrees := by
  rcases World.run_refines now (fun _ _ _ => hreads) with hsame | ⟨act, i, hdoes, hacts⟩
  · rw [hsame o]
    exact hI o
  · exact hacts.invariant hI
      (fun c hmove => (hI i).move hmove (hdoes.pays he) (hdoes.failsPayment hfail)) o

/-- In every run of the payment protocol that records no failure on a settled
payment, orders and payments agree. -/
theorem agrees_run {w₀ w : World} {es : List (Time × Event)} (hreads : ReadsKept w₀)
    (hI : ∀ o, (w₀.db.charge o).Agrees)
    (h : Run World.step (fun w e => (paymentEvent w e.2 && !failsSettled w e.2) = true) w₀ es w) :
    ReadsKept w ∧ ∀ o, (w.db.charge o).Agrees := by
  refine h.invariant (fun w => ReadsKept w ∧ ∀ o, (w.db.charge o).Agrees) ⟨hreads, hI⟩ ?_
  intro t e u ⟨hkept, hagrees⟩ hok hstep
  cases hstep
  rw [Bool.and_eq_true, Bool.not_eq_true'] at hok
  exact ⟨World.run_readsKept hkept fun n m key => paymentEvent_ne_createRequest hok.1 n m key,
    agrees_step hkept hagrees hok.1 hok.2⟩

/-- In every world that such a run reaches, the payment of a paid order is
settled; and the next event takes a settled payment back only when it is a
cancellation of the payment, by the shop or by the provider, or the revert of a
deposit. -/
theorem paid_payment_done {w₀ w : World} {es : List (Time × Event)} (hreads : ReadsKept w₀)
    (hI : ∀ o, (w₀.db.charge o).Agrees)
    (h : Run World.step (fun w e => (paymentEvent w e.2 && !failsSettled w e.2) = true) w₀ es w) :
    (∀ o, (w.db.charge o).order = some .paid → (w.db.charge o).payment = some .done) ∧
    (∀ now e o, paymentEvent w e = true → failsSettled w e = false →
      (w.db.charge o).payment = some .done →
      ((w.run now e).db.charge o).payment ≠ some .done → unsettlingEvent e = true) := by
  obtain ⟨hkept, hagrees⟩ := agrees_run hreads hI h
  refine ⟨fun o => (hagrees o).settled, fun now e o he hfail hdone hleft => ?_⟩
  rcases World.run_refines now (fun _ _ _ => hkept) with hsame | ⟨act, i, hdoes, hacts⟩
  · rw [hsame o] at hleft
    exact absurd hdone hleft
  · by_cases ho : o = i
    · subst ho
      exact hdoes.unsettles he ((hagrees o).leaves_done hacts.move (hdoes.pays he)
        (hdoes.failsPayment hfail) hdone hleft)
    · rw [hacts.frame o ho] at hleft
      exact absurd hdone hleft

/-- The order is confirmed and its payment is ready. -/
theorem agrees_shop (o : OrderId) : ((World.shop .confirmed .ready).db.charge o).Agrees := by
  rw [World.shop_charge]
  split
  · constructor
    · intro hpaid
      cases hpaid
    · intro s _ _ hdone
      cases hdone
  · constructor
    · intro hpaid
      cases hpaid
    · intro s _ _ hdone
      cases hdone

/-- A confirmation that the provider approves, up to its finalisation, and a
failure report that was read before it and not written. -/
def approvedPayment : List (Time × Event) :=
  [(1, .confirmAsync 1 "key" 13000 7 true),
    (2, .readForFailCallback (.orderNumber 1) (some "취소")),
    (3, .deliver 0 { answer := .confirmed World.approval }),
    (4, .deliver 1 {})]

theorem paid_payment_done_approved :
    ∃ w, Run World.step (fun w e => (paymentEvent w e.2 && !failsSettled w e.2) = true)
        (World.shop .confirmed .ready) approvedPayment w ∧
      (w.db.charge 1).payment = some .done ∧
      ((w.run 5 (.cancelPayment 1 7 (.ok { status := some .canceled }))).db.charge 1).payment
        ≠ some .done ∧
      unsettlingEvent (.cancelPayment 1 7 (.ok { status := some .canceled })) = true := by
  obtain ⟨w, hrun, hstate⟩ := Run.exists_of_execIf (by decide :
    (execIf World.step (fun w e => paymentEvent w e.2 && !failsSettled w e.2)
      (World.shop .confirmed .ready) approvedPayment).any (fun w => decide
        ((w.db.charge 1).order = some .paid ∧
          ((w.run 5 (.cancelPayment 1 7 (.ok { status := some .canceled }))).db.charge 1).payment
            ≠ some .done)) = true)
  obtain ⟨hpaid, hleft⟩ := of_decide_eq_true hstate
  have h := paid_payment_done (World.shop_readsKept _ _) agrees_shop hrun
  have hdone := h.1 1 hpaid
  exact ⟨w, hrun, hdone, hleft, h.2 5 _ 1 rfl rfl hdone hleft⟩

/-- The failure callback that comes after the settlement leaves a paid order
with an aborted payment. -/
theorem paymentFail_unsettles_paid_order :
    ∃ w, Run World.step (fun w e => paymentEvent w e.2 = true) (World.shop .confirmed .ready)
        [(1, .webhookDone World.approval), (2, .readForFailCallback (.orderNumber 1) (some "취소")),
          (3, .writeFailure 0 true)] w ∧
      (w.db.charge 1).order = some .paid ∧ (w.db.charge 1).payment = some .aborted := by
  obtain ⟨w, hrun, hstate⟩ := Run.exists_of_execIf (by decide :
    (execIf World.step (fun w e => paymentEvent w e.2) (World.shop .confirmed .ready)
      [(1, .webhookDone World.approval), (2, .readForFailCallback (.orderNumber 1) (some "취소")),
        (3, .writeFailure 0 true)]).any (fun w => decide
          ((w.db.charge 1).order = some .paid ∧ (w.db.charge 1).payment = some .aborted)) = true)
  exact ⟨w, hrun, of_decide_eq_true hstate⟩

end Shopping
