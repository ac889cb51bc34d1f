import Shopping.System.Steps

/-!
# Released orders and settlement

A failed or a canceled order gave back its stock and its points.  The two
functions that settle a payment guard against such an order in different
ways: `handle_payment_done` refuses a closed payment and knows a canceled
order, `finalize_payment_confirm` only knows a canceled order.

`Charge.Buried` is the invariant: an order that was rolled back has no payment
left that a webhook could settle.  Every function keeps it except a
finalisation that comes after the rollback and records its response.
-/

namespace Shopping

/-- The status of an order that was given back in another way than by a
cancellation. -/
def OrderStatus.isFailed (s : OrderStatus) : Bool := s.isReleased && !decide (s = .canceled)

/-- A failed order has no payment that is open. -/
def Charge.Buried (c : Charge) : Prop :=
  ∀ s p, c.order = some s → c.payment = some p → s.isFailed = true → p.isOpen = false

/-- The moves between a confirmation and its settlement or release. -/
def Act.settles : Act → Bool
  | .confirmAsync | .abort | .finalize | .webhookDone | .webhookCanceled | .fail _ | .rollback
  | .cancelOrder _ => true
  | _ => false

theorem Charge.Buried.move {act : Act} {c c' : Charge} (h : Move act c c') (hc : c.Buried)
    (hact : act.settles = true)
    (hlate : act = .finalize → ∀ s, c.order = some s → s.isFailed = false) : c'.Buried := by
  intro s p hs hp hfailed
  cases h with
  | confirmAsync hadmits hnew =>
    have hopen := hc s _ hs rfl hfailed
    cases hp
    rename_i q _
    cases q <;> simp_all [PaymentStatus.admitsConfirm, PaymentStatus.isOpen,
      PaymentStatus.isInvalid]
  | abort =>
    cases hp
    rfl
  | finalizeIssued hdone =>
    have hok := hlate rfl s hs
    rw [hfailed] at hok
    cases hok
  | finalizeCanceled hdone =>
    cases hp
    rfl
  | finalizePaid hdone hne =>
    cases hp
    rfl
  | doneCanceled hopen =>
    cases hp
    rfl
  | donePaid hopen hne =>
    cases hp
    rfl
  | canceled hne =>
    cases hp
    rfl
  | fail hq =>
    cases hp
    rcases hq with hq | hq
    · rw [hq]
      rfl
    · rw [hq]
      rfl
  | rollback hunpaid =>
    obtain ⟨q, _, hq⟩ := Option.map_eq_some_iff.mp hp
    rw [← hq]
    unfold PaymentStatus.rolledBack
    split
    · rfl
    · rename_i hclosed
      cases q <;> simp_all [PaymentStatus.isOpen, PaymentStatus.isInvalid]
  | cancelOrder hunpaid hlive =>
    cases hs
    cases hfailed
  | _ => cases hact

/-! ## The finalisation of a failed order -/

/-- The status of the order of the payment `k`. -/
def orderStatusOf (db : Db) (k : Nat) : Option OrderStatus :=
  (db.payments.get? k).bind fun p => db.statusOf p.order

/-- The finalisation would write its response to the payment of a failed
order. -/
def recordsOnFailed (db : Db) (response : TossPayment) (k : Nat) : Bool :=
  (orderStatusOf db k).any OrderStatus.isFailed &&
    (db.payments.get? k).any fun p =>
      !decide (p.status = .done) && recordsResponse db k p response

/-- What the test says of a payment that records the response when it is not
settled. -/
theorem recordsOnFailed_iff {db : Db} {response : TossPayment} {k : Nat} {p : Payment}
    (hget : db.payments.get? k = some p)
    (hrecorded : p.status ≠ .done → recordsResponse db k p response = true) :
    recordsOnFailed db response k = true ↔
      p.status ≠ .done ∧ ∃ s, db.statusOf p.order = some s ∧ s.isFailed = true := by
  unfold recordsOnFailed orderStatusOf
  rw [hget, Option.bind_some, Option.any_some, Bool.and_eq_true, Bool.and_eq_true,
    Bool.not_eq_true', decide_eq_false_iff_not, Option.any_eq_true]
  constructor
  · intro ⟨hs, hdone, _⟩
    exact ⟨hdone, hs⟩
  · intro ⟨hdone, hs⟩
    exact ⟨hs, hdone, hrecorded hdone⟩

/-- The finalisation revives an order exactly when it settles the payment of
a failed one. -/
theorem finalize_keepsReleased_iff {db : Db} {now : Time} {response : TossPayment} {k : Nat}
    {user : UserId} {published : Bool} {out : Outcome PaymentTasks.FinalizeResult}
    (h : PaymentTasks.finalizePaymentConfirm db now response k user published = .ok out) :
    KeepsReleased db out.db ↔
      ¬ (recordsOnFailed db response k = true ∧ response.status ≠ some .waitingForDeposit) := by
  obtain ⟨p, hget, hcase⟩ := PaymentTasks.finalizePaymentConfirm_ok h
  have hrecorded : p.status ≠ .done → recordsResponse db k p response = true := fun hdone =>
    (finalizePaymentConfirm_returns hget hdone now response user published).mp ⟨out, h⟩
  rw [recordsOnFailed_iff hget hrecorded]
  cases hcase with
  | alreadyProcessed hpaid =>
    constructor
    · intro _ hc
      exact hc.1.1 hpaid
    · intro _ o s hs _
      exact hs
  | waiting hpaid hstatus hrow hsaved =>
    constructor
    · intro _ hc
      exact hc.2 hstatus
    · intro _ o s hs _
      rw [← hs]
      exact statusOf_of_orders (savePayment_payments hsaved).2.1 o
  | orderCanceled hpaid hstatus horder hcanceled hrow hsaved =>
    constructor
    · intro _ ⟨⟨_, s, hs, hfailed⟩, _⟩
      unfold Db.statusOf at hs
      rw [horder, Option.map_some, hcanceled] at hs
      cases hs
      cases hfailed
    · intro _ o s hs _
      rw [← hs]
      exact statusOf_of_orders (savePayment_payments hsaved).2.1 o
  | success hpaid hstatus horder hcanceled hrow hsaved =>
    rename_i order row saved
    have hmod : ((((saved.updateItems addSold order.items).saveOrder p.order
        (Order.withPaid row.method now)).deactivateCarts user).log k .approve
          "결제 승인 완료").orders = db.orders.modify p.order (Order.withPaid row.method now) :=
      settled_orders hsaved order.items p.order row.method now user
    have hafter := statusOf_modify hmod fun _ => rfl
    have hbefore : db.statusOf p.order = some order.status := by
      unfold Db.statusOf
      rw [horder]
      rfl
    constructor
    · intro hkeeps ⟨⟨_, s, hs, hfailed⟩, _⟩
      rw [hbefore] at hs
      cases hs
      have hrel : order.status.isReleased = true := by
        unfold OrderStatus.isFailed at hfailed
        exact (Bool.and_eq_true _ _ ▸ hfailed).1
      have hst := hkeeps p.order order.status hbefore hrel
      rw [hafter, if_pos rfl, hbefore] at hst
      simp only [Option.map_some, Option.some.injEq] at hst
      rw [← hst] at hrel
      cases hrel
    · intro hno o s hs hrel
      rw [hafter]
      by_cases ho : o = p.order
      · subst ho
        rw [hbefore] at hs
        cases hs
        refine absurd ⟨⟨hpaid, order.status, hbefore, ?_⟩, hstatus⟩ hno
        unfold OrderStatus.isFailed
        simp [hrel, hcanceled]
      · rw [if_neg ho]
        exact hs

/-- The webhook settles no order of a buried charge. -/
theorem handlePaymentDone_keepsReleased {db db' : Db} {now : Time} {event : TossPayment}
    {result : TossWebhookService.DoneResult} (hI : ∀ o, (db.charge o).Buried)
    (h : TossWebhookService.handlePaymentDone db now event = .ok (result, db')) :
    KeepsReleased db db' := by
  intro o s hs hrel
  obtain ⟨_, i, hfollows⟩ := TossWebhookService.handlePaymentDone_acts h
  have hcharge : (db'.charge o).order = some s := by
    have hbefore : (db.charge o).order = some s := hs
    rcases hfollows with hsame | hacts
    · rw [hsame o]
      exact hbefore
    · by_cases ho : o = i
      · subst ho
        have hburied := hI o
        have hmove := hacts.move
        generalize db'.charge o = c' at hmove ⊢
        generalize db.charge o = c at hmove hburied hbefore
        cases hmove with
        | doneCanceled _ => exact hbefore
        | donePaid hopen hne =>
          cases hbefore
          have hclosed := hburied s _ rfl rfl (by simp [OrderStatus.isFailed, hrel, hne])
          rw [hopen] at hclosed
          cases hclosed
      · rw [hacts.frame o ho]
        exact hbefore
  exact hcharge

/-! ## Runs -/

/-- The events between a payment request and the settlement or release of its
order. -/
def settlementEvent (w : World) : Event → Bool
  | .confirmAsync _ _ _ _ _ | .detectOrphaned _ | .readForFailView _ _ _ _
  | .readForFailCallback _ _ | .readForFailWebhook _ | .writeFailure _ _ | .webhookDone _
  | .webhookCanceled _ | .cancelOrder _ | .expireOrder _ => true
  | .deliver n _ =>
    match w.messages[n]? with
    | some (.confirm _ _ _ _ _ _) | some (.finalize _ _ _) | some (.rollback _ _) => true
    | _ => false
  | _ => false

/-- The event is a finalisation that records its response on a failed
order. -/
def finalizesFailed (w : World) : Event → Bool
  | .deliver n _ =>
    match w.messages[n]? with
    | some (.finalize response k _) => recordsOnFailed w.db response k
    | _ => false
  | _ => false

theorem Does.settles {w : World} {e : Event} {act : Act} {o : OrderId} (h : Does w e act o)
    (he : settlementEvent w e = true) : act.settles = true := by
  cases h <;> first | rfl | simp_all [settlementEvent]

/-- Outside of a late finalisation every event keeps the failed orders
buried. -/
theorem buried_step {w : World} {now : Time} {e : Event} (hreads : ReadsKept w)
    (hI : ∀ o, (w.db.charge o).Buried) (he : settlementEvent w e = true)
    (hlate : finalizesFailed w e = false) (o : OrderId) : ((w.run now e).db.charge o).Buried := by
  rcases World.run_refines now (fun _ _ _ => hreads) with hsame | ⟨act, i, hdoes, hacts⟩
  · rw [hsame o]
    exact hI o
  · refine hacts.invariant hI (fun c hmove => (hI i).move hmove (hdoes.settles he) ?_) o
    intro hact s hs
    subst hact
    cases hdoes with
    | customer _ hact => simp at hact
    | finalize hmsg hget hdone hrecords =>
      rename_i n d response k user p
      have hstatus : w.db.statusOf p.order = some s := hs
      simpa [finalizesFailed, hmsg, recordsOnFailed, orderStatusOf, hget, hdone, hrecords,
        hstatus] using hlate

/-- The allowed events keep what `buried_step` needs. -/
theorem settlementEvent_ne_createRequest {w : World} {e : Event} (he : settlementEvent w e = true)
    (n : Nat) (method : String) (key : Option String) : e ≠ .createRequest n method key := by
  intro hc
  subst hc
  cases he

/-- In every run of the settlement and the release of orders in which no
finalisation records its response on a failed order: the failed orders stay
buried. -/
theorem buried_run {w₀ w : World} {es : List (Time × Event)} (hreads : ReadsKept w₀)
    (hI : ∀ o, (w₀.db.charge o).Buried)
    (h : Run World.step (fun w e => (settlementEvent w e.2 && !finalizesFailed w e.2) = true)
      w₀ es w) : ∀ o, (w.db.charge o).Buried := by
  refine (h.invariant (fun w => ReadsKept w ∧ ∀ o, (w.db.charge o).Buried) ⟨hreads, hI⟩ ?_).2
  intro t e u ⟨hkept, hburied⟩ hok hstep
  cases hstep
  rw [Bool.and_eq_true, Bool.not_eq_true'] at hok
  exact ⟨World.run_readsKept hkept fun n m key => settlementEvent_ne_createRequest hok.1 n m key,
    buried_step hkept hburied hok.1 hok.2⟩

/-- Settlement and released orders, in every world that such a run reaches
from one in which no failed order has an open payment.  The webhook revives no
released order; the finalisation revives one exactly when it settles the
payment of a failed order. -/
theorem settlement_keepsReleased {w₀ w : World} {es : List (Time × Event)}
    (hreads : ReadsKept w₀) (hI : ∀ o, (w₀.db.charge o).Buried)
    (h : Run World.step (fun w e => (settlementEvent w e.2 && !finalizesFailed w e.2) = true)
      w₀ es w) :
    (∀ now event result db',
      TossWebhookService.handlePaymentDone w.db now event = .ok (result, db') →
        KeepsReleased w.db db') ∧
    (∀ now response k user published out,
      PaymentTasks.finalizePaymentConfirm w.db now response k user published = .ok out →
        (KeepsReleased w.db out.db ↔ ¬ (recordsOnFailed w.db response k = true ∧
          response.status ≠ some .waitingForDeposit))) :=
  ⟨fun _ _ _ _ hdone => handlePaymentDone_keepsReleased (buried_run hreads hI h) hdone,
    fun _ _ _ _ _ _ hfin => finalize_keepsReleased_iff hfin⟩

/-- The provider approves, the customer's browser reports a failure, and the
rollback comes before the finalisation. -/
def lateFinalization : List (Time × Event) :=
  [(1, .confirmAsync 1 "key" 13000 7 true),
    (2, .readForFailView (.orderNumber 1) 7 "PAY_PROCESS_CANCELED" "취소"),
    (3, .deliver 0 { answer := .confirmed World.approval }),
    (4, .writeFailure 0 true),
    (700, .detectOrphaned 600),
    (701, .deliver 2 {})]

theorem buried_shop (o : OrderId) : ((World.shop .confirmed .ready).db.charge o).Buried := by
  rw [World.shop_charge]
  split
  · intro s p hs _ hfailed
    cases hs
    cases hfailed
  · intro s p hs
    cases hs

/-- The approval that is delivered after the rollback pays the order, whose
stock was given back. -/
theorem finalization_revives_failed_order :
    ∃ w out, Run World.step (fun w e => settlementEvent w e.2 = true)
        (World.shop .confirmed .ready) lateFinalization w ∧
      w.messages[1]? = some (.finalize World.approval 1 7) ∧
      w.db.statusOf 1 = some .paymentFailed ∧
      (w.db.products.get? 1).map Product.stock = some 10 ∧
      PaymentTasks.finalizePaymentConfirm w.db 702 World.approval 1 7 true = .ok out ∧
      out.db.statusOf 1 = some .paid := by
  obtain ⟨w, hrun, hstate⟩ := Run.exists_of_execIf (by decide :
    (execIf World.step (fun w e => settlementEvent w e.2) (World.shop .confirmed .ready)
      lateFinalization).any (fun w =>
        decide (w.messages[1]? = some (.finalize World.approval 1 7) ∧
          w.db.statusOf 1 = some .paymentFailed ∧
          (w.db.products.get? 1).map Product.stock = some 10) &&
        (PaymentTasks.finalizePaymentConfirm w.db 702 World.approval 1 7 true).toOption.any
          fun out => decide (out.db.statusOf 1 = some .paid)) = true)
  rw [Bool.and_eq_true, decide_eq_true_eq, Option.any_eq_true] at hstate
  obtain ⟨⟨hmsg, hfailed, hstock⟩, out, hout, hpaid⟩ := hstate
  exact ⟨w, out, hrun, hmsg, hfailed, hstock, toOption_eq_some.mp hout, of_decide_eq_true hpaid⟩

/-- In the world of `lateFinalization` the webhook keeps the failed order, and
the finalisation does not. -/
theorem settlement_keepsReleased_late :
    ∃ w, Run World.step (fun w e => (settlementEvent w e.2 && !finalizesFailed w e.2) = true)
        (World.shop .confirmed .ready) lateFinalization w ∧
      (∀ result db', TossWebhookService.handlePaymentDone w.db 702 World.approval
        = .ok (result, db') → KeepsReleased w.db db') ∧
      ∀ out, PaymentTasks.finalizePaymentConfirm w.db 702 World.approval 1 7 true = .ok out →
        ¬ KeepsReleased w.db out.db := by
  obtain ⟨w, hrun, hlate⟩ := Run.exists_of_execIf (by decide :
    (execIf World.step (fun w e => settlementEvent w e.2 && !finalizesFailed w e.2)
      (World.shop .confirmed .ready) lateFinalization).any
        (fun w => recordsOnFailed w.db World.approval 1) = true)
  have h := settlement_keepsReleased (World.shop_readsKept _ _) buried_shop hrun
  refine ⟨w, hrun, fun result db' => h.1 702 World.approval result db', fun out hout hkeeps => ?_⟩
  exact (h.2 702 World.approval 1 7 true out hout).mp hkeeps ⟨hlate, by decide⟩

end Shopping
