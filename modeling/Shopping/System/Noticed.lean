import Shopping.System.Logs

/-!
# Charges that are noticed

`handle_payment_done` is told that the provider charged the customer.  When it
returns, the payment should be done below a paid order, or a log should ask for
a refund by hand.

`DoneNoticed` is the invariant: a payment that is done has one of the two.  It
leaves a single gap.  A payment that is canceled may have been canceled by
`cancel_order` after a confirmation that failed on our side only, and the
handler takes it for one that the provider canceled.
-/

namespace Shopping

open TossWebhookService PaymentTasks

/-- The logs that ask for the refund of a charge by hand. -/
def chargeMessages : List String :=
  "취소된 주문의 결제가 승인됨 — 결제 취소로 환불 필요" :: chargedMessages

/-- A log of the payment `k` asks for a refund by hand. -/
def chargeLogged (db : Db) (k : Nat) : Bool :=
  db.logs.any fun l =>
    decide (l.payment = k) && decide (l.logType = .error) && decide (l.message ∈ chargeMessages)

/-- The order of the payment is paid, or further on. -/
def orderPaid (db : Db) (p : Payment) : Bool := (db.statusOf p.order).any OrderStatus.isPaid

/-- The charge of the payment `k` is accounted for. -/
def Noticed (db : Db) (k : Nat) : Prop :=
  (∃ p, db.payments.get? k = some p ∧ p.status = .done ∧ orderPaid db p = true) ∨
    chargeLogged db k = true

/-- Every payment that is done is accounted for. -/
def DoneNoticed (db : Db) : Prop :=
  ∀ k p, db.payments.get? k = some p → p.status = .done →
    orderPaid db p = true ∨ chargeLogged db k = true

theorem chargeLogged_log {db : Db} {k : Nat} {message : String} (h : message ∈ chargeMessages) :
    chargeLogged (db.log k .error message) k = true := by
  simp [chargeLogged, h]

theorem chargeLogged_congr {db db' : Db} (h : db'.logs = db.logs) (k : Nat) :
    chargeLogged db' k = chargeLogged db k := by
  unfold chargeLogged
  rw [h]

/-! ## The payment of one order -/

/-- The payment is done, and its order is not paid. -/
def Charge.Unnoticed (c : Charge) : Prop :=
  c.payment = some .done ∧ c.order.any OrderStatus.isPaid = false

/-- The moves that settle no payment of an order that is not paid. -/
def Act.keepsNoticed : Act → Bool
  | .finalize | .webhookDone | .request | .completeRefund => false
  | .cancelOrder closed => closed.isClosed
  | _ => true

/-- A payment that is left done below an unpaid order was so before. -/
theorem Charge.Unnoticed.before {act : Act} {c c' : Charge} (h : Move act c c')
    (hact : act.keepsNoticed = true) (hc : c'.Unnoticed) : c.Unnoticed := by
  obtain ⟨hdone, hunpaid⟩ := hc
  cases h with
  | placeOrder => exact ⟨hdone, rfl⟩
  | orderConfirmed => exact ⟨hdone, rfl⟩
  | orderFailed => exact ⟨hdone, rfl⟩
  | abandonOrder => exact ⟨hdone, rfl⟩
  | syncPaid hp => cases hunpaid
  | fail hq =>
    rcases hq with hq | hq
    · rw [hq] at hdone
      cases hdone
    · rw [hq] at hdone
      cases hdone
  | rollback hs =>
    obtain ⟨q, _, hq⟩ := Option.map_eq_some_iff.mp hdone
    unfold PaymentStatus.rolledBack at hq
    split at hq
    · cases hq
    · rename_i hclosed
      rw [hq] at hclosed
      exact absurd (by decide) hclosed
  | cancelOrder hs hp =>
    obtain ⟨q, _, hq⟩ := Option.map_eq_some_iff.mp hdone
    subst hq
    cases hact
  | pointsOnly hp => cases hunpaid
  | _ => first | (cases hdone; done) | cases hact

/-! ## One step -/

section

variable {db db' : Db}

/-- A step that keeps the rows and the logs, and leaves no payment done below
an order that is not paid but where one was. -/
theorem DoneNoticed.of_charges (h : DoneNoticed db) (hkeeps : db.payments.Keeps db'.payments)
    (hlogs : LogsGrow db db')
    (hbefore : ∀ o, (db'.charge o).Unnoticed → (db.charge o).Unnoticed) : DoneNoticed db' := by
  intro k q hq hdone
  cases hpaid : orderPaid db' q with
  | true => exact Or.inl rfl
  | false =>
    right
    have hafter : (db'.charge q.order).Unnoticed := by
      rw [charge_of_payment hq, hdone]
      exact ⟨rfl, hpaid⟩
    obtain ⟨hp, hunpaid⟩ := hbefore q.order hafter
    obtain ⟨⟨j, p⟩, hof, hst⟩ := Option.map_eq_some_iff.mp hp
    obtain ⟨hget, hord⟩ := PaymentTable.ofOrder?_eq_some.mp hof
    -- The row is kept, and the order has one payment only.
    obtain ⟨p', hget', hord'⟩ := hkeeps j p hget
    have hj := PaymentTable.ofOrder?_eq_some.mpr ⟨hget', hord'.trans hord⟩
    have hk := PaymentTable.ofOrder?_eq_some.mpr ⟨hq, rfl⟩
    have hkey : j = k := congrArg Prod.fst (Option.some.inj (hj.symm.trans hk))
    subst hkey
    rcases h j p hget hst with hpaid' | hlogged
    · unfold orderPaid at hpaid'
      rw [hord] at hpaid'
      have hcharge : (db.statusOf q.order).any OrderStatus.isPaid = false := hunpaid
      rw [hpaid'] at hcharge
      cases hcharge
    · exact hlogs.any hlogged

/-- A save of one payment, with an update of its order alone. -/
theorem DoneNoticed.of_save (h : DoneNoticed db) {k : Nat} {p row : Payment}
    (hget : db.payments.get? k = some p) (hsave : db.payments.save k row = .ok db'.payments)
    (hlogs : LogsGrow db db')
    (hframe : ∀ i, i ≠ p.order → db'.statusOf i = db.statusOf i)
    (hnew : row.status = .done → orderPaid db' row = true ∨ chargeLogged db' k = true) :
    DoneNoticed db' := by
  intro j q hq hdone
  rw [PaymentTable.get?_save hsave] at hq
  split at hq
  · rename_i hj
    cases hq
    rw [hj]
    exact hnew hdone
  · rename_i hj
    -- Another payment is of another order.
    have hother : q.order ≠ p.order := by
      intro hc
      have hof := PaymentTable.ofOrder?_eq_some.mpr ⟨hget, rfl⟩
      rw [PaymentTable.ofOrder?_eq_some.mpr ⟨hq, hc⟩] at hof
      cases hof
      exact hj rfl
    refine (h j q hq hdone).imp (fun hpaid => ?_) hlogs.any
    unfold orderPaid
    rw [hframe q.order hother]
    exact hpaid

theorem orderPaid_of_status {p : Payment} {s : OrderStatus} (h : db.statusOf p.order = some s)
    (hs : s.isPaid = true) : orderPaid db p = true := by
  unfold orderPaid
  rw [h]
  exact hs

end

theorem finalizePaymentConfirm_noticed {db : Db} {now : Time} {response : TossPayment} {k : Nat}
    {user : UserId} {published : Bool} {out : Outcome FinalizeResult} (h : DoneNoticed db)
    (hout : finalizePaymentConfirm db now response k user published = .ok out) :
    DoneNoticed out.db := by
  have hlogs := finalizePaymentConfirm_logs hout
  obtain ⟨payment, hget, hcase⟩ := finalizePaymentConfirm_ok hout
  cases hcase with
  | alreadyProcessed hpaid => exact h
  | waiting hpaid hstatus hrow hsaved =>
    rename_i row saved
    obtain ⟨hst, hsame⟩ := Payment.markAsWaitingForDeposit_spec hrow
    obtain ⟨hsave, horders, _⟩ := savePayment_payments hsaved
    refine h.of_save hget hsave hlogs (fun i _ => statusOf_of_orders horders i) ?_
    intro hdone
    rw [hst] at hdone
    cases hdone
  | orderCanceled hpaid hstatus horder hcanceled hrow hsaved =>
    rename_i order row saved
    obtain ⟨hst, hsame⟩ := Payment.markAsPaid_spec hrow
    obtain ⟨hsave, horders, _⟩ := savePayment_payments hsaved
    exact h.of_save hget hsave hlogs (fun i _ => statusOf_of_orders horders i)
      fun _ => Or.inr (chargeLogged_log (by simp [chargeMessages]))
  | success hpaid hstatus horder hcanceled hrow hsaved =>
    rename_i order row saved
    obtain ⟨hst, hsame⟩ := Payment.markAsPaid_spec hrow
    obtain ⟨hsave, _⟩ := savePayment_payments hsaved
    have hmod : ((((saved.updateItems addSold order.items).saveOrder payment.order
        (Order.withPaid row.method now)).deactivateCarts user).log k .approve
          "결제 승인 완료").orders = db.orders.modify payment.order (Order.withPaid row.method now) :=
      settled_orders hsaved order.items payment.order row.method now user
    have hstatusOf := statusOf_modify hmod fun _ => rfl
    refine h.of_save hget hsave hlogs (fun i hi => by rw [hstatusOf, if_neg hi]) ?_
    intro _
    refine Or.inl (orderPaid_of_status (s := .paid) ?_ rfl)
    rw [hstatusOf, if_pos hsame.order]
    unfold Db.statusOf
    rw [horder]
    rfl

theorem handlePaymentDone_noticed {db db' : Db} {now : Time} {event : TossPayment}
    {result : DoneResult} (h : DoneNoticed db)
    (hout : handlePaymentDone db now event = .ok (result, db')) : DoneNoticed db' := by
  have hlogs := handlePaymentDone_logs hout
  rcases handlePaymentDone_ok hout with ⟨rfl, _⟩ | ⟨id, k, payment, _, hof, hcase⟩
  · exact h
  · have hget := PaymentTable.ofTossOrderId?_get hof
    cases hcase with
    | alreadyPaid _ => exact h
    | chargedButFailed _ =>
      exact h.of_charges (keeps_of_eq rfl) hlogs fun _ hc => hc
    | finalState _ => exact h
    | depositAfterExpiry _ =>
      exact h.of_charges (keeps_of_eq rfl) hlogs fun _ hc => hc
    | chargedOnCanceledOrder hopen horder hcanceled hrow hsaved =>
      rename_i order row saved
      obtain ⟨hst, hsame⟩ := Payment.markAsPaid_spec hrow
      obtain ⟨hsave, horders, _⟩ := savePayment_payments hsaved
      refine h.of_save hget (by simpa using hsave) hlogs
        (fun i _ => statusOf_of_orders (by simpa using horders) i) fun _ => Or.inr ?_
      rw [chargeLogged_congr (markWebhookProcessed_logs _ _ _ _)]
      exact chargeLogged_log (by simp [chargeMessages, chargedMessages])
    | orderAlreadyPaid hopen horder hpaid hrow hsaved =>
      rename_i order row saved
      obtain ⟨hst, hsame⟩ := Payment.markAsPaid_spec hrow
      obtain ⟨hsave, horders, _⟩ := savePayment_payments hsaved
      have hstatusOf : ∀ i, (markWebhookProcessed saved now id .done).statusOf i = db.statusOf i :=
        statusOf_of_orders (by simpa using horders)
      refine h.of_save hget (by simpa using hsave) hlogs (fun i _ => hstatusOf i)
        fun _ => Or.inl (orderPaid_of_status (s := .paid) ?_ rfl)
      rw [hstatusOf, hsame.order]
      unfold Db.statusOf
      rw [horder, Option.map_some, hpaid]
    | settled hopen horder hcanceled hpaid hrow hsaved hearned =>
      rename_i order row saved earned
      obtain ⟨hst, hsame⟩ := Payment.markAsPaid_spec hrow
      obtain ⟨hsave, _⟩ := savePayment_payments hsaved
      have hmod := settled_orders hsaved order.items payment.order (methodOrCard row.method) now
        order.user
      have hstatusOf : ∀ i, (markWebhookProcessed (earned.log k .webhook "결제 완료 웹훅 처리") now id
          .done).statusOf i = if i = payment.order then
            (db.statusOf payment.order).map fun _ => .paid else db.statusOf i := by
        intro i
        rw [← statusOf_modify hmod (fun _ => rfl) i, ← hearned.statusOf i]
        exact statusOf_of_orders (by simp) i
      have hpay : (markWebhookProcessed (earned.log k .webhook "결제 완료 웹훅 처리") now id
          .done).payments = saved.payments := by
        simpa using hearned.payments
      rw [← hpay] at hsave
      refine h.of_save hget hsave hlogs (fun i hi => by rw [hstatusOf, if_neg hi])
        fun _ => Or.inl (orderPaid_of_status (s := .paid) ?_ rfl)
      rw [hstatusOf, if_pos hsame.order]
      unfold Db.statusOf
      rw [horder]
      rfl

/-! ## Runs -/

/-- Every event but a new request, which deletes the payment that was charged,
and the completion of a return, which comes after the delivery. -/
def noticingEvent : Event → Bool
  | .createRequest _ _ _ | .completeRefund _ _ => false
  | _ => true

theorem Does.keepsNoticed {w : World} {e : Event} {act : Act} {o : OrderId} (h : Does w e act o)
    (he : noticingEvent e = true) (hfin : act ≠ .finalize) (hdone : act ≠ .webhookDone) :
    act.keepsNoticed = true := by
  cases h with
  | customer hread hcustomer =>
    rcases hcustomer with hc | hc | hc
    · rw [hc]
      rfl
    · rw [hc]
      rfl
    · rw [hc]
      rfl
  | finalize => exact absurd rfl hfin
  | webhookDone => exact absurd rfl hdone
  | _ => first | rfl | cases he

theorem noticingEvent_ne_createRequest {e : Event} (he : noticingEvent e = true)
    (n : Nat) (method : String) (key : Option String) : e ≠ .createRequest n method key := by
  intro hc
  subst hc
  cases he

/-- An event that settles with the finalisation. -/
theorem noticed_finalize {w : World} {now : Time} {e : Event} {o : OrderId}
    (h : DoneNoticed w.db) (hdoes : Does w e .finalize o) : DoneNoticed (w.run now e).db := by
  cases hdoes with
  | customer _ hcustomer => simp at hcustomer
  | finalize hmsg hget hdone hrecords =>
    rename_i n d response k user p
    simp only [World.run, hmsg, World.deliver]
    obtain ⟨out, hout⟩ := (finalizePaymentConfirm_returns hget hdone now response user
      d.published).mpr hrecords
    rw [hout]
    exact finalizePaymentConfirm_noticed h hout

/-- An event that settles with the webhook. -/
theorem noticed_webhookDone {w : World} {now : Time} {e : Event} {o : OrderId}
    (h : DoneNoticed w.db) (hdoes : Does w e .webhookDone o) : DoneNoticed (w.run now e).db := by
  cases hdoes with
  | customer _ hcustomer => simp at hcustomer
  | webhookDone =>
    refine World.after_of (P := fun u => DoneNoticed u.db) h ?_
    rintro ⟨result, db⟩ hout
    exact handlePaymentDone_noticed h hout

/-- Every event keeps what is done accounted for. -/
theorem noticed_step {w : World} {now : Time} {e : Event} (hreads : ReadsKept w)
    (h : DoneNoticed w.db) (he : noticingEvent e = true) : DoneNoticed (w.run now e).db := by
  have hne := noticingEvent_ne_createRequest he
  have hkeeps : World.KeepsPayments w (w.run now e) := World.run_keeps (fun _ _ _ => hreads) hne
  have hlogs : LogsGrow w.db (w.run now e).db := World.run_logs hne
  rcases World.run_refines now (fun _ _ _ => hreads) with hsame | ⟨act, i, hdoes, hacts⟩
  · refine h.of_charges hkeeps hlogs fun o hc => ?_
    rw [hsame o] at hc
    exact hc
  · by_cases hfin : act = .finalize
    · subst hfin
      exact noticed_finalize h hdoes
    · by_cases hdone : act = .webhookDone
      · subst hdone
        exact noticed_webhookDone h hdoes
      · refine h.of_charges hkeeps hlogs fun o hc => ?_
        by_cases ho : o = i
        · subst ho
          exact hc.before hacts.move (hdoes.keepsNoticed he hfin hdone)
        · rw [hacts.frame o ho] at hc
          exact hc

theorem noticed_run {w₀ w : World} {es : List (Time × Event)} (hreads : ReadsKept w₀)
    (hI : DoneNoticed w₀.db)
    (h : Run World.step (fun _ e => noticingEvent e.2 = true) w₀ es w) : DoneNoticed w.db := by
  refine (h.invariant (fun w => ReadsKept w ∧ DoneNoticed w.db) ⟨hreads, hI⟩ ?_).2
  intro t e u ⟨hkept, hnoticed⟩ hok hstep
  cases hstep
  exact ⟨World.run_readsKept hkept (noticingEvent_ne_createRequest hok),
    noticed_step hkept hnoticed hok⟩

/-- The handler settles the payment, or writes one of the logs, unless it finds
the payment canceled. -/
theorem handlePaymentDone_accounts {db db' : Db} {now : Time} {event : TossPayment}
    {result : DoneResult} {id : TossOrderId} {k : Nat} {p : Payment} (h : DoneNoticed db)
    (hout : handlePaymentDone db now event = .ok (result, db'))
    (hcase : DoneCase db now event id k p result db') (hget : db.payments.get? k = some p)
    (hst : p.status ≠ .canceled) : Noticed db' k := by
  have hnoticed := handlePaymentDone_noticed h hout
  have hrow : ∀ {row : Payment} {saved : Db}, p.markAsPaid now event = .ok row →
      db.savePayment k row = .ok saved → db'.payments = saved.payments → Noticed db' k := by
    intro row saved hmark hsaved hpay
    have hget' : db'.payments.get? k = some row := by
      rw [hpay, PaymentTable.get?_save (savePayment_payments hsaved).1, if_pos rfl]
    have hdone := (Payment.markAsPaid_spec hmark).1
    exact (hnoticed k row hget' hdone).imp_left fun hpaid => ⟨row, hget', hdone, hpaid⟩
  cases hcase with
  | alreadyPaid hdone => exact (h k p hget hdone).imp_left fun hpaid => ⟨p, hget, hdone, hpaid⟩
  | chargedButFailed _ =>
    exact Or.inr (chargeLogged_log (by simp [chargeMessages, chargedMessages]))
  | finalState hcanceled => exact absurd hcanceled hst
  | depositAfterExpiry _ =>
    exact Or.inr (chargeLogged_log (by simp [chargeMessages, chargedMessages]))
  | chargedOnCanceledOrder _ _ _ hmark hsaved => exact hrow hmark hsaved (by simp)
  | orderAlreadyPaid _ _ _ hmark hsaved => exact hrow hmark hsaved (by simp)
  | settled _ _ _ _ hmark hsaved hearned =>
    refine hrow hmark hsaved ?_
    rw [markWebhookProcessed_payments, Db.log_payments]
    exact hearned.payments

/-- In every world that a run reaches: a call of the handler that is not taken
for a redelivery leaves the charge noticed exactly when it does not find the
payment canceled, or finds a log of the charge. -/
theorem charge_noticed {w₀ w : World} {es : List (Time × Event)} (hreads : ReadsKept w₀)
    (hI : DoneNoticed w₀.db) (h : Run World.step (fun _ e => noticingEvent e.2 = true) w₀ es w)
    {now : Time} {event : TossPayment} {result : DoneResult} {db' : Db} {id : TossOrderId}
    {k : Nat} {p : Payment} (hid : event.orderId = some id)
    (hof : w.db.payments.ofTossOrderId? id = some (k, p))
    (hfresh : isWebhookDuplicate w.db now id .done = false)
    (hout : handlePaymentDone w.db now event = .ok (result, db')) :
    Noticed db' k ↔ p.status ≠ .canceled ∨ chargeLogged w.db k = true := by
  have hnoticed := noticed_run hreads hI h
  have hget := PaymentTable.ofTossOrderId?_get hof
  have hlogs := handlePaymentDone_logs hout
  have hcase := handlePaymentDone_found hid hfresh hof hout
  constructor
  · intro hn
    by_cases hst : p.status = .canceled
    · right
      cases hcase with
      | finalState _ =>
        refine hn.resolve_left fun ⟨q, hq, hdone, _⟩ => ?_
        rw [hget] at hq
        cases hq
        rw [hst] at hdone
        cases hdone
      | _ => simp_all [PaymentStatus.isOpen, PaymentStatus.isInvalid]
    · exact Or.inl hst
  · intro hcond
    by_cases hst : p.status = .canceled
    · exact Or.inr (hlogs.any (hcond.resolve_left (not_not.mpr hst)))
    · exact handlePaymentDone_accounts hnoticed hout hcase hget hst

/-! ## A charge behind a canceled order -/

theorem doneNoticed_shop (p : PaymentStatus) (hp : p ≠ .done) (s : OrderStatus) :
    DoneNoticed (World.shop s p).db := by
  intro k q hq hdone
  have hof := PaymentTable.ofOrder?_eq_some.mpr ⟨hq, rfl⟩
  have hcharge := World.shop_charge s p q.order
  rw [charge_of_payment hq] at hcharge
  split at hcharge
  · have hpq := congrArg Charge.payment hcharge
    exact absurd (Option.some.inj hpq) (by rw [hdone]; exact fun hc => hp hc.symm)
  · have hpq := congrArg Charge.payment hcharge
    cases hpq

/-- The provider charges, its answer is lost on the way, and so is the last
retry. -/
def lostAnswer : List (Time × Event) :=
  [(1, .confirmAsync 1 "key" 13000 7 true),
    (2, .deliver 0
      { answer := .refused { code := "NETWORK_ERROR", message := "연결 끊김" } (.ok World.approval)
        retriesLeft := false })]

/-- The webhook that follows writes the log. -/
theorem charge_noticed_lost :
    ∃ w result db', Run World.step (fun _ e => noticingEvent e.2 = true)
        (World.shop .confirmed .ready) lostAnswer w ∧
      handlePaymentDone w.db 3 World.approval = .ok (result, db') ∧ Noticed db' 1 := by
  obtain ⟨w, hrun, hstate⟩ := Run.exists_of_execIf (by decide :
    (execIf World.step (fun _ e => noticingEvent e.2) (World.shop .confirmed .ready)
      lostAnswer).any (fun w =>
        !isWebhookDuplicate w.db 3 (.orderNumber 1) .done &&
        ((w.db.payments.ofTossOrderId? (.orderNumber 1)).any fun e =>
          decide (e.1 = 1 ∧ e.2.status ≠ .canceled)) &&
        (handlePaymentDone w.db 3 World.approval).toOption.isSome) = true)
  rw [Bool.and_eq_true, Bool.and_eq_true, Bool.not_eq_true', Option.any_eq_true,
    Option.isSome_iff_exists] at hstate
  obtain ⟨⟨hfresh, ⟨k, p⟩, hof, hp⟩, ⟨result, db'⟩, hout⟩ := hstate
  obtain ⟨hk, hst⟩ := of_decide_eq_true hp
  have hreturn := toOption_eq_some.mp hout
  have h := charge_noticed (World.shop_readsKept _ _)
    (doneNoticed_shop .ready (by decide) .confirmed) hrun rfl hof hfresh hreturn
  dsimp only at hk
  subst hk
  exact ⟨w, result, db', hrun, hreturn, h.mpr (Or.inl hst)⟩

/-- After the customer cancels the order, the webhook returns without a word:
the payment is canceled, though nothing was canceled at the provider. -/
theorem canceled_order_hides_charge :
    ∃ w, Run World.step (fun _ e => noticingEvent e.2 = true) (World.shop .confirmed .ready)
        (lostAnswer ++ [(3, .cancelOrder 1)]) w ∧
      1 ∉ w.canceledAtToss ∧
      isWebhookDuplicate w.db 4 (.orderNumber 1) .done = false ∧
      (∃ db', handlePaymentDone w.db 4 World.approval = .ok (.finalState, db') ∧
        ¬ Noticed db' 1) := by
  obtain ⟨w, hrun, hstate⟩ := Run.exists_of_execIf (by decide :
    (execIf World.step (fun _ e => noticingEvent e.2) (World.shop .confirmed .ready)
      (lostAnswer ++ [(3, .cancelOrder 1)])).any (fun w =>
        decide (1 ∉ w.canceledAtToss) && !isWebhookDuplicate w.db 4 (.orderNumber 1) .done &&
        ((handlePaymentDone w.db 4 World.approval).toOption.any fun out =>
          decide (out.1 = .finalState) && !chargeLogged out.2 1 &&
            ((out.2.payments.get? 1).any fun p => decide (p.status = .canceled)))) = true)
  rw [Bool.and_eq_true, Bool.and_eq_true, decide_eq_true_eq, Bool.not_eq_true',
    Option.any_eq_true] at hstate
  obtain ⟨⟨hcharged, hfresh⟩, ⟨result, db'⟩, hout, hstate⟩ := hstate
  rw [Bool.and_eq_true, Bool.and_eq_true, decide_eq_true_eq, Bool.not_eq_true',
    Option.any_eq_true] at hstate
  obtain ⟨⟨hfinal, hsilent⟩, p, hget, hcanceled⟩ := hstate
  dsimp only at hfinal hsilent hget
  subst hfinal
  refine ⟨w, hrun, hcharged, hfresh, db', toOption_eq_some.mp hout, fun hn => ?_⟩
  rcases hn with ⟨q, hq, hdone, _⟩ | hlogged
  · rw [hget] at hq
    cases hq
    rw [of_decide_eq_true hcanceled] at hdone
    cases hdone
  · rw [hsilent] at hlogged
    cases hlogged

end Shopping
