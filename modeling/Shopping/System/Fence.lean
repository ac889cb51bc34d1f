import Shopping.System.Steps

/-!
# The payment fence

`cancel_order` closes the payments of the order, so that no confirmation of
them passes, and refuses the order while a confirmation is under way.  The
fence stands on the payment row; `create_payment` deletes that row and makes a
new one that is ready, and looks neither at the status of the order nor at the
row it deletes.

`Fenced` is the invariant: a canceled order has no payment that a confirmation
accepts, and the payment of every confirmation whose outcome is open is in
progress.  Every function keeps it but a `create_payment` that comes after the
cancellation or in the middle of a confirmation.
-/

namespace Shopping

open PaymentService OrderService

/-! ## Canceled orders -/

/-- A canceled order has no payment that a confirmation accepts. -/
def Charge.Fenced (c : Charge) : Prop :=
  ∀ p, c.order = some .canceled → c.payment = some p → p.admitsConfirm = false

/-- The functions that confirm a payment or cancel an order. -/
def Act.confirmsOrCancels : Act → Bool
  | .confirmAsync | .confirmSync | .abort | .finalize | .rollback | .cancelPayment
  | .cancelVirtualAccount => true
  | .cancelOrder closed => !closed.admitsConfirm
  | _ => false

theorem Charge.Fenced.move {act : Act} {c c' : Charge} (hc : c.Fenced) (h : Move act c c')
    (hact : act.confirmsOrCancels = true) : c'.Fenced := by
  intro p ho hp
  cases h with
  | confirmAsync hadmits _ =>
    have hclosed := hc _ ho rfl
    rw [hadmits] at hclosed
    cases hclosed
  | syncIssued hadmits =>
    cases hp
    rfl
  | syncPaid hadmits => cases ho
  | abort =>
    cases hp
    rfl
  | finalizeIssued hdone =>
    cases hp
    rfl
  | finalizeCanceled hdone =>
    cases hp
    rfl
  | finalizePaid hdone hne => cases ho
  | rollback hunpaid => cases ho
  | cancelOrder hunpaid hlive =>
    obtain ⟨q, _, hq⟩ := Option.map_eq_some_iff.mp hp
    rw [← hq]
    simpa [Act.confirmsOrCancels] using hact
  | cancelPayment hs =>
    cases hp
    rfl
  | cancelVirtualAccount hs =>
    cases hp
    rfl
  | _ => cases hact

/-- A payment that no confirmation accepts is refused by both, and the
provider is not called: the refusal does not depend on its answer. -/
theorem confirm_refuses {db : Db} {k : Nat} {p : Payment} (hget : db.payments.get? k = some p)
    (hclosed : p.status.admitsConfirm = false) (now : Time) :
    (∀ key o amount user published, ∃ message,
      confirmPaymentAsync db now k key o amount user published
        = .error (.paymentConfirmError message)) ∧
    ∀ user, ∃ message, ∀ toss,
      confirmPaymentSync db now k user toss = .error (.paymentConfirmError message) := by
  have hfound : db.getPayment k = .ok p := Db.getPayment_eq_ok.mpr hget
  -- The three refusals, in the order in which both functions make them.
  have hcases : p.isPaid = true ∨ p.isPaid = false ∧ p.isWaitingForDeposit = true ∨
      p.isPaid = false ∧ p.isWaitingForDeposit = false ∧ p.status.isInvalid = true := by
    unfold Payment.isPaid Payment.isWaitingForDeposit
    cases hs : p.status <;> simp_all [PaymentStatus.admitsConfirm, PaymentStatus.isInvalid]
  constructor
  · intro key o amount user published
    unfold confirmPaymentAsync
    rw [hfound, ok_bind]
    rcases hcases with hpaid | ⟨hpaid, hwaiting⟩ | ⟨hpaid, hwaiting, hinvalid⟩
    · exact ⟨_, if_pos hpaid⟩
    · have hne : p.status ≠ .inProgress := by
        intro hc
        rw [Payment.isWaitingForDeposit, hc] at hwaiting
        cases hwaiting
      rw [hpaid, if_neg Bool.false_ne_true, if_neg hne]
      exact ⟨_, if_pos hwaiting⟩
    · have hne : p.status ≠ .inProgress := by
        intro hc
        rw [hc] at hinvalid
        cases hinvalid
      rw [hpaid, if_neg Bool.false_ne_true, if_neg hne, hwaiting, if_neg Bool.false_ne_true]
      exact ⟨_, if_pos hinvalid⟩
  · intro user
    rcases hcases with hpaid | ⟨hpaid, hwaiting⟩ | ⟨hpaid, hwaiting, hinvalid⟩
    · refine ⟨"이미 완료된 결제입니다.", fun toss => ?_⟩
      unfold confirmPaymentSync
      rw [hfound, ok_bind, if_pos hpaid]
    · refine ⟨"가상계좌 입금 대기 중인 결제입니다.", fun toss => ?_⟩
      unfold confirmPaymentSync
      rw [hfound, ok_bind, hpaid, if_neg Bool.false_ne_true, if_pos hwaiting]
    · refine ⟨"유효하지 않은 결제 상태입니다: " ++ p.status.display, fun toss => ?_⟩
      unfold confirmPaymentSync
      rw [hfound, ok_bind, hpaid, if_neg Bool.false_ne_true, hwaiting,
        if_neg Bool.false_ne_true, if_pos hinvalid]

/-! ## Confirmations under way -/

/-- The payment `c.1` of the order `c.2` is in progress. -/
def Confirming (db : Db) (c : Nat × OrderId) : Prop :=
  ∃ p, db.payments.get? c.1 = some p ∧ p.order = c.2 ∧ p.status = .inProgress

theorem Confirming.charge {db : Db} {c : Nat × OrderId} (h : Confirming db c) :
    (db.charge c.2).payment = some .inProgress := by
  obtain ⟨p, hget, hord, hst⟩ := h
  rw [← hord, charge_of_payment hget, hst]

/-- The row is still there, and its charge says that it is in progress. -/
theorem Confirming.kept {db db' : Db} {c : Nat × OrderId} (h : Confirming db c)
    (hkeeps : db.payments.Keeps db'.payments)
    (hcharge : (db'.charge c.2).payment = some .inProgress) : Confirming db' c := by
  obtain ⟨p, hget, hord, _⟩ := h
  obtain ⟨q, hq, hqo⟩ := hkeeps c.1 p hget
  rw [hord] at hqo
  rw [← hqo, charge_of_payment hq] at hcharge
  exact ⟨q, hq, hqo, Option.some.inj hcharge⟩

/-- Two payments of one order are the same row. -/
theorem Confirming.key_eq {db : Db} {c : Nat × OrderId} {k : Nat} {p : Payment}
    (h : Confirming db c) (hget : db.payments.get? k = some p) (ho : p.order = c.2) :
    c.1 = k := by
  obtain ⟨q, hq, hqo, _⟩ := h
  exact db.payments.unique c.1 k q p hq hget (hqo.trans ho.symm)

/-- No order is cancelled under a confirmation. -/
theorem Confirming.cancelOrder_ne {db db' : Db} {c : Nat × OrderId} (h : Confirming db c)
    (now : Time) (closed : PaymentStatus) : cancelOrder db now c.2 closed ≠ .ok db' := by
  intro hc
  obtain ⟨order, hcancels⟩ := cancelOrder_ok hc
  obtain ⟨p, hget, hord, hst⟩ := h
  have hlive := hcancels.notLive c.1 p hget hord
  rw [hst] at hlive
  cases hlive

/-- No cancellation of an order moves a charge whose payment is in
progress. -/
theorem Move.not_inProgress {act : Act} {c c' : Charge} (h : Move act c c')
    (hact : act = .cancelPayment ∨ act = .cancelVirtualAccount ∨
      ∃ closed, act = .cancelOrder closed) :
    c.payment ≠ some .inProgress := by
  intro hp
  cases h with
  | cancelPayment _ => cases hp
  | cancelVirtualAccount _ => cases hp
  | cancelOrder _ hlive =>
    have hdead := hlive _ hp
    cases hdead
  | _ => simp at hact

/-- Neither does a customer cancel it in another way. -/
theorem Confirming.cancelByCustomer_ne {db : Db} {c : Nat × OrderId} (h : Confirming db c)
    (now : Time) (order : Order) (user : UserId) (toss : Except TossPaymentError TossPayment)
    (out : CustomerCancel × Db) : cancelByCustomer db now c.2 order user toss ≠ .ok out := by
  intro hc
  obtain ⟨result, db'⟩ := out
  obtain ⟨hacts, _⟩ := cancelByCustomer_acts hc
  rcases hacts with hacts | hacts | hacts
  · exact hacts.move.not_inProgress (Or.inl rfl) h.charge
  · exact hacts.move.not_inProgress (Or.inr (Or.inl rfl)) h.charge
  · exact hacts.move.not_inProgress (Or.inr (Or.inr ⟨_, rfl⟩)) h.charge

/-! ## The invariant -/

/-- The fence holds for every order and every confirmation under way. -/
structure Fenced (w : World) : Prop where
  orders : ∀ o, (w.db.charge o).Fenced
  confirming : ∀ c ∈ w.confirming, Confirming w.db c

/-- What leaves every charge keeps the fence. -/
theorem Fenced.of_same {w w' : World} (hw : Fenced w) (h : SameCharges w.db w'.db)
    (hkeeps : w.db.payments.Keeps w'.db.payments)
    (hsub : ∀ c ∈ w'.confirming, c ∈ w.confirming) : Fenced w' := by
  refine ⟨fun o => ?_, fun c hc => ?_⟩
  · rw [h o]
    exact hw.orders o
  · have hopen := hw.confirming c (hsub c hc)
    refine hopen.kept hkeeps ?_
    rw [h c.2]
    exact hopen.charge

/-- A function of `act` on `o` keeps the fence, when a confirmation of `o`
that stays open is still in progress after it. -/
theorem Fenced.of_acts {w w' : World} {act : Act} {o : OrderId} (hw : Fenced w)
    (h : Acts act o w.db w'.db) (hkeeps : w.db.payments.Keeps w'.db.payments)
    (hact : act.confirmsOrCancels = true)
    (hsub : ∀ c ∈ w'.confirming, c ∈ w.confirming ∧ c.2 ≠ o) : Fenced w' := by
  refine ⟨h.invariant hw.orders fun c hmove => (hw.orders o).move hmove hact, fun c hc => ?_⟩
  obtain ⟨hmem, hne⟩ := hsub c hc
  have hopen := hw.confirming c hmem
  refine hopen.kept hkeeps ?_
  rw [h.frame c.2 hne]
  exact hopen.charge

/-- No confirmation of an order is under way when a function cancels it. -/
theorem Fenced.of_cancels {w w' : World} {act : Act} {o : OrderId} (hw : Fenced w)
    (h : Acts act o w.db w'.db) (hkeeps : w.db.payments.Keeps w'.db.payments)
    (hact : act.confirmsOrCancels = true) (hcancels : act = .cancelPayment ∨
      act = .cancelVirtualAccount ∨ ∃ closed, act = .cancelOrder closed)
    (hconfirming : w'.confirming = w.confirming) : Fenced w' := by
  refine hw.of_acts h hkeeps hact fun c hc => ?_
  rw [hconfirming] at hc
  refine ⟨hc, fun ho => ?_⟩
  have hcharge := (hw.confirming c hc).charge
  rw [ho] at hcharge
  exact h.move.not_inProgress hcancels hcharge

/-! ## Runs -/

/-- The payment of one order, its confirmation with the tasks behind it, and
what cancels an unpaid order. -/
def fenceEvent (w : World) : Event → Bool
  | .readOrder _ | .validateRequest _ _ _ | .createRequest _ _ _ | .confirmAsync _ _ _ _ _
  | .confirmSync _ _ _ | .cancelByCustomer _ _ _ | .cancelOrder _ | .expireOrder _ => true
  | .deliver n _ =>
    match w.messages[n]? with
    | some (.confirm _ _ _ _ _ _) | some (.finalize _ _ _) | some (.rollback _ _) => true
    | _ => false
  | _ => false

/-- The event makes a new payment for an order that is canceled, or whose
confirmation is under way. -/
def breaksFence (w : World) (e : Time × Event) : Bool :=
  match e.2 with
  | .createRequest n _ key =>
    match w.paymentRequests[n]? with
    | some r =>
      r.existing.isNone &&
        (checkIdempotencyKey w.db e.1 (Payment.truthy key) r.orderId r.order.user).isNone &&
        (decide (w.db.statusOf r.orderId = some .canceled) ||
          w.confirming.any fun c => decide (c.2 = r.orderId))
    | none => false
  | _ => false

/-- A new payment keeps the fence when its order is not canceled and no
confirmation of it is under way. -/
theorem Fenced.of_requests {w w' : World} {o : OrderId} {k : Nat} {row : Payment} (hw : Fenced w)
    (h : Requests w.db o k row w'.db) (hconfirming : w'.confirming = w.confirming)
    (hcanceled : w.db.statusOf o ≠ some .canceled) (hfree : ∀ c ∈ w.confirming, c.2 ≠ o) :
    Fenced w' := by
  constructor
  · refine h.acts.invariant hw.orders fun c hmove => ?_
    have hne : (w.db.charge o).order ≠ some .canceled := hcanceled
    intro p ho _
    generalize w.db.charge o = before at hmove hne
    cases hmove
    exact absurd ho hne
  · intro c hc
    rw [hconfirming] at hc
    obtain ⟨p, hget, hord, hst⟩ := hw.confirming c hc
    have hof := PaymentTable.ofOrder?_eq_some.mpr ⟨hget, hord⟩
    rw [← show w'.db.payments.ofOrder? c.2 = w.db.payments.ofOrder? c.2 by
      rw [h.ofOrder?, if_neg (hfree c hc)]] at hof
    exact ⟨p, (PaymentTable.ofOrder?_eq_some.mp hof).1, hord, hst⟩

/-- A confirmation that begins is in progress, and no other one is of its
order. -/
theorem Fenced.of_confirmAsync {w w' : World} {k : Nat} {p : Payment} (hw : Fenced w)
    (hget : w.db.payments.get? k = some p) (hacts : Acts .confirmAsync p.order w.db w'.db)
    (hkeeps : w.db.payments.Keeps w'.db.payments)
    (hconfirming : w'.confirming = (k, p.order) :: w.confirming) : Fenced w' := by
  refine ⟨hacts.invariant hw.orders fun c hmove => (hw.orders _).move hmove rfl, fun c hc => ?_⟩
  have hmoved : (w'.db.charge p.order).payment = some .inProgress := by
    have hmove := hacts.move
    generalize w'.db.charge p.order = after at hmove ⊢
    generalize w.db.charge p.order = before at hmove
    cases hmove
    rfl
  rw [hconfirming] at hc
  rcases List.mem_cons.mp hc with rfl | hmem
  · obtain ⟨q, hq, hqo⟩ := hkeeps k p hget
    rw [← hqo, charge_of_payment hq] at hmoved
    exact ⟨q, hq, hqo, Option.some.inj hmoved⟩
  · have hopen := hw.confirming c hmem
    refine hopen.kept hkeeps ?_
    by_cases ho : c.2 = p.order
    · rw [ho]
      exact hmoved
    · rw [hacts.frame c.2 ho]
      exact hopen.charge

theorem fenced_deliver {w : World} {now : Time} (hw : Fenced w) (d : Delivery) {m : Message}
    (hm : (match m with
      | .confirm _ _ _ _ _ _ | .finalize _ _ _ | .rollback _ _ => true
      | _ => false) = true) : Fenced (w.deliver now d m) := by
  cases m with
  | confirm key o amount id k user =>
    obtain ⟨hkeeps, hcall⟩ := PaymentTasks.callTossConfirmApi_follows w.db o amount id k user
      d.answer d.retriesLeft d.published
    simp only [World.deliver]
    rcases hcall with hsame | ⟨⟨log, reason, hresult⟩, hacts⟩
    · split
      · exact hw.of_same hsame hkeeps fun c hc => (List.mem_filter.mp hc).1
      · exact hw.of_same hsame hkeeps fun c hc => hc
    · rw [hresult]
      refine hw.of_acts hacts hkeeps rfl fun c hc => ?_
      obtain ⟨hmem, hne⟩ := List.mem_filter.mp hc
      exact ⟨hmem, of_decide_eq_true hne⟩
  | finalize response k user =>
    simp only [World.deliver]
    cases hfin : PaymentTasks.finalizePaymentConfirm w.db now response k user d.published with
    | error e =>
      dsimp only
      split
      · exact hw
      · have halert := PaymentTasks.alertFinalizeExhausted_movesPoints w.db k
        exact hw.of_same (.of_tables halert.orders halert.payments) (keeps_of_eq halert.payments)
          fun c hc => hc
    | ok out =>
      obtain ⟨p, hget, hkeeps, hdb⟩ := PaymentTasks.finalizePaymentConfirm_acts hfin
      rcases hdb with hdb | ⟨_, hacts⟩
      · refine hw.of_same ?_ hkeeps fun c hc => (List.mem_filter.mp hc).1
        rw [World.resolve_db, World.commit_db, hdb]
        exact SameCharges.refl w.db
      · refine hw.of_acts hacts hkeeps rfl fun c hc => ?_
        obtain ⟨hmem, hne⟩ := List.mem_filter.mp hc
        exact ⟨hmem, fun ho =>
          of_decide_eq_true hne ((hw.confirming c hmem).key_eq hget ho.symm)⟩
  | rollback o reason =>
    obtain ⟨hfollows, hkeeps⟩ :=
      PaymentTasks.rollbackPaymentFailure_follows w.db now o reason
    rcases hfollows with hsame | hacts
    · exact hw.of_same hsame hkeeps fun c hc => (List.mem_filter.mp hc).1
    · refine hw.of_acts hacts hkeeps rfl fun c hc => ?_
      obtain ⟨hmem, hne⟩ := List.mem_filter.mp hc
      exact ⟨hmem, of_decide_eq_true hne⟩
  | processOrder o cart usePoints => cases hm
  | addPoints user o => cases hm

theorem fenced_step {w : World} {e : Time × Event} (hw : Fenced w)
    (he : fenceEvent w e.2 = true) (hbreaks : breaksFence w e = false) :
    Fenced (w.run e.1 e.2) := by
  obtain ⟨now, e⟩ := e
  cases e with
  | readOrder o =>
    simp only [World.run]
    split
    · exact hw
    · exact ⟨hw.orders, hw.confirming⟩
  | validateRequest o user isStaff =>
    refine World.after_of hw fun r _ => ?_
    exact ⟨hw.orders, hw.confirming⟩
  | createRequest n method key =>
    simp only [World.run]
    cases hread : w.paymentRequests[n]? with
    | none => exact hw
    | some r =>
      refine World.after_of hw ?_
      rintro ⟨k, db⟩ hout
      rcases createFromRequest_ok hout with hdb | ⟨hnone, hnew, row, hreq⟩
      · rw [hdb]
        exact ⟨hw.orders, hw.confirming⟩
      · simp only [breaksFence, hread, hnone, hnew, Option.isNone_none, Bool.true_and,
          Bool.or_eq_false_iff, decide_eq_false_iff_not, List.any_eq_false,
          decide_eq_true_eq] at hbreaks
        exact hw.of_requests hreq rfl hbreaks.1 hbreaks.2
  | confirmAsync k key amount user published =>
    simp only [World.run]
    cases hord : w.orderOfPayment k with
    | none => exact hw
    | some o =>
      refine World.after_of hw fun out hout => ?_
      obtain ⟨p, hget, hacts, hkeeps⟩ := confirmPaymentAsync_acts hout
      have hpo : p.order = o := by
        rw [World.orderOfPayment, hget] at hord
        exact Option.some.inj hord
      subst hpo
      exact hw.of_confirmAsync hget hacts hkeeps rfl
  | confirmSync k user toss =>
    refine World.after_of hw ?_
    rintro ⟨result, db⟩ hout
    obtain ⟨p, hget, hacts, hkeeps⟩ := confirmPaymentSync_acts hout
    refine hw.of_acts hacts hkeeps rfl fun c hc => ?_
    obtain ⟨hmem, hne⟩ := List.mem_filter.mp hc
    exact ⟨hmem, fun ho => of_decide_eq_true hne ((hw.confirming c hmem).key_eq hget ho.symm)⟩
  | cancelOrder o =>
    refine World.after_of hw fun db hdb => ?_
    obtain ⟨order, hcancels⟩ := cancelOrder_ok hdb
    exact hw.of_cancels hcancels.acts (keeps_close hcancels.payments) rfl
      (Or.inr (Or.inr ⟨_, rfl⟩)) rfl
  | cancelByCustomer n user toss =>
    simp only [World.run]
    cases hread : w.orderReads[n]? with
    | none => exact hw
    | some seen =>
      refine World.after_of hw ?_
      rintro ⟨result, db⟩ hout
      obtain ⟨hacts, hkeeps⟩ := cancelByCustomer_acts hout
      have hcommit : Fenced (w.commit db) := by
        rcases hacts with hacts | hacts | hacts
        · exact hw.of_cancels hacts hkeeps rfl (Or.inl rfl) rfl
        · exact hw.of_cancels hacts hkeeps rfl (Or.inr (Or.inl rfl)) rfl
        · exact hw.of_cancels hacts hkeeps rfl (Or.inr (Or.inr ⟨_, rfl⟩)) rfl
      dsimp only
      split
      · exact ⟨hcommit.orders, hcommit.confirming⟩
      · exact hcommit
  | expireOrder o =>
    refine World.after_of hw ?_
    rintro ⟨expired, db⟩ hout
    obtain ⟨hfollows, hkeeps⟩ := OrderTasks.expireOrder_follows hout
    rcases hfollows with hsame | hacts
    · exact hw.of_same hsame hkeeps fun c hc => hc
    · exact hw.of_cancels hacts hkeeps rfl (Or.inr (Or.inr ⟨_, rfl⟩)) rfl
  | deliver n d =>
    simp only [World.run]
    cases hmsg : w.messages[n]? with
    | none => exact hw
    | some m =>
      refine fenced_deliver hw d ?_
      rw [fenceEvent, hmsg] at he
      cases m <;> first | rfl | cases he
  | _ => cases he

/-- The fence, in every world that a run reaches in which no `create_payment`
makes a new payment for a canceled order or in the middle of a confirmation:
both confirmations refuse every payment of a canceled order, whatever the
provider would answer; and nothing cancels an order whose confirmation is under
way. -/
theorem fence_holds {w₀ w : World} {es : List (Time × Event)} (hw : Fenced w₀)
    (h : Run World.step (fun w e => (fenceEvent w e.2 && !breaksFence w e) = true) w₀ es w) :
    (∀ now k p, w.db.payments.get? k = some p → w.db.statusOf p.order = some .canceled →
      (∀ key o amount user published, ∃ message,
        confirmPaymentAsync w.db now k key o amount user published
          = .error (.paymentConfirmError message)) ∧
      ∀ user, ∃ message, ∀ toss,
        confirmPaymentSync w.db now k user toss = .error (.paymentConfirmError message)) ∧
    ∀ k o, (k, o) ∈ w.confirming →
      (∀ now closed db', OrderService.cancelOrder w.db now o closed ≠ .ok db') ∧
      ∀ now order user toss out, cancelByCustomer w.db now o order user toss ≠ .ok out := by
  have hfenced : Fenced w := by
    refine h.invariant Fenced hw ?_
    intro t e u ht hok hstep
    cases hstep
    rw [Bool.and_eq_true, Bool.not_eq_true'] at hok
    exact fenced_step ht hok.1 hok.2
  constructor
  · intro now k p hget hcanceled
    have hclosed := hfenced.orders p.order p.status
    rw [charge_of_payment hget] at hclosed
    exact confirm_refuses hget (hclosed hcanceled rfl) now
  · intro k o hmem
    have hopen := hfenced.confirming (k, o) hmem
    exact ⟨fun now closed db' => hopen.cancelOrder_ne now closed,
      fun now order user toss out => hopen.cancelByCustomer_ne now order user toss out⟩

/-! ## A shop with an order that was not paid yet -/

/-- The order is confirmed and has no payment. -/
def unpaidShop : World where
  db := { (World.shop .confirmed .ready).db with payments := PaymentTable.empty }

theorem fenced_unpaidShop : Fenced unpaidShop := by
  constructor
  · intro o p _ hp
    cases hp
  · intro c hc
    cases hc

/-- A request, its confirmation, and a cancellation that is refused. -/
def fencedRun : List (Time × Event) :=
  [(1, .validateRequest 1 7 false), (2, .createRequest 0 "card" none),
    (3, .confirmAsync 1 "key" 13000 7 true), (4, .cancelOrder 1)]

theorem fence_holds_confirming :
    ∃ w, Run World.step (fun w e => (fenceEvent w e.2 && !breaksFence w e) = true) unpaidShop
        fencedRun w ∧ (1, 1) ∈ w.confirming ∧
      ∀ db', OrderService.cancelOrder w.db 5 1 ≠ .ok db' := by
  obtain ⟨w, hrun, hstate⟩ := Run.exists_of_execIf (by decide :
    (execIf World.step (fun w e => fenceEvent w e.2 && !breaksFence w e) unpaidShop
      fencedRun).any (fun w => decide ((1, 1) ∈ w.confirming)) = true)
  have hmem := of_decide_eq_true hstate
  exact ⟨w, hrun, hmem, ((fence_holds fenced_unpaidShop hrun).2 1 1 hmem).1 5 .canceled⟩

/-- A payment request that was validated before the cancellation creates its
payment after it, and the confirmation of it is scheduled. -/
theorem createPayment_passes_fence :
    ∃ w out, Run World.step (fun w e => fenceEvent w e.2 = true) unpaidShop
        [(1, .validateRequest 1 7 false), (2, .cancelOrder 1), (3, .createRequest 0 "card" none)]
          w ∧
      w.db.statusOf 1 = some .canceled ∧
      confirmPaymentAsync w.db 4 1 "key" 1 13000 7 true = .ok out ∧
      out.sent = [.confirm "key" 1 13000 (.orderNumber 1) 1 7] := by
  obtain ⟨w, hrun, hstate⟩ := Run.exists_of_execIf (by decide :
    (execIf World.step (fun w e => fenceEvent w e.2) unpaidShop
      [(1, .validateRequest 1 7 false), (2, .cancelOrder 1),
        (3, .createRequest 0 "card" none)]).any (fun w =>
          decide (w.db.statusOf 1 = some .canceled) &&
          (confirmPaymentAsync w.db 4 1 "key" 1 13000 7 true).toOption.any fun out =>
            decide (out.sent = [.confirm "key" 1 13000 (.orderNumber 1) 1 7])) = true)
  rw [Bool.and_eq_true, decide_eq_true_eq, Option.any_eq_true] at hstate
  obtain ⟨hcanceled, out, hout, hsent⟩ := hstate
  exact ⟨w, out, hrun, hcanceled, toOption_eq_some.mp hout, of_decide_eq_true hsent⟩

/-- The second of two requests deletes the payment that is being confirmed, and
the order is cancelled under the confirmation. -/
example : (execIf World.step (fun w e => fenceEvent w e.2) unpaidShop
    [(1, .validateRequest 1 7 false), (2, .validateRequest 1 7 false),
      (3, .createRequest 0 "card" none), (4, .confirmAsync 1 "key" 13000 7 true),
      (5, .createRequest 1 "card" none), (6, .cancelOrder 1)]).any (fun w =>
        decide ((1, 1) ∈ w.confirming ∧ w.db.statusOf 1 = some .canceled)) = true := by decide

end Shopping
