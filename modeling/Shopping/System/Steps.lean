import Shopping.Charges.Refinement
import Shopping.Payments.Records
import Shopping.System.Commits

/-!
# What an event does to the charges

`Does w e act o` says that the event `e` runs the function of `act` on the
order `o` in the world `w`, with the message or the row that it works on.
`World.run_refines` is the refinement: an event leaves every charge as it was,
or makes the move of what it does.

A failure callback writes a row that it read earlier.  `ReadsKept` says that
these rows still exist and belong to their order, which holds as long as no
payment is deleted.
-/

namespace Shopping

/-- The write of a failure callback goes through: it has a text for the
reason, the order is there where it is read, and no other payment took a unique
value of the row. -/
def writesFailure (db : Db) (seen : FailureRead) : Bool :=
  !db.payments.conflicts seen.row.1 seen.row.2 &&
    match seen with
    | .view _ _ _ _ => true
    | .callback _ _ message => message.isSome
    | .webhook _ payment _ => (db.orders.get? payment.order).isSome

/-- The function that an event runs, and the order it is about. -/
inductive Does (w : World) : Event → Act → OrderId → Prop where
  | placeOrder {n : Nat} {published : Bool} {r : OrderRequest}
      (hread : w.orderRequests[n]? = some r) :
      Does w (.placeOrder n published) .placeOrder w.db.orders.next
  | processOrder {n : Nat} {d : Delivery} {o : OrderId} {cart : CartId} {usePoints : Int}
      (hmsg : w.messages[n]? = some (.processOrder o cart usePoints)) :
      Does w (.deliver n d) .processOrder o
  | abandonOrder {n : Nat} {giveUp : Time} {published : Bool} {seen : OrderId × Order}
      (hread : w.orderReads[n]? = some seen) :
      Does w (.republishStalled n giveUp published) .abandonOrder seen.1
  | cancelOrder {o : OrderId} : Does w (.cancelOrder o) (.cancelOrder .canceled) o
  | customer {n : Nat} {user : UserId} {toss : Except TossPaymentError TossPayment} {act : Act}
      {seen : OrderId × Order} (hread : w.orderReads[n]? = some seen)
      (hact : act = .cancelPayment ∨ act = .cancelVirtualAccount ∨ act = .cancelOrder .canceled) :
      Does w (.cancelByCustomer n user toss) act seen.1
  | expireOrder {o : OrderId} : Does w (.expireOrder o) (.cancelOrder .expired) o
  | request {n : Nat} {method : String} {key : Option String}
      {r : PaymentService.PaymentRequest} (hread : w.paymentRequests[n]? = some r)
      (hnone : r.existing = none) : Does w (.createRequest n method key) .request r.orderId
  | confirmAsync {k : Nat} {paymentKey : String} {amount : Int} {user : UserId}
      {published : Bool} {p : Payment} (hget : w.db.payments.get? k = some p) :
      Does w (.confirmAsync k paymentKey amount user published) .confirmAsync p.order
  | confirmSync {k : Nat} {user : UserId} {toss : Except TossPaymentError TossPayment}
      {p : Payment} (hget : w.db.payments.get? k = some p) :
      Does w (.confirmSync k user toss) .confirmSync p.order
  | abort {n : Nat} {d : Delivery} {key log reason : String} {o : OrderId} {amount : Int}
      {id : TossOrderId} {k : Nat} {user : UserId}
      (hmsg : w.messages[n]? = some (.confirm key o amount id k user))
      (habort : PaymentTasks.confirmDecision id amount d.retriesLeft d.answer
        = .abort log reason) :
      Does w (.deliver n d) .abort o
  | finalize {n : Nat} {d : Delivery} {response : TossPayment} {k : Nat} {user : UserId}
      {p : Payment} (hmsg : w.messages[n]? = some (.finalize response k user))
      (hget : w.db.payments.get? k = some p) (hdone : p.status ≠ .done)
      (hrecords : recordsResponse w.db k p response = true) :
      Does w (.deliver n d) .finalize p.order
  | rollback {n : Nat} {d : Delivery} {o : OrderId} {reason : String}
      (hmsg : w.messages[n]? = some (.rollback o reason)) : Does w (.deliver n d) .rollback o
  | fail {n : Nat} {published : Bool} {seen : FailureRead} {p : Payment}
      (hread : w.failureReads[n]? = some seen) (hget : w.db.payments.get? seen.row.1 = some p)
      (hwrites : writesFailure w.db seen = true) :
      Does w (.writeFailure n published) (.fail seen.row.2.isCanceled) p.order
  | webhookDone {event : TossPayment} {o : OrderId} : Does w (.webhookDone event) .webhookDone o
  | webhookCanceled {event : TossPayment} {o : OrderId} :
      Does w (.webhookCanceled event) .webhookCanceled o
  | webhookWaiting {event : TossPayment} {o : OrderId} :
      Does w (.webhookWaiting event) .webhookWaiting o
  | cancelPayment {k : Nat} {user : UserId} {toss : Except TossPaymentError TossPayment}
      {p : Payment} (hget : w.db.payments.get? k = some p) :
      Does w (.cancelPayment k user toss) .cancelPayment p.order
  | cancelVirtualAccount {o : OrderId} {user : UserId}
      {toss : Except TossPaymentError TossPayment} :
      Does w (.cancelVirtualAccount o user toss) .cancelVirtualAccount o
  | pointsOnly {n : Nat} {user : UserId} {seen : OrderId × Order}
      (hread : w.orderReads[n]? = some seen) :
      Does w (.completePointsOnly n user) .pointsOnly seen.1
  | completeRefund {id : Nat} {toss : Except TossPaymentError TossPayment} {r : Return}
      (hget : w.db.returns.get? id = some r) :
      Does w (.completeRefund id toss) .completeRefund r.order

/-- The rows that the failure callbacks read are still there, under their
order. -/
def ReadsKept (w : World) : Prop :=
  ∀ seen ∈ w.failureReads, ∃ p, w.db.payments.get? seen.row.1 = some p ∧
    p.order = seen.row.2.order

namespace World

variable {w : World} {now : Time}

/-! ## The step -/

/-- An event keeps every charge, or makes a move of what it does. -/
def Refines (w : World) (e : Event) (w' : World) : Prop :=
  SameCharges w.db w'.db ∨ ∃ act o, Does w e act o ∧ Acts act o w.db w'.db

theorem Refines.refl (w : World) (e : Event) : Refines w e w := Or.inl (SameCharges.refl w.db)

theorem Refines.of_acts {e : Event} {act : Act} {o : OrderId} {w' : World}
    (hdoes : Does w e act o) (h : Acts act o w.db w'.db) : Refines w e w' :=
  Or.inr ⟨act, o, hdoes, h⟩

theorem Refines.of_follows {e : Event} {act : Act} {o : OrderId} {w' : World}
    (hdoes : Does w e act o) (h : Follows act o w.db w'.db) : Refines w e w' :=
  h.imp_right fun hacts => ⟨act, o, hdoes, hacts⟩

theorem Refines.of_moves {e : Event} {w' : World} (h : MovesPoints w.db w'.db) :
    Refines w e w' :=
  Or.inl (SameCharges.of_tables h.orders h.payments)

theorem earns_sameCharges {db db' : Db} {o : OrderId} (h : PaymentService.Earns db o db') :
    SameCharges db db' := by
  intro i
  have hst := h.statusOf i
  unfold Db.statusOf at hst
  unfold Db.charge
  rw [hst, h.payments]

/-! ### The write of a failure callback -/

/-- A failure callback wrote the row that it read, aborted or expired. -/
structure SavesFailure (w : World) (n : Nat) (seen : FailureRead) (row : Payment) (db : Db) :
    Prop where
  read : w.failureReads[n]? = some seen
  same : seen.row.2.SameCharge row
  paymentKey : row.paymentKey = seen.row.2.paymentKey
  closed : row.status = .aborted ∨ row.status = .expired
  saved : w.db.payments.save seen.row.1 row = .ok db.payments
  orders : db.orders = w.db.orders
  logs : ∃ logs, db.logs = w.db.logs ++ logs
  writes : writesFailure w.db seen = true

/-- The row has the unique values of the one that was read, so no other payment
took these. -/
theorem conflicts_of_save {db db' : Db} {k : Nat} {row seen : Payment}
    (hsave : db.payments.save k row = .ok db'.payments) (hsame : seen.SameCharge row)
    (hkey : row.paymentKey = seen.paymentKey) : db.payments.conflicts k seen = false := by
  rw [← PaymentTable.conflicts_congr db.payments k hsame.order hsame.tossOrderId hkey]
  exact (PaymentTable.save_returns db.payments k row).mp ⟨_, hsave⟩

theorem savesFailure {n : Nat} {published : Bool} {db : Db}
    (h : Commits w now (.writeFailure n published) db) :
    ∃ seen row, SavesFailure w n seen row db := by
  cases h with
  | @failView n _ k payment code message db hread hcall =>
    obtain ⟨hsave, horders, _, hlogs⟩ := PaymentViews.postFailure_ok hcall
    have hsame := payment.markAsFailed_same now ("[" ++ code ++ "] " ++ message)
    have hfree := conflicts_of_save hsave hsame rfl
    exact ⟨_, _, hread, hsame, rfl, Or.inl rfl, hsave, horders, hlogs,
      by simp [writesFailure, FailureRead.row, hfree]⟩
  | @failCallback n _ k payment message db hread hcall =>
    obtain ⟨reason, hmessage, hsave, horders, _, hlogs⟩ := PaymentViews.paymentFail_ok hcall
    have hsame := payment.markAsFailed_same now reason
    have hfree := conflicts_of_save hsave hsame rfl
    exact ⟨_, _, hread, hsame, rfl, Or.inl rfl, hsave, horders,
      ⟨[], by simp [hlogs]⟩, by simp [writesFailure, FailureRead.row, hfree, hmessage]⟩
  | @failWebhook n _ k payment event out hread hcall =>
    obtain ⟨row, ⟨hsame, hkey⟩, horder, hclosed, hsave, horders, _, hlogs, _⟩ :=
      TossWebhookService.failPayment_ok hcall
    have hfree := conflicts_of_save hsave hsame hkey
    exact ⟨_, row, hread, hsame, hkey, hclosed, hsave, horders, hlogs,
      by simp [writesFailure, FailureRead.row, hfree, horder]⟩

/-- A failure callback writes no order. -/
theorem run_writeFailure_orders (w : World) (now : Time) (n : Nat) (published : Bool) :
    (w.run now (.writeFailure n published)).db.orders = w.db.orders :=
  run_of (P := fun db => db.orders = w.db.orders) rfl fun db h => by
    obtain ⟨seen, row, hfails⟩ := savesFailure h
    exact hfails.orders

/-! ### Every event -/

/-- The shop refines the charge machine. -/
theorem run_refines (now : Time) {e : Event}
    (hreads : ∀ n published, e = .writeFailure n published → ReadsKept w) :
    Refines w e (w.run now e) := by
  refine run_of (P := fun db => Refines w e (w.commit db)) (Refines.refl w e) fun db hcommits => ?_
  have hsame : ∀ {u : World}, u.db = w.db → Refines w e u := by
    intro u hu
    left
    rw [hu]
    exact SameCharges.refl w.db
  cases id hcommits with
  | placeOrder hread hcall =>
    obtain ⟨order, hplaces⟩ := OrderService.placeOrder_ok hcall
    have hacts := hplaces.acts
    rw [hplaces.key] at hacts
    exact .of_acts (.placeOrder hread) hacts
  | @republishStalled n giveUp published seen hread =>
    rcases (OrderTasks.republishLoop_one now giveUp (fun _ => published) w.db seen.1 seen.2).1 with
      hdb | ⟨order, habandons⟩
    · exact hsame hdb
    · exact .of_acts (.abandonOrder hread) habandons.acts
  | cancelOrder hcall =>
    obtain ⟨order, hcancels⟩ := OrderService.cancelOrder_ok hcall
    exact .of_acts .cancelOrder hcancels.acts
  | cancelByCustomer hread hcall =>
    rcases (PaymentService.cancelByCustomer_acts hcall).1 with hacts | hacts | hacts
    · exact .of_acts (.customer hread (Or.inl rfl)) hacts
    · exact .of_acts (.customer hread (Or.inr (Or.inl rfl))) hacts
    · exact .of_acts (.customer hread (Or.inr (Or.inr rfl))) hacts
  | expireOrder hcall => exact .of_follows .expireOrder (OrderTasks.expireOrder_follows hcall).1
  | createRequest hread hcall =>
    rcases PaymentService.createFromRequest_ok hcall with hdb | ⟨hnone, _, row, hreq⟩
    · exact hsame hdb
    · exact .of_acts (.request hread hnone) hreq.acts
  | confirmAsync hread hcall =>
    obtain ⟨payment, hget, hacts, _⟩ := PaymentService.confirmPaymentAsync_acts hcall
    exact .of_acts (.confirmAsync hget) hacts
  | confirmSync hcall =>
    obtain ⟨payment, hget, hacts, _⟩ := PaymentService.confirmPaymentSync_acts hcall
    exact .of_acts (.confirmSync hget) hacts
  | processOrder hmsg hcall =>
    obtain ⟨order, hfound, hdb | ⟨hpending, cart, products, items, shortage, _, _, hcase⟩⟩ :=
      OrderTasks.processOrderHeavyTasks_ok hcall
    · exact hsame hdb
    · exact .of_acts (.processOrder hmsg) (hcase.acts hfound hpending)
  | @confirm n d key o amount id k user hmsg =>
    have hfollows := (PaymentTasks.callTossConfirmApi_follows w.db o amount id k user d.answer
      d.retriesLeft d.published).2
    refine hfollows.imp_right fun ⟨⟨log, reason, hresult⟩, hacts⟩ => ⟨.abort, o, ?_, hacts⟩
    rw [PaymentTasks.callTossConfirmApi_result] at hresult
    exact .abort hmsg hresult
  | @finalize n d response k user out hmsg hcall =>
    obtain ⟨payment, hget, _, hdb | ⟨hdone, hacts⟩⟩ :=
      PaymentTasks.finalizePaymentConfirm_acts hcall
    · exact hsame hdb
    · have hrecords := (finalizePaymentConfirm_returns hget hdone now response user
        d.published).mp ⟨out, hcall⟩
      exact .of_acts (.finalize hmsg hget hdone hrecords) hacts
  | alertFinalize hmsg => exact .of_moves (PaymentTasks.alertFinalizeExhausted_movesPoints _ _)
  | @rollback n d o reason hmsg =>
    exact .of_follows (.rollback hmsg)
      (PaymentTasks.rollbackPaymentFailure_follows w.db now o reason).1
  | addPoints hmsg hcall =>
    exact Or.inl (earns_sameCharges (PointTasks.addPointsAfterPayment_ok hcall))
  | @reconcile stall lookup =>
    exact .of_moves (PaymentTasks.reconcileLoop_spec lookup _ w.db).1
  | failView | failCallback | failWebhook =>
    obtain ⟨seen, row, hfails⟩ := savesFailure hcommits
    obtain ⟨p, hget, hord⟩ := hreads _ _ rfl seen (List.mem_of_getElem? hfails.read)
    exact .of_acts (.fail hfails.read hget hfails.writes)
      (acts_of_stale_save hfails.saved hfails.orders hfails.same.order hfails.same.isCanceled
        hfails.closed hget hord).1
  | webhookDone hcall =>
    obtain ⟨_, o, hacts⟩ := TossWebhookService.handlePaymentDone_acts hcall
    exact .of_follows (.webhookDone (o := o)) hacts
  | webhookCanceled hcall =>
    obtain ⟨_, o, hacts⟩ := TossWebhookService.handlePaymentCanceled_acts hcall
    exact .of_follows (.webhookCanceled (o := o)) hacts
  | webhookWaiting hcall =>
    obtain ⟨_, o, hacts⟩ := TossWebhookService.handleWaitingForDeposit_acts hcall
    exact .of_follows (.webhookWaiting (o := o)) hacts
  | cancelPayment hcall =>
    obtain ⟨payment, hget, hacts, _⟩ := PaymentService.cancelPayment_acts hcall
    exact .of_acts (.cancelPayment hget) hacts
  | cancelVirtualAccount hcall =>
    exact .of_acts .cancelVirtualAccount
      (PaymentService.cancelVirtualAccountBeforeDeposit_acts hcall).1
  | completePointsOnly hread hcall =>
    exact .of_acts (.pointsOnly hread) (PaymentService.completePointsOnlyPayment_acts hcall).1
  | completeRefund hread hcall =>
    obtain ⟨r, hget, hacts, _⟩ := ReturnService.completeRefund_acts hcall
    exact .of_acts (.completeRefund hget) hacts

/-! ## The rows that are kept -/

/-- Every payment is still there, under its order. -/
def KeepsPayments (w w' : World) : Prop := w.db.payments.Keeps w'.db.payments

/-- Only `create_payment` deletes payments. -/
theorem run_keeps {e : Event}
    (hreads : ∀ n published, e = .writeFailure n published → ReadsKept w)
    (he : ∀ n method key, e ≠ .createRequest n method key) :
    KeepsPayments w (w.run now e) := by
  refine run_of (P := fun db => w.db.payments.Keeps db.payments) (PaymentTable.Keeps.refl _)
    fun db hcommits => ?_
  cases id hcommits with
  | placeOrder hread hcall =>
    obtain ⟨order, hplaces⟩ := OrderService.placeOrder_ok hcall
    exact keeps_of_eq hplaces.payments
  | @republishStalled n giveUp published seen hread =>
    rcases (OrderTasks.republishLoop_one now giveUp (fun _ => published) w.db seen.1 seen.2).1 with
      hdb | ⟨order, habandons⟩
    · exact keeps_of_eq (congrArg Db.payments hdb)
    · exact keeps_of_eq habandons.payments
  | cancelOrder hcall =>
    obtain ⟨order, hcancels⟩ := OrderService.cancelOrder_ok hcall
    exact keeps_close hcancels.payments
  | cancelByCustomer hread hcall => exact (PaymentService.cancelByCustomer_acts hcall).2
  | expireOrder hcall => exact (OrderTasks.expireOrder_follows hcall).2
  | createRequest hread hcall => exact absurd rfl (he _ _ _)
  | confirmAsync hread hcall =>
    obtain ⟨_, _, _, hkeeps⟩ := PaymentService.confirmPaymentAsync_acts hcall
    exact hkeeps
  | confirmSync hcall =>
    obtain ⟨_, _, _, hkeeps⟩ := PaymentService.confirmPaymentSync_acts hcall
    exact hkeeps
  | processOrder hmsg hcall =>
    obtain ⟨order, _, hdb | ⟨_, cart, products, items, shortage, _, _, hcase⟩⟩ :=
      OrderTasks.processOrderHeavyTasks_ok hcall
    · exact keeps_of_eq (congrArg Db.payments hdb)
    · cases hcase with
      | failed _ _ _ hpayments _ => exact keeps_of_eq hpayments
      | confirmed _ _ hpayments _ => exact keeps_of_eq hpayments
  | confirm hmsg => exact (PaymentTasks.callTossConfirmApi_follows _ _ _ _ _ _ _ _ _).1
  | finalize hmsg hcall =>
    obtain ⟨payment, _, hkeeps, _⟩ := PaymentTasks.finalizePaymentConfirm_acts hcall
    exact hkeeps
  | alertFinalize hmsg =>
    exact keeps_of_eq (PaymentTasks.alertFinalizeExhausted_movesPoints _ _).payments
  | rollback hmsg => exact (PaymentTasks.rollbackPaymentFailure_follows _ _ _ _).2
  | addPoints hmsg hcall => exact keeps_of_eq (PointTasks.addPointsAfterPayment_ok hcall).payments
  | @reconcile stall lookup =>
    exact keeps_of_eq (PaymentTasks.reconcileLoop_spec lookup _ w.db).1.payments
  | failView | failCallback | failWebhook =>
    obtain ⟨seen, row, hfails⟩ := savesFailure hcommits
    obtain ⟨p, hget, hord⟩ := hreads _ _ rfl seen (List.mem_of_getElem? hfails.read)
    exact keeps_of_save hget hfails.saved (hfails.same.order.trans hord.symm)
  | webhookDone hcall => exact (TossWebhookService.handlePaymentDone_acts hcall).1
  | webhookCanceled hcall => exact (TossWebhookService.handlePaymentCanceled_acts hcall).1
  | webhookWaiting hcall => exact (TossWebhookService.handleWaitingForDeposit_acts hcall).1
  | cancelPayment hcall =>
    obtain ⟨_, _, _, hkeeps⟩ := PaymentService.cancelPayment_acts hcall
    exact hkeeps
  | cancelVirtualAccount hcall =>
    exact (PaymentService.cancelVirtualAccountBeforeDeposit_acts hcall).2
  | completePointsOnly hread hcall =>
    exact (PaymentService.completePointsOnlyPayment_acts hcall).2
  | completeRefund hread hcall =>
    obtain ⟨_, _, _, hkeeps⟩ := ReturnService.completeRefund_acts hcall
    exact hkeeps

/-- A failure callback reads a row that is there. -/
def ReadsRows (w w' : World) : Prop :=
  ∀ seen ∈ w'.failureReads,
    seen ∈ w.failureReads ∨ w.db.payments.get? seen.row.1 = some seen.row.2

theorem readsRows_of_eq {w' : World} (h : w'.failureReads = w.failureReads) : ReadsRows w w' := by
  intro seen hseen
  rw [h] at hseen
  exact Or.inl hseen

theorem readsRows_append {w' : World} {r : FailureRead}
    (h : w'.failureReads = w.failureReads ++ [r])
    (hr : w.db.payments.get? r.row.1 = some r.row.2) : ReadsRows w w' := by
  intro seen hseen
  rw [h, List.mem_append, List.mem_singleton] at hseen
  rcases hseen with hseen | hseen
  · exact Or.inl hseen
  · rw [hseen]
    exact Or.inr hr

theorem readForFailure_ok {db : Db} {id : TossOrderId} {user : UserId} {k : Nat} {p : Payment}
    (h : PaymentViews.readForFailure db id user = .ok (k, p)) :
    db.payments.get? k = some p ∧ p.status ≠ .done := by
  unfold PaymentViews.readForFailure at h
  split at h
  · cases h
  · rename_i j payment hof
    split at h
    · cases h
    · rename_i hdone
      split at h
      · cases h
      · obtain ⟨order, _, h⟩ := bind_eq_ok.mp h
        split at h
        · cases h
        · cases h
          exact ⟨PaymentTable.ofTossOrderId?_get hof, hdone⟩

theorem bind_ofTossOrderId?_get {db : Db} {id : Option TossOrderId} {k : Nat} {p : Payment}
    (h : id.bind db.payments.ofTossOrderId? = some (k, p)) : db.payments.get? k = some p := by
  obtain ⟨i, _, hof⟩ := Option.bind_eq_some_iff.mp h
  exact PaymentTable.ofTossOrderId?_get hof

theorem run_readsRows (w : World) (now : Time) (e : Event) : ReadsRows w (w.run now e) := by
  have hsame : ReadsRows w w := readsRows_of_eq rfl
  by_cases he : reads e = false
  · exact readsRows_of_eq (congrArg (fun held => held.2.1) (run_held he))
  cases e with
  | readForFailView id user code message =>
    refine after_of hsame ?_
    rintro ⟨k, p⟩ hread
    exact readsRows_append rfl (readForFailure_ok hread).1
  | readForFailCallback id message =>
    simp only [run, readPayment]
    split
    · exact hsame
    · rename_i k p hof
      exact readsRows_append rfl (bind_ofTossOrderId?_get hof)
  | readForFailWebhook event =>
    simp only [run]
    split
    · exact hsame
    · rename_i k p hof
      split
      · exact readsRows_append rfl (bind_ofTossOrderId?_get hof)
      · exact hsame
  | readOrder o =>
    simp only [run]
    split
    · exact hsame
    · exact readsRows_of_eq rfl
  | validateRequest o user isStaff => exact after_of hsame fun _ _ => readsRows_of_eq rfl
  | _ => exact absurd rfl he

/-- Without a deletion the rows that were read stay where they are. -/
theorem run_readsKept (hreads : ReadsKept w) {e : Event}
    (he : ∀ n method key, e ≠ .createRequest n method key) : ReadsKept (w.run now e) := by
  have hkeeps : KeepsPayments w (w.run now e) := run_keeps (fun _ _ _ => hreads) he
  intro seen hseen
  rcases run_readsRows w now e seen hseen with hold | hnew
  · obtain ⟨p, hp, hpo⟩ := hreads seen hold
    obtain ⟨q, hq, hqo⟩ := hkeeps _ p hp
    exact ⟨q, hq, hqo.trans hpo⟩
  · exact hkeeps _ _ hnew

/-! ## The shop with one order -/

theorem shop_charge (s : OrderStatus) (p : PaymentStatus) (o : OrderId) :
    (shop s p).db.charge o
      = if o = 1 then ⟨some s, some p, false⟩ else ⟨none, none, false⟩ := by
  have horders : (shop s p).db.orders = Table.empty.insert (oneOrder s) := rfl
  have hpayments : (shop s p).db.payments = PaymentTable.single (onePayment p) := rfl
  have hrow : ∀ k, (PaymentTable.single (onePayment p)).get? k
      = if k = 1 then some (onePayment p) else none := by
    intro k
    unfold PaymentTable.single PaymentTable.get?
    rw [Table.get?_insert, Table.next_empty, Table.get?_empty]
  have hpayment : (PaymentTable.single (onePayment p)).ofOrder? o
      = if o = 1 then some (1, onePayment p) else none := by
    split
    · rename_i ho
      exact PaymentTable.ofOrder?_eq_some.mpr ⟨hrow 1, ho.symm⟩
    · rename_i ho
      rw [PaymentTable.ofOrder?_eq_none]
      intro k q hq hc
      rw [hrow] at hq
      split at hq
      · cases hq
        exact ho hc.symm
      · cases hq
  unfold Db.charge
  rw [horders, hpayments, hpayment, Table.get?_insert, Table.next_empty, Table.get?_empty]
  split
  · rfl
  · rfl

theorem shop_readsKept (s : OrderStatus) (p : PaymentStatus) : ReadsKept (shop s p) := by
  intro seen hseen
  rw [show (shop s p).failureReads = [] from rfl] at hseen
  cases hseen

end World

end Shopping
