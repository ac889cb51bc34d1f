import Shopping.System.World

/-!
# The call of an event

An event writes the database in one call, or leaves it as it was.
`Commits w now e db` says which call this is, what it worked on, and that it
returned with the database `db`.  `World.run_of` is all that a proof about the
database needs of `World.run`: what holds after an event has one case for each
call.

`World.held` is what processes read to use it later.  Only the events that read
add to it (`World.run_held`).
-/

namespace Shopping

/-- The call of an event returned, and left the database `db`. -/
inductive Commits (w : World) (now : Time) : Event → Db → Prop where
  | placeOrder {n : Nat} {published : Bool} {r : OrderRequest} {o : OrderId} {db : Db}
      (hread : w.orderRequests[n]? = some r)
      (hcall : OrderService.placeOrder w.db now r.user r.cart r.draft = .ok (o, db)) :
      Commits w now (.placeOrder n published) db
  | republishStalled {n : Nat} {giveUp : Time} {published : Bool} {seen : OrderId × Order}
      (hread : w.orderReads[n]? = some seen) :
      Commits w now (.republishStalled n giveUp published)
        (OrderTasks.republishLoop now giveUp (fun _ => published) w.db [seen]).1
  | cancelOrder {o : OrderId} {db : Db} (hcall : OrderService.cancelOrder w.db now o = .ok db) :
      Commits w now (.cancelOrder o) db
  | cancelByCustomer {n : Nat} {user : UserId} {toss : Except TossPaymentError TossPayment}
      {seen : OrderId × Order} {out : PaymentService.CustomerCancel × Db}
      (hread : w.orderReads[n]? = some seen)
      (hcall : PaymentService.cancelByCustomer w.db now seen.1 seen.2 user toss = .ok out) :
      Commits w now (.cancelByCustomer n user toss) out.2
  | expireOrder {o : OrderId} {canceled : Bool} {db : Db}
      (hcall : OrderTasks.expireOrder w.db now o = .ok (canceled, db)) :
      Commits w now (.expireOrder o) db
  | createRequest {n : Nat} {method : String} {key : Option String}
      {request : PaymentService.PaymentRequest} {k : Nat} {db : Db}
      (hread : w.paymentRequests[n]? = some request)
      (hcall : PaymentService.createFromRequest w.db now request method key = .ok (k, db)) :
      Commits w now (.createRequest n method key) db
  | confirmAsync {k : Nat} {paymentKey : String} {amount : Int} {user : UserId}
      {published : Bool} {o : OrderId} {out : Outcome Unit} (hread : w.orderOfPayment k = some o)
      (hcall : PaymentService.confirmPaymentAsync w.db now k paymentKey o amount user published
        = .ok out) :
      Commits w now (.confirmAsync k paymentKey amount user published) out.db
  | confirmSync {k : Nat} {user : UserId} {toss : Except TossPaymentError TossPayment}
      {result : PaymentService.ConfirmResult} {db : Db}
      (hcall : PaymentService.confirmPaymentSync w.db now k user toss = .ok (result, db)) :
      Commits w now (.confirmSync k user toss) db
  | processOrder {n : Nat} {d : Delivery} {o : OrderId} {cart : CartId} {usePoints : Int}
      {out : Outcome OrderTasks.ProcessResult}
      (hmsg : w.messages[n]? = some (.processOrder o cart usePoints))
      (hcall : OrderTasks.processOrderHeavyTasks w.db now o cart usePoints = .ok out) :
      Commits w now (.deliver n d) out.db
  | confirm {n : Nat} {d : Delivery} {key : String} {o : OrderId} {amount : Int}
      {id : TossOrderId} {k : Nat} {user : UserId}
      (hmsg : w.messages[n]? = some (.confirm key o amount id k user)) :
      Commits w now (.deliver n d) (PaymentTasks.callTossConfirmApi w.db o amount id k user
        d.answer d.retriesLeft d.published).db
  | finalize {n : Nat} {d : Delivery} {response : TossPayment} {k : Nat} {user : UserId}
      {out : Outcome PaymentTasks.FinalizeResult}
      (hmsg : w.messages[n]? = some (.finalize response k user))
      (hcall : PaymentTasks.finalizePaymentConfirm w.db now response k user d.published
        = .ok out) :
      Commits w now (.deliver n d) out.db
  | alertFinalize {n : Nat} {d : Delivery} {response : TossPayment} {k : Nat} {user : UserId}
      (hmsg : w.messages[n]? = some (.finalize response k user)) :
      Commits w now (.deliver n d) (PaymentTasks.alertFinalizeExhausted w.db k)
  | rollback {n : Nat} {d : Delivery} {o : OrderId} {reason : String}
      (hmsg : w.messages[n]? = some (.rollback o reason)) :
      Commits w now (.deliver n d) (PaymentTasks.rollbackPaymentFailure w.db now o reason).2
  | addPoints {n : Nat} {d : Delivery} {user : UserId} {o : OrderId}
      {result : PointTasks.EarnResult} {db : Db}
      (hmsg : w.messages[n]? = some (.addPoints user o))
      (hcall : PointTasks.addPointsAfterPayment w.db now user o = .ok (result, db)) :
      Commits w now (.deliver n d) db
  | reconcile {stall : Time} {lookup : String → Except TossPaymentError TossPayment} :
      Commits w now (.reconcile stall lookup)
        (PaymentTasks.reconcileStalledPayments w.db now stall lookup).1
  | failView {n : Nat} {published : Bool} {k : Nat} {payment : Payment} {code message : String}
      {db : Db} (hread : w.failureReads[n]? = some (.view k payment code message))
      (hcall : PaymentViews.postFailure w.db now k payment code message = .ok db) :
      Commits w now (.writeFailure n published) db
  | failCallback {n : Nat} {published : Bool} {k : Nat} {payment : Payment}
      {message : Option String} {db : Db}
      (hread : w.failureReads[n]? = some (.callback k payment message))
      (hcall : PaymentViews.paymentFail w.db now k payment message = .ok db) :
      Commits w now (.writeFailure n published) db
  | failWebhook {n : Nat} {published : Bool} {k : Nat} {payment : Payment} {event : TossPayment}
      {out : Outcome Unit} (hread : w.failureReads[n]? = some (.webhook k payment event))
      (hcall : TossWebhookService.failPayment w.db now k payment event published = .ok out) :
      Commits w now (.writeFailure n published) out.db
  | webhookDone {event : TossPayment} {result : TossWebhookService.DoneResult} {db : Db}
      (hcall : TossWebhookService.handlePaymentDone w.db now event = .ok (result, db)) :
      Commits w now (.webhookDone event) db
  | webhookCanceled {event : TossPayment} {result : TossWebhookService.CanceledResult} {db : Db}
      (hcall : TossWebhookService.handlePaymentCanceled w.db now event = .ok (result, db)) :
      Commits w now (.webhookCanceled event) db
  | webhookWaiting {event : TossPayment} {result : TossWebhookService.WaitingResult} {db : Db}
      (hcall : TossWebhookService.handleWaitingForDeposit w.db now event = .ok (result, db)) :
      Commits w now (.webhookWaiting event) db
  | cancelPayment {k : Nat} {user : UserId} {toss : Except TossPaymentError TossPayment}
      {result : PaymentService.CancelResult} {db : Db}
      (hcall : PaymentService.cancelPayment w.db now k user toss = .ok (result, db)) :
      Commits w now (.cancelPayment k user toss) db
  | cancelVirtualAccount {o : OrderId} {user : UserId}
      {toss : Except TossPaymentError TossPayment} {db : Db}
      (hcall : PaymentService.cancelVirtualAccountBeforeDeposit w.db now o user toss = .ok db) :
      Commits w now (.cancelVirtualAccount o user toss) db
  | completePointsOnly {n : Nat} {user : UserId} {seen : OrderId × Order} {k : Int} {db : Db}
      (hread : w.orderReads[n]? = some seen)
      (hcall : PaymentService.completePointsOnlyPayment w.db now seen.1 seen.2 user
        = .ok (k, db)) :
      Commits w now (.completePointsOnly n user) db
  | completeRefund {id : Nat} {toss : Except TossPaymentError TossPayment} {r : Return}
      {split : RefundSplit} {db : Db} (hread : w.db.returns.get? id = some r)
      (hcall : ReturnService.completeRefund w.db now id toss = .ok (split, db)) :
      Commits w now (.completeRefund id toss) db

namespace World

variable {α : Type} {w : World} {now : Time}

/-! ## The database -/

@[simp] theorem commit_db (w : World) (db : Db) (sent : List Message) :
    (w.commit db sent).db = db := rfl
@[simp] theorem commit_messages (w : World) (db : Db) (sent : List Message) :
    (w.commit db sent).messages = w.messages ++ sent := rfl
@[simp] theorem commit_failureReads (w : World) (db : Db) (sent : List Message) :
    (w.commit db sent).failureReads = w.failureReads := rfl
@[simp] theorem resolve_db (w : World) (k : Nat) : (w.resolve k).db = w.db := rfl
@[simp] theorem resolveOrder_db (w : World) (o : OrderId) : (w.resolveOrder o).db = w.db := rfl
@[simp] theorem noteCanceled_db (w : World) (o : Option OrderId) :
    (w.noteCanceled o).db = w.db := rfl

/-- A call raised and changed nothing, or it returned. -/
theorem after_cases (w : World) (x : Except ShopError α) (f : α → World) :
    w.after x f = w ∨ ∃ a, x = .ok a ∧ w.after x f = f a := by
  cases x with
  | error e => exact Or.inl rfl
  | ok a => exact Or.inr ⟨a, rfl, rfl⟩

/-- A property of the present world and of every return holds after a call. -/
theorem after_of {P : World → Prop} {x : Except ShopError α} {f : α → World} (hw : P w)
    (hf : ∀ a, x = .ok a → P (f a)) : P (w.after x f) := by
  rcases after_cases w x f with h | ⟨a, hx, h⟩
  · rw [h]
    exact hw
  · rw [h]
    exact hf a hx

/-- The database is as it was, or it is what the call of the event left. -/
def Wrote (w : World) (now : Time) (e : Event) (w' : World) : Prop :=
  w'.db = w.db ∨ Commits w now e w'.db

theorem Wrote.after {e : Event} {x : Except ShopError α} {f : α → World}
    (h : ∀ a, x = .ok a → Commits w now e (f a).db) : Wrote w now e (w.after x f) :=
  after_of (P := Wrote w now e) (Or.inl rfl) fun a ha => Or.inr (h a ha)

theorem deliver_wrote (n : Nat) (d : Delivery) {m : Message} (hmsg : w.messages[n]? = some m) :
    Wrote w now (.deliver n d) (w.deliver now d m) := by
  cases m with
  | processOrder o cart usePoints => exact .after fun out hout => .processOrder hmsg hout
  | confirm key o amount id k user =>
    right
    simp only [World.deliver]
    split
    · exact .confirm hmsg
    · exact .confirm hmsg
  | finalize response k user =>
    simp only [World.deliver]
    split
    · rename_i out hout
      exact Or.inr (.finalize hmsg hout)
    · split
      · exact Or.inl rfl
      · exact Or.inr (.alertFinalize hmsg)
  | rollback o reason => exact Or.inr (.rollback hmsg)
  | addPoints user o => exact .after fun out hout => .addPoints hmsg hout

theorem writeFailure_wrote (n : Nat) (published : Bool) {seen : FailureRead}
    (hread : w.failureReads[n]? = some seen) :
    Wrote w now (.writeFailure n published) (w.writeFailure now published seen) := by
  cases seen with
  | view k payment code message => exact .after fun db hdb => .failView hread hdb
  | callback k payment message => exact .after fun db hdb => .failCallback hread hdb
  | webhook k payment event => exact .after fun out hout => .failWebhook hread hout

theorem run_wrote (w : World) (now : Time) (e : Event) : Wrote w now e (w.run now e) := by
  cases e with
  | requestOrder | validateRequest | readForFailView =>
    exact after_of (P := Wrote w now _) (Or.inl rfl) fun _ _ => Or.inl rfl
  | placeOrder n published =>
    simp only [run]
    split
    · exact Or.inl rfl
    · rename_i hread
      exact .after fun out hout => .placeOrder hread hout
  | readOrder o =>
    simp only [run]
    split
    · exact Or.inl rfl
    · exact Or.inl rfl
  | republishStalled n giveUp published =>
    simp only [run]
    split
    · exact Or.inl rfl
    · rename_i hread
      exact Or.inr (.republishStalled hread)
  | cancelOrder o => exact .after fun db hdb => .cancelOrder hdb
  | cancelByCustomer n user toss =>
    simp only [run]
    split
    · exact Or.inl rfl
    · rename_i hread
      refine .after fun out hout => ?_
      split
      · exact .cancelByCustomer hread hout
      · exact .cancelByCustomer hread hout
  | expireOrder o => exact .after fun out hout => .expireOrder hout
  | createRequest n method key =>
    simp only [run]
    split
    · exact Or.inl rfl
    · rename_i hread
      exact .after fun out hout => .createRequest hread hout
  | confirmAsync k paymentKey amount user published =>
    simp only [run]
    split
    · exact Or.inl rfl
    · rename_i hread
      exact .after fun out hout => .confirmAsync hread hout
  | confirmSync k user toss => exact .after fun out hout => .confirmSync hout
  | deliver n d =>
    simp only [run]
    split
    · exact Or.inl rfl
    · rename_i hmsg
      exact deliver_wrote n d hmsg
  | detectOrphaned threshold => exact Or.inl rfl
  | reconcile stall lookup => exact Or.inr .reconcile
  | readForFailCallback id message =>
    simp only [run, readPayment]
    split
    · exact Or.inl rfl
    · exact Or.inl rfl
  | readForFailWebhook event =>
    simp only [run]
    split
    · exact Or.inl rfl
    · split
      · exact Or.inl rfl
      · exact Or.inl rfl
  | writeFailure n published =>
    simp only [run]
    split
    · exact Or.inl rfl
    · rename_i hread
      exact writeFailure_wrote n published hread
  | webhookDone event => exact .after fun out hout => .webhookDone hout
  | webhookCanceled event => exact .after fun out hout => .webhookCanceled hout
  | webhookWaiting event => exact .after fun out hout => .webhookWaiting hout
  | cancelPayment k user toss => exact .after fun out hout => .cancelPayment hout
  | cancelVirtualAccount o user toss => exact .after fun db hdb => .cancelVirtualAccount hdb
  | completePointsOnly n user =>
    simp only [run]
    split
    · exact Or.inl rfl
    · rename_i hread
      exact .after fun out hout => .completePointsOnly hread hout
  | completeRefund id toss =>
    simp only [run]
    split
    · exact Or.inl rfl
    · rename_i hread
      exact .after fun out hout => .completeRefund hread hout

/-- What holds of the database before an event and of what its call leaves
holds after it. -/
theorem run_of {P : Db → Prop} {e : Event} (hw : P w.db)
    (hcommits : ∀ db, Commits w now e db → P db) : P (w.run now e).db := by
  rcases run_wrote w now e with h | h
  · rw [h]
    exact hw
  · exact hcommits _ h

/-! ## What was read to be used later -/

/-- The orders, the rows of payments and the requests that were read. -/
def held (w : World) :
    List (OrderId × Order) × List FailureRead × List PaymentService.PaymentRequest :=
  (w.orderReads, w.failureReads, w.paymentRequests)

/-- The events that read something to use it later. -/
def reads : Event → Bool
  | .readOrder _ | .validateRequest .. | .readForFailView .. | .readForFailCallback ..
  | .readForFailWebhook _ => true
  | _ => false

theorem after_held {x : Except ShopError α} {f : α → World} (hf : ∀ a, (f a).held = w.held) :
    (w.after x f).held = w.held :=
  after_of (P := fun u => u.held = w.held) rfl fun a _ => hf a

theorem deliver_held (d : Delivery) (m : Message) : (w.deliver now d m).held = w.held := by
  cases m with
  | processOrder o cart usePoints => exact after_held fun _ => rfl
  | confirm key o amount id k user =>
    simp only [World.deliver]
    split
    · rfl
    · rfl
  | finalize response k user =>
    simp only [World.deliver]
    split
    · rfl
    · split
      · rfl
      · rfl
  | rollback o reason => rfl
  | addPoints user o => exact after_held fun _ => rfl

theorem writeFailure_held (published : Bool) (seen : FailureRead) :
    (w.writeFailure now published seen).held = w.held := by
  cases seen with
  | view k payment code message => exact after_held fun _ => rfl
  | callback k payment message => exact after_held fun _ => rfl
  | webhook k payment event => exact after_held fun _ => rfl

theorem run_held {e : Event} (he : reads e = false) : (w.run now e).held = w.held := by
  cases e with
  | readOrder | validateRequest | readForFailView | readForFailCallback | readForFailWebhook =>
    cases he
  | requestOrder | cancelOrder | expireOrder | confirmSync | webhookDone | webhookCanceled
  | webhookWaiting | cancelPayment | cancelVirtualAccount => exact after_held fun _ => rfl
  | detectOrphaned | reconcile => rfl
  | placeOrder | createRequest | confirmAsync | completePointsOnly | completeRefund =>
    simp only [run]
    split
    · rfl
    · exact after_held fun _ => rfl
  | republishStalled n giveUp published =>
    simp only [run]
    split
    · rfl
    · rfl
  | cancelByCustomer n user toss =>
    simp only [run]
    split
    · rfl
    · refine after_held fun out => ?_
      split
      · rfl
      · rfl
  | deliver n d =>
    simp only [run]
    split
    · rfl
    · exact deliver_held d _
  | writeFailure n published =>
    simp only [run]
    split
    · rfl
    · exact writeFailure_held published _

end World

end Shopping
