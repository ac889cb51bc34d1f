import Shopping.System.ReturnDesk
import Shopping.System.UsedPoints

/-!
# The shop with its staff

An order is placed with the points that it will use; they are taken later, by
its processing.  `StaffedShop` is the shop with the actions of the order admin,
with the returns, and with `rollback_payment_failure` for any order at any
time.

`UsesBooked` is what every run of it keeps: the use of an order is booked once, by
its processing, with the points that the order was placed with.
-/

namespace Shopping

open PaymentService PaymentTasks TossWebhookService OrderTasks ReturnService

/-! ## Who asks for the processing -/

namespace World

/-- The message asks to process an order. -/
def isProcessOrder : Message → Bool
  | .processOrder .. => true
  | _ => false

/-- Nothing but other messages is published. -/
def SendsOthers (w w' : World) : Prop :=
  ∀ m ∈ w'.messages, isProcessOrder m = true → m ∈ w.messages

theorem SendsOthers.commit (w : World) (db : Db) {sent : List Message}
    (h : ∀ m ∈ sent, isProcessOrder m = false) : SendsOthers w (w.commit db sent) := by
  intro m hm hprocess
  rcases List.mem_append.mp hm with hm | hm
  · exact hm
  · rw [h m hm] at hprocess
    cases hprocess

theorem SendsOthers.silent (w : World) (db : Db) : SendsOthers w (w.commit db) := by
  intro m hm _
  rw [commit_messages, List.append_nil] at hm
  exact hm

theorem deliver_sendsOthers (w : World) (now : Time) (d : Delivery) (m : Message) :
    SendsOthers w (w.deliver now d m) := by
  have hafter : ∀ {α : Type} {x : Except ShopError α} {f : α → World},
      (∀ a, x = .ok a → SendsOthers w (f a)) → SendsOthers w (w.after x f) :=
    fun hf => after_of (P := SendsOthers w) (fun _ hm _ => hm) hf
  cases m with
  | processOrder o cart usePoints => exact hafter fun out _ => .silent w out.db
  | confirm key o amount id k user =>
    have hothers : ∀ m ∈ (callTossConfirmApi w.db o amount id k user d.answer d.retriesLeft
        d.published).sent, isProcessOrder m = false := by
      intro m hm
      unfold callTossConfirmApi at hm
      dsimp only at hm
      split at hm
      · cases List.mem_singleton.mp hm
        rfl
      · cases hm
      · cases hm
      · dsimp only at hm
        split at hm
        · cases List.mem_singleton.mp hm
          rfl
        · cases hm
    have hsent := SendsOthers.commit w (callTossConfirmApi w.db o amount id k user d.answer
      d.retriesLeft d.published).db hothers
    simp only [World.deliver]
    split
    · exact hsent
    · exact hsent
  | finalize response k user =>
    simp only [World.deliver]
    split
    · rename_i out hout
      obtain ⟨p, _, hcase⟩ := finalizePaymentConfirm_ok hout
      refine SendsOthers.commit w out.db fun m hm => ?_
      cases hcase with
      | success =>
        dsimp only at hm
        split at hm
        · cases List.mem_singleton.mp hm
          rfl
        · cases hm
      | _ => cases hm
    · split
      · exact fun _ hm _ => hm
      · exact .silent w _
  | rollback o reason => exact SendsOthers.silent w (rollbackPaymentFailure w.db now o reason).2
  | addPoints user o => exact hafter fun out _ => .silent w out.2

/-- Only the placing and the sweep publish the processing of an order. -/
def publishesProcessing : Event → Bool
  | .placeOrder .. | .republishStalled .. => true
  | _ => false

theorem run_sendsOthers (w : World) (now : Time) {e : Event} (he : publishesProcessing e = false) :
    SendsOthers w (w.run now e) := by
  have hafter : ∀ {α : Type} {x : Except ShopError α} {f : α → World},
      (∀ a, x = .ok a → SendsOthers w (f a)) → SendsOthers w (w.after x f) :=
    fun hf => after_of (P := SendsOthers w) (fun _ hm _ => hm) hf
  have hnone := SendsOthers.silent w
  cases e with
  | placeOrder n published => cases he
  | republishStalled n giveUp published => cases he
  | deliver n d =>
    simp only [run]
    split
    · exact fun _ hm _ => hm
    · exact deliver_sendsOthers w now d _
  | confirmAsync k paymentKey amount user published =>
    simp only [run]
    split
    · exact fun _ hm _ => hm
    · refine hafter fun out hout => ?_
      obtain ⟨p, saved, _, _, _, _, _, hsent⟩ := confirmPaymentAsync_ok hout
      refine SendsOthers.commit w out.db fun m hm => ?_
      rw [hsent] at hm
      split at hm
      · cases List.mem_singleton.mp hm
        rfl
      · cases hm
  | detectOrphaned threshold =>
    refine .commit w w.db fun m hm => ?_
    obtain ⟨x, _, rfl⟩ := List.mem_map.mp hm
    rfl
  | reconcile stall lookup =>
    refine .commit w _ fun m hm => ?_
    obtain ⟨data, k, p, order, _, _, _, rfl⟩ := (reconcileLoop_spec lookup _ w.db).2 m hm
    rfl
  | writeFailure n published =>
    simp only [run]
    split
    · exact fun _ hm _ => hm
    · rename_i seen _
      cases seen with
      | view => exact hafter fun db _ => hnone db
      | callback => exact hafter fun db _ => hnone db
      | webhook =>
        refine hafter fun out hout => .commit w out.db fun m hm => ?_
        obtain ⟨_, _, _, _, _, _, _, _, hsent⟩ := failPayment_ok hout
        obtain ⟨_, rfl⟩ := hsent m hm
        rfl
  | cancelByCustomer n user toss =>
    simp only [run]
    split
    · exact fun _ hm _ => hm
    · refine hafter fun out _ => ?_
      split
      · exact hnone out.2
      · exact hnone out.2
  | confirmSync k user toss => exact hafter fun out _ => hnone out.2
  | webhookCanceled event => exact hafter fun out _ => hnone out.2
  | cancelPayment k user toss => exact hafter fun out _ => hnone out.2
  | cancelVirtualAccount o user toss => exact hafter fun db _ => hnone db
  | completeRefund id toss =>
    simp only [run]
    split
    · exact fun _ hm _ => hm
    · exact hafter fun out _ => hnone out.2
  | _ =>
    simp only [run, readPayment]
    try split
    all_goals first
      | exact fun _ hm _ => hm
      | exact hnone _
      | exact hafter fun _ _ => hnone _
      | exact hafter fun _ _ => fun _ hm _ => hm
      | (split <;> exact fun _ hm _ => hm)

end World

/-! ## The shop with its staff -/

/-- The actions of `OrderAdmin`. -/
inductive OrderAdmin where
  | markAsPaid
  | markAsShipped
  | markAsDelivered
  deriving DecidableEq, Repr

/-- The status that the action writes. -/
def OrderAdmin.status : OrderAdmin → OrderStatus
  | .markAsPaid => .paid
  | .markAsShipped => .shipped
  | .markAsDelivered => .delivered

/-- `queryset.update(status=...)` for one of the selected orders. -/
def OrderAdmin.update (a : OrderAdmin) (db : Db) (o : OrderId) : Db :=
  db.saveOrder o fun x => { x with status := a.status }

/-- The shop, the requests for returns that passed their checks, and the
returns that a tracking number will be written to. -/
structure StaffedShop where
  world : World
  requests : List ReturnRequest := []
  trackingReads : List (Nat × Return) := []

inductive StaffedEvent where
  | shop (e : Event)
  /-- `rollback_payment_failure`, called for any order. -/
  | rollback (o : OrderId) (reason : String)
  | admin (a : OrderAdmin) (o : OrderId)
  | returns (e : ReturnEvent)

/-- The return that an event completes. -/
def StaffedEvent.completed : StaffedEvent → Option Nat
  | .shop e => e.completed
  | .returns (.completeRefund id _) => some id
  | _ => none

namespace StaffedShop

/-- The desk of the returns. -/
def desk (s : StaffedShop) : ReturnDesk :=
  { db := s.world.db, requests := s.requests, trackingReads := s.trackingReads }

/-- What happens in one event. -/
def run (s : StaffedShop) (now : Time) : StaffedEvent → StaffedShop
  | .shop e => { s with world := s.world.run now e }
  | .rollback o reason =>
    { s with world :=
        (s.world.commit (rollbackPaymentFailure s.world.db now o reason).2).resolveOrder o }
  | .admin a o => { s with world := s.world.commit (a.update s.world.db o) }
  | .returns e =>
    let next := s.desk.run now e
    { world := { s.world with db := next.db }
      requests := next.requests
      trackingReads := next.trackingReads }

/-- The step of the shop: every event can happen at any time. -/
def step (s : StaffedShop) (e : Time × StaffedEvent) : Option StaffedShop := some (s.run e.1 e.2)

/-- What an event closes, if it closes an order. -/
def closing (s : StaffedShop) : StaffedEvent → Option (Closing × OrderId)
  | .shop e => s.world.closing e
  | .rollback o _ => some (.rollback, o)
  | _ => none

/-! ## One event -/

variable {s : StaffedShop} {now : Time}

/-- Of the events of the returns only the completion of a refund writes an
order or the history. -/
theorem returns_quiet (d : ReturnDesk) (now : Time) (e : ReturnEvent)
    (he : (StaffedEvent.returns e).completed = none) :
    (d.run now e).db.orders = d.db.orders ∧ (d.run now e).db.ledger = d.db.ledger := by
  have hafter : ∀ {α : Type} {x : Except ShopError α} {f : α → ReturnDesk},
      (∀ a, x = .ok a → (f a).db.orders = d.db.orders ∧ (f a).db.ledger = d.db.ledger) →
      (d.after x f).db.orders = d.db.orders ∧ (d.after x f).db.ledger = d.db.ledger := by
    intro α x f hf
    cases x with
    | error _ => exact ⟨rfl, rfl⟩
    | ok a => exact hf a rfl
  have hmove : ∀ {id : Nat} {source : ReturnStatus} {change : Return → Return} {message : String}
      {db : Db}, moveReturn d.db id source change message = .ok db →
      db.orders = d.db.orders ∧ db.ledger = d.db.ledger := by
    intro id source change message db h
    obtain ⟨_, _, _, rfl⟩ := moveReturn_ok h
    exact ⟨rfl, rfl⟩
  cases e with
  | validate user data => exact hafter fun _ _ => ⟨rfl, rfl⟩
  | create n returnNumber =>
    simp only [ReturnDesk.run]
    split
    · exact ⟨rfl, rfl⟩
    · refine hafter fun out hout => ?_
      obtain ⟨row, _, _, _, _, _, _, _, _, _, hdb⟩ := createReturn_ok hout
      show out.2.orders = d.db.orders ∧ out.2.ledger = d.db.ledger
      rw [hdb]
      exact ⟨rfl, rfl⟩
  | approve id => exact hafter fun db hdb => hmove hdb
  | reject id reason => exact hafter fun db hdb => hmove hdb
  | readForTracking id company number => exact hafter fun _ _ => ⟨rfl, rfl⟩
  | writeTracking n =>
    simp only [ReturnDesk.run]
    split
    · exact ⟨rfl, rfl⟩
    · exact ⟨rfl, rfl⟩
  | confirmReceive id => exact hafter fun db hdb => hmove hdb
  | completeRefund id toss => cases he
  | completeExchange id =>
    refine hafter fun db hdb => ?_
    obtain ⟨_, _, _, _, _, rfl⟩ := completeExchange_ok hdb
    exact ⟨rfl, rfl⟩

/-- The desk completes a refund as the shop does. -/
theorem returns_completeRefund (s : StaffedShop) (now : Time) (id : Nat)
    (toss : Except TossPaymentError TossPayment) :
    (s.desk.run now (.completeRefund id toss)).db
      = (s.world.run now (.completeRefund id toss)).db := by
  simp only [ReturnDesk.run, World.run, desk]
  cases s.world.db.returns.get? id with
  | none => rfl
  | some r =>
    cases completeRefund s.world.db now id toss with
    | error _ => rfl
    | ok out => rfl

/-- What an event does to the used points. -/
theorem run_usedStep (s : StaffedShop) (now : Time) (e : StaffedEvent) :
    UsedStep (s.closing e) e.completed s.world (s.run now e).world := by
  cases e with
  | shop e => exact World.run_usedStep s.world now e
  | rollback o reason =>
    rcases rollbackPaymentFailure_closes s.world.db now o reason with hsame | ⟨order, hcloses⟩
    · exact .quiet (congrArg Db.usedRows hsame) (.of_orders (congrArg Db.orders hsame))
    · exact .closes rfl hcloses
  | admin a o =>
    refine .quiet rfl fun i st hst hclosed => ?_
    have horders : (s.run now (.admin a o)).world.db.orders
        = s.world.db.orders.modify o fun x => { x with status := a.status } := rfl
    rw [statusOf_modify horders fun _ => rfl] at hst
    split at hst
    · rw [Option.map_eq_some_iff] at hst
      obtain ⟨_, _, rfl⟩ := hst
      cases a with
      | _ => cases hclosed
    · exact hst
  | returns e =>
    cases he : (StaffedEvent.returns e).completed with
    | none =>
      obtain ⟨horders, hledger⟩ := returns_quiet s.desk now e he
      exact .quiet (Db.usedRows_of_ledger hledger) (.of_orders horders)
    | some id =>
      cases e with
      | completeRefund i toss =>
        cases he
        have hstep := World.run_usedStep s.world now (.completeRefund id toss)
        exact hstep.of_db (returns_completeRefund s now id toss)
      | _ => cases he

/-! ## What every event keeps -/

theorem run_totals (s : StaffedShop) (now : Time) (e : StaffedEvent) :
    KeepsTotals s.world.db.orders (s.run now e).world.db.orders := by
  cases e with
  | shop e => exact (World.run_totals s.world now e).2
  | rollback o reason => exact (rollbackPaymentFailure_prices reason).totals
  | admin a o =>
    have horders : (s.run now (.admin a o)).world.db.orders
        = s.world.db.orders.modify o fun x => { x with status := a.status } := rfl
    exact .of_modify horders fun _ => rfl
  | returns e =>
    cases he : (StaffedEvent.returns e).completed with
    | none =>
      have horders : (s.run now (.returns e)).world.db.orders = s.world.db.orders :=
        (returns_quiet s.desk now e he).1
      exact .of_eq horders
    | some id =>
      cases e with
      | completeRefund i toss =>
        show KeepsTotals _ (s.desk.run now (.completeRefund i toss)).db.orders
        rw [returns_completeRefund]
        exact (World.run_totals s.world now _).2
      | _ => cases he

/-- No event brings an order back to pending. -/
theorem notPending_step {o : OrderId} (e : StaffedEvent) (h : (s.world.db.charge o).NotPending) :
    ((s.run now e).world.db.charge o).NotPending := by
  have hsame : ∀ {db : Db}, db.orders = s.world.db.orders → (db.charge o).NotPending := by
    intro db hdb
    obtain ⟨st, hst, hne⟩ := h
    refine ⟨st, ?_, hne⟩
    show (db.orders.get? o).map Order.status = some st
    rw [hdb]
    exact hst
  cases e with
  | shop e => exact World.notPending_step e h
  | rollback i reason =>
    show ((rollbackPaymentFailure s.world.db now i reason).2.charge o).NotPending
    rcases rollbackPaymentFailure_closes s.world.db now i reason with hdb | ⟨order, hcloses⟩
    · rw [hdb]
      exact h
    · by_cases hoi : o = i
      · rw [hoi]
        exact ⟨_, hcloses.status, nofun⟩
      · obtain ⟨st, hst, hne⟩ := h
        exact ⟨st, (hcloses.others o hoi).trans hst, hne⟩
  | admin a i =>
    have horders : (s.run now (.admin a i)).world.db.orders
        = s.world.db.orders.modify i fun x => { x with status := a.status } := rfl
    have hstatus : (s.run now (.admin a i)).world.db.statusOf o = _ :=
      statusOf_modify horders (fun _ => rfl) (i := o)
    obtain ⟨st, hst, hne⟩ := h
    by_cases hoi : o = i
    · rw [if_pos hoi] at hstatus
      refine ⟨a.status, ?_, ?_⟩
      · refine hstatus.trans ?_
        rw [← hoi]
        show (s.world.db.statusOf o).map _ = _
        rw [show s.world.db.statusOf o = some st from hst]
        rfl
      · cases a with
        | _ => exact nofun
    · rw [if_neg hoi] at hstatus
      exact ⟨st, hstatus.trans hst, hne⟩
  | returns e =>
    cases he : (StaffedEvent.returns e).completed with
    | none => exact hsame (returns_quiet s.desk now e he).1
    | some id =>
      cases e with
      | completeRefund i toss =>
        show ((s.desk.run now (.completeRefund i toss)).db.charge o).NotPending
        rw [returns_completeRefund]
        exact World.notPending_step (.completeRefund i toss) h
      | _ => cases he

theorem run_orderReads (s : StaffedShop) (now : Time) (e : StaffedEvent) :
    ∀ seen ∈ (s.run now e).world.orderReads, seen ∈ s.world.orderReads ∨
      s.world.db.orders.get? seen.1 = some seen.2 := by
  cases e with
  | shop e => exact World.run_orderReads s.world e
  | _ => exact fun _ h => Or.inl h

end StaffedShop

/-! ## The points of an order -/

/-- The order is there and was placed with `n` points. -/
def Db.UsesPoints (db : Db) (o : OrderId) (n : Int) : Prop :=
  ∃ order, db.orders.get? o = some order ∧ order.usedPoints = n

theorem Db.UsesPoints.unique {db : Db} {o : OrderId} {m n : Int} (hm : db.UsesPoints o m)
    (hn : db.UsesPoints o n) : m = n := by
  obtain ⟨order, hget, rfl⟩ := hm
  obtain ⟨x, hx, rfl⟩ := hn
  rw [hget] at hx
  cases hx
  rfl

theorem KeepsTotals.usesPoints {db db' : Db} {o : OrderId} {n : Int}
    (h : KeepsTotals db.orders db'.orders) (hn : db.UsesPoints o n) : db'.UsesPoints o n := by
  obtain ⟨order, hget, rfl⟩ := hn
  obtain ⟨order', hget', hterms⟩ := h o order hget
  exact ⟨order', hget', congrArg (fun terms => terms.2.1) hterms⟩

/-- The use of an order was booked once, by its processing. -/
structure UsesBooked (w : World) : Prop where
  used : ∀ o, hasUse o w.db.usedRows = true → (w.db.charge o).NotPending ∧
    ∃ n, 0 < n ∧ w.db.UsesPoints o n ∧ usedSum o w.db.usedRows = -n
  messages : ∀ o cart n, .processOrder o cart n ∈ w.messages → w.db.UsesPoints o n
  reads : ∀ seen ∈ w.orderReads, w.db.UsesPoints seen.1 seen.2.usedPoints

/-- The messages that ask for a processing ask for the points of the order. -/
theorem World.run_messages {w : World} (h : UsesBooked w) (now : Time) (e : Event) :
    ∀ o cart n, .processOrder o cart n ∈ (w.run now e).messages →
      (w.run now e).db.UsesPoints o n := by
  have htotals := (run_totals w now e).2
  intro o cart n hm
  cases he : publishesProcessing e with
  | false =>
    have hbefore := run_sendsOthers w now he _ hm rfl
    exact htotals.usesPoints (h.messages o cart n hbefore)
  | true =>
    cases e with
    | placeOrder k published =>
      revert hm htotals
      simp only [run]
      split
      · exact fun _ hm => h.messages o cart n hm
      · rename_i r _
        refine after_of (P := fun u => KeepsTotals w.db.orders u.db.orders →
          .processOrder o cart n ∈ u.messages → u.db.UsesPoints o n)
          (fun _ hm => h.messages o cart n hm) fun out hout htotals hm => ?_
        rcases List.mem_append.mp hm with hm | hm
        · exact htotals.usesPoints (h.messages o cart n hm)
        · split at hm
          · cases List.mem_singleton.mp hm
            unfold OrderService.placeOrder at hout
            split at hout
            · cases hout
            · split at hout
              · cases hout
              · split at hout
                · cases hout
                · cases hout
                  exact ⟨_, Table.get?_insert_next _ _, rfl⟩
          · cases hm
    | republishStalled k giveUp published =>
      revert hm htotals
      simp only [run]
      split
      · exact fun _ hm => h.messages o cart n hm
      · rename_i seen hseen
        intro htotals hm
        rcases List.mem_append.mp hm with hm | hm
        · exact htotals.usesPoints (h.messages o cart n hm)
        · obtain ⟨c, hc⟩ :=
            (republishLoop_one now giveUp (fun _ => published) w.db seen.1 seen.2).2 _ hm
          cases hc
          exact htotals.usesPoints (h.reads seen (List.mem_of_getElem? hseen))
    | _ => cases he

/-- The rows of uses change by the use of a pending order, with its points. -/
theorem UsesBooked.usedStep {w w' : World} (h : UsesBooked w) {closing : Option (Closing × OrderId)}
    {completed : Option Nat} (hstep : UsedStep closing completed w w')
    (htotals : KeepsTotals w.db.orders w'.db.orders)
    (hpending : ∀ o, (w.db.charge o).NotPending → (w'.db.charge o).NotPending) :
    ∀ o, hasUse o w'.db.usedRows = true → (w'.db.charge o).NotPending ∧
      ∃ n, 0 < n ∧ w'.db.UsesPoints o n ∧ usedSum o w'.db.usedRows = -n := by
  have hkeep : ∀ o, hasUse o w.db.usedRows = true →
      usedSum o w'.db.usedRows = usedSum o w.db.usedRows → (w'.db.charge o).NotPending ∧
        ∃ n, 0 < n ∧ w'.db.UsesPoints o n ∧ usedSum o w'.db.usedRows = -n := by
    intro o huse hsum
    obtain ⟨hprocessed, n, hpos, hn, hused⟩ := h.used o huse
    exact ⟨hpending o hprocessed, n, hpos, htotals.usesPoints hn, hsum.trans hused⟩
  intro o huse
  cases hstep with
  | quiet hrows _ =>
    rw [hrows] at huse
    exact hkeep o huse (by rw [hrows])
  | @uses i cart n hmsg hpend hpos hprocessed hrows _ =>
    by_cases hio : i = o
    · subst hio
      -- A pending order has no use yet.
      have hnone : hasUse i w.db.usedRows = false := by
        rw [Bool.eq_false_iff]
        intro hc
        obtain ⟨⟨st, hst, hne⟩, _⟩ := h.used i hc
        have heq : some st = some OrderStatus.pending := hst.symm.trans hpend
        cases heq
        exact hne rfl
      refine ⟨⟨.confirmed, hprocessed, nofun⟩, n, hpos,
        htotals.usesPoints (h.messages i cart n hmsg), ?_⟩
      rw [hrows, usedSum_use, if_pos rfl, usedSum_of_not_hasUse hnone, zero_add]
    · rw [hrows, hasUse_use, decide_eq_false hio, Bool.or_false] at huse
      refine hkeep o huse ?_
      rw [hrows, usedSum_use, if_neg hio, add_zero]
  | @closes c i order _ hcloses =>
    have hrefund := c.refundType_isRefund
    rw [hcloses.rows] at huse
    refine hkeep o ?_ ?_
    · split at huse
      · rw [hasUse_refund hrefund] at huse
        exact huse
      · rw [List.append_nil] at huse
        exact huse
    · rw [hcloses.rows]
      split
      · exact usedSum_refund hrefund
      · rw [List.append_nil]
  | returns _ _ _ _ hrows _ =>
    rw [hrows, hasUse_refund rfl] at huse
    refine hkeep o huse ?_
    rw [hrows]
    exact usedSum_refund rfl

namespace StaffedShop

variable {s : StaffedShop} {now : Time}

/-- No message is sent outside the events of the shop. -/
theorem usesBooked_step (h : UsesBooked s.world) (e : StaffedEvent) :
    UsesBooked (s.run now e).world := by
  have htotals := run_totals s now e
  refine ⟨h.usedStep (run_usedStep s now e) htotals fun o => notPending_step e, ?_, ?_⟩
  · cases e with
    | shop e => exact World.run_messages h now e
    | rollback i reason =>
      intro o cart n hm
      have hbefore : .processOrder o cart n ∈ s.world.messages ++ [] := hm
      rw [List.append_nil] at hbefore
      exact htotals.usesPoints (h.messages o cart n hbefore)
    | admin a i =>
      intro o cart n hm
      have hbefore : .processOrder o cart n ∈ s.world.messages ++ [] := hm
      rw [List.append_nil] at hbefore
      exact htotals.usesPoints (h.messages o cart n hbefore)
    | returns e => exact fun o cart n hm => htotals.usesPoints (h.messages o cart n hm)
  · intro seen hseen
    rcases run_orderReads s now e seen hseen with hseen | hget
    · exact htotals.usesPoints (h.reads seen hseen)
    · exact htotals.usesPoints ⟨seen.2, hget, rfl⟩

end StaffedShop

end Shopping
