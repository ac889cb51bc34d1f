import Shopping.Orders.Processing
import Shopping.System.Steps

/-!
# An order is processed once

The status of an order leaves pending once and never comes back, whatever
happens to the order later.  An execution of `process_order_heavy_tasks` looks
at the status first, so after one that returned, and after
`_abandon_stalled_order`, every other message of the order finds it processed.
-/

namespace Shopping

/-! ## Pending is left once -/

/-- The order is there and was processed, abandoned or canceled. -/
def Charge.NotPending (c : Charge) : Prop := ∃ s, c.order = some s ∧ s ≠ .pending

theorem Charge.NotPending.move {act : Act} {c c' : Charge} (h : Move act c c')
    (hc : c.NotPending) : c'.NotPending := by
  obtain ⟨s, hs, hne⟩ := hc
  cases h with
  | placeOrder => cases hs
  | orderConfirmed =>
    cases hs
    exact absurd rfl hne
  | orderFailed =>
    cases hs
    exact absurd rfl hne
  | abandonOrder =>
    cases hs
    exact absurd rfl hne
  | pointsReturned hs' =>
    cases hs
    rcases hs' with hs' | hs'
    · rw [hs']
      exact ⟨s, rfl, hne⟩
    · rw [hs']
      exact ⟨.refunded, rfl, nofun⟩
  | cashReturned hs' hq =>
    cases hs
    rcases hs' with hs' | hs'
    · rw [hs']
      exact ⟨s, rfl, hne⟩
    · rw [hs']
      exact ⟨.refunded, rfl, nofun⟩
  | _ => first | exact ⟨s, hs, hne⟩ | exact ⟨_, rfl, nofun⟩

namespace World

variable {w : World} {now : Time} {o : OrderId}

/-- No event brings an order back to pending. -/
theorem notPending_step (e : Event) (h : (w.db.charge o).NotPending) :
    ((w.run now e).db.charge o).NotPending := by
  by_cases hfail : ∃ n published, e = .writeFailure n published
  · obtain ⟨n, published, rfl⟩ := hfail
    obtain ⟨s, hs, hne⟩ := h
    refine ⟨s, ?_, hne⟩
    show ((w.run now (.writeFailure n published)).db.orders.get? o).map Order.status = some s
    rw [run_writeFailure_orders]
    exact hs
  · have hreads : ∀ n published, e = .writeFailure n published → ReadsKept w :=
      fun n published he => absurd ⟨n, published, he⟩ hfail
    rcases run_refines now hreads with hsame | ⟨act, i, _, hacts⟩
    · rw [hsame o]
      exact h
    · by_cases hoi : o = i
      · subst hoi
        exact h.move hacts.move
      · rw [hacts.frame o hoi]
        exact h

theorem notPending_run {t : World} {es : List (Time × Event)}
    (hrun : Run World.step (fun _ _ => True) w es t) (h : (w.db.charge o).NotPending) :
    (t.db.charge o).NotPending := by
  refine hrun.invariant (fun u => (u.db.charge o).NotPending) h ?_
  intro u e v hu _ hstep
  cases hstep
  exact notPending_step e.2 hu

/-! ## Later messages -/

/-- No message that processes the order `o` changes anything. -/
def IgnoresMessages (o : OrderId) (w : World) : Prop :=
  ∀ n d now cart usePoints, w.messages[n]? = some (.processOrder o cart usePoints) →
    w.run now (.deliver n d) = w

theorem ignoresMessages_of_notPending (h : (w.db.charge o).NotPending) :
    w.IgnoresMessages o := by
  intro n d now cart usePoints hmsg
  obtain ⟨s, hs, hne⟩ := h
  obtain ⟨order, hget, hstatus⟩ := Option.map_eq_some_iff.mp hs
  have hok : OrderTasks.processOrderHeavyTasks w.db now o cart usePoints
      = .ok { result := .alreadyProcessed, db := w.db } := by
    unfold OrderTasks.processOrderHeavyTasks
    rw [Db.getOrder_eq_ok.mpr hget, ok_bind, if_pos]
    rw [hstatus]
    exact hne
  have hdeliver : w.run now (.deliver n d) = w.deliver now d (.processOrder o cart usePoints) := by
    simp only [run, hmsg]
  rw [hdeliver, deliver, hok]
  show w.commit w.db = w
  unfold commit
  rw [List.append_nil]

end World

/-- What is committed on a pending order leaves it not pending. -/
theorem OrderTasks.Processed.notPending {db : Db} {now : Time} {o : OrderId} {order : Order}
    {cartId : CartId} {cart : Cart} {usePoints : Int} {out : Outcome OrderTasks.ProcessResult}
    (h : OrderTasks.Processed db now o order cartId cart usePoints out) :
    (out.db.charge o).NotPending := by
  cases h with
  | completed _ hcompletes =>
    obtain ⟨items, hrow, _⟩ := hcompletes.row
    refine ⟨.confirmed, ?_, nofun⟩
    show (out.db.orders.get? o).map Order.status = some .confirmed
    rw [hrow]
    rfl
  | failed _ htakesBack =>
    obtain ⟨items, reason, hrow⟩ := htakesBack.row
    refine ⟨.failed, ?_, nofun⟩
    show (out.db.orders.get? o).map Order.status = some .failed
    rw [hrow]
    rfl

/-- The sweep that answers `True` closed the order. -/
theorem OrderTasks.abandonStalledOrder_true {db db' : Db} {now : Time} {o : OrderId}
    (h : OrderTasks.abandonStalledOrder db now o = .ok (true, db')) :
    ∃ order, OrderTasks.Abandons db now o order db' := by
  rcases OrderTasks.abandonStalledOrder_ok h with ⟨hno, _⟩ | habandons
  · cases hno
  · exact habandons

theorem OrderTasks.Abandons.notPending {db db' : Db} {now : Time} {o : OrderId} {order : Order}
    (h : OrderTasks.Abandons db now o order db') : (db'.charge o).NotPending := by
  refine ⟨.failed, ?_, nofun⟩
  show (db'.orders.get? o).map Order.status = some .failed
  rw [h.orders, Table.get?_modify_self, h.found]
  rfl

/-! ## The delivery of the message of a pending order -/

/-- The message of a pending order raises and changes nothing, or its order is
confirmed with everything done, or failed with everything taken back.  After
that, and after the order was abandoned, no message of the order changes
anything, whatever happens in between. -/
theorem order_processed_once {w : World} {now : Time} {n : Nat} {d : Delivery} {o : OrderId}
    {cartId : CartId} {usePoints : Int} {order : Order}
    (hmsg : w.messages[n]? = some (.processOrder o cartId usePoints))
    (hget : w.db.orders.get? o = some order) (hpending : order.status = .pending)
    (hitems : order.items = []) (hunique : UniqueActiveCarts w.db.carts) :
    ((∃ e, OrderTasks.processOrderHeavyTasks w.db now o cartId usePoints = .error e ∧
          w.run now (.deliver n d) = w) ∨
        ∃ cart out, OrderTasks.processOrderHeavyTasks w.db now o cartId usePoints = .ok out ∧
          (w.run now (.deliver n d)).db = out.db ∧ w.db.carts.get? cartId = some cart ∧
          OrderTasks.Processed w.db now o order cartId cart usePoints out ∧
          ∀ es t, Run World.step (fun _ _ => True) (w.run now (.deliver n d)) es t →
            t.IgnoresMessages o) ∧
      ∀ db', OrderTasks.abandonStalledOrder w.db now o = .ok (true, db') →
        (db'.products = w.db.products ∧ db'.ledger = w.db.ledger) ∧
        ∀ es t, Run World.step (fun _ _ => True) (w.commit db') es t → t.IgnoresMessages o := by
  have hdeliver : w.run now (.deliver n d)
      = w.deliver now d (.processOrder o cartId usePoints) := by
    simp only [World.run, hmsg]
  constructor
  · cases hout : OrderTasks.processOrderHeavyTasks w.db now o cartId usePoints with
    | error e =>
      refine Or.inl ⟨e, rfl, ?_⟩
      rw [hdeliver, World.deliver, hout]
      rfl
    | ok out =>
      obtain ⟨cart, hcart, hprocessed⟩ :=
        OrderTasks.processOrderHeavyTasks_processed hout hget hpending hitems hunique
      have hdb : (w.run now (.deliver n d)).db = out.db := by
        rw [hdeliver, World.deliver, hout]
        rfl
      refine Or.inr ⟨cart, out, rfl, hdb, hcart, hprocessed, fun es t hrun => ?_⟩
      apply World.ignoresMessages_of_notPending
      apply World.notPending_run hrun
      rw [hdb]
      exact hprocessed.notPending
  · intro db' habandon
    obtain ⟨order', habandons⟩ := OrderTasks.abandonStalledOrder_true habandon
    refine ⟨⟨habandons.products, habandons.ledger⟩, fun es t hrun => ?_⟩
    apply World.ignoresMessages_of_notPending
    exact World.notPending_run hrun habandons.notPending

/-- A pending order. -/
def queuedOrder : Order :=
  { user := 7, cart := some 1, totalAmount := 20000, finalAmount := 23000, shippingFee := 3000,
    createdAt := 0, updatedAt := 0 }

/-- Its cart, with two books. -/
def queuedCart : Cart := { user := some 7, isActive := false, items := [⟨1, 2, none⟩] }

/-- The shop with this order and its message; the user has another cart by
now. -/
def queuedShop : World :=
  { db :=
      { ledger := Ledger.empty
        membership := fun _ => .bronze
        products := Table.empty.insert ⟨"책", 10000, 10, 0, true⟩
        carts := (Table.empty.insert queuedCart).insert { user := some 7 }
        orders := Table.empty.insert queuedOrder
        payments := PaymentTable.empty
        logs := []
        returns := Table.empty
        idempotencyKeys := []
        webhookMarks := [] }
    messages := [.processOrder 1 1 0] }

theorem queuedShop_unique : UniqueActiveCarts queuedShop.db.carts := by
  have hactive : ∀ k c, queuedShop.db.carts.get? k = some c → c.isActive = true → k = 2 := by
    intro k c hget hc
    have hcarts : queuedShop.db.carts = (Table.empty.insert queuedCart).insert { user := some 7 } :=
      rfl
    rw [hcarts, Table.get?_insert] at hget
    split at hget
    · assumption
    · rw [Table.get?_insert, Table.get?_empty] at hget
      split at hget
      · cases hget
        cases hc
      · cases hget
  intro k k' c c' hc hc' h h' _ _
  rw [hactive k c hc h, hactive k' c' hc' h']

/-- The message of `queuedShop` is delivered. -/
theorem order_processed_once_queued :
    ∃ cart out, OrderTasks.processOrderHeavyTasks queuedShop.db 1 1 1 0 = .ok out ∧
      OrderTasks.Processed queuedShop.db 1 1 queuedOrder 1 cart 0 out ∧
      (queuedShop.run 1 (.deliver 0 {})).IgnoresMessages 1 := by
  obtain ⟨h | ⟨cart, out, hout, _, _, hprocessed, hlater⟩, _⟩ :=
    @order_processed_once queuedShop 1 0 {} 1 1 0 queuedOrder rfl rfl rfl rfl queuedShop_unique
  · obtain ⟨e, he, _⟩ := h
    have hok : (OrderTasks.processOrderHeavyTasks queuedShop.db 1 1 1 0).toBool = true := by
      decide +kernel
    rw [he] at hok
    cases hok
  · exact ⟨cart, out, hout, hprocessed, hlater [] _ .nil⟩

end Shopping
