import Shopping.Carts.Service
import Shopping.Lib.Run
import Shopping.Orders.Totals
import Shopping.Products.Serializer

/-!
# Orders beside cart edits and price changes

A call of `create_order_hybrid` looks at the cart, reads its total and then
places the order, each on its own, and a worker processes the order later from
whatever the cart holds by then.  A request that edits a cart keeps the cart it
got, also when the cart has been put away since.

`Order.ChargesForItems` is what a confirmed order should satisfy.  The worker
never compares the total of the order with the items it makes, so the order
satisfies it only when the cart still comes to that total, and is not empty
(`cartMeetsOrder`).
-/

namespace Shopping

open OrderService OrderTasks

/-! ## The desk -/

/-- The arguments of `create_order_hybrid`. -/
structure HybridRequest where
  user : UserId
  cart : CartId
  postalCode : String
  usePoints : Int
  deriving DecidableEq, Repr

/-- How far a call of `create_order_hybrid` is. -/
inductive OrderCall where
  | begun (request : HybridRequest)
  /-- `cart.items.exists()` held. -/
  | checked (request : HybridRequest)
  /-- The total was read, and the fees and points made from it. -/
  | drafted (request : HybridRequest) (draft : OrderDraft)
  | ended
  deriving DecidableEq, Repr

/-- The database, and what the requests and tasks in progress have read. -/
structure OrderDesk where
  db : Db
  productReads : List (Table Product) := []
  productEdits : List (ProductId × Product) := []
  calls : List OrderCall := []
  messages : List Message := []
  stalled : List (OrderId × Order) := []

/-- What can happen. -/
inductive OrderDeskEvent where
  /-- `get_or_create_cart`. -/
  | getCart (user : UserId)
  /-- An edit reads the products. -/
  | readProducts
  /-- `add_item` and `bulk_add_items` with the n-th products that were read. -/
  | addItem (n : Nat) (cart : CartId) (k : ProductId) (quantity : Int)
  | bulkAddItems (n : Nat) (cart : CartId) (items : List CartService.BulkItem)
  | updateItemQuantity (cart : CartId) (k : ProductId) (quantity : Int)
  | removeItem (cart : CartId) (k : ProductId)
  /-- The seller's request reads its product. -/
  | loadProduct (k : ProductId)
  /-- `ProductCreateUpdateSerializer.update` of the n-th of them. -/
  | saveProduct (n : Nat) (data : ProductCreateUpdateSerializer.ProductData)
  /-- A call of `create_order_hybrid` for the active cart of the user. -/
  | callHybrid (user : UserId) (postalCode : String) (usePoints : Int)
  /-- The next step of the n-th call. -/
  | stepHybrid (n : Nat) (published : Bool)
  /-- A worker gets the n-th message; it may get it again. -/
  | deliver (n : Nat)
  /-- `republish_stalled_orders` reads its candidates. -/
  | findStalled (stall : Time)
  /-- One round of its loop, on the n-th candidate. -/
  | republish (n : Nat) (giveUp : Time) (published : Bool)

namespace OrderDesk

/-- The desk after a call, which is as before when the call raises. -/
def after {α : Type} (s : OrderDesk) (x : Except ShopError (α × Db)) : OrderDesk :=
  match x with
  | .ok out => { s with db := out.2 }
  | .error _ => s

/-- `Cart.objects.filter(user=user, is_active=True).first()`. -/
def activeCart? (db : Db) (user : UserId) : Option CartId :=
  (db.carts.find? fun _ c => decide (c.user = some user) && c.isActive).map Prod.fst

/-- The next step of a call, the answer being where the call is then. -/
def stepCall (s : OrderDesk) (now : Time) (published : Bool) : OrderCall → OrderDesk × OrderCall
  | .begun r => (s, if hasItems s.db r.cart then .checked r else .ended)
  | .checked r =>
    match OrderDraft.ofTotal (totalOfCart s.db r.cart) (s.db.ledger.points r.user) r.postalCode
        r.usePoints with
    | .ok draft => (s, .drafted r draft)
    | .error _ => (s, .ended)
  | .drafted r draft =>
    match placeOrder s.db now r.user r.cart draft with
    | .ok (o, db) =>
      ({ s with
          db := db
          messages := s.messages ++
            if published then [.processOrder o r.cart r.usePoints] else [] }, .ended)
    | .error _ => (s, .ended)
  | .ended => (s, .ended)

def run (s : OrderDesk) (now : Time) : OrderDeskEvent → OrderDesk
  | .getCart user => { s with db := (CartService.getOrCreateActiveCart s.db user).2 }
  | .readProducts => { s with productReads := s.productReads ++ [s.db.products] }
  | .addItem n cart k quantity =>
    match s.productReads[n]? with
    | none => s
    | some products => s.after (CartService.addItem s.db products cart k quantity)
  | .bulkAddItems n cart items =>
    match s.productReads[n]? with
    | none => s
    | some products => s.after (CartService.bulkAddItems s.db products cart items)
  | .updateItemQuantity cart k quantity =>
    s.after (CartService.updateItemQuantity s.db cart k quantity)
  | .removeItem cart k => s.after (CartService.removeItem s.db cart k)
  | .loadProduct k =>
    match s.db.products.get? k with
    | none => s
    | some p => { s with productEdits := s.productEdits ++ [(k, p)] }
  | .saveProduct n data =>
    match s.productEdits[n]? with
    | none => s
    | some (k, p) =>
      let out := ProductCreateUpdateSerializer.update s.db.products k p data
      { s with db := { s.db with products := out.2 } }
  | .callHybrid user postalCode usePoints =>
    match activeCart? s.db user with
    | none => s
    | some cart => { s with calls := s.calls ++ [.begun ⟨user, cart, postalCode, usePoints⟩] }
  | .stepHybrid n published =>
    match s.calls[n]? with
    | none => s
    | some call =>
      let out := s.stepCall now published call
      { out.1 with calls := s.calls.set n out.2 }
  | .deliver n =>
    match s.messages[n]? with
    | some (.processOrder o cart usePoints) =>
      match processOrderHeavyTasks s.db now o cart usePoints with
      | .ok out => { s with db := out.db }
      | .error _ => s
    | _ => s
  | .findStalled stall => { s with stalled := s.stalled ++ stalledOrders s.db now stall }
  | .republish n giveUp published =>
    match s.stalled[n]? with
    | none => s
    | some seen =>
      let out := republishLoop now giveUp (fun _ => published) s.db [seen]
      { s with db := out.1, messages := s.messages ++ out.2 }

/-- The step of the desk: every event can happen at any time. -/
def step (s : OrderDesk) (e : Time × OrderDeskEvent) : Option OrderDesk := some (s.run e.1 e.2)

end OrderDesk

/-! ## One call alone -/

namespace OrderDesk

/-- The three steps of a call with nothing between them are
`create_order_hybrid`. -/
theorem stepCall_refines (s : OrderDesk) (now : Time) (published : Bool) (r : HybridRequest) :
    let checked := s.stepCall now published (.begun r)
    let drafted := checked.1.stepCall now published checked.2
    let placed := drafted.1.stepCall now published drafted.2
    match createOrderHybrid s.db now r.user r.cart r.postalCode r.usePoints published with
    | .ok out => placed.1 = { s with db := out.db, messages := s.messages ++ out.sent }
    | .error _ => placed.1 = s := by
  unfold createOrderHybrid
  rw [OrderDraft.of_eq]
  by_cases hitems : hasItems s.db r.cart = true
  · simp only [stepCall, if_pos hitems]
    cases hdraft : OrderDraft.ofTotal (totalOfCart s.db r.cart) (s.db.ledger.points r.user)
        r.postalCode r.usePoints with
    | error e => rfl
    | ok draft =>
      dsimp only [stepCall]
      rw [ok_bind]
      cases hplace : placeOrder s.db now r.user r.cart draft with
      | error e => rfl
      | ok out => rfl
  · dsimp only [stepCall]
    rw [if_neg hitems, if_neg hitems]
    rfl

end OrderDesk

/-! ## The condition -/

/-- The cart a pending order is processed with has an item and comes to the
total of the order, unless the stock or the points do not suffice. -/
def cartMeetsOrder (db : Db) (o : OrderId) (cartId : CartId) (usePoints : Int) : Bool :=
  (db.orders.get? o).all fun order => (db.carts.get? cartId).all fun cart =>
    decide (order.status ≠ .pending) || !inStock db.products cart ||
      !pointsSuffice db order usePoints ||
        decide (cart.items ≠ []) && decide (cartTotalAmount db.products cart = order.totalAmount)

/-- The worker gets to no order whose cart comes to something else by then. -/
def chargesAsProcessed (s : OrderDesk) (e : Time × OrderDeskEvent) : Bool :=
  match e.2 with
  | .deliver n =>
    match s.messages[n]? with
    | some (.processOrder o cart usePoints) => cartMeetsOrder s.db o cart usePoints
    | _ => true
  | _ => true

/-! ## The invariant -/

/-- A pending order has no items yet, and a confirmed one charges for those it
has. -/
structure Order.Accounted (order : Order) : Prop where
  pending : order.status = .pending → order.items = []
  confirmed : order.status = .confirmed → order.ChargesForItems

/-- Every order of the database. -/
def AllAccounted (db : Db) : Prop :=
  ∀ o order, db.orders.get? o = some order → order.Accounted

section

variable {db db' : Db} {now : Time}

theorem AllAccounted.of_orders_eq (h : AllAccounted db) (ho : db'.orders = db.orders) :
    AllAccounted db' := by
  intro o order hget
  rw [ho] at hget
  exact h o order hget

theorem AllAccounted.onlyCarts (h : AllAccounted db) (hc : CartService.OnlyCarts db db') :
    AllAccounted db' := by
  obtain ⟨carts, rfl⟩ := hc
  exact h.of_orders_eq rfl

/-- An order that fails is neither pending nor confirmed. -/
theorem AllAccounted.fail (h : AllAccounted db) {o : OrderId} {f : Order → Order}
    (hf : ∀ x, (f x).status = .failed) (ho : db'.orders = db.orders.modify o f) :
    AllAccounted db' := by
  intro j order hget
  rw [ho] at hget
  rcases Table.modify_cases hget with ⟨before, _, _, rfl⟩ | ⟨_, hget⟩
  · constructor
    · intro hs
      rw [hf] at hs
      cases hs
    · intro hs
      rw [hf] at hs
      cases hs
  · exact h j order hget

theorem AllAccounted.place (h : AllAccounted db) {o : OrderId} {order : Order}
    (hp : Places db o order db') : AllAccounted db' := by
  intro j row hget
  rw [hp.orders] at hget
  rcases Table.insert_cases hget with ⟨_, rfl⟩ | hget
  · constructor
    · intro _
      exact hp.items
    · intro hs
      rw [hp.pending] at hs
      cases hs
  · exact h j row hget

/-- The worker keeps the invariant when the cart meets the order. -/
theorem AllAccounted.process (h : AllAccounted db) {o : OrderId} {cartId : CartId}
    {usePoints : Int} {out : Outcome ProcessResult}
    (hp : processOrderHeavyTasks db now o cartId usePoints = .ok out)
    (hmeets : cartMeetsOrder db o cartId usePoints = true) : AllAccounted out.db := by
  obtain ⟨order, hget, hcase⟩ := processOrderHeavyTasks_ok hp
  rcases hcase with hsame | ⟨hpending, cart, products, items, shortage, hcart, htake, hcase⟩
  · rw [hsame]
    exact h
  · have hnone := (h o order hget).pending hpending
    cases hcase with
    | failed reason horders hproducts hpayments hlogs =>
      rw [Table.modify_modify] at horders
      exact h.fail (fun _ => rfl) horders
    | confirmed horders hproducts hpayments hlogs =>
      intro j row hrow
      by_cases hj : j = o
      · subst hj
        constructor
        · intro hs
          rw [horders, Table.modify_modify, Table.get?_modify_self, hget] at hrow
          cases hrow
          cases hs
        · intro hs
          obtain ⟨c, hc⟩ := processOrderHeavyTasks_confirmed hp hget hpending hnone hrow hs
          simp only [cartMeetsOrder, hget, hc.found, hc.stock, hc.points, hpending, Option.all_some,
            ne_eq, not_true_eq_false, decide_false, Bool.not_true, Bool.false_or,
            Bool.and_eq_true, decide_eq_true_eq] at hmeets
          obtain ⟨hitems, htotal⟩ := hmeets
          constructor
          · rw [ne_eq, hc.none_iff]
            exact hitems
          · rw [hc.total, hc.items, htotal]
      · rw [horders, Table.modify_modify, Table.get?_modify, if_neg hj] at hrow
        exact h j row hrow

theorem AllAccounted.after {α : Type} {s : OrderDesk} {x : Except ShopError (α × Db)}
    (h : AllAccounted s.db) (hx : ∀ a, x = .ok a → CartService.OnlyCarts s.db a.2) :
    AllAccounted (s.after x).db := by
  unfold OrderDesk.after
  cases x with
  | error e => exact h
  | ok out => exact h.onlyCarts (hx out rfl)

theorem AllAccounted.stepCall {s : OrderDesk} (h : AllAccounted s.db) (published : Bool)
    (call : OrderCall) : AllAccounted (s.stepCall now published call).1.db := by
  cases call with
  | begun r => exact h
  | checked r =>
    unfold OrderDesk.stepCall
    dsimp only
    split
    · exact h
    · exact h
  | drafted r draft =>
    unfold OrderDesk.stepCall
    dsimp only
    split
    · rename_i o db hplace
      obtain ⟨order, hp⟩ := placeOrder_ok hplace
      exact h.place hp
    · exact h
  | ended => exact h

/-- Every event keeps the invariant. -/
theorem AllAccounted.run {s : OrderDesk} (h : AllAccounted s.db) {e : OrderDeskEvent}
    (hok : chargesAsProcessed s (now, e) = true) : AllAccounted (s.run now e).db := by
  cases e with
  | getCart user => exact h.onlyCarts (CartService.getOrCreateActiveCart_onlyCarts user)
  | readProducts => exact h
  | addItem n cart k quantity =>
    unfold OrderDesk.run
    dsimp only
    split
    · exact h
    · exact h.after fun _ hx => CartService.addItem_onlyCarts hx
  | bulkAddItems n cart items =>
    unfold OrderDesk.run
    dsimp only
    split
    · exact h
    · exact h.after fun _ hx => CartService.bulkAddItems_onlyCarts hx
  | updateItemQuantity cart k quantity =>
    exact h.after fun _ hx => CartService.updateItemQuantity_onlyCarts hx
  | removeItem cart k => exact h.after fun _ hx => CartService.removeItem_onlyCarts hx
  | loadProduct k =>
    unfold OrderDesk.run
    dsimp only
    split
    · exact h
    · exact h
  | saveProduct n data =>
    unfold OrderDesk.run
    dsimp only
    split
    · exact h
    · exact h.of_orders_eq rfl
  | callHybrid user postalCode usePoints =>
    unfold OrderDesk.run
    dsimp only
    split
    · exact h
    · exact h
  | stepHybrid n published =>
    unfold OrderDesk.run
    dsimp only
    split
    · exact h
    · exact h.stepCall published _
  | deliver n =>
    unfold OrderDesk.run
    unfold chargesAsProcessed at hok
    dsimp only at hok ⊢
    split
    · rename_i o cart usePoints hmessage
      rw [hmessage] at hok
      split
      · rename_i out hprocess
        exact h.process hprocess hok
      · exact h
    · exact h
  | findStalled stall => exact h
  | republish n giveUp published =>
    unfold OrderDesk.run
    dsimp only
    split
    · exact h
    · rename_i seen _
      obtain ⟨hdb, _⟩ := republishLoop_one now giveUp (fun _ => published) s.db seen.1 seen.2
      rcases hdb with hsame | ⟨order, habandon⟩
      · exact h.of_orders_eq (congrArg Db.orders hsame)
      · exact h.fail (fun _ => rfl) habandon.orders

end

/-! ## Runs -/

/-- In a run in which the worker gets to no order whose cart comes to something
else by then, every confirmed order has items and charges exactly for them. -/
theorem confirmed_charges_for_items {s t : OrderDesk} {es : List (Time × OrderDeskEvent)}
    (hs : AllAccounted s.db)
    (h : Run OrderDesk.step (fun s e => chargesAsProcessed s e = true) s es t) {o : OrderId}
    {order : Order} (hget : t.db.orders.get? o = some order) (hc : order.status = .confirmed) :
    order.items ≠ [] ∧ order.totalAmount = itemsTotal order.items := by
  have hall : AllAccounted t.db := by
    refine Run.invariant (fun s => AllAccounted s.db) hs ?_ h
    intro s e u hI hok hstep
    cases hstep
    exact hI.run hok
  have hcharges := (hall o order hget).confirmed hc
  exact ⟨hcharges.items, hcharges.total⟩

/-- What comes between the reads of `create_order_hybrid` and the worker is all
that can keep the cart from meeting the order. -/
theorem cartMeetsOrder_of_createOrderHybrid {db : Db} {now : Time} {user : UserId}
    {cartId : CartId} {postalCode : String} {usePoints : Int} {published : Bool}
    {out : Outcome OrderId}
    (h : createOrderHybrid db now user cartId postalCode usePoints published = .ok out) :
    cartMeetsOrder out.db out.result cartId usePoints = true := by
  unfold createOrderHybrid at h
  rw [OrderDraft.of_eq] at h
  split at h
  · rename_i hitems
    obtain ⟨draft, hdraft, h⟩ := bind_eq_ok.mp h
    obtain ⟨⟨o, db'⟩, hplace, h⟩ := bind_eq_ok.mp h
    cases h
    obtain ⟨_, _, hdraft⟩ := map_eq_ok.mp hdraft
    have htotal : draft.totalAmount = totalOfCart db cartId := by
      rw [← hdraft]
    unfold placeOrder at hplace
    cases hcart : db.carts.get? cartId with
    | none =>
      rw [hcart] at hplace
      cases hplace
    | some cart =>
      rw [hcart] at hplace
      dsimp only at hplace
      split_ifs at hplace with hactive hempty
      cases hplace
      have hsum : cartTotalAmount db.products cart = draft.totalAmount := by
        rw [htotal]
        unfold totalOfCart
        rw [hcart]
        rfl
      simp only [cartMeetsOrder, Table.get?_insert_next, Table.get?_modify_self, hcart,
        Option.map_some, Option.all_some, Bool.or_eq_true, Bool.and_eq_true, decide_eq_true_eq]
      exact Or.inr ⟨hempty, hsum⟩
  · cases h

/-! ## Two books in a cart -/

/-- A user with two books in the cart, and no order yet. -/
def orderShop : OrderDesk where
  db :=
    { ledger := Ledger.empty
      membership := fun _ => .bronze
      products := Table.empty.insert ⟨"책", 10000, 10, 0, true⟩
      carts := Table.empty.insert { user := some 7, items := [{ product := 1, quantity := 2 }] }
      orders := Table.empty
      payments := PaymentTable.empty
      logs := []
      returns := Table.empty
      idempotencyKeys := []
      webhookMarks := [] }

/-- The order is created, all in one go. -/
def created : List (Time × OrderDeskEvent) :=
  [(0, .callHybrid 7 "06234" 0), (0, .stepHybrid 0 true), (0, .stepHybrid 0 true),
    (0, .stepHybrid 0 true)]

theorem orderShop_accounted : AllAccounted orderShop.db := by
  intro o order hget
  cases hget

/-- The order is confirmed with this total and these items. -/
def confirmedWith (total : Int) (items : List OrderItem) (s : OrderDesk) : Bool :=
  (s.db.orders.get? 1).any fun order => decide
    (order.status = .confirmed ∧ order.totalAmount = total ∧ order.items = items)

theorem confirmedWith_eq_true {total : Int} {items : List OrderItem} {s : OrderDesk}
    (h : confirmedWith total items s = true) :
    ∃ order, s.db.orders.get? 1 = some order ∧ order.status = .confirmed ∧
      order.totalAmount = total ∧ order.items = items := by
  obtain ⟨order, hget, horder⟩ := (Option.any_eq_true _ _).mp h
  exact ⟨order, hget, of_decide_eq_true horder⟩

/-- The price changes before the order is created and after it was processed,
and the worker gets the message twice. -/
theorem confirmed_charges_for_items_once :
    ∃ s, Run OrderDesk.step (fun s e => chargesAsProcessed s e = true) orderShop
        ([(0, .loadProduct 1), (0, .saveProduct 0 { price := some 9000 })] ++ created ++
          [(1, .deliver 0), (2, .saveProduct 0 { price := some 12000 }), (3, .deliver 0)]) s ∧
      ∃ order, s.db.orders.get? 1 = some order ∧ order.totalAmount = 18000 ∧
        order.items ≠ [] ∧ order.totalAmount = itemsTotal order.items := by
  obtain ⟨s, hrun, hstate⟩ := Run.exists_of_execIf (by decide +kernel :
    (execIf OrderDesk.step chargesAsProcessed orderShop
      ([(0, .loadProduct 1), (0, .saveProduct 0 { price := some 9000 })] ++ created ++
        [(1, .deliver 0), (2, .saveProduct 0 { price := some 12000 }), (3, .deliver 0)])).any
      (confirmedWith 18000 [⟨some 1, "책", 2, 9000⟩]) = true)
  obtain ⟨order, hget, hconfirmed, htotal, _⟩ := confirmedWith_eq_true hstate
  exact ⟨s, hrun, order, hget, htotal,
    confirmed_charges_for_items orderShop_accounted hrun hget hconfirmed⟩

/-- Between the order and the worker the price goes up, or the one item of the
cart is removed: the order ships more than it charges for, or nothing. -/
theorem confirmed_charges_for_else :
    (∃ s, Run OrderDesk.step (fun _ _ => true = true) orderShop
        (created ++ [(1, .loadProduct 1), (2, .saveProduct 0 { price := some 12000 }),
          (3, .deliver 0)]) s ∧
      ∃ order, s.db.orders.get? 1 = some order ∧ order.status = .confirmed ∧
        order.totalAmount = 20000 ∧ itemsTotal order.items = 24000) ∧
    (∃ s, Run OrderDesk.step (fun _ _ => true = true) orderShop
        (created ++ [(1, .removeItem 1 1), (3, .deliver 0)]) s ∧
      ∃ order, s.db.orders.get? 1 = some order ∧ order.status = .confirmed ∧
        order.totalAmount = 20000 ∧ order.items = []) := by
  constructor
  · obtain ⟨s, hrun, hstate⟩ := Run.exists_of_execIf (by decide +kernel :
      (execIf OrderDesk.step (fun _ _ => true) orderShop
        (created ++ [(1, .loadProduct 1), (2, .saveProduct 0 { price := some 12000 }),
          (3, .deliver 0)])).any (confirmedWith 20000 [⟨some 1, "책", 2, 12000⟩]) = true)
    obtain ⟨order, hget, hconfirmed, htotal, hitems⟩ := confirmedWith_eq_true hstate
    refine ⟨s, hrun, order, hget, hconfirmed, htotal, ?_⟩
    rw [hitems]
    decide
  · obtain ⟨s, hrun, hstate⟩ := Run.exists_of_execIf (by decide +kernel :
      (execIf OrderDesk.step (fun _ _ => true) orderShop
        (created ++ [(1, .removeItem 1 1), (3, .deliver 0)])).any (confirmedWith 20000 []) = true)
    exact ⟨s, hrun, confirmedWith_eq_true hstate⟩

end Shopping
