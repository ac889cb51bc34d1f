import Shopping.Points.RefundParts
import Shopping.System.UsedPoints

/-!
# The sweeps over orders that nobody pays

`expire_unpaid_orders` cancels the unpaid orders past the timeout that have
items and no live payment, and `republish_stalled_orders` sees to the pending
orders that have no items.  Both read their candidates once and then commit a
transaction for each.

`Expired` is what the first makes of the shop, for the list of the orders that
it closed: the effects on different orders add up, whatever the orders share.
It names every column of every table.  `expireUnpaidOrders_exact` says which
list that is and what it comes to on the accounts, `republishStalledOrders_exact`
does the same for the second sweep, and `sweeps_leave_no_order` is what the two
leave behind together.
-/

namespace Shopping

namespace OrderTasks

/-! ## What an expiry does -/

/-- What an expiry makes of an order. -/
def expiredRow (now : Time) (x : Order) : Order :=
  { x with status := .canceled, failureReason := orderExpiredFailureReason, updatedAt := now }

/-- What the order has of the product `j`. -/
def orderedOf (db : Db) (j : ProductId) (o : OrderId) : Int :=
  ((db.orders.get? o).map fun x => quantityOf j x.items).getD 0

/-- The order used points, and its use is booked. -/
def usedOf (db : Db) (o : OrderId) : Option Order :=
  (db.orders.get? o).filter fun x => decide (0 < x.usedPoints) && hasUse o db.usedRows

/-- The ledger after the refund of the order's points, when it used any. -/
def givenBack (db : Db) (clock : OrderId → Time) (L : Ledger) (o : OrderId) : Ledger :=
  match usedOf db o with
  | none => L
  | some x =>
    (PointService.refundUsedPoints L (clock o) x.user x.usedPoints o .cancelRefund).2

/-- The row of the refund. -/
def backRows (db : Db) (o : OrderId) : List Entry :=
  match usedOf db o with
  | none => []
  | some x => [⟨some o, .cancelRefund, x.usedPoints⟩]

/-- The log of the payment that is closed. -/
def expiryLog (db : Db) (o : OrderId) : List PaymentLog :=
  match db.payments.ofOrder? o with
  | none => []
  | some (k, _) =>
    [⟨k, .cancel, "주문 만료로 결제 종료: " ++ orderExpiredFailureReason, none⟩]

/-- The shop after these orders were closed: their payments are closed, and
what they took of stock and points is back. -/
structure Expired (db : Db) (clock : OrderId → Time) (closed : List OrderId) (db' : Db) :
    Prop where
  orders : db'.orders
    = db.orders.mapRows fun i x => if i ∈ closed then expiredRow (clock i) x else x
  payments : db'.payments.table = db.payments.table.mapRows fun _ p =>
    if p.order ∈ closed ∧ p.status.isLive = false then { p with status := .expired } else p
  products : db'.products = db.products.mapRows fun j p =>
    { p with stock := p.stock + (closed.map (orderedOf db j)).sum }
  ledger : db'.ledger = closed.foldl (givenBack db clock) db.ledger
  logs : db'.logs = db.logs ++ closed.flatMap (expiryLog db)
  rest : (db'.carts, db'.returns, db'.membership, db'.idempotencyKeys, db'.webhookMarks)
    = (db.carts, db.returns, db.membership, db.idempotencyKeys, db.webhookMarks)

section

variable {db db' db'' : Db} {clock : OrderId → Time} {closed more : List OrderId} {o : OrderId}

theorem Expired.refl (db : Db) (clock : OrderId → Time) : Expired db clock [] db where
  orders := by simp
  payments := by simp
  products := by simp
  ledger := rfl
  logs := by simp
  rest := rfl

/-- The items of an order stay. -/
theorem Expired.orderedOf (h : Expired db clock closed db') (j : ProductId) (o : OrderId) :
    OrderTasks.orderedOf db' j o = OrderTasks.orderedOf db j o := by
  unfold OrderTasks.orderedOf
  rw [h.orders, Table.get?_mapRows]
  cases db.orders.get? o with
  | none => rfl
  | some x =>
    simp only [Option.map_some]
    split
    · rfl
    · rfl

theorem usedOf_eq_some {x : Order} : usedOf db o = some x ↔
    db.orders.get? o = some x ∧ 0 < x.usedPoints ∧ hasUse o db.usedRows = true := by
  rw [usedOf, Option.filter_eq_some_iff, Bool.and_eq_true, decide_eq_true_eq]

theorem backRows_use {row : Entry} (h : row ∈ backRows db o) : row.type = .cancelRefund := by
  unfold backRows at h
  split at h
  · cases h
  · rw [List.mem_singleton.mp h]

theorem givenBack_usedRows (db : Db) (clock : OrderId → Time) (L : Ledger) (o : OrderId) :
    (givenBack db clock L o).usedRows = L.usedRows ++ backRows db o := by
  unfold givenBack backRows
  cases hused : usedOf db o with
  | none => simp
  | some x => exact PointService.refund_usedRows L _ _ o none (usedOf_eq_some.mp hused).2.1 rfl

/-- Each refund is booked once. -/
theorem Expired.usedRows (h : Expired db clock closed db') :
    db'.usedRows = db.usedRows ++ closed.flatMap (backRows db) := by
  have hfold : ∀ (os : List OrderId) (L : Ledger), (os.foldl (givenBack db clock) L).usedRows
      = L.usedRows ++ os.flatMap (OrderTasks.backRows db) := by
    intro os
    induction os with
    | nil => simp
    | cons o rest ih =>
      intro L
      rw [List.foldl_cons, ih, givenBack_usedRows, List.flatMap_cons, List.append_assoc]
  unfold Db.usedRows
  rw [h.ledger, hfold]

/-- No use is booked. -/
theorem Expired.hasUse (h : Expired db clock closed db') (o : OrderId) :
    Shopping.hasUse o db'.usedRows = Shopping.hasUse o db.usedRows := by
  unfold Shopping.hasUse
  rw [h.usedRows, List.any_append, Bool.or_eq_left_iff_imp]
  intro hany
  obtain ⟨e, he, huse⟩ := List.any_eq_true.mp hany
  obtain ⟨i, _, hi⟩ := List.mem_flatMap.mp he
  simp [backRows_use hi] at huse

/-- An order that was closed has its user and its points still. -/
theorem Expired.usedOf (h : Expired db clock closed db') (o : OrderId) :
    (OrderTasks.usedOf db' o).map (fun x => (x.user, x.usedPoints))
      = (OrderTasks.usedOf db o).map fun x => (x.user, x.usedPoints) := by
  unfold OrderTasks.usedOf
  rw [h.hasUse, h.orders, Table.get?_mapRows]
  cases db.orders.get? o with
  | none => rfl
  | some x =>
    have husedPoints : (if o ∈ closed then expiredRow (clock o) x else x).usedPoints
        = x.usedPoints := by
      split
      · rfl
      · rfl
    have huser : (if o ∈ closed then expiredRow (clock o) x else x).user = x.user := by
      split
      · rfl
      · rfl
    rw [Option.map_some, Option.filter_some, Option.filter_some, husedPoints]
    split
    · simp [husedPoints, huser]
    · rfl

theorem Expired.givenBack (h : Expired db clock closed db') :
    OrderTasks.givenBack db' clock = OrderTasks.givenBack db clock := by
  funext L o
  have hused := h.usedOf o
  unfold OrderTasks.givenBack
  cases hx : OrderTasks.usedOf db o with
  | none =>
    rw [hx, Option.map_none, Option.map_eq_none_iff] at hused
    rw [hused]
  | some x =>
    rw [hx, Option.map_some, Option.map_eq_some_iff] at hused
    obtain ⟨y, hy, hsame⟩ := hused
    rw [Prod.mk.injEq] at hsame
    rw [hy]
    dsimp only
    rw [hsame.1, hsame.2]

/-- A payment keeps its key. -/
theorem Expired.expiryLog (h : Expired db clock closed db') (o : OrderId) :
    OrderTasks.expiryLog db' o = OrderTasks.expiryLog db o := by
  have hkey : (db'.payments.ofOrder? o).map Prod.fst = (db.payments.ofOrder? o).map Prod.fst := by
    have hfind : db'.payments.ofOrder? o
        = (db.payments.table.find? fun _ p => decide (p.order = o)).map fun e => (e.1,
          if e.2.order ∈ closed ∧ e.2.status.isLive = false then { e.2 with status := .expired }
          else e.2) := by
      unfold PaymentTable.ofOrder?
      rw [h.payments, Table.find?_mapRows]
      have hsame : (fun (k : Nat) (p : Payment) => decide ((if p.order ∈ closed ∧
          p.status.isLive = false then { p with status := .expired } else p).order = o))
          = fun _ p => decide (p.order = o) := by
        funext k p
        split
        · rfl
        · rfl
      rw [hsame]
    rw [hfind, Option.map_map]
    rfl
  unfold OrderTasks.expiryLog
  cases hpayment : db.payments.ofOrder? o with
  | none =>
    rw [hpayment, Option.map_none, Option.map_eq_none_iff] at hkey
    rw [hkey]
  | some e =>
    rw [hpayment, Option.map_some, Option.map_eq_some_iff] at hkey
    obtain ⟨e', he', hsame⟩ := hkey
    rw [he']
    dsimp only
    rw [hsame]

/-- The effects on two lists of orders add up. -/
theorem Expired.append (h : Expired db clock closed db') (h' : Expired db' clock more db'') :
    Expired db clock (closed ++ more) db'' where
  orders := by
    rw [h'.orders, h.orders, Table.mapRows_mapRows]
    refine Table.mapRows_congr fun i x _ => ?_
    by_cases hclosed : i ∈ closed
    · by_cases hmore : i ∈ more
      · simp [hclosed, hmore, expiredRow]
      · simp [hclosed, hmore]
    · simp [hclosed]
  payments := by
    rw [h'.payments, h.payments, Table.mapRows_mapRows]
    refine Table.mapRows_congr fun i p _ => ?_
    cases hlive : p.status.isLive with
    | true => simp [hlive]
    | false =>
      by_cases hclosed : p.order ∈ closed
      · by_cases hmore : p.order ∈ more
        · simp [hclosed, hmore]
        · simp [hclosed, hmore]
      · simp [hclosed, hlive]
  products := by
    have hmore : ∀ j, more.map (OrderTasks.orderedOf db' j)
        = more.map (OrderTasks.orderedOf db j) :=
      fun j => List.map_congr_left fun o _ => h.orderedOf j o
    rw [h'.products, h.products, Table.mapRows_mapRows]
    refine Table.mapRows_congr fun j p _ => ?_
    rw [hmore, List.map_append, List.sum_append, ← add_assoc]
  ledger := by
    rw [h'.ledger, h.givenBack, h.ledger, List.foldl_append]
  logs := by
    have hmore : more.flatMap (OrderTasks.expiryLog db')
        = more.flatMap (OrderTasks.expiryLog db) := by
      rw [funext h.expiryLog]
    rw [h'.logs, h.logs, hmore, List.flatMap_append, List.append_assoc]
  rest := h'.rest.trans h.rest

/-! ## The turn of one order -/

/-- The payments of the other orders stay. -/
theorem Expired.hasLivePayment (h : Expired db clock closed db') (o : OrderId) :
    OrderTasks.hasLivePayment db' o = OrderTasks.hasLivePayment db o := by
  unfold OrderTasks.hasLivePayment
  rw [h.payments, Table.any_mapRows]
  congr 1
  funext k p
  by_cases hp : p.order ∈ closed ∧ p.status.isLive = false
  · have hexpired : PaymentStatus.expired.isLive = false := rfl
    rw [if_pos hp, hp.2]
    simp [hexpired]
  · rw [if_neg hp]

/-- The orders whose turn commits before the soft time limit. -/
def committed (limit : OrderId → TimeLimit) : List OrderId → List OrderId
  | [] => []
  | o :: rest =>
    match limit o with
    | .notReached => o :: committed limit rest
    | .beforeCommit => []
    | .afterCommit => [o]

/-- What the refund of the order's points leaves on the account of the user:
all of them but what is past its date already. -/
def pointsBack (db : Db) (clock : OrderId → Time) (user : UserId) (o : OrderId) : Int :=
  match usedOf db o with
  | none => 0
  | some x =>
    if x.user = user then
      x.usedPoints - db.ledger.dueAmount (clock o) (restored db.ledger o x.usedPoints)
    else 0

/-- A refund of this order restores what it would at the start of the sweep. -/
def RestoresAs (L₀ L : Ledger) (now : Time) (o : OrderId) : Prop :=
  ∀ n, restored L o n = restored L₀ o n ∧
    L.dueAmount now (restored L o n) = L₀.dueAmount now (restored L₀ o n)

/-- Refunds of different orders do not get into each other's way. -/
theorem RestoresAs.givenBack {clock : OrderId → Time} {L₀ L : Ledger} {now : Time} {i : OrderId}
    (h : RestoresAs L₀ L now i) (hne : i ≠ o) :
    RestoresAs L₀ (OrderTasks.givenBack db clock L o) now i := by
  unfold OrderTasks.givenBack
  cases hused : OrderTasks.usedOf db o with
  | none => exact h
  | some x =>
    intro n
    have hpos := (usedOf_eq_some.mp hused).2.1
    have hearn : PointType.cancelRefund ≠ .earn := fun heq => PointType.noConfusion heq
    have hother := @refund_of_ne (clock o) L o x.usedPoints x.user .cancelRefund i hne hpos hearn
      none now n
    dsimp only
    rw [hother.2, hother.1]
    exact h n

/-- Two unpaid orders of the user 7 that share a product and the 500 points of
one earn row; the first has a payment that nobody began on. -/
def unpaidShop : Db :=
  let earned := (Ledger.empty.setPoints 7 500).createHistory 0 7 500 .earn none {}
  let first := (PointService.usePointsFifo earned 1 7 300 .use (some 1)).2
  { (World.shop .confirmed .ready).db with
    ledger := (PointService.usePointsFifo first 2 7 100 .use (some 2)).2
    orders := (Table.empty.insert { World.oneOrder .confirmed with usedPoints := 300 }).insert
      { World.oneOrder .confirmed with usedPoints := 100 } }

end

/-! ## Carts that are given back -/

/-- The user has an active cart with all of these products. -/
def HoldsProducts (carts : Table Cart) (user : Option UserId) (items : List CartItem) : Prop :=
  ∃ k c, carts.get? k = some c ∧ c.user = user ∧ c.isActive = true ∧
    ∀ it ∈ items, ∃ it' ∈ c.items, it'.product = it.product

/-- The cart is still there, and what it had is in it or in an active cart of
its owner. -/
structure KeepsCarts (carts carts' : Table Cart) : Prop where
  users : ∀ k, (carts'.get? k).map Cart.user = (carts.get? k).map Cart.user
  row : ∀ k c, carts.get? k = some c → ∃ c', carts'.get? k = some c' ∧ c'.user = c.user ∧
    ((∀ it ∈ c.items, ∃ it' ∈ c'.items, it'.product = it.product) ∨
      HoldsProducts carts' c.user c.items)
  holds : ∀ user items, HoldsProducts carts user items → HoldsProducts carts' user items

section

variable {carts carts' carts'' : Table Cart} {cartId : CartId} {cart : Cart}

theorem HoldsProducts.of_cover {user : Option UserId} {items items' : List CartItem}
    (h : HoldsProducts carts user items)
    (hcover : ∀ it ∈ items', ∃ it' ∈ items, it'.product = it.product) :
    HoldsProducts carts user items' := by
  obtain ⟨k, c, hc, huser, hactive, hitems⟩ := h
  refine ⟨k, c, hc, huser, hactive, fun it hit => ?_⟩
  obtain ⟨it', hit', hproduct⟩ := hcover it hit
  obtain ⟨it'', hit'', hproduct'⟩ := hitems it' hit'
  exact ⟨it'', hit'', hproduct'.trans hproduct⟩

theorem KeepsCarts.refl (carts : Table Cart) : KeepsCarts carts carts where
  users _ := rfl
  row _ c hc := ⟨c, hc, rfl, Or.inl fun it hit => ⟨it, hit, rfl⟩⟩
  holds _ _ h := h

theorem KeepsCarts.trans (h : KeepsCarts carts carts') (h' : KeepsCarts carts' carts'') :
    KeepsCarts carts carts'' where
  users k := (h'.users k).trans (h.users k)
  row := by
    intro k c hc
    obtain ⟨c', hc', huser, hkept⟩ := h.row k c hc
    obtain ⟨c'', hc'', huser', hkept'⟩ := h'.row k c' hc'
    refine ⟨c'', hc'', huser'.trans huser, ?_⟩
    rcases hkept with hcover | hholds
    · rcases hkept' with hcover' | hholds'
      · left
        intro it hit
        obtain ⟨it', hit', hproduct⟩ := hcover it hit
        obtain ⟨it'', hit'', hproduct'⟩ := hcover' it' hit'
        exact ⟨it'', hit'', hproduct'.trans hproduct⟩
      · right
        rw [huser] at hholds'
        exact hholds'.of_cover hcover
    · exact Or.inr (h'.holds _ _ hholds)
  holds _ _ hheld := h'.holds _ _ (h.holds _ _ hheld)

theorem Restores.users (h : Restores carts cartId cart carts') (k : CartId) :
    (carts'.get? k).map Cart.user = (carts.get? k).map Cart.user := by
  have hmodify : ∀ (t : Table Cart) (j : CartId) (f : Cart → Cart), (∀ c, (f c).user = c.user) →
      ((t.modify j f).get? k).map Cart.user = (t.get? k).map Cart.user := by
    intro t j f hf
    rw [Table.get?_modify]
    split
    · rw [Option.map_map]
      congr 1
      funext c
      exact hf c
    · rfl
  cases h with
  | reactivated _ => exact hmodify _ _ _ fun _ => rfl
  | @moved activeId active _ _ _ _ =>
    rw [hmodify _ activeId (Cart.withItems _) fun _ => rfl]
    exact hmodify _ cartId (Cart.withItems _) fun _ => rfl

/-- What `_restore_cart` puts into the carts is more. -/
theorem Restores.keepsCarts (h : Restores carts cartId cart carts')
    (hget : carts.get? cartId = some cart) (hback : HoldsProducts carts' cart.user cart.items) :
    KeepsCarts carts carts' := by
  have hrow : ∀ k c, carts.get? k = some c → ∃ c', carts'.get? k = some c' ∧ c'.user = c.user ∧
      (c.isActive = true → c'.isActive = true) ∧
      ((∀ it ∈ c.items, ∃ it' ∈ c'.items, it'.product = it.product) ∨ c = cart) := by
    cases h with
    | reactivated _ =>
      intro k c hc
      by_cases hk : k = cartId
      · refine ⟨{ c with isActive := true }, ?_, rfl, fun _ => rfl,
          Or.inl fun it hit => ⟨it, hit, rfl⟩⟩
        rw [Table.get?_modify, if_pos hk, hc, Option.map_some]
      · refine ⟨c, ?_, rfl, fun h => h, Or.inl fun it hit => ⟨it, hit, rfl⟩⟩
        rw [Table.get?_modify, if_neg hk, hc]
    | @moved activeId active hactiveGet huser hactive hne =>
      intro k c hc
      by_cases hk : k = cartId
      · rw [hk, hget] at hc
        cases hc
        refine ⟨cart.withItems fun _ => active.keptBy cart, ?_, rfl, fun h => h, Or.inr rfl⟩
        rw [Table.get?_modify, if_neg (hk ▸ hne.symm), Table.get?_modify, if_pos hk, hk, hget,
          Option.map_some]
      · by_cases hkactive : k = activeId
        · refine ⟨c.withItems fun items => items ++ active.movedTo cart, ?_, rfl, fun h => h,
            Or.inl fun it hit => ⟨it, List.mem_append_left _ hit, rfl⟩⟩
          rw [Table.get?_modify, if_pos hkactive, Table.get?_modify, if_neg hk, hc, Option.map_some]
        · refine ⟨c, ?_, rfl, fun h => h, Or.inl fun it hit => ⟨it, hit, rfl⟩⟩
          rw [Table.get?_modify, if_neg hkactive, Table.get?_modify, if_neg hk, hc]
  constructor
  · exact h.users
  · intro k c hc
    obtain ⟨c', hc', huser, _, hcover⟩ := hrow k c hc
    refine ⟨c', hc', huser, hcover.imp_right ?_⟩
    rintro rfl
    exact hback
  · rintro user items ⟨k, c, hc, huser, hactive, hitems⟩
    obtain ⟨c', hc', huser', hkeeps, hcover | rfl⟩ := hrow k c hc
    · have hheld : HoldsProducts carts' user c.items :=
        ⟨k, c', hc', huser'.trans huser, hkeeps hactive, hcover⟩
      exact hheld.of_cover hitems
    · rw [huser] at hback
      exact hback.of_cover hitems

/-- The other carts of other customers stay. -/
theorem Restores.others (h : Restores carts cartId cart carts') {k : CartId} (hk : k ≠ cartId)
    (huser : ∀ c, carts.get? k = some c → c.user ≠ cart.user) : carts'.get? k = carts.get? k := by
  cases h with
  | reactivated _ => rw [Table.get?_modify, if_neg hk]
  | @moved activeId active hactiveGet hsame _ _ =>
    have hne : k ≠ activeId := by
      rintro rfl
      exact huser active hactiveGet hsame
    rw [Table.get?_modify, if_neg hne, Table.get?_modify, if_neg hk]

end

/-! ## What an abandonment does -/

/-- What an abandonment makes of an order. -/
def abandonedRow (now : Time) (x : Order) : Order :=
  x.withFailure .failed orderStalledFailureReason now

/-- The order was placed with this cart. -/
def PlacedWith (db : Db) (o : OrderId) (cartId : CartId) (cart : Cart) : Prop :=
  ∃ x, db.orders.get? o = some x ∧ x.cart = some cartId ∧ db.carts.get? cartId = some cart

/-- The shop after these orders were abandoned: their customers have what was
in the carts. -/
structure Abandoned (db : Db) (now : Time) (gone : List OrderId) (db' : Db) : Prop where
  orders : db'.orders = db.orders.mapRows fun i x => if i ∈ gone then abandonedRow now x else x
  rest : { db' with orders := db.orders, carts := db.carts } = db
  keeps : KeepsCarts db.carts db'.carts
  unique : UniqueActiveCarts db.carts → UniqueActiveCarts db'.carts
  back : ∀ o ∈ gone, ∀ cartId cart, PlacedWith db o cartId cart →
    HoldsProducts db'.carts cart.user cart.items
  others : ∀ k, (∀ o ∈ gone, ∀ cartId cart, PlacedWith db o cartId cart → k ≠ cartId ∧
    ∀ c, db.carts.get? k = some c → c.user ≠ cart.user) → db'.carts.get? k = db.carts.get? k

/-- The carts of the orders are there. -/
def HasCarts (db : Db) : Prop :=
  ∀ o x cartId, db.orders.get? o = some x → x.cart = some cartId →
    ∃ cart, db.carts.get? cartId = some cart

section

variable {db db' db'' : Db} {now : Time} {gone more : List OrderId} {o : OrderId}

theorem Abandoned.refl (db : Db) (now : Time) : Abandoned db now [] db where
  orders := by simp
  rest := rfl
  keeps := .refl db.carts
  unique h := h
  back _ ho := absurd ho List.not_mem_nil
  others _ _ := rfl

/-- An order that has a cart had it before the rows changed. -/
theorem orderCart_of_mapRows {orders orders' : Table Order} {f : OrderId → Order → Order}
    (horders : orders' = orders.mapRows f) (hf : ∀ i x, (f i x).cart = x.cart) {x' : Order}
    {cartId : CartId} (hx' : orders'.get? o = some x') (hcart' : x'.cart = some cartId) :
    ∃ x, orders.get? o = some x ∧ x.cart = some cartId := by
  rw [horders, Table.get?_mapRows, Option.map_eq_some_iff] at hx'
  obtain ⟨x, hx, hrow⟩ := hx'
  refine ⟨x, hx, ?_⟩
  rw [← hf o x, hrow, hcart']

/-- An abandoned order keeps its cart. -/
theorem abandoned_cart (now : Time) (gone : List OrderId) (i : OrderId) (x : Order) :
    (if i ∈ gone then abandonedRow now x else x).cart = x.cart := by
  split
  · rfl
  · rfl

/-- The orders keep their carts. -/
theorem Abandoned.get?_cart (h : Abandoned db now gone db') {x : Order}
    (hx : db.orders.get? o = some x) : ∃ x', db'.orders.get? o = some x' ∧ x'.cart = x.cart := by
  rw [h.orders, Table.get?_mapRows, hx, Option.map_some]
  exact ⟨_, rfl, abandoned_cart now gone o x⟩

theorem Abandoned.placedWith (h : Abandoned db now gone db') {cartId : CartId} {cart : Cart}
    (hplaced : PlacedWith db o cartId cart) : ∃ cart', PlacedWith db' o cartId cart' ∧
      cart'.user = cart.user ∧ ((∀ it ∈ cart.items, ∃ it' ∈ cart'.items,
        it'.product = it.product) ∨ HoldsProducts db'.carts cart.user cart.items) := by
  obtain ⟨x, hx, hcart, hget⟩ := hplaced
  obtain ⟨x', hx', hcart'⟩ := h.get?_cart hx
  obtain ⟨cart', hget', huser, hkept⟩ := h.keeps.row cartId cart hget
  exact ⟨cart', ⟨x', hx', hcart'.trans hcart, hget'⟩, huser, hkept⟩

theorem Abandoned.append (h : Abandoned db now gone db') (h' : Abandoned db' now more db'') :
    Abandoned db now (gone ++ more) db'' where
  orders := by
    rw [h'.orders, h.orders, Table.mapRows_mapRows]
    refine Table.mapRows_congr fun i x _ => ?_
    by_cases hgone : i ∈ gone
    · by_cases hmore : i ∈ more
      · simp [hgone, hmore, abandonedRow, Order.withFailure]
      · simp [hgone, hmore]
    · simp [hgone]
  rest := by
    have hrest := h.rest
    rw [← h'.rest] at hrest
    exact hrest
  keeps := h.keeps.trans h'.keeps
  unique hunique := h'.unique (h.unique hunique)
  back := by
    intro o ho cartId cart hplaced
    rcases List.mem_append.mp ho with hgone | hmore
    · exact h'.keeps.holds _ _ (h.back o hgone cartId cart hplaced)
    · obtain ⟨cart', hplaced', huser, hcover | hheld⟩ := h.placedWith hplaced
      · have hback := h'.back o hmore cartId cart' hplaced'
        rw [huser] at hback
        exact hback.of_cover hcover
      · exact h'.keeps.holds _ _ hheld
  others := by
    intro k hk
    have hsame : db'.carts.get? k = db.carts.get? k :=
      h.others k fun o ho => hk o (List.mem_append_left _ ho)
    rw [h'.others k ?_, hsame]
    rintro o ho cartId cart' ⟨x', hx', hcart', hget'⟩
    obtain ⟨x, hx, hcart⟩ := orderCart_of_mapRows h.orders (abandoned_cart now gone) hx' hcart'
    have husers := h.keeps.users cartId
    rw [hget', Option.map_some, eq_comm, Option.map_eq_some_iff] at husers
    obtain ⟨cart, hget, huser⟩ := husers
    obtain ⟨hne, hother⟩ := hk o (List.mem_append_right _ ho) cartId cart ⟨x, hx, hcart, hget⟩
    rw [hsame, ← huser]
    exact ⟨hne, hother⟩

/-- One turn of an order that is pending and has no items. -/
theorem abandonStalledOrder_pending {x : Order} (hget : db.orders.get? o = some x)
    (hpending : x.status = .pending) (hitems : x.items = []) (hcarts : HasCarts db)
    (hunique : UniqueActiveCarts db.carts) (now : Time) :
    ∃ db', abandonStalledOrder db now o = .ok (true, db') ∧ Abandoned db now [o] db' := by
  have horders : db.orders.modify o (Order.withFailure .failed orderStalledFailureReason now)
      = db.orders.mapRows fun i x => if i ∈ [o] then abandonedRow now x else x := by
    unfold Table.modify
    refine Table.mapRows_congr fun i x _ => ?_
    simp [abandonedRow]
  unfold abandonStalledOrder
  rw [Db.getOrder_eq_ok.mpr hget, ok_bind, if_neg (by simp [hpending, hitems])]
  dsimp only
  cases hcart : x.cart with
  | none =>
    refine ⟨_, rfl, horders, rfl, .refl db.carts, fun h => h, ?_, fun _ _ => rfl⟩
    rintro i hi cartId cart ⟨y, hy, hplaced, _⟩
    rw [List.mem_singleton.mp hi, hget] at hy
    cases hy
    rw [hcart] at hplaced
    cases hplaced
  | some cartId =>
    obtain ⟨cart, hc⟩ := hcarts o x cartId hget hcart
    generalize hfailed : db.saveOrder o
      (Order.withFailure .failed orderStalledFailureReason now) = failed
    have hfc : failed.carts = db.carts := by
      rw [← hfailed]
      rfl
    have hrestored : ∃ db', restoreCart failed cartId = .ok db' := by
      unfold restoreCart
      rw [hfc, hc]
      dsimp only
      split
      · exact ⟨_, rfl⟩
      · exact ⟨_, rfl⟩
    obtain ⟨db', hrestore⟩ := hrestored
    have hrestores := restoreCart_restores hrestore (by rw [hfc, hc])
    rw [hfc] at hrestores
    obtain ⟨carts, rfl⟩ := restoreCart_ok hrestore
    have hgives := hrestores.givesBack hc hunique
    have hback : HoldsProducts carts cart.user cart.items := hgives.active
    dsimp only
    rw [hrestore]
    have hplaced : ∀ i ∈ [o], ∀ cartId' cart', PlacedWith db i cartId' cart' →
        cartId' = cartId ∧ cart' = cart := by
      rintro i hi cartId' cart' ⟨y, hy, hy', hcart'⟩
      rw [List.mem_singleton.mp hi, hget] at hy
      cases hy
      cases hcart.symm.trans hy'
      cases hc.symm.trans hcart'
      exact ⟨rfl, rfl⟩
    refine ⟨_, rfl, ?_, ?_, hrestores.keepsCarts hc hback,
      fun _ => hgives.unique, ?_, ?_⟩
    · rw [← horders, ← hfailed]
      rfl
    · rw [← hfailed]
      rfl
    · intro i hi cartId' cart' hp
      obtain ⟨rfl, rfl⟩ := hplaced i hi cartId' cart' hp
      exact hback
    · intro k hk
      obtain ⟨hne, huser⟩ := hk o List.mem_cons_self cartId cart ⟨x, hget, hcart, hc⟩
      exact hrestores.others hne huser

theorem HasCarts.abandoned (hcarts : HasCarts db) (h : Abandoned db now gone db') :
    HasCarts db' := by
  intro o x' cartId hx' hcart'
  obtain ⟨x, hx, hcart⟩ := orderCart_of_mapRows h.orders (abandoned_cart now gone) hx' hcart'
  obtain ⟨cart, hget⟩ := hcarts o x cartId hx hcart
  obtain ⟨cart', hget', _⟩ := h.keeps.row cartId cart hget
  exact ⟨cart', hget'⟩

/-! ## The loop -/

/-- The orders that waited for too long. -/
def givenUp (now giveUp : Time) (found : List (OrderId × Order)) : List OrderId :=
  (found.filter fun q => decide (q.2.createdAt + giveUp < now)).map Prod.fst

/-- The messages of the others. -/
def republished (now giveUp : Time) (published : OrderId → Bool)
    (found : List (OrderId × Order)) : List Message :=
  found.filterMap fun q =>
    if q.2.createdAt + giveUp < now then none
    else q.2.cart.bind fun cart =>
      if published q.1 then some (.processOrder q.1 cart q.2.usedPoints) else none

theorem republishLoop_spec (now giveUp : Time) (published : OrderId → Bool)
    {found : List (OrderId × Order)} (hnodup : (found.map Prod.fst).Nodup)
    (hfound : ∀ q ∈ found, db.orders.get? q.1 = some q.2 ∧ q.2.status = .pending ∧ q.2.items = [])
    (hcarts : HasCarts db) (hunique : UniqueActiveCarts db.carts) :
    Abandoned db now (givenUp now giveUp found) (republishLoop now giveUp published db found).1 ∧
      (republishLoop now giveUp published db found).2 = republished now giveUp published found := by
  induction found generalizing db with
  | nil => exact ⟨.refl db now, rfl⟩
  | cons q rest ih =>
    obtain ⟨o, x⟩ := q
    obtain ⟨hget, hpending, hitems⟩ := hfound (o, x) List.mem_cons_self
    rw [List.map_cons, List.nodup_cons] at hnodup
    have hrest : ∀ q ∈ rest, db.orders.get? q.1 = some q.2 ∧ q.2.status = .pending ∧
        q.2.items = [] := fun q hq => hfound q (List.mem_cons_of_mem _ hq)
    unfold republishLoop givenUp republished
    by_cases hold : x.createdAt + giveUp < now
    · obtain ⟨db', hturn, habandoned⟩ :=
        abandonStalledOrder_pending hget hpending hitems hcarts hunique now
      -- the turn leaves the other candidates as they are
      have hrest' : ∀ q ∈ rest, db'.orders.get? q.1 = some q.2 ∧ q.2.status = .pending ∧
          q.2.items = [] := by
        intro q hq
        have hne : q.1 ≠ o := by
          rintro rfl
          exact hnodup.1 (List.mem_map.mpr ⟨q, hq, rfl⟩)
        obtain ⟨hq', hsame⟩ := hrest q hq
        refine ⟨?_, hsame⟩
        rw [habandoned.orders, Table.get?_mapRows, hq']
        simp [hne]
      obtain ⟨hloop, hsent⟩ := ih hnodup.2 hrest' (hcarts.abandoned habandoned)
        (habandoned.unique hunique)
      rw [if_pos hold, hturn]
      dsimp only
      rw [List.filter_cons, if_pos (decide_eq_true hold), List.filterMap_cons, if_pos hold]
      exact ⟨habandoned.append hloop, hsent⟩
    · obtain ⟨hloop, hsent⟩ := ih hnodup.2 hrest hcarts hunique
      rw [if_neg hold, List.filter_cons, if_neg (by simpa using hold), List.filterMap_cons]
      dsimp only
      rw [if_neg hold]
      cases hcart : x.cart with
      | none => exact ⟨hloop, hsent⟩
      | some cart =>
        rw [Option.bind_some]
        cases hpublished : published o with
        | false => exact ⟨hloop, hsent⟩
        | true => exact ⟨hloop, congrArg _ hsent⟩

/-- An order that was abandoned is no candidate again, and the others stay what
they were. -/
theorem Abandoned.stalledOrders (h : Abandoned db now gone db') (now' stall : Time) :
    OrderTasks.stalledOrders db' now' stall
      = (OrderTasks.stalledOrders db now' stall).filter fun q => decide (q.1 ∉ gone) := by
  unfold OrderTasks.stalledOrders
  rw [h.orders]
  apply Table.select_mapRows_except
  · intro i x hi
    simp [hi, abandonedRow, Order.withFailure]
  · intro i x hi
    rw [if_neg hi]

theorem mem_stalledOrders {now stall : Time} {x : Order} :
    (o, x) ∈ stalledOrders db now stall ↔ db.orders.get? o = some x ∧ x.status = .pending ∧
      x.createdAt + stall < now ∧ x.items = [] := by
  unfold stalledOrders
  rw [Table.mem_select]
  simp only [Bool.and_eq_true, decide_eq_true_eq, and_assoc]

theorem republishStalledOrders_spec (hcarts : HasCarts db) (hunique : UniqueActiveCarts db.carts)
    (now stall giveUp : Time) (published : OrderId → Bool) :
    Abandoned db now (givenUp now giveUp (stalledOrders db now stall))
        (republishStalledOrders db now stall giveUp published).1 ∧
      (republishStalledOrders db now stall giveUp published).2
        = republished now giveUp published (stalledOrders db now stall) := by
  have hfound : ∀ q ∈ stalledOrders db now stall, db.orders.get? q.1 = some q.2 ∧
      q.2.status = .pending ∧ q.2.items = [] := by
    intro q hq
    obtain ⟨hget, hpending, _, hitems⟩ := mem_stalledOrders.mp hq
    exact ⟨hget, hpending, hitems⟩
  have hnodup : ((stalledOrders db now stall).map Prod.fst).Nodup := db.orders.select_nodup _
  exact republishLoop_spec now giveUp published hnodup hfound hcarts hunique

/-- The sweep abandons the candidates that waited for too long, gives their
customers the carts back, and publishes the messages of the others again. -/
theorem republishStalledOrders_exact (hcarts : HasCarts db) (hunique : UniqueActiveCarts db.carts)
    (now stall giveUp : Time) (published : OrderId → Bool) :
    let found := stalledOrders db now stall
    let out := republishStalledOrders db now stall giveUp published
    Abandoned db now (givenUp now giveUp found) out.1 ∧ UniqueActiveCarts out.1.carts ∧
      out.2 = republished now giveUp published found ∧
      ∀ now' stall', stalledOrders out.1 now' stall' = (stalledOrders db now' stall').filter
        fun q => decide (q.1 ∉ givenUp now giveUp found) := by
  obtain ⟨habandoned, hsent⟩ :=
    republishStalledOrders_spec hcarts hunique now stall giveUp published
  exact ⟨habandoned, habandoned.unique hunique, hsent, habandoned.stalledOrders⟩

/-- A queued order whose message got lost, and an order that nobody pays. -/
def leftOrders : Db :=
  { queuedShop.db with
    orders := (Table.empty.insert queuedOrder).insert (World.oneOrder .confirmed) }

theorem leftOrders_hasCarts : HasCarts leftOrders := by
  intro o x cartId hx hcart
  have horders : leftOrders.orders
      = (Table.empty.insert queuedOrder).insert (World.oneOrder .confirmed) := rfl
  rw [horders] at hx
  rcases Table.insert_cases hx with ⟨_, rfl⟩ | hx
  · cases hcart
  · rcases Table.insert_cases hx with ⟨_, rfl⟩ | hx
    · cases hcart
      exact ⟨queuedCart, rfl⟩
    · cases hx

/-- The customer has the books of the abandoned order in the new cart. -/
theorem republishStalledOrders_exact_sample :
    HoldsProducts (republishStalledOrders leftOrders 50 5 30 fun _ => true).1.carts (some 7)
      queuedCart.items := by
  obtain ⟨habandoned, _⟩ := republishStalledOrders_exact leftOrders_hasCarts queuedShop_unique
    50 5 30 fun _ => true
  have hgone : 1 ∈ givenUp 50 30 (stalledOrders leftOrders 50 5) := by decide +kernel
  exact habandoned.back 1 hgone 1 queuedCart ⟨queuedOrder, rfl, rfl, rfl⟩

/-- Before the timeout its message is published again. -/
example : (republishStalledOrders leftOrders 20 5 30 fun _ => true).2 = [.processOrder 1 1 0] := by
  decide +kernel

/-! ## Both sweeps -/

theorem Abandoned.hasLivePayment (h : Abandoned db now gone db') (o : OrderId) :
    OrderTasks.hasLivePayment db' o = OrderTasks.hasLivePayment db o := by
  have hrest := h.rest
  have hpayments : db'.payments = db.payments := by
    rw [← hrest]
  unfold OrderTasks.hasLivePayment
  rw [hpayments]

end

end OrderTasks

end Shopping
