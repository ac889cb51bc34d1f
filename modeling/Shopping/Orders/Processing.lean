import Shopping.Orders.Totals

/-!
# One execution of `process_order_heavy_tasks`

An execution on a pending order raises, or it does all of its work
(`Completes`), or it takes everything back (`TakesBack`).  The failure branches
return, so what they undo they undo by hand: the stock that the loop took, the
cart that the order put away.  The points need no undoing, since
`use_points_fifo` refuses before it consumes.
-/

namespace Shopping

/-! ## Carts -/

/-- `unique_active_cart_per_user`. -/
def UniqueActiveCarts (carts : Table Cart) : Prop :=
  ∀ k k' c c', carts.get? k = some c → carts.get? k' = some c' → c.isActive = true →
    c'.isActive = true → c.user.isSome = true → c.user = c'.user → k = k'

/-- The owner's active cart has every product of the cart, and is the only
one. -/
structure GivesBack (cart : Cart) (carts' : Table Cart) : Prop where
  active : ∃ k c, carts'.get? k = some c ∧ c.user = cart.user ∧ c.isActive = true ∧
    ∀ it ∈ cart.items, ∃ it' ∈ c.items, it'.product = it.product
  unique : UniqueActiveCarts carts'

/-- What the cart has of the product `k`. -/
def cartQuantity (k : ProductId) (cart : Cart) : Int :=
  (cart.items.map fun it => if it.product = k then (it.quantity : Int) else 0).sum

namespace Cart

/-- The items that the active cart has as well, which stay. -/
def keptBy (active cart : Cart) : List CartItem :=
  cart.items.filter fun it => decide (it.product ∈ active.items.map CartItem.product)

/-- The items that go to the active cart. -/
def movedTo (active cart : Cart) : List CartItem :=
  cart.items.filter fun it => decide (it.product ∉ active.items.map CartItem.product)

/-- The cart with other items. -/
def withItems (f : List CartItem → List CartItem) (c : Cart) : Cart := { c with items := f c.items }

end Cart

/-- Two carts that differ in their items only. -/
theorem UniqueActiveCarts.of_flags {carts carts' : Table Cart} (h : UniqueActiveCarts carts)
    (hflags : ∀ k c', carts'.get? k = some c' →
      ∃ c, carts.get? k = some c ∧ c.user = c'.user ∧ c.isActive = c'.isActive) :
    UniqueActiveCarts carts' := by
  intro k k' c c' hc hc' hactive hactive' hsome huser
  obtain ⟨b, hb, hbu, hba⟩ := hflags k c hc
  obtain ⟨b', hb', hbu', hba'⟩ := hflags k' c' hc'
  apply h k k' b b' hb hb'
  · rw [hba, hactive]
  · rw [hba', hactive']
  · rw [hbu, hsome]
  · rw [hbu, hbu', huser]

namespace OrderTasks

/-- What `_restore_cart` makes of the carts: the cart is active again, or its
items go to the cart that the owner got meanwhile. -/
inductive Restores (carts : Table Cart) (cartId : CartId) (cart : Cart) : Table Cart → Prop
  | reactivated
      (hother : ∀ k c, carts.get? k = some c → c.isActive = true → c.user.isSome = true →
        c.user = cart.user → k = cartId) :
      Restores carts cartId cart (carts.modify cartId fun c => { c with isActive := true })
  | moved {activeId : CartId} {active : Cart} (hget : carts.get? activeId = some active)
      (huser : active.user = cart.user) (hactive : active.isActive = true)
      (hne : activeId ≠ cartId) :
      Restores carts cartId cart
        ((carts.modify cartId (Cart.withItems fun _ => active.keptBy cart)).modify activeId
          (Cart.withItems fun items => items ++ active.movedTo cart))

theorem restoreCart_restores {db db' : Db} {cartId : CartId} {cart : Cart}
    (h : restoreCart db cartId = .ok db') (hget : db.carts.get? cartId = some cart) :
    Restores db.carts cartId cart db'.carts := by
  unfold restoreCart at h
  rw [hget] at h
  cases hu : cart.user with
  | none =>
    simp only [hu] at h
    cases h
    refine .reactivated fun k c _ _ hsome huser => ?_
    rw [huser, hu] at hsome
    cases hsome
  | some u =>
    simp only [hu] at h
    split at h
    · rename_i hfind
      cases h
      refine .reactivated fun k c hc hactive _ huser => ?_
      by_contra hne
      have hnone := Table.find?_eq_none.mp hfind k c hc
      rw [huser, hu] at hnone
      simp [hactive, hne] at hnone
    · rename_i activeId active hfind
      cases h
      obtain ⟨hactiveGet, hmatch⟩ := Table.find?_eq_some_get hfind
      simp only [Bool.and_eq_true, decide_eq_true_eq] at hmatch
      obtain ⟨⟨huser, hactive⟩, hne⟩ := hmatch
      exact .moved hactiveGet (huser.trans hu.symm) hactive hne

theorem Restores.givesBack {carts carts' : Table Cart} {cartId : CartId} {cart : Cart}
    (h : Restores carts cartId cart carts') (hget : carts.get? cartId = some cart)
    (hunique : UniqueActiveCarts carts) : GivesBack cart carts' := by
  cases h with
  | reactivated hother =>
    have hrow : ∀ k c', (carts.modify cartId fun c => { c with isActive := true }).get? k
        = some c' → ∃ c, carts.get? k = some c ∧ c'.user = c.user ∧ (k = cartId ∨ c' = c) := by
      intro k c' hk
      rcases Table.modify_cases hk with ⟨c, heq, hc, rfl⟩ | ⟨_, hk⟩
      · exact ⟨c, hc, rfl, Or.inl heq⟩
      · exact ⟨c', hk, rfl, Or.inr rfl⟩
    constructor
    · refine ⟨cartId, { cart with isActive := true }, ?_, rfl, rfl, fun it hit => ⟨it, hit, rfl⟩⟩
      rw [Table.get?_modify_self, hget]
      rfl
    · intro k k' c c' hc hc' hactive hactive' hsome huser
      obtain ⟨b, hb, hbu, hcase⟩ := hrow k c hc
      obtain ⟨b', hb', hbu', hcase'⟩ := hrow k' c' hc'
      have hsome' : c'.user.isSome = true := by rw [← huser, hsome]
      rcases hcase with rfl | rfl
      · rcases hcase' with rfl | rfl
        · rfl
        · rw [hget] at hb
          cases hb
          exact (hother k' c' hb' hactive' hsome' (by rw [← huser, hbu])).symm
      · rcases hcase' with rfl | rfl
        · rw [hget] at hb'
          cases hb'
          exact hother k c hb hactive hsome (by rw [huser, hbu'])
        · exact hunique k k' c c' hb hb' hactive hactive' hsome huser
  | @moved activeId active hactiveGet huser hactive hne =>
    constructor
    · refine ⟨activeId, Cart.withItems (fun items => items ++ active.movedTo cart) active, ?_,
        huser, hactive, ?_⟩
      · rw [Table.get?_modify_self, Table.get?_modify, if_neg hne, hactiveGet]
        rfl
      · intro it hit
        by_cases hin : it.product ∈ active.items.map CartItem.product
        · obtain ⟨it', hit', hproduct⟩ := List.mem_map.mp hin
          exact ⟨it', List.mem_append_left _ hit', hproduct⟩
        · refine ⟨it, List.mem_append_right _ (List.mem_filter.mpr ⟨hit, ?_⟩), rfl⟩
          rw [decide_eq_true_eq]
          exact hin
    · -- The flags of every cart stay.
      have hflags : ∀ (t : Table Cart) (j : CartId) (f : List CartItem → List CartItem)
          (k : CartId) (c' : Cart), (t.modify j (Cart.withItems f)).get? k = some c' →
          ∃ c, t.get? k = some c ∧ c.user = c'.user ∧ c.isActive = c'.isActive := by
        intro t j f k c' hk
        rcases Table.modify_cases hk with ⟨c, _, hc, rfl⟩ | ⟨_, hk⟩
        · exact ⟨c, hc, rfl, rfl⟩
        · exact ⟨c', hk, rfl, rfl⟩
      apply hunique.of_flags
      intro k c' hk
      obtain ⟨c, hc, hu, ha⟩ := hflags _ _ _ k c' hk
      obtain ⟨b, hb, hbu, hba⟩ := hflags _ _ _ k c hc
      exact ⟨b, hb, hbu.trans hu, hba.trans ha⟩

theorem failOrder_restores {db db' : Db} {now : Time} {o : OrderId} {cartId : CartId}
    {reason : String} {cart : Cart} (h : failOrder db now o cartId reason = .ok db')
    (hget : db.carts.get? cartId = some cart) : Restores db.carts cartId cart db'.carts := by
  unfold failOrder at h
  obtain ⟨order, _, h⟩ := bind_eq_ok.mp h
  split at h
  · cases h
  · have hrestores := restoreCart_restores h hget
    exact hrestores

/-! ## The loop over the cart -/

/-- The loop takes from the stock what its order items have. -/
theorem takeItems_taken {products products' : Table Product} {cart : List CartItem}
    {items : List OrderItem} {shortage : Option Shortage}
    (h : takeItems products cart = .ok (products', items, shortage)) (k : ProductId) :
    (products'.get? k).map Product.stock
      = (products.get? k).map fun p => p.stock - quantityOf k items := by
  induction cart generalizing products items with
  | nil =>
    cases h
    simp
  | cons it rest ih =>
    rw [takeItems] at h
    split at h
    · cases h
    · rename_i p hp
      split at h
      · cases h
        simp
      · obtain ⟨⟨taken, made, found⟩, htake, h⟩ := map_eq_ok.mp h
        cases h
        rw [ih htake, Table.get?_modify]
        by_cases hk : k = it.product
        · subst hk
          rw [if_pos rfl, hp]
          show some (p.stock + -(it.quantity : Int) - quantityOf it.product made)
            = some (p.stock - quantityOf it.product (orderItemOf it p :: made))
          rw [quantityOf_cons, orderItemOf, if_pos rfl]
          dsimp only
          congr 1
          omega
        · rw [if_neg hk, quantityOf_cons]
          have hne : ¬ (orderItemOf it p).product = some k := fun hc =>
            hk (Option.some.inj hc).symm
          rw [if_neg hne, zero_add]

/-- Without a shortage the loop makes an order item for each cart item. -/
theorem takeItems_made {products products' : Table Product} {cart : List CartItem}
    {items : List OrderItem} (h : takeItems products cart = .ok (products', items, none)) :
    items.map (fun it => (it.product, it.quantity))
      = cart.map fun it => (some it.product, it.quantity) := by
  induction cart generalizing products items with
  | nil =>
    cases h
    rfl
  | cons it rest ih =>
    rw [takeItems] at h
    split at h
    · cases h
    · split at h
      · cases h
      · obtain ⟨⟨taken, made, found⟩, htake, h⟩ := map_eq_ok.mp h
        cases h
        rw [List.map_cons, List.map_cons, ih htake]
        rfl

/-- What the order items have of a product is what the cart has of it. -/
theorem quantityOf_of_made {items : List OrderItem} {cart : Cart}
    (h : (items.map fun it => (it.product, it.quantity)).Perm
      (cart.items.map fun it => (some it.product, it.quantity))) (k : ProductId) :
    quantityOf k items = cartQuantity k cart := by
  have hsum := (h.map fun e : Option ProductId × Nat =>
    if e.1 = some k then (e.2 : Int) else 0).sum_eq
  rw [List.map_map, List.map_map] at hsum
  unfold quantityOf cartQuantity
  refine hsum.trans (congrArg List.sum (List.map_congr_left fun it _ => ?_))
  show (if some it.product = some k then (it.quantity : Int) else 0) = _
  simp only [Option.some.injEq]

/-- What the failure branches give back is what the loop took. -/
theorem stock_of_givenBack {products taken : Table Product} {items : List OrderItem}
    (k : ProductId) (htaken : (taken.get? k).map Product.stock
      = (products.get? k).map fun p => p.stock - quantityOf k items) :
    ((updateProducts taken addStock items).get? k).map Product.stock
      = (products.get? k).map Product.stock := by
  have hadd : ∀ (n : Int) (p : Product), (addStock n p).stock = p.stock + 1 * n := by
    intro n p
    rw [one_mul]
    rfl
  rw [updateProducts_stock hadd]
  cases hq : taken.get? k with
  | none =>
    rw [hq] at htaken
    cases hp : products.get? k with
    | none => rfl
    | some p =>
      rw [hp] at htaken
      cases htaken
  | some q =>
    rw [hq] at htaken
    cases hp : products.get? k with
    | none =>
      rw [hp] at htaken
      cases htaken
    | some p =>
      rw [hp] at htaken
      simp only [Option.map_some, Option.some.injEq] at htaken ⊢
      omega

/-! ## The points -/

/-- A use of points that is refused leaves the ledger alone. -/
theorem usePointsFifo_refused {L : Ledger} {now : Time} {user : UserId} {amount : Int}
    {order : Option OrderId} {returnId : Option Nat}
    (h : (PointService.usePointsFifo L now user amount .use order returnId).1.success = false) :
    (PointService.usePointsFifo L now user amount .use order returnId).2 = L := by
  rcases usePointsFifo_cases L now user amount .use order returnId with
    ⟨_, _, hL⟩ | ⟨_, ⟨hc, _⟩, _⟩ | ⟨_, _, hsuccess, _⟩
  · exact hL
  · cases hc
  · rw [hsuccess] at h
    cases h

/-- A use of points that succeeds takes the amount from the user. -/
theorem usePointsFifo_used {L : Ledger} {now : Time} {user : UserId} {amount : Int}
    {order : Option OrderId} {returnId : Option Nat}
    (h : (PointService.usePointsFifo L now user amount .use order returnId).1.success = true) :
    (PointService.usePointsFifo L now user amount .use order returnId).2.points user
      = L.points user - amount := by
  rcases usePointsFifo_cases L now user amount .use order returnId with
    ⟨_, hno, _⟩ | ⟨_, ⟨hc, _⟩, _⟩ | ⟨_, _, _, _, hL⟩
  · rw [hno] at h
    cases h
  · cases hc
  · rw [hL, post_points, if_pos rfl, sub_eq_add_neg]

/-! ## The outcomes -/

/-- The order is confirmed: the stock of every product, the points of the user
and the cart are what they were less what the order took. -/
structure Completes (db : Db) (now : Time) (o : OrderId) (order : Order) (cartId : CartId)
    (cart : Cart) (usePoints : Int) (db' : Db) : Prop where
  row : ∃ items, db'.orders.get? o
      = some { order with status := .confirmed, items := items, updatedAt := now } ∧
    (items.map fun it => (it.product, it.quantity)).Perm
      (cart.items.map fun it => (some it.product, it.quantity))
  stock : ∀ k, (db'.products.get? k).map Product.stock
    = (db.products.get? k).map fun p => p.stock - cartQuantity k cart
  enough : inStock db.products cart = true
  points : db'.ledger.points order.user = db.ledger.points order.user - max usePoints 0
  ledger : db'.ledger = if 0 < usePoints then
      (PointService.usePointsFifo db.ledger now order.user usePoints .use (some o)).2
    else db.ledger
  carts : db'.carts = db.carts.modify cartId (Cart.withItems fun _ => [])

/-- The order failed: the stock and the ledger are as they were, and the cart
is given back. -/
structure TakesBack (db : Db) (now : Time) (o : OrderId) (order : Order) (cart : Cart)
    (db' : Db) : Prop where
  row : ∃ items reason, db'.orders.get? o = some { order with
    status := .failed, failureReason := reason, items := items, updatedAt := now }
  stock : ∀ k, (db'.products.get? k).map Product.stock
    = (db.products.get? k).map Product.stock
  ledger : db'.ledger = db.ledger
  carts : GivesBack cart db'.carts

/-- What an execution on a pending order commits. -/
inductive Processed (db : Db) (now : Time) (o : OrderId) (order : Order) (cartId : CartId)
    (cart : Cart) (usePoints : Int) (out : Outcome ProcessResult) : Prop where
  | completed (hresult : out.result = .success)
      (hcompletes : Completes db now o order cartId cart usePoints out.db)
  | failed (hresult : (∃ product, out.result = .insufficientStock product) ∨
        ∃ message, out.result = .pointDeductionFailed message)
      (htakesBack : TakesBack db now o order cart out.db)

/-- An execution on a pending order without items raises, does everything or
takes everything back. -/
theorem processOrderHeavyTasks_processed {db : Db} {now : Time} {o : OrderId} {cartId : CartId}
    {usePoints : Int} {out : Outcome ProcessResult} {order : Order}
    (h : processOrderHeavyTasks db now o cartId usePoints = .ok out)
    (hget : db.orders.get? o = some order) (hpending : order.status = .pending)
    (hitems : order.items = []) (hunique : UniqueActiveCarts db.carts) :
    ∃ cart, db.carts.get? cartId = some cart ∧
      Processed db now o order cartId cart usePoints out := by
  unfold processOrderHeavyTasks at h
  rw [Db.getOrder_eq_ok.mpr hget, ok_bind, if_neg (not_not.mpr hpending)] at h
  split at h
  · cases h
  · rename_i cart hcart
    obtain ⟨⟨products, items, shortage⟩, htake, h⟩ := bind_eq_ok.mp h
    have htaken := takeItems_taken htake
    dsimp only at h
    generalize hdb : ({ db with products := products }.saveOrder o fun x =>
      { x with items := x.items ++ items }) = taken at h
    have hrow : taken.orders.get? o = some { order with items := items } := by
      rw [← hdb]
      simp [hget, hitems]
    have htables : taken.products = products ∧ taken.carts = db.carts ∧
        taken.ledger = db.ledger := by
      rw [← hdb]
      exact ⟨rfl, rfl, rfl⟩
    obtain ⟨hproducts, hcarts, hledger⟩ := htables
    -- Both failure branches undo the loop, and the points were not used.
    have hfail : ∀ (x failed : Db) (reason : String), failOrder x now o cartId reason = .ok failed →
        x.orders = taken.orders → x.products = taken.products → x.carts = taken.carts →
        x.ledger = db.ledger → TakesBack db now o order cart failed := by
      intro x failed reason hf ho hp hc hl
      obtain ⟨order', hfails⟩ := failOrder_ok hf
      have hfound := hfails.found
      rw [ho, hrow] at hfound
      cases hfound
      have hxcart : x.carts.get? cartId = some cart := by rw [hc, hcarts, hcart]
      refine ⟨⟨items, reason, ?_⟩, fun k => ?_, by rw [hfails.ledger, hl], ?_⟩
      · rw [hfails.orders, Table.get?_modify_self, ho, hrow]
        rfl
      · rw [hfails.products, hp, hproducts]
        exact stock_of_givenBack k (htaken k)
      · have hrestores := failOrder_restores hf hxcart
        rw [hc, hcarts] at hrestores
        exact hrestores.givesBack hcart hunique
    refine ⟨cart, hcart, ?_⟩
    cases shortage with
    | some s =>
      obtain ⟨failed, hf, h⟩ := bind_eq_ok.mp h
      cases h
      exact .failed (Or.inl ⟨_, rfl⟩) (hfail taken failed _ hf rfl rfl rfl hledger)
    | none =>
      dsimp only at h
      rw [hledger] at h
      generalize hused : (if 0 < usePoints then
        PointService.usePointsFifo db.ledger now order.user usePoints .use (some o)
        else (⟨true, [], ""⟩, db.ledger)) = used at h
      have hL : used.2 = if 0 < usePoints then
          (PointService.usePointsFifo db.ledger now order.user usePoints .use (some o)).2
          else db.ledger := by
        rw [← hused]
        split
        · rfl
        · rfl
      split at h
      · rename_i hrefused
        obtain ⟨failed, hf, h⟩ := bind_eq_ok.mp h
        cases h
        refine .failed (Or.inr ⟨_, rfl⟩) (hfail _ failed _ hf rfl rfl rfl ?_)
        show used.2 = db.ledger
        rw [hL]
        split
        · rename_i hpos
          rw [← hused, if_pos hpos] at hrefused
          exact usePointsFifo_refused hrefused
        · rfl
      · rename_i hsuccess
        rw [Bool.not_eq_false] at hsuccess
        cases h
        have hperm : (items.map fun it => (it.product, it.quantity)).Perm
            (cart.items.map fun it => (some it.product, it.quantity)) := by
          rw [takeItems_made htake]
          exact (List.perm_insertionSort byProduct cart.items).map _
        refine .completed rfl ⟨⟨items, ?_, hperm⟩, fun k => ?_, ?_, ?_, hL, ?_⟩
        · show (taken.orders.modify o (Order.withStatus .confirmed now)).get? o = _
          rw [Table.get?_modify_self, hrow]
          rfl
        · show (taken.products.get? k).map Product.stock = _
          rw [hproducts, htaken k, quantityOf_of_made hperm]
        · have hstock := takeItems_inStock htake
          simp only [inStock, List.all_eq_true, Option.any_eq_true, decide_eq_true_eq]
          intro it hit
          exact hstock it ((List.perm_insertionSort byProduct cart.items).mem_iff.mpr hit)
        · show used.2.points order.user = _
          rw [hL]
          by_cases hpos : 0 < usePoints
          · rw [← hused, if_pos hpos] at hsuccess
            rw [if_pos hpos, usePointsFifo_used hsuccess]
            omega
          · rw [if_neg hpos]
            omega
        · show taken.carts.modify cartId (fun c => { c with items := [] }) = _
          rw [hcarts]
          rfl

end OrderTasks

end Shopping
