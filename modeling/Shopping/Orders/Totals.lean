import Shopping.Orders.Outcomes
import Shopping.Points.Uses

/-!
# What an order charges and what it ships

`create_order_hybrid` takes the total of the cart, and
`process_order_heavy_tasks` makes the order items of what is in the cart by
then.  The items it makes come to what the cart comes to at that moment
(`takeItems_total`), so an order is confirmed with items that come to its total
exactly when the cart still does.
-/

namespace Shopping

/-- `OrderItem.get_subtotal`. -/
def OrderItem.getSubtotal (it : OrderItem) : Int := it.price * it.quantity

/-- The sum over the order items of price times quantity. -/
def itemsTotal (items : List OrderItem) : Int := (items.map OrderItem.getSubtotal).sum

@[simp] theorem itemsTotal_nil : itemsTotal [] = 0 := rfl

@[simp] theorem itemsTotal_cons (it : OrderItem) (items : List OrderItem) :
    itemsTotal (it :: items) = it.getSubtotal + itemsTotal items := by
  simp [itemsTotal]

/-- The order has items, and charges for them. -/
structure Order.ChargesForItems (order : Order) : Prop where
  items : order.items ≠ []
  total : order.totalAmount = itemsTotal order.items

namespace OrderService

/-- The price of a cart item as it is now. -/
def cartItemTotal (products : Table Product) (it : CartItem) : Int :=
  ((products.get? it.product).map Product.price).getD 0 * (it.quantity : Int)

theorem cartTotalAmount_eq (products : Table Product) (cart : Cart) :
    cartTotalAmount products cart = (cart.items.map (cartItemTotal products)).sum := rfl

/-- Stock moves change no price. -/
theorem cartItemTotal_addStock (products : Table Product) (k : ProductId) (n : Int)
    (it : CartItem) :
    cartItemTotal (products.modify k (addStock n)) it = cartItemTotal products it := by
  unfold cartItemTotal
  rw [Table.get?_modify]
  split
  · cases products.get? it.product with
    | none => rfl
    | some p => rfl
  · rfl

end OrderService

namespace OrderTasks

open OrderService

/-- Every item of the cart is in stock. -/
def inStock (products : Table Product) (cart : Cart) : Bool :=
  cart.items.all fun it => (products.get? it.product).any fun p =>
    decide ((it.quantity : Int) ≤ p.stock)

/-- The points can be used, as `use_points_fifo` checks it. -/
def pointsSuffice (db : Db) (order : Order) (usePoints : Int) : Bool :=
  decide (usePoints ≤ 0) || decide (PointService.minimumUseAmount ≤ usePoints) &&
    decide (usePoints ≤ db.ledger.points order.user)

theorem usePointsFifo_success {L : Ledger} {now : Time} {user : UserId} {amount : Int}
    {order : Option OrderId} {returnId : Option Nat}
    (h : (PointService.usePointsFifo L now user amount .use order returnId).1.success = true) :
    PointService.minimumUseAmount ≤ amount ∧ amount ≤ L.points user := by
  rcases usePointsFifo_cases L now user amount .use order returnId with
    ⟨_, hno, _⟩ | ⟨_, ⟨hc, _⟩, _⟩ | ⟨hacc, _⟩
  · rw [hno] at h
    cases h
  · cases hc
  · exact ⟨hacc.2.1 rfl, hacc.2.2⟩

/-- Without a shortage there is an item for each cart item, and together they
come to what the cart items come to. -/
theorem takeItems_total {products products' : Table Product} {cart : List CartItem}
    {items : List OrderItem} (h : takeItems products cart = .ok (products', items, none)) :
    itemsTotal items = (cart.map (cartItemTotal products)).sum ∧ items.length = cart.length := by
  induction cart generalizing products items with
  | nil =>
    cases h
    exact ⟨rfl, rfl⟩
  | cons it rest ih =>
    rw [takeItems] at h
    split at h
    · cases h
    · rename_i p hp
      split at h
      · cases h
      · obtain ⟨⟨taken, made, found⟩, htake, h⟩ := map_eq_ok.mp h
        cases h
        obtain ⟨htotal, hlength⟩ := ih htake
        have hprice : (orderItemOf it p).getSubtotal = cartItemTotal products it := by
          unfold cartItemTotal
          rw [hp]
          rfl
        refine ⟨?_, ?_⟩
        · rw [itemsTotal_cons, List.map_cons, List.sum_cons, htotal, hprice]
          congr 2
          exact List.map_congr_left fun x _ => cartItemTotal_addStock products it.product _ x
        · simp only [List.length_cons, hlength]

/-- Without a shortage every item was in stock at the start. -/
theorem takeItems_inStock {products products' : Table Product} {cart : List CartItem}
    {items : List OrderItem} (h : takeItems products cart = .ok (products', items, none)) :
    ∀ it ∈ cart, ∃ p, products.get? it.product = some p ∧ (it.quantity : Int) ≤ p.stock := by
  induction cart generalizing products items with
  | nil =>
    intro it hit
    cases hit
  | cons it rest ih =>
    rw [takeItems] at h
    split at h
    · cases h
    · rename_i p hp
      split at h
      · cases h
      · rename_i henough
        obtain ⟨⟨taken, made, found⟩, htake, h⟩ := map_eq_ok.mp h
        cases h
        intro x hx
        rcases List.mem_cons.mp hx with rfl | hx
        · exact ⟨p, hp, by omega⟩
        · -- What is taken before leaves no more than there was.
          obtain ⟨q, hq, hle⟩ := ih htake x hx
          rcases Table.modify_cases hq with ⟨before, hproduct, hbefore, rfl⟩ | ⟨_, hq⟩
          · rw [hproduct, hp] at hbefore
            cases hbefore
            refine ⟨p, by rw [hproduct, hp], ?_⟩
            have hstock : (addStock (-(it.quantity : Int)) p).stock = p.stock - it.quantity := by
              show p.stock + -(it.quantity : Int) = p.stock - it.quantity
              omega
            rw [hstock] at hle
            omega
          · exact ⟨q, hq, hle⟩

/-- What an order was confirmed on: the cart of the message as it is by then. -/
structure Confirms (db : Db) (cartId : CartId) (usePoints : Int) (order order' : Order)
    (cart : Cart) : Prop where
  found : db.carts.get? cartId = some cart
  stock : inStock db.products cart = true
  points : pointsSuffice db order usePoints = true
  total : order'.totalAmount = order.totalAmount
  items : itemsTotal order'.items = cartTotalAmount db.products cart
  none_iff : order'.items = [] ↔ cart.items = []

/-- The status decides which branch committed: the confirmed one found no
shortage and could use the points. -/
theorem processOrderHeavyTasks_confirmed {db : Db} {now : Time} {o : OrderId} {cartId : CartId}
    {usePoints : Int} {out : Outcome ProcessResult} {order order' : Order}
    (h : processOrderHeavyTasks db now o cartId usePoints = .ok out)
    (hget : db.orders.get? o = some order) (hpending : order.status = .pending)
    (hitems : order.items = []) (hout : out.db.orders.get? o = some order')
    (hconfirmed : order'.status = .confirmed) :
    ∃ cart, Confirms db cartId usePoints order order' cart := by
  unfold processOrderHeavyTasks at h
  rw [Db.getOrder_eq_ok.mpr hget, ok_bind, if_neg (not_not.mpr hpending)] at h
  split at h
  · cases h
  · rename_i cart hcart
    obtain ⟨⟨products, items, shortage⟩, htake, h⟩ := bind_eq_ok.mp h
    dsimp only at h
    have hfailed : ∀ (x failed : Db) (reason : String),
        failOrder x now o cartId reason = .ok failed → failed.orders.get? o ≠ some order' := by
      intro x failed reason hf hc
      obtain ⟨_, hfails⟩ := failOrder_ok hf
      rw [hfails.orders, Table.get?_modify_self, hfails.found] at hc
      cases hc
      cases hconfirmed
    split at h
    · obtain ⟨failed, hf, h⟩ := bind_eq_ok.mp h
      cases h
      exact absurd hout (hfailed _ failed _ hf)
    · generalize hused : (if 0 < usePoints then
          PointService.usePointsFifo ({ db with products := products }.saveOrder o fun x =>
            { x with items := x.items ++ items }).ledger now order.user usePoints .use (some o)
        else (⟨true, [], ""⟩, ({ db with products := products }.saveOrder o fun x =>
            { x with items := x.items ++ items }).ledger)) = used at h
      split at h
      · obtain ⟨failed, hf, h⟩ := bind_eq_ok.mp h
        cases h
        exact absurd hout (hfailed _ failed _ hf)
      · rename_i hsuccess
        rw [Bool.not_eq_false] at hsuccess
        cases h
        have hrow : order' = Order.withStatus .confirmed now { order with items := items } := by
          simpa [hget, hitems] using hout.symm
        have hmade : order'.items = items := by
          rw [hrow]
          rfl
        obtain ⟨htotal, hlength⟩ := takeItems_total htake
        have hstock := takeItems_inStock htake
        have hperm := List.perm_insertionSort byProduct cart.items
        refine ⟨cart, hcart, ?_, ?_, ?_, ?_, ?_⟩
        · simp only [inStock, List.all_eq_true, Option.any_eq_true, decide_eq_true_eq]
          intro it hit
          exact hstock it (hperm.mem_iff.mpr hit)
        · by_cases hpos : 0 < usePoints
          · rw [if_pos hpos] at hused
            rw [← hused] at hsuccess
            have hpoints := usePointsFifo_success hsuccess
            simp only [pointsSuffice, Bool.or_eq_true, Bool.and_eq_true, decide_eq_true_eq]
            exact Or.inr hpoints
          · simp only [pointsSuffice, Bool.or_eq_true, decide_eq_true_eq]
            omega
        · rw [hrow]
          rfl
        · rw [hmade, htotal, cartTotalAmount_eq]
          exact (hperm.map _).sum_eq
        · rw [hmade, ← List.length_eq_zero_iff, hlength, hperm.length_eq, List.length_eq_zero_iff]

end OrderTasks

end Shopping
