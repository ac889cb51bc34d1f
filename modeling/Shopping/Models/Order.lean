import Mathlib.Tactic.Ring
import Shopping.Models.Payment

/-!
# Products, carts and orders

`Product`, `Cart` and `Order` of `shopping/models`, with the items of a cart
and of an order inside their row.  A deleted product leaves a null in the
order items, which `OrderItem.product` keeps; nothing here deletes a user, so
an order has one.

The stock of an order moves item by item (`updateProducts`).
`quantityOf` is what the items take of one product, and `updateProducts_stock`
says that the loop moves the stock by that.
-/

namespace Shopping

abbrev ProductId := Nat
abbrev CartId := Nat

/-- A row of the product table. -/
structure Product where
  name : String
  price : Int
  stock : Int
  soldCount : Int := 0
  isActive : Bool := true
  deriving DecidableEq, Repr

/-- A row of `shopping_cart_items`. -/
structure CartItem where
  product : ProductId
  quantity : Nat
  priceAtAdd : Option Int := none
  deriving DecidableEq, Repr

/-- A row of `shopping_carts`. -/
structure Cart where
  user : Option UserId
  isActive : Bool := true
  items : List CartItem := []
  sessionKey : Option String := none
  deriving DecidableEq, Repr

/-- `Order.STATUS_CHOICES`. -/
inductive OrderStatus where
  | pending
  | confirmed
  | paid
  | preparing
  | shipped
  | delivered
  | canceled
  | refunded
  | paymentFailed
  | failed
  deriving DecidableEq, Repr

namespace OrderStatus

/-- `get_status_display`. -/
def display : OrderStatus → String
  | .pending => "결제대기"
  | .confirmed => "주문확정"
  | .paid => "결제완료"
  | .preparing => "배송준비중"
  | .shipped => "배송중"
  | .delivered => "배송완료"
  | .canceled => "주문취소"
  | .refunded => "환불완료"
  | .paymentFailed => "결제실패"
  | .failed => "주문실패"

/-- `ORDER_UNPAID_STATUSES`. -/
def isUnpaid : OrderStatus → Bool
  | .pending | .confirmed => true
  | _ => false

/-- The order still holds what it took from the stock, and nothing of it is
shipped. -/
def holdsStock : OrderStatus → Bool
  | .pending | .confirmed | .paid | .preparing => true
  | _ => false

/-- The order gave back its stock and its used points. -/
def isReleased : OrderStatus → Bool
  | .canceled | .refunded | .paymentFailed | .failed => true
  | _ => false

/-- `Order.is_paid`. -/
def isPaid : OrderStatus → Bool
  | .paid | .preparing | .shipped | .delivered => true
  | _ => false

end OrderStatus

/-- A row of `shopping_order_items`. -/
structure OrderItem where
  product : Option ProductId
  productName : String
  quantity : Nat
  price : Int
  deriving DecidableEq, Repr

/-- A row of `shopping_orders`. -/
structure Order where
  user : UserId
  cart : Option CartId := none
  status : OrderStatus := .pending
  failureReason : String := ""
  paymentMethod : String := ""
  totalAmount : Int
  usedPoints : Int := 0
  finalAmount : Int
  earnedPoints : Int := 0
  earnRateAtOrder : Int := 1
  shippingFee : Int := 0
  additionalShippingFee : Int := 0
  isFreeShipping : Bool := false
  items : List OrderItem := []
  createdAt : Time
  updatedAt : Time
  deriving DecidableEq, Repr

namespace Order

/-- `get_total_shipping_fee`. -/
def getTotalShippingFee (o : Order) : Int := o.shippingFee + o.additionalShippingFee

/-- `order.status = ...; order.save(update_fields=["status", "updated_at"])`. -/
def withStatus (status : OrderStatus) (now : Time) (o : Order) : Order :=
  { o with status := status, updatedAt := now }

/-- The same with `payment_method`. -/
def withPaid (method : String) (now : Time) (o : Order) : Order :=
  { o with status := .paid, paymentMethod := method, updatedAt := now }

/-- The same with `failure_reason`. -/
def withFailure (status : OrderStatus) (reason : String) (now : Time) (o : Order) : Order :=
  { o with status := status, failureReason := reason, updatedAt := now }

end Order

/-! ## Stock -/

/-- What the items have of the product `k`. -/
def quantityOf (k : ProductId) (items : List OrderItem) : Int :=
  (items.map fun it => if it.product = some k then (it.quantity : Int) else 0).sum

/-- Update the product of every item that still has one. -/
def updateProducts (products : Table Product) (f : Int → Product → Product) :
    List OrderItem → Table Product
  | [] => products
  | it :: rest =>
    match it.product with
    | none => updateProducts products f rest
    | some k => updateProducts (products.modify k (f it.quantity)) f rest

/-- `stock=F("stock") + quantity`. -/
def addStock (quantity : Int) (p : Product) : Product := { p with stock := p.stock + quantity }

/-- `sold_count=F("sold_count") + quantity`. -/
def addSold (quantity : Int) (p : Product) : Product :=
  { p with soldCount := p.soldCount + quantity }

/-- `stock=F("stock") + quantity, sold_count=Greatest(F("sold_count") - quantity, 0)`. -/
def addStockTakeSold (quantity : Int) (p : Product) : Product :=
  { p with stock := p.stock + quantity, soldCount := max (p.soldCount - quantity) 0 }

/-- The two updates of `_restore_stock_for_order`: the count goes down, or to
0 when it is too low. -/
def addStockTakeSoldOrZero (quantity : Int) (p : Product) : Product :=
  if quantity ≤ p.soldCount then
    { p with stock := p.stock + quantity, soldCount := p.soldCount - quantity }
  else { p with stock := p.stock + quantity, soldCount := 0 }

/-- `filter(sold_count__gte=quantity).update(sold_count=F("sold_count") - quantity)`. -/
def takeSold (quantity : Int) (p : Product) : Product :=
  if quantity ≤ p.soldCount then { p with soldCount := p.soldCount - quantity } else p

@[simp] theorem quantityOf_nil (k : ProductId) : quantityOf k [] = 0 := rfl

@[simp] theorem quantityOf_cons (k : ProductId) (it : OrderItem) (items : List OrderItem) :
    quantityOf k (it :: items)
      = (if it.product = some k then (it.quantity : Int) else 0) + quantityOf k items := by
  simp [quantityOf]

theorem quantityOf_nonneg (k : ProductId) (items : List OrderItem) : 0 ≤ quantityOf k items := by
  refine List.sum_nonneg fun x hx => ?_
  obtain ⟨it, _, rfl⟩ := List.mem_map.mp hx
  split <;> omega

/-- The loop over the items moves a number of each product by `c` times what
the items have of it. -/
theorem updateProducts_field {g : Product → Int} {f : Int → Product → Product} {c : Int}
    (hf : ∀ n p, g (f n p) = g p + c * n) (items : List OrderItem)
    (products : Table Product) (k : ProductId) :
    ((updateProducts products f items).get? k).map g
      = (products.get? k).map fun p => g p + c * quantityOf k items := by
  induction items generalizing products with
  | nil => simp [updateProducts]
  | cons it rest ih =>
    rw [updateProducts]
    cases hit : it.product with
    | none => simp [ih, hit]
    | some j =>
      simp only [ih, Table.get?_modify, quantityOf_cons, hit, Option.some.injEq]
      by_cases hj : k = j
      · subst hj
        cases products.get? k with
        | none => simp
        | some p =>
          simp only [if_true, Option.map_some, hf, Option.some.injEq]
          ring
      · rw [if_neg hj, if_neg (Ne.symm hj), zero_add]

theorem updateProducts_stock {f : Int → Product → Product} {c : Int}
    (hf : ∀ n p, (f n p).stock = p.stock + c * n) (items : List OrderItem)
    (products : Table Product) (k : ProductId) :
    ((updateProducts products f items).get? k).map Product.stock
      = (products.get? k).map fun p => p.stock + c * quantityOf k items :=
  updateProducts_field hf items products k

/-- An update that takes what was sold does so for every item when the products
sold enough, whatever it does otherwise. -/
theorem updateProducts_unsell {f : Int → Product → Product}
    (hf : ∀ (n : Int) (p : Product), n ≤ p.soldCount → (f n p).soldCount = p.soldCount - n)
    (items : List OrderItem) (products : Table Product)
    (hsold : ∀ j p, products.get? j = some p → quantityOf j items ≤ p.soldCount) (k : ProductId) :
    ((updateProducts products f items).get? k).map Product.soldCount
      = (products.get? k).map fun p => p.soldCount - quantityOf k items := by
  induction items generalizing products with
  | nil => simp [updateProducts]
  | cons it rest ih =>
    have hrest : ∀ j, 0 ≤ quantityOf j rest := fun j => quantityOf_nonneg j rest
    rw [updateProducts]
    cases hit : it.product with
    | none =>
      simp only [quantityOf_cons, hit, reduceCtorEq, if_false, zero_add] at hsold ⊢
      exact ih products hsold
    | some j =>
      have htaken : ∀ p, products.get? j = some p →
          (f it.quantity p).soldCount = p.soldCount - it.quantity := by
        intro p hp
        have h := hsold j p hp
        rw [quantityOf_cons, hit, if_pos rfl] at h
        have hj := hrest j
        exact hf _ p (by omega)
      dsimp only
      rw [ih]
      · rw [Table.get?_modify, quantityOf_cons, hit]
        by_cases hk : k = j
        · subst hk
          cases hp : products.get? k with
          | none => simp
          | some p =>
            simp only [if_true, Option.map_some, htaken p hp, Option.some.injEq]
            omega
        · rw [if_neg hk, if_neg (fun hc => hk (Option.some.inj hc).symm), zero_add]
      · intro i p hp
        rcases Table.modify_cases hp with ⟨p', rfl, hp', rfl⟩ | ⟨hi, hp⟩
        · have h := hsold i p' hp'
          rw [quantityOf_cons, hit, if_pos rfl] at h
          rw [htaken p' hp']
          omega
        · have h := hsold i p hp
          rw [quantityOf_cons, hit, if_neg (fun hc => hi (Option.some.inj hc).symm), zero_add] at h
          exact h

/-- The guard of the update does nothing when the products sold enough. -/
theorem updateProducts_takeSold (items : List OrderItem) (products : Table Product)
    (hsold : ∀ j p, products.get? j = some p → quantityOf j items ≤ p.soldCount) (k : ProductId) :
    ((updateProducts products takeSold items).get? k).map Product.soldCount
      = (products.get? k).map fun p => p.soldCount - quantityOf k items := by
  refine updateProducts_unsell (fun n p hn => ?_) items products hsold k
  unfold takeSold
  rw [if_pos hn]

end Shopping
