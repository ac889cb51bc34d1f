import Shopping.Orders.Tasks
import Shopping.Payments.Tasks
import Shopping.Payments.Webhook
import Shopping.Returns.Service

/-!
# Shops that differ in what sellers edit

`SameShop` relates two databases that agree on everything but the names, the
prices and the visibility of products, the copies of these in the order items,
and the reasons of failed orders, which name a product.

No order or return operation decides by any of that.  Each takes related
databases to related databases, or raises on both: one lemma for each
operation, over the lemmas for the steps they share.
-/

namespace Shopping

/-! ## The relation -/

/-- Products with the same stock and the same count of sales. -/
structure SameNumbers (p q : Product) : Prop where
  stock : q.stock = p.stock
  soldCount : q.soldCount = p.soldCount

/-- Order items that stand for the same quantity of the same product. -/
structure SameItem (x y : OrderItem) : Prop where
  product : y.product = x.product
  quantity : y.quantity = x.quantity

/-- Orders that differ in the copies of names and prices and in the reason. -/
inductive SameOrder (x : Order) : Order → Prop
  | intro {reason : String} {items : List OrderItem} (h : List.Forall₂ SameItem x.items items) :
      SameOrder x { x with failureReason := reason, items := items }

/-- Databases that differ in what sellers edit. -/
inductive SameShop (db : Db) : Db → Prop
  | intro {products : Table Product} {orders : Table Order}
      (hproducts : Table.Related SameNumbers db.products products)
      (horders : Table.Related SameOrder db.orders orders) :
      SameShop db { db with products := products, orders := orders }

theorem SameNumbers.refl (p : Product) : SameNumbers p p := ⟨rfl, rfl⟩

theorem SameOrder.refl (x : Order) : SameOrder x x :=
  ⟨List.forall₂_same.mpr fun _ _ => ⟨rfl, rfl⟩⟩

theorem SameShop.refl (db : Db) : SameShop db db :=
  ⟨Table.Related.refl SameNumbers.refl _, Table.Related.refl SameOrder.refl _⟩

/-- An update of the products that moves the numbers by the numbers. -/
def MovesNumbers (f : Int → Product → Product) : Prop :=
  ∀ n p q, SameNumbers p q → SameNumbers (f n p) (f n q)

theorem movesNumbers_addStock : MovesNumbers addStock := by
  intro n p q h
  refine ⟨?_, h.soldCount⟩
  show q.stock + n = p.stock + n
  rw [h.stock]

theorem movesNumbers_addSold : MovesNumbers addSold := by
  intro n p q h
  refine ⟨h.stock, ?_⟩
  show q.soldCount + n = p.soldCount + n
  rw [h.soldCount]

theorem movesNumbers_addStockTakeSold : MovesNumbers addStockTakeSold := by
  intro n p q h
  constructor
  · show q.stock + n = p.stock + n
    rw [h.stock]
  · show max (q.soldCount - n) 0 = max (p.soldCount - n) 0
    rw [h.soldCount]

/-! ## Lists of items -/

section

variable {items items' : List OrderItem}

theorem SameItem.hasProduct (h : List.Forall₂ SameItem items items') :
    (items'.any fun it => it.product.isNone) = items.any fun it => it.product.isNone := by
  induction h with
  | nil => rfl
  | cons hit _ ih => rw [List.any_cons, List.any_cons, ih, hit.product]

theorem SameItem.orderedQuantity (h : List.Forall₂ SameItem items items') :
    (items'.map fun it => (it.quantity : Int)).sum
      = (items.map fun it => (it.quantity : Int)).sum := by
  induction h with
  | nil => rfl
  | cons hit _ ih =>
    rw [List.map_cons, List.map_cons, List.sum_cons, List.sum_cons, ih, hit.quantity]

theorem updateProducts_both {f : Int → Product → Product} (hf : MovesNumbers f)
    (h : List.Forall₂ SameItem items items') {products products' : Table Product}
    (hproducts : Table.Related SameNumbers products products') :
    Table.Related SameNumbers (updateProducts products f items)
      (updateProducts products' f items') := by
  induction h generalizing products products' with
  | nil => exact hproducts
  | @cons x y _ _ hit _ ih =>
    rw [updateProducts, updateProducts, hit.product, hit.quantity]
    cases x.product with
    | none => exact ih hproducts
    | some k => exact ih (hproducts.modify (fun p q => hf _ p q) k)

end

/-! ## The steps of the operations -/

namespace SameShop

variable {db db' : Db}

theorem getOrder (h : SameShop db db') (o : OrderId) :
    Both SameOrder (db.getOrder o) (db'.getOrder o) := by
  cases h with
  | intro hproducts horders =>
    rename_i products orders
    unfold Db.getOrder
    have ho := horders o
    dsimp only
    generalize db.orders.get? o = x at ho ⊢
    generalize orders.get? o = y at ho ⊢
    cases ho with
    | none => exact .error _ _
    | some hxy => exact .ok hxy

theorem saveOrder (h : SameShop db db') {f g : Order → Order}
    (hf : ∀ x y, SameOrder x y → SameOrder (f x) (g y)) (o : OrderId) :
    SameShop (db.saveOrder o f) (db'.saveOrder o g) := by
  cases h with
  | intro hproducts horders => exact ⟨hproducts, horders.modify hf o⟩

theorem updateItems (h : SameShop db db') {f : Int → Product → Product} (hf : MovesNumbers f)
    {items items' : List OrderItem} (hitems : List.Forall₂ SameItem items items') :
    SameShop (db.updateItems f items) (db'.updateItems f items') := by
  cases h with
  | intro hproducts horders => exact ⟨updateProducts_both hf hitems hproducts, horders⟩

theorem getPayment (h : SameShop db db') (k : Nat) : db'.getPayment k = db.getPayment k := by
  cases h
  rfl

theorem savePayment (h : SameShop db db') (k : Nat) (row : Payment) :
    Both SameShop (db.savePayment k row) (db'.savePayment k row) := by
  cases h with
  | intro hproducts horders => exact Both.map_same fun _ => ⟨hproducts, horders⟩

theorem log (h : SameShop db db') (k : Nat) (logType : LogType) (message : String)
    (returnId : Option Nat) :
    SameShop (db.log k logType message returnId) (db'.log k logType message returnId) := by
  cases h with
  | intro hproducts horders => exact ⟨hproducts, horders⟩

theorem deactivateCarts (h : SameShop db db') (user : UserId) :
    SameShop (db.deactivateCarts user) (db'.deactivateCarts user) := by
  cases h with
  | intro hproducts horders => exact ⟨hproducts, horders⟩

theorem refundUsedPoints (h : SameShop db db') (now : Time) (user : UserId) (amount : Int)
    (o : OrderId) (type : PointType) (returnId : Option Nat) :
    SameShop (db.refundUsedPoints now user amount o type returnId)
      (db'.refundUsedPoints now user amount o type returnId) := by
  cases h with
  | intro hproducts horders => exact ⟨hproducts, horders⟩

theorem hasHistory (h : SameShop db db') (o : OrderId) (type : PointType) :
    db'.hasHistory o type = db.hasHistory o type := by
  cases h
  rfl

theorem withLedger (h : SameShop db db') (ledger : Ledger) :
    SameShop { db with ledger := ledger } { db' with ledger := ledger } := by
  cases h with
  | intro hproducts horders => exact ⟨hproducts, horders⟩

theorem ledger (h : SameShop db db') : db'.ledger = db.ledger := by
  cases h
  rfl

theorem payments (h : SameShop db db') : db'.payments = db.payments := by
  cases h
  rfl

end SameShop

/-! ### What the operations write into an order -/

section

variable {x y : Order}

theorem SameOrder.withStatus (h : SameOrder x y) (status : OrderStatus) (now : Time) :
    SameOrder (x.withStatus status now) (y.withStatus status now) := by
  cases h with
  | intro h => exact ⟨h⟩

theorem SameOrder.withPaid (h : SameOrder x y) (method : String) (now : Time) :
    SameOrder (x.withPaid method now) (y.withPaid method now) := by
  cases h with
  | intro h => exact ⟨h⟩

theorem SameOrder.withFailure (h : SameOrder x y) (status : OrderStatus)
    (reason reason' : String) (now : Time) :
    SameOrder (x.withFailure status reason now) (y.withFailure status reason' now) := by
  cases h with
  | intro h => exact ⟨h⟩

theorem SameOrder.withEarned (h : SameOrder x y) (points : Int) :
    SameOrder { x with earnedPoints := points } { y with earnedPoints := points } := by
  cases h with
  | intro h => exact ⟨h⟩

theorem SameOrder.withItems (h : SameOrder x y) {items items' : List OrderItem}
    (hitems : List.Forall₂ SameItem items items') :
    SameOrder { x with items := x.items ++ items } { y with items := y.items ++ items' } := by
  cases h with
  | intro h => exact ⟨List.rel_append h hitems⟩

theorem SameOrder.items (h : SameOrder x y) : List.Forall₂ SameItem x.items y.items := by
  cases h with
  | intro h => exact h

end

/-! ## Orders -/

namespace OrderService

variable {db db' : Db}

theorem closePayments_both (h : SameShop db db') (o : OrderId) (closed : PaymentStatus) :
    SameShop (closePayments db o closed) (closePayments db' o closed) := by
  cases h with
  | intro hproducts horders => exact ⟨hproducts, horders⟩

theorem cancelOrder_both (h : SameShop db db') (now : Time) (o : OrderId)
    (closed : PaymentStatus) :
    Both SameShop (cancelOrder db now o closed) (cancelOrder db' now o closed) := by
  refine (h.getOrder o).bind fun order order' ho => ?_
  have hitems := ho.items
  cases ho with
  | intro _ =>
    dsimp only at hitems ⊢
    by_cases hunpaid : order.status.isUnpaid = false
    · rw [if_pos hunpaid, if_pos hunpaid]
      split_ifs <;> exact .error _ _
    · rw [if_neg hunpaid, if_neg hunpaid, (closePayments_both h o closed).payments]
      cases (closePayments db o closed).payments.table.find?
          fun _ p => decide (p.order = o) && p.status.isLive with
      | some live => exact .error _ _
      | none =>
        have hcanceled := ((closePayments_both h o closed).updateItems movesNumbers_addStock
          hitems).saveOrder (fun x y hxy => hxy.withStatus .canceled now) o
        dsimp only
        rw [hcanceled.hasHistory]
        refine .ok ?_
        split_ifs
        · exact hcanceled.refundUsedPoints now order.user order.usedPoints o .cancelRefund none
        · exact hcanceled

end OrderService

namespace OrderTasks

variable {db db' : Db}

/-- The loop over the cart items takes the same from both shops. -/
theorem takeItems_both (cart : List CartItem) {products products' : Table Product}
    (h : Table.Related SameNumbers products products') :
    Both (fun a b => Table.Related SameNumbers a.1 b.1 ∧ List.Forall₂ SameItem a.2.1 b.2.1 ∧
      (a.2.2.isSome = b.2.2.isSome)) (takeItems products cart) (takeItems products' cart) := by
  induction cart generalizing products products' with
  | nil => exact .ok ⟨h, .nil, rfl⟩
  | cons it rest ih =>
    have hit := h it.product
    unfold takeItems
    generalize products.get? it.product = x at hit ⊢
    generalize products'.get? it.product = y at hit ⊢
    cases hit with
    | none => exact .error _ _
    | @some p q hpq =>
      dsimp only
      rw [hpq.stock]
      by_cases hshort : p.stock < it.quantity
      · rw [if_pos hshort, if_pos hshort]
        exact .ok ⟨h, .nil, rfl⟩
      · rw [if_neg hshort, if_neg hshort]
        have htaken := h.modify (fun a b => movesNumbers_addStock (-it.quantity) a b) it.product
        refine (ih htaken).map fun a b hab => ⟨hab.1, ?_, hab.2.2⟩
        exact .cons ⟨rfl, rfl⟩ hab.2.1

theorem restoreCart_both (h : SameShop db db') (cart : CartId) :
    Both SameShop (restoreCart db cart) (restoreCart db' cart) := by
  cases h with
  | intro hproducts horders =>
    unfold restoreCart
    dsimp only
    cases db.carts.get? cart with
    | none => exact .error _ _
    | some c =>
      dsimp only
      split
      · exact .ok ⟨hproducts, horders⟩
      · exact .ok ⟨hproducts, horders⟩

theorem failOrder_both (h : SameShop db db') (now : Time) (o : OrderId) (cart : CartId)
    (reason reason' : String) :
    Both SameShop (failOrder db now o cart reason) (failOrder db' now o cart reason') := by
  refine (h.getOrder o).bind fun order order' ho => ?_
  rw [SameItem.hasProduct ho.items]
  split_ifs
  · exact .error _ _
  · refine restoreCart_both ?_ cart
    exact (h.updateItems movesNumbers_addStock ho.items).saveOrder
      (fun x y hxy => hxy.withFailure .failed reason reason' now) o

/-- The end of the task, once the points are used with the answer `used`. -/
theorem payFromPoints_both (h : SameShop db db') (now : Time) (o : OrderId) (cartId : CartId)
    (used : PointService.UseResult × Ledger) :
    Both (fun a b => SameShop a.db b.db)
      (if used.1.success = false then do
        let failed ← failOrder { db with ledger := used.2 } now o cartId
          ("포인트 사용 실패: " ++ used.1.message)
        (.ok { result := .pointDeductionFailed used.1.message, db := failed } :
          Except ShopError (Outcome ProcessResult))
      else
        .ok
          { result := .success
            db := { ({ db with ledger := used.2 }.saveOrder o (Order.withStatus .confirmed now)) with
              carts := db.carts.modify cartId fun c => { c with items := [] } } })
      (if used.1.success = false then do
        let failed ← failOrder { db' with ledger := used.2 } now o cartId
          ("포인트 사용 실패: " ++ used.1.message)
        (.ok { result := .pointDeductionFailed used.1.message, db := failed } :
          Except ShopError (Outcome ProcessResult))
      else
        .ok
          { result := .success
            db := { ({ db' with ledger := used.2 }.saveOrder o (Order.withStatus .confirmed now)) with
              carts := db'.carts.modify cartId fun c => { c with items := [] } } }) := by
  have hpaid := h.withLedger used.2
  by_cases hused : used.1.success = false
  · rw [if_pos hused, if_pos hused]
    exact (failOrder_both hpaid now o cartId _ _).bind fun a b hab => .ok hab
  · rw [if_neg hused, if_neg hused]
    refine .ok ?_
    cases h with
    | intro hproducts horders =>
      exact ⟨hproducts, horders.modify (fun x y hxy => hxy.withStatus .confirmed now) o⟩

theorem processOrderHeavyTasks_both (h : SameShop db db') (now : Time) (o : OrderId)
    (cartId : CartId) (usePoints : Int) :
    Both (fun a b => SameShop a.db b.db) (processOrderHeavyTasks db now o cartId usePoints)
      (processOrderHeavyTasks db' now o cartId usePoints) := by
  refine (h.getOrder o).bind fun order order' ho => ?_
  cases ho with
  | intro _ =>
    dsimp only
    by_cases hpending : order.status ≠ .pending
    · rw [if_pos hpending, if_pos hpending]
      exact .ok h
    · rw [if_neg hpending, if_neg hpending]
      cases h with
      | intro hproducts horders =>
        dsimp only
        cases db.carts.get? cartId with
        | none => exact .error _ _
        | some cart =>
          refine (takeItems_both _ hproducts).bind fun a b hab => ?_
          obtain ⟨ps, items, shortage⟩ := a
          obtain ⟨ps', items', shortage'⟩ := b
          obtain ⟨hps, hitems, hshort⟩ := hab
          have htaken :=
            (SameShop.intro hps horders : SameShop { db with products := ps } _).saveOrder
              (fun x y hxy => hxy.withItems hitems) o
          cases shortage with
          | some s =>
            cases shortage' with
            | none => cases hshort
            | some s' =>
              exact (failOrder_both htaken now o cartId _ _).bind fun a b hab => .ok hab
          | none =>
            cases shortage' with
            | some s' => cases hshort
            | none =>
              exact payFromPoints_both htaken now o cartId (if 0 < usePoints then
                PointService.usePointsFifo db.ledger now order.user usePoints .use (some o)
                else (⟨true, [], ""⟩, db.ledger))

end OrderTasks

/-! ## Settlements -/

namespace PaymentService

variable {db db' : Db}

theorem recordVirtualAccountIssued_both (h : SameShop db db') (now : Time) (k : Nat)
    (payment : Payment) (data : TossPayment) :
    Both SameShop (recordVirtualAccountIssued db now k payment data)
      (recordVirtualAccountIssued db' now k payment data) := by
  refine Both.bind_same fun row => (h.savePayment k row).bind fun saved saved' hsaved => ?_
  exact .ok (hsaved.log k .approve _ none)

theorem earnOnConfirm_both (h : SameShop db db') (now : Time) (k : Nat) (o : OrderId)
    {order order' : Order} (ho : SameOrder order order') (user : UserId) :
    Both (fun a b => SameShop a.2 b.2) (earnOnConfirm db now k o order user)
      (earnOnConfirm db' now k o order' user) := by
  cases ho with
  | intro _ =>
    unfold earnOnConfirm
    dsimp only
    rw [h.ledger]
    by_cases hfinal : 0 < order.finalAmount
    · rw [if_pos hfinal, if_pos hfinal]
      by_cases hearn : 0 < earnPoints order.totalAmount order.earnRateAtOrder
      · rw [if_pos hearn, if_pos hearn]
        cases PointService.addPoints db.ledger now user
            (earnPoints order.totalAmount order.earnRateAtOrder) .earn (some o) with
        | error e => exact .error _ _
        | ok out =>
          exact .ok (((h.withLedger out.2).saveOrder (fun x y hxy => hxy.withEarned _) o).log k
            .approve _ none)
      · rw [if_neg hearn, if_neg hearn]
        exact .ok h
    · rw [if_neg hfinal, if_neg hfinal]
      split_ifs
      · exact .ok (h.log k .approve _ none)
      · exact .ok h

theorem confirmPaymentSync_both (h : SameShop db db') (now : Time) (k : Nat) (user : UserId)
    (toss : Except TossPaymentError TossPayment) :
    Both (fun a b => SameShop a.2 b.2) (confirmPaymentSync db now k user toss)
      (confirmPaymentSync db' now k user toss) := by
  unfold confirmPaymentSync
  rw [h.getPayment]
  refine Both.bind_same fun payment => ?_
  by_cases hpaid : payment.isPaid = true
  · rw [if_pos hpaid, if_pos hpaid]
    exact .error _ _
  rw [if_neg hpaid, if_neg hpaid]
  by_cases hwaiting : payment.isWaitingForDeposit = true
  · rw [if_pos hwaiting, if_pos hwaiting]
    exact .error _ _
  rw [if_neg hwaiting, if_neg hwaiting]
  by_cases hinvalid : payment.status.isInvalid = true
  · rw [if_pos hinvalid, if_pos hinvalid]
    exact .error _ _
  rw [if_neg hinvalid, if_neg hinvalid]
  cases toss with
  | error e => exact .error _ _
  | ok data =>
    dsimp only
    by_cases hissued : data.status = some .waitingForDeposit
    · rw [if_pos hissued, if_pos hissued]
      exact (recordVirtualAccountIssued_both h now k payment data).bind fun a b hab => .ok hab
    · rw [if_neg hissued, if_neg hissued]
      refine (h.getOrder payment.order).bind fun order order' ho => Both.bind_same fun row => ?_
      refine (h.savePayment k row).bind fun saved saved' hsaved => ?_
      have hsold := ((hsaved.updateItems movesNumbers_addSold ho.items).saveOrder
        (fun x y hxy => hxy.withPaid row.method now) payment.order).deactivateCarts user
      refine (earnOnConfirm_both hsold now k payment.order ho user).bind fun a b hab => ?_
      exact .ok (hab.log k .approve _ none)

theorem completePointsOnlyPayment_both (h : SameShop db db') (now : Time) (o : OrderId)
    (seen : Order) (user : UserId) :
    Both (fun a b => SameShop a.2 b.2) (completePointsOnlyPayment db now o seen user)
      (completePointsOnlyPayment db' now o seen user) := by
  unfold completePointsOnlyPayment
  by_cases hconfirmed : seen.status ≠ .confirmed
  · rw [if_pos hconfirmed, if_pos hconfirmed]
    exact .error _ _
  rw [if_neg hconfirmed, if_neg hconfirmed]
  by_cases hfinal : seen.finalAmount ≠ 0
  · rw [if_pos hfinal, if_pos hfinal]
    exact .error _ _
  rw [if_neg hfinal, if_neg hfinal]
  dsimp only
  by_cases hpayable : 0 < seen.totalAmount + seen.getTotalShippingFee - seen.usedPoints
  · rw [if_pos hpayable, if_pos hpayable]
    exact .error _ _
  rw [if_neg hpayable, if_neg hpayable]
  refine (h.getOrder o).bind fun order order' ho => ?_
  have hfound : Both (fun a b => a.1 = b.1 ∧ a.2.1 = b.2.1 ∧ SameShop a.2.2 b.2.2)
      (getOrCreatePointsPayment db now o) (getOrCreatePointsPayment db' now o) := by
    unfold getOrCreatePointsPayment
    rw [h.payments]
    cases db.payments.ofOrder? o with
    | some e => exact .ok ⟨rfl, rfl, h⟩
    | none =>
      refine Both.map_same fun out => ⟨rfl, rfl, ?_⟩
      cases h with
      | intro hproducts horders => exact ⟨hproducts, horders⟩
  refine hfound.bind fun a b hab => ?_
  obtain ⟨k, payment, found⟩ := a
  obtain ⟨k', payment', found'⟩ := b
  obtain ⟨hk, hpayment, hshop⟩ := hab
  dsimp only at hk hpayment hshop ⊢
  rw [← hk, ← hpayment]
  by_cases hpaid : payment.isPaid = true
  · rw [if_pos hpaid, if_pos hpaid]
    exact .error _ _
  rw [if_neg hpaid, if_neg hpaid]
  refine (hshop.savePayment k _).bind fun saved saved' hsaved => ?_
  have hsold := ((hsaved.updateItems movesNumbers_addSold ho.items).saveOrder
    (fun x y hxy => hxy.withPaid "points" now) o).deactivateCarts user
  cases ho with
  | intro _ => exact .ok (hsold.log k .approve _ none)

end PaymentService

namespace PaymentTasks

variable {db db' : Db}

theorem finalizePaymentConfirm_both (h : SameShop db db') (now : Time) (response : TossPayment)
    (k : Nat) (user : UserId) (published : Bool) :
    Both (fun a b => SameShop a.db b.db)
      (finalizePaymentConfirm db now response k user published)
      (finalizePaymentConfirm db' now response k user published) := by
  unfold finalizePaymentConfirm
  rw [h.getPayment]
  refine Both.bind_same fun payment => ?_
  by_cases hpaid : payment.isPaid = true
  · rw [if_pos hpaid, if_pos hpaid]
    exact .ok h
  rw [if_neg hpaid, if_neg hpaid]
  by_cases hissued : response.status = some .waitingForDeposit
  · rw [if_pos hissued, if_pos hissued]
    exact (PaymentService.recordVirtualAccountIssued_both h now k payment response).bind
      fun a b hab => .ok hab
  rw [if_neg hissued, if_neg hissued]
  refine (h.getOrder payment.order).bind fun order order' ho => Both.bind_same fun row => ?_
  refine (h.savePayment k row).bind fun saved saved' hsaved => ?_
  have hsold := ((hsaved.updateItems movesNumbers_addSold ho.items).saveOrder
    (fun x y hxy => hxy.withPaid row.method now) payment.order).deactivateCarts user
  cases ho with
  | intro _ =>
    dsimp only
    by_cases hcanceled : order.status = .canceled
    · rw [if_pos hcanceled, if_pos hcanceled]
      exact .ok (hsaved.log k .error _ none)
    · rw [if_neg hcanceled, if_neg hcanceled]
      exact .ok (hsold.log k .approve _ none)

theorem abortPaymentOf_both (h : SameShop db db') (o : OrderId) (reason : String) :
    SameShop (abortPaymentOf db o reason) (abortPaymentOf db' o reason) := by
  cases h with
  | intro hproducts horders =>
    unfold abortPaymentOf
    dsimp only
    split
    · exact ⟨hproducts, horders⟩
    · exact ⟨hproducts, horders⟩

theorem rollbackPaymentFailure_both (h : SameShop db db') (now : Time) (o : OrderId)
    (reason : String) :
    SameShop (rollbackPaymentFailure db now o reason).2
      (rollbackPaymentFailure db' now o reason).2 := by
  have horder := h.getOrder o
  unfold Db.getOrder at horder
  unfold rollbackPaymentFailure
  generalize db.orders.get? o = x at horder ⊢
  generalize db'.orders.get? o = y at horder ⊢
  cases x with
  | none =>
    cases y with
    | none => exact h
    | some order' => cases horder
  | some order =>
    cases y with
    | none => cases horder
    | some order' =>
      cases horder with
      | ok ho =>
        have hitems := ho.items
        cases ho with
        | intro _ =>
          dsimp only at hitems ⊢
          by_cases hdone : order.status = .paymentFailed ∨ order.status = .canceled
          · rw [if_pos hdone, if_pos hdone]
            exact h
          rw [if_neg hdone, if_neg hdone]
          by_cases hpaid : order.status = .paid
          · rw [if_pos hpaid, if_pos hpaid]
            exact h
          rw [if_neg hpaid, if_neg hpaid]
          by_cases hskipped : order.status ≠ .pending ∧ order.status ≠ .confirmed
          · rw [if_pos hskipped, if_pos hskipped]
            exact h
          rw [if_neg hskipped, if_neg hskipped]
          have hrestocked := h.updateItems movesNumbers_addStock hitems
          refine abortPaymentOf_both (SameShop.saveOrder ?_
            (fun x y hxy => hxy.withFailure .paymentFailed _ _ now) o) o reason
          split_ifs
          · exact hrestocked.refundUsedPoints ..
          · exact hrestocked

end PaymentTasks

namespace TossWebhookService

variable {db db' : Db}

theorem markWebhookProcessed_both (h : SameShop db db') (now : Time) (id : TossOrderId)
    (event : TossStatus) :
    SameShop (markWebhookProcessed db now id event) (markWebhookProcessed db' now id event) := by
  cases h with
  | intro hproducts horders =>
    unfold markWebhookProcessed isWebhookDuplicate
    dsimp only
    split
    · exact ⟨hproducts, horders⟩
    · exact ⟨hproducts, horders⟩

theorem earnOnDone_both (h : SameShop db db') (now : Time) (o : OrderId)
    {order order' : Order} (ho : SameOrder order order') :
    Both SameShop (earnOnDone db now o order) (earnOnDone db' now o order') := by
  cases ho with
  | intro _ =>
    have hmembership : db'.membership order.user = db.membership order.user := by
      cases h
      rfl
    unfold earnOnDone
    dsimp only
    rw [h.ledger, hmembership]
    by_cases hearned : order.earnedPoints ≠ 0
    · rw [if_pos hearned, if_pos hearned]
      exact .ok h
    rw [if_neg hearned, if_neg hearned]
    by_cases hpoints : 0 < earnPoints order.totalAmount (db.membership order.user).earnRate
    · rw [if_pos hpoints, if_pos hpoints]
      cases PointService.addPoints db.ledger now order.user
          (earnPoints order.totalAmount (db.membership order.user).earnRate) .earn (some o) with
      | error e => exact .error _ _
      | ok out => exact .ok ((h.withLedger out.2).saveOrder (fun x y hxy => hxy.withEarned _) o)
    · rw [if_neg hpoints, if_neg hpoints]
      exact .ok h

theorem handlePaymentDone_both (h : SameShop db db') (now : Time) (event : TossPayment) :
    Both (fun a b => SameShop a.2 b.2) (handlePaymentDone db now event)
      (handlePaymentDone db' now event) := by
  have hmarks : ∀ id, isWebhookDuplicate db' now id .done = isWebhookDuplicate db now id .done := by
    intro id
    cases h
    rfl
  unfold handlePaymentDone
  rw [h.payments]
  cases event.orderId with
  | none => exact .ok h
  | some id =>
    dsimp only
    rw [hmarks]
    by_cases hdup : isWebhookDuplicate db now id .done = true
    · rw [if_pos hdup, if_pos hdup]
      exact .ok h
    rw [if_neg hdup, if_neg hdup]
    cases db.payments.ofTossOrderId? id with
    | none => exact .ok h
    | some e =>
      obtain ⟨k, payment⟩ := e
      dsimp only
      by_cases hpaid : payment.isPaid = true
      · rw [if_pos hpaid, if_pos hpaid]
        exact .ok h
      rw [if_neg hpaid, if_neg hpaid]
      by_cases haborted : payment.status = .aborted
      · rw [if_pos haborted, if_pos haborted]
        exact .ok (h.log k .error _ none)
      rw [if_neg haborted, if_neg haborted]
      by_cases hcanceled : payment.status = .canceled
      · rw [if_pos hcanceled, if_pos hcanceled]
        exact .ok h
      rw [if_neg hcanceled, if_neg hcanceled]
      by_cases hexpired : payment.status = .expired
      · rw [if_pos hexpired, if_pos hexpired]
        exact .ok (h.log k .error _ none)
      rw [if_neg hexpired, if_neg hexpired]
      refine (h.getOrder payment.order).bind fun order order' ho => Both.bind_same fun row => ?_
      refine (h.savePayment k row).bind fun saved saved' hsaved => ?_
      have hsame := ho
      cases ho with
      | intro hitems =>
        dsimp only
        by_cases hgone : order.status = .canceled
        · rw [if_pos hgone, if_pos hgone]
          exact .ok (markWebhookProcessed_both (hsaved.log k .error _ none) now id .done)
        rw [if_neg hgone, if_neg hgone]
        by_cases hsettled : order.status = .paid
        · rw [if_pos hsettled, if_pos hsettled]
          exact .ok (markWebhookProcessed_both hsaved now id .done)
        rw [if_neg hsettled, if_neg hsettled]
        have hsold := ((hsaved.updateItems movesNumbers_addSold hitems).saveOrder
          (fun x y hxy => hxy.withPaid (methodOrCard row.method) now)
          payment.order).deactivateCarts order.user
        refine (earnOnDone_both hsold now payment.order hsame).bind fun a b hab => ?_
        exact .ok (markWebhookProcessed_both (hab.log k .webhook _ none) now id .done)

end TossWebhookService

/-! ## Cancellations and returns -/

namespace PaymentService

variable {db db' : Db}

theorem deductEarned_both (h : SameShop db db') (now : Time) (k : Nat) (o : OrderId)
    (user : UserId) {order order' : Order} (ho : SameOrder order order') :
    Both SameShop (deductEarned db now k o user order) (deductEarned db' now k o user order') := by
  cases ho with
  | intro _ =>
    unfold deductEarned
    dsimp only
    rw [h.ledger]
    by_cases hearned : order.earnedPoints ≤ 0
    · rw [if_pos hearned, if_pos hearned]
      exact .ok h
    rw [if_neg hearned, if_neg hearned]
    by_cases hshort : db.ledger.points user < order.earnedPoints
    · rw [if_pos hshort, if_pos hshort]
      exact .error _ _
    rw [if_neg hshort, if_neg hshort]
    by_cases hused : (PointService.usePointsFifo db.ledger now user order.earnedPoints
        .cancelDeduct (some o)).1.success = false
    · rw [if_pos hused, if_pos hused]
      exact .error _ _
    · rw [if_neg hused, if_neg hused]
      exact .ok ((h.withLedger _).log k .cancel _ none)

theorem cancelPayment_both (h : SameShop db db') (now : Time) (k : Nat) (user : UserId)
    (toss : Except TossPaymentError TossPayment) :
    Both (fun a b => SameShop a.2 b.2) (cancelPayment db now k user toss)
      (cancelPayment db' now k user toss) := by
  unfold cancelPayment
  rw [h.payments]
  cases db.payments.get? k with
  | none => exact .error _ _
  | some payment =>
    refine (h.getOrder payment.order).bind fun order order' ho => ?_
    have hsame := ho
    have hcheck : checkReclaimable db' now user order = checkReclaimable db now user order := by
      unfold checkReclaimable
      rw [h.ledger]
    cases ho with
    | intro hitems =>
      dsimp only
      by_cases huser : order.user ≠ user
      · rw [if_pos huser, if_pos huser]
        exact .error _ _
      rw [if_neg huser, if_neg huser]
      by_cases hcanceled : payment.isCanceled = true
      · rw [if_pos hcanceled, if_pos hcanceled]
        exact .error _ _
      rw [if_neg hcanceled, if_neg hcanceled]
      by_cases hdone : payment.status ≠ .done
      · rw [if_pos hdone, if_pos hdone]
        exact .error _ _
      rw [if_neg hdone, if_neg hdone]
      by_cases hstatus : order.status ≠ .paid ∧ order.status ≠ .canceled
      · rw [if_pos hstatus, if_pos hstatus]
        exact .error _ _
      rw [if_neg hstatus, if_neg hstatus]
      have hchecked : Both Eq (checkReclaimable db now user order)
          (checkReclaimable db' now user order) := by
        rw [hcheck]
        cases checkReclaimable db now user order with
        | error e => exact .error e e
        | ok u => exact .ok rfl
      refine hchecked.bind fun _ _ _ => ?_
      cases toss with
      | error e => exact .error _ _
      | ok data =>
        refine Both.bind_same fun row => (h.savePayment k row).bind fun saved saved' hsaved => ?_
        by_cases hgone : order.status = .canceled
        · rw [if_pos hgone, if_pos hgone]
          exact .ok (hsaved.log k .cancel _ none)
        rw [if_neg hgone, if_neg hgone]
        have hback := (hsaved.updateItems movesNumbers_addStockTakeSold hitems).saveOrder
          (fun x y hxy => hxy.withStatus .canceled now) payment.order
        by_cases hused : 0 < order.usedPoints
        · rw [if_pos hused, if_pos hused]
          have hrefunded := (hback.refundUsedPoints now user order.usedPoints payment.order
            .cancelRefund none).log k .cancel
              ("사용 포인트 " ++ toString order.usedPoints ++ "점 환불") none
          refine (deductEarned_both hrefunded now k payment.order user hsame).bind fun a b hab => ?_
          exact .ok (hab.log k .cancel _ none)
        · rw [if_neg hused, if_neg hused]
          refine (deductEarned_both hback now k payment.order user hsame).bind fun a b hab => ?_
          exact .ok (hab.log k .cancel _ none)

end PaymentService

namespace ReturnService

variable {db db' : Db}

theorem restockReturned_both (items : List ReturnItem) {products products' : Table Product}
    (h : Table.Related SameNumbers products products') :
    Table.Related SameNumbers (restockReturned products items)
      (restockReturned products' items) := by
  induction items generalizing products products' with
  | nil => exact h
  | cons it rest ih =>
    unfold restockReturned
    cases it.product with
    | none => exact ih h
    | some k => exact ih (h.modify (fun p q => movesNumbers_addStockTakeSold _ p q) k)

theorem refundCash_both (h : SameShop db db') (now : Time) (id : Nat) (r : Return)
    (cashBack : Int) (toss : Except TossPaymentError TossPayment) :
    Both SameShop (refundCash db now id r cashBack toss)
      (refundCash db' now id r cashBack toss) := by
  unfold refundCash
  rw [h.payments]
  split_ifs
  · exact .ok h
  · cases db.payments.ofOrder? r.order with
    | none => exact .error _ _
    | some e =>
      cases toss with
      | error e => exact .error _ _
      | ok data =>
        refine Both.bind_same fun row => (h.savePayment e.1 row).bind fun saved saved' hsaved => ?_
        exact .ok (hsaved.log e.1 .cancel _ (some id))

theorem reclaimShare_both (h : SameShop db db') (now : Time) (id : Nat) (r : Return)
    (earnedBack : Int) :
    Both SameShop (reclaimShare db now id r earnedBack) (reclaimShare db' now id r earnedBack) := by
  unfold reclaimShare
  rw [h.ledger]
  split_ifs
  · exact .ok h
  · dsimp only
    split_ifs
    · exact .error _ _
    · exact .ok (h.withLedger _)

theorem finishReturn_both (h : SameShop db db') (now : Time) (id : Nat) (o : OrderId)
    {order order' : Order} (ho : SameOrder order order') :
    SameShop (finishReturn db now id o order) (finishReturn db' now id o order') := by
  have hquantity : orderedQuantity order' = orderedQuantity order :=
    SameItem.orderedQuantity ho.items
  have hcompleted : SameShop { db with returns := db.returns.modify id (markCompleted now) }
      { db' with returns := db'.returns.modify id (markCompleted now) } := by
    cases h with
    | intro hproducts horders => exact ⟨hproducts, horders⟩
  have hreturned :
      returnedQuantity { db' with returns := db'.returns.modify id (markCompleted now) } o
        = returnedQuantity { db with returns := db.returns.modify id (markCompleted now) } o := by
    cases h
    rfl
  unfold finishReturn
  dsimp only
  rw [hquantity, hreturned]
  split_ifs
  · exact hcompleted.saveOrder (fun x y hxy => hxy.withStatus .refunded now) o
  · exact hcompleted

theorem completeRefund_both (h : SameShop db db') (now : Time) (id : Nat)
    (toss : Except TossPaymentError TossPayment) :
    Both (fun a b => SameShop a.2 b.2) (completeRefund db now id toss)
      (completeRefund db' now id toss) := by
  have hreturns : db'.returns = db.returns := by
    cases h
    rfl
  have hsettled : isSettled db' id = isSettled db id := by
    cases h
    rfl
  unfold completeRefund
  rw [hreturns]
  cases db.returns.get? id with
  | none => exact .error _ _
  | some r =>
    dsimp only
    rw [hsettled]
    by_cases htype : r.type ≠ .refund
    · rw [if_pos htype, if_pos htype]
      exact .error _ _
    rw [if_neg htype, if_neg htype]
    by_cases hreceived : r.status ≠ .received
    · rw [if_pos hreceived, if_pos hreceived]
      exact .error _ _
    rw [if_neg hreceived, if_neg hreceived]
    by_cases hdone : isSettled db id = true
    · rw [if_pos hdone, if_pos hdone]
      exact .error _ _
    rw [if_neg hdone, if_neg hdone]
    refine (h.getOrder r.order).bind fun order order' ho => ?_
    have hsplit : refundSplit db' order' r = refundSplit db order r := by
      cases ho
      cases h
      rfl
    rw [hsplit, h.payments]
    have hearned : checkEarned db' now r.user (refundSplit db order r)
        = checkEarned db now r.user (refundSplit db order r) := by
      unfold checkEarned
      rw [h.ledger]
    rw [hearned]
    refine Both.bind_same fun _ => Both.bind_same fun _ => ?_
    refine (refundCash_both h now id r _ toss).bind fun paid paid' hpaid => ?_
    have hrestocked : SameShop { paid with products := restockReturned paid.products r.items }
        { paid' with products := restockReturned paid'.products r.items } := by
      cases hpaid with
      | intro hproducts horders => exact ⟨restockReturned_both r.items hproducts, horders⟩
    by_cases hpoints : 0 < (refundSplit db order r).pointsBack
    · rw [if_pos hpoints, if_pos hpoints]
      have hrepaid := hrestocked.refundUsedPoints now r.user (refundSplit db order r).pointsBack
        r.order .cancelRefund (some id)
      refine (reclaimShare_both hrepaid now id r _).bind fun a b hab => ?_
      exact .ok (finishReturn_both hab now id r.order ho)
    · rw [if_neg hpoints, if_neg hpoints]
      refine (reclaimShare_both hrestocked now id r _).bind fun a b hab => ?_
      exact .ok (finishReturn_both hab now id r.order ho)

theorem takeExchangeProduct_both (k : Option ProductId) {products products' : Table Product}
    (h : Table.Related SameNumbers products products') :
    Both (Table.Related SameNumbers) (takeExchangeProduct products k)
      (takeExchangeProduct products' k) := by
  cases k with
  | none => exact .ok h
  | some k =>
    have hk := h k
    unfold takeExchangeProduct
    dsimp only
    generalize products.get? k = x at hk ⊢
    generalize products'.get? k = y at hk ⊢
    cases hk with
    | none => exact .error _ _
    | @some p q hpq =>
      dsimp only
      rw [hpq.stock]
      split_ifs
      · exact .error _ _
      · exact .ok (h.modify (fun p q => movesNumbers_addStock (-1) p q) k)

theorem restockExchanged_both (items : List ReturnItem) {products products' : Table Product}
    (h : Table.Related SameNumbers products products') :
    Both (Table.Related SameNumbers) (restockExchanged products items)
      (restockExchanged products' items) := by
  induction items generalizing products products' with
  | nil => exact .ok h
  | cons it rest ih =>
    unfold restockExchanged
    cases it.product with
    | none => exact ih h
    | some k =>
      have hk := h k
      dsimp only
      generalize products.get? k = x at hk ⊢
      generalize products'.get? k = y at hk ⊢
      cases hk with
      | none => exact .error _ _
      | some hpq => exact ih (h.modify (fun p q => movesNumbers_addStock _ p q) k)

theorem completeExchange_both (h : SameShop db db') (now : Time) (id : Nat) :
    Both SameShop (completeExchange db now id) (completeExchange db' now id) := by
  cases h with
  | intro hproducts horders =>
    unfold completeExchange
    dsimp only
    cases db.returns.get? id with
    | none => exact .error _ _
    | some r =>
      dsimp only
      split_ifs
      · exact .error _ _
      · exact .error _ _
      · refine (takeExchangeProduct_both r.exchangeProduct hproducts).bind fun a b hab => ?_
        exact (restockExchanged_both r.items hab).bind fun c d hcd => .ok ⟨hcd, horders⟩

end ReturnService

end Shopping
