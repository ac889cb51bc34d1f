import Shopping.Models.Db

/-!
# `OrderService`

Placing and cancelling an order, from `shopping/services/order_service.py`
and `shopping/services/shipping_service.py`.

`create_order_hybrid` reads the cart before its transaction
(`OrderDraft.of`) and writes the order in it (`placeOrder`), so the two are
apart here.  `cancel_order` is the cancellation of an unpaid order with its
payment fence.
-/

namespace Shopping

/-! ## Shipping fee -/

/-- `ShippingService.is_remote_area`. -/
def isRemoteArea (postalCode : String) : Bool :=
  ["63", "59", "52"].any fun code => code.isPrefixOf postalCode

/-- `ShippingService.calculate_fee`: `shipping_fee`, `additional_fee` and
`is_free_shipping`. -/
def calculateFee (totalAmount : Int) (postalCode : String) : Int × Int × Bool :=
  let additional := if isRemoteArea postalCode then 3000 else 0
  if 30000 ≤ totalAmount then (0, additional, true) else (3000, additional, false)

namespace OrderService

/-! ## Placing an order -/

/-- `MIN_POINTS`. -/
def minPoints : Int := 100

/-- `_validate_point_usage`. -/
def validatePointUsage (points usePoints totalPaymentAmount : Int) : Except ShopError Unit :=
  if usePoints ≤ 0 then .ok ()
  else if usePoints < minPoints then
    .error (.orderServiceError
      ("포인트는 최소 " ++ toString minPoints ++ "포인트 이상 사용 가능합니다."))
  else if points < usePoints then
    .error (.orderServiceError ("보유 포인트가 부족합니다. (보유: " ++ toString points
      ++ "P, 사용 요청: " ++ toString usePoints ++ "P)"))
  else if totalPaymentAmount < usePoints then
    .error (.orderServiceError ("주문 금액보다 많은 포인트를 사용할 수 없습니다. (주문 금액: "
      ++ toString totalPaymentAmount ++ "원, 사용 요청: " ++ toString usePoints ++ "P)"))
  else .ok ()

/-- `Cart.get_total_amount`: the products' prices as they are now. -/
def cartTotalAmount (products : Table Product) (cart : Cart) : Int :=
  (cart.items.map fun it =>
    (((products.get? it.product).map Product.price).getD 0) * (it.quantity : Int)).sum

/-- What `create_order_hybrid` computes before its transaction. -/
structure OrderDraft where
  totalAmount : Int
  shippingFee : Int
  additionalFee : Int
  isFreeShipping : Bool
  usePoints : Int
  finalAmount : Int
  deriving DecidableEq, Repr

/-- The steps 1 to 4 of `create_order_hybrid`. -/
def OrderDraft.of (db : Db) (user : UserId) (cart : CartId) (postalCode : String)
    (usePoints : Int) : Except ShopError OrderDraft :=
  match db.carts.get? cart with
  | none => .error (.orderServiceError "장바구니가 비어있습니다.")
  | some c =>
    if c.items = [] then .error (.orderServiceError "장바구니가 비어있습니다.")
    else
      let totalAmount := cartTotalAmount db.products c
      let fee := calculateFee totalAmount postalCode
      let totalPaymentAmount := totalAmount + fee.1 + fee.2.1
      (validatePointUsage (db.ledger.points user) usePoints totalPaymentAmount).map fun _ =>
        { totalAmount := totalAmount
          shippingFee := fee.1
          additionalFee := fee.2.1
          isFreeShipping := fee.2.2
          usePoints := usePoints
          finalAmount := max 0 (totalPaymentAmount - usePoints) }

/-- The steps 2 to 4, from a total that was read before. -/
def OrderDraft.ofTotal (totalAmount points : Int) (postalCode : String) (usePoints : Int) :
    Except ShopError OrderDraft :=
  let fee := calculateFee totalAmount postalCode
  let totalPaymentAmount := totalAmount + fee.1 + fee.2.1
  (validatePointUsage points usePoints totalPaymentAmount).map fun _ =>
    { totalAmount := totalAmount
      shippingFee := fee.1
      additionalFee := fee.2.1
      isFreeShipping := fee.2.2
      usePoints := usePoints
      finalAmount := max 0 (totalPaymentAmount - usePoints) }

/-- `cart.items.exists()`. -/
def hasItems (db : Db) (cart : CartId) : Bool :=
  (db.carts.get? cart).any fun c => decide (c.items ≠ [])

/-- `cart.get_total_amount()`, zero for a cart without rows. -/
def totalOfCart (db : Db) (cart : CartId) : Int :=
  ((db.carts.get? cart).map (cartTotalAmount db.products)).getD 0

/-- The draft is the first check and the total, when nothing comes between
them. -/
theorem OrderDraft.of_eq (db : Db) (user : UserId) (cart : CartId) (postalCode : String)
    (usePoints : Int) :
    OrderDraft.of db user cart postalCode usePoints
      = if hasItems db cart then
          OrderDraft.ofTotal (totalOfCart db cart) (db.ledger.points user) postalCode usePoints
        else .error (.orderServiceError "장바구니가 비어있습니다.") := by
  unfold OrderDraft.of OrderDraft.ofTotal hasItems totalOfCart
  cases db.carts.get? cart with
  | none => rfl
  | some c =>
    by_cases hitems : c.items = []
    · simp [hitems]
    · simp [hitems]

/-- The transaction of `create_order_hybrid`: the order, and the cart put
away. -/
def placeOrder (db : Db) (now : Time) (user : UserId) (cart : CartId) (draft : OrderDraft) :
    Except ShopError (OrderId × Db) :=
  match db.carts.get? cart with
  | none => .error (.db .doesNotExist)
  | some lockedCart =>
    if lockedCart.isActive = false then
      .error (.orderServiceError "이미 주문이 진행 중이거나 완료된 장바구니입니다.")
    else if lockedCart.items = [] then .error (.orderServiceError "장바구니가 비어있습니다.")
    else
      let order : Order :=
        { user := user
          cart := some cart
          status := .pending
          totalAmount := draft.totalAmount
          shippingFee := draft.shippingFee
          additionalShippingFee := draft.additionalFee
          isFreeShipping := draft.isFreeShipping
          usedPoints := draft.usePoints
          finalAmount := draft.finalAmount
          earnRateAtOrder := (db.membership user).earnRate
          createdAt := now
          updatedAt := now }
      .ok (db.orders.next,
        { db with
          orders := db.orders.insert order
          carts := db.carts.modify cart fun c => { c with isActive := false } })

/-- `create_order_hybrid`, when nothing comes between its reads and its
transaction.  `published` says whether the broker takes the message. -/
def createOrderHybrid (db : Db) (now : Time) (user : UserId) (cart : CartId)
    (postalCode : String) (usePoints : Int) (published : Bool) :
    Except ShopError (Outcome OrderId) := do
  let draft ← OrderDraft.of db user cart postalCode usePoints
  let (order, db') ← placeOrder db now user cart draft
  .ok
    { result := order
      db := db'
      sent := if published then [.processOrder order cart usePoints] else [] }

/-! ## Cancelling an unpaid order -/

/-- `LIVE_PAYMENT_CANCEL_MESSAGES`. -/
def livePaymentCancelMessage : PaymentStatus → String
  | .waitingForDeposit => "가상계좌 발급이 방금 끝났습니다. 잠시 후 다시 시도해주세요."
  | _ => "결제 승인이 진행 중입니다. 잠시 후 다시 시도해주세요."

/-- The payment fence: close every payment of the order that is not live. -/
def closePayments (db : Db) (o : OrderId) (closed : PaymentStatus) : Db :=
  { db with payments :=
      db.payments.setStatus (fun _ p => decide (p.order = o) && !p.status.isLive) closed }

/-- `cancel_order`. -/
def cancelOrder (db : Db) (now : Time) (o : OrderId) (closed : PaymentStatus := .canceled) :
    Except ShopError Db := do
  let order ← db.getOrder o
  if order.status.isUnpaid = false then
    if order.status = .paid then
      .error (.orderServiceError "결제가 완료된 주문은 결제 취소(환불)로 취소해야 합니다.")
    else .error (.orderServiceError "취소할 수 없는 주문입니다.")
  else
    let fenced := closePayments db o closed
    match fenced.payments.table.find? fun _ p => decide (p.order = o) && p.status.isLive with
    | some live =>
      .error (.paymentInProgressError (livePaymentCancelMessage live.2.status))
    | none =>
      let restocked := fenced.updateItems addStock order.items
      let canceled := restocked.saveOrder o (Order.withStatus .canceled now)
      .ok (if 0 < order.usedPoints ∧ canceled.hasHistory o .use = true then
        canceled.refundUsedPoints now order.user order.usedPoints o .cancelRefund
      else canceled)

end OrderService

end Shopping
