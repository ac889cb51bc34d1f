import Shopping.Lib.Decimal
import Shopping.Payments.Service

/-!
# `ReturnService`

The completion of a refund return and of an exchange, from
`shopping/services/return_service.py`.

`refundSplit` divides the value of the returned goods into cash, used points
and earned points.  Each share is the difference of two shares of the value
returned so far, before this return and with it.  The shares are computed with
the decimals of the source, at the precision of the default context.
-/

namespace Shopping

/-- What a refund gives back: cash, used points, and the earned points it
takes. -/
structure RefundSplit where
  cashBack : Int
  pointsBack : Int
  earnedBack : Int
  deriving DecidableEq, Repr

namespace ReturnService

/-! ## Dividing the amount -/

/-- `_proportional_share`. -/
def proportionalShare (total part whole : Int) : Int :=
  if whole ≤ 0 then 0
  else Decimal.truncate (Decimal.div 28 (Decimal.mul 28 total part) whole)

/-- The refund returns of `o` that are completed. -/
def isCompleted (o : OrderId) (r : Return) : Bool :=
  decide (r.order = o) && decide (r.type = .refund) && decide (r.status = .completed)

/-- `previous`: the value of the goods that came back before. -/
def completedGoods (db : Db) (o : OrderId) : Int :=
  db.returns.sum fun _ r => if isCompleted o r then r.refundAmount else 0

/-- The share of the used points, before the fee: `used_points` beyond the
goods were for the shipping, which is not given back. -/
def pointsShare (order : Order) (previous thisGoods : Int) : Int :=
  let usedForGoods := min order.usedPoints order.totalAmount
  proportionalShare usedForGoods (previous + thisGoods) order.totalAmount
    - proportionalShare usedForGoods previous order.totalAmount

/-- The share of the earned points. -/
def earnedShare (order : Order) (previous thisGoods : Int) : Int :=
  proportionalShare order.earnedPoints (previous + thisGoods) order.totalAmount
    - proportionalShare order.earnedPoints previous order.totalAmount

/-- A fee that the cash does not cover is taken from the points, as far as
they go: `cash_back` and `points_back` from the two shares. -/
def takeFee (cash points : Int) : Int × Int :=
  if cash < 0 then (0, max (points + cash) 0) else (cash, points)

/-- Step 2 of `complete_refund`. -/
def refundSplit (db : Db) (order : Order) (r : Return) : RefundSplit :=
  let previous := completedGoods db r.order
  let points := pointsShare order previous r.refundAmount
  let back := takeFee (r.refundAmount - points - r.returnShippingFee) points
  { cashBack := back.1
    pointsBack := if 0 < back.2 ∧ db.hasHistory r.order .use = false then 0 else back.2
    earnedBack := earnedShare order previous r.refundAmount }

/-! ## Completing a refund -/

/-- The return moved money, stock or points already. -/
def isSettled (db : Db) (id : Nat) : Bool :=
  (db.logs.any fun l => decide (l.returnId = some id)) ||
    db.ledger.histories.any fun _ h => decide (h.metadata.returnId = some id)

/-- The check of the earned points. -/
def checkEarned (db : Db) (now : Time) (user : UserId) (s : RefundSplit) : Except ShopError Unit :=
  if s.earnedBack ≤ 0 then .ok ()
  else
    let reclaimable := min (db.ledger.points user + s.pointsBack)
      (PointService.getUsablePoints db.ledger now user)
    if reclaimable < s.earnedBack then
      .error (.valueError
        ("유효한 포인트가 부족합니다. 적립 포인트를 이미 사용해 환불할 수 없습니다. (필요: "
          ++ toString s.earnedBack ++ "P, 사용 가능: " ++ toString reclaimable ++ "P)"))
    else .ok ()

/-- The check of the balance that the payment has left. -/
def checkBalance (payment : Option (Nat × Payment)) (cashBack : Int) : Except ShopError Unit :=
  if cashBack ≤ 0 then .ok ()
  else
    match payment with
    | none => .error (.valueError "결제 정보가 없어 현금 환불을 할 수 없습니다.")
    | some (_, p) =>
      let balance := p.amount - p.canceledAmount
      if balance < cashBack then
        .error (.valueError ("환불 금액(" ++ toString cashBack ++ "원)이 남은 결제 금액("
          ++ toString balance ++ "원)보다 큽니다."))
      else .ok ()

/-- Step 4 of `complete_refund`: the partial cancellation at the provider. -/
def refundCash (db : Db) (now : Time) (id : Nat) (r : Return) (cashBack : Int)
    (toss : Except TossPaymentError TossPayment) : Except ShopError Db :=
  if cashBack ≤ 0 then .ok db
  else
    match db.payments.ofOrder? r.order with
    | none => .error .attributeError
    | some (k, payment) =>
      match toss with
      | .error e => .error (.valueError ("토스 환불 실패: " ++ e.message))
      | .ok data => do
        let row ← payment.markAsPartialCanceled now cashBack data
        let saved ← db.savePayment k row
        .ok (saved.log k .cancel
          ("반품 환불 " ++ r.returnNumber ++ ": 현금 " ++ toString cashBack ++ "원") (some id))

/-- The loop over the return items. -/
def restockReturned (products : Table Product) : List ReturnItem → Table Product
  | [] => products
  | it :: rest =>
    match it.product with
    | none => restockReturned products rest
    | some k => restockReturned (products.modify k (addStockTakeSold it.quantity)) rest

/-- Step 6 of `complete_refund`, the earned points. -/
def reclaimShare (db : Db) (now : Time) (id : Nat) (r : Return) (earnedBack : Int) :
    Except ShopError Db :=
  if earnedBack ≤ 0 then .ok db
  else
    let used := PointService.usePointsFifo db.ledger now r.user earnedBack .cancelDeduct
      (some r.order) (some id)
    if used.1.success = false then .error (.valueError ("포인트 회수 실패: " ++ used.1.message))
    else .ok { db with ledger := used.2 }

/-- `return_obj.status = "completed"`. -/
def markCompleted (now : Time) (r : Return) : Return :=
  { r with status := .completed, completedAt := some now }

/-- The quantity of all completed refund returns of the order. -/
def returnedQuantity (db : Db) (o : OrderId) : Int :=
  db.returns.sum fun _ r =>
    if isCompleted o r then (r.items.map fun it => (it.quantity : Int)).sum else 0

/-- `order.order_items.aggregate(q=Sum("quantity"))`. -/
def orderedQuantity (order : Order) : Int := (order.items.map fun it => (it.quantity : Int)).sum

/-- Step 7 of `complete_refund`: the return is completed, and the order is
refunded once everything came back. -/
def finishReturn (db : Db) (now : Time) (id : Nat) (o : OrderId) (order : Order) : Db :=
  let completed := { db with returns := db.returns.modify id (markCompleted now) }
  if orderedQuantity order ≤ returnedQuantity completed o then
    completed.saveOrder o (Order.withStatus .refunded now)
  else completed

/-- `complete_refund`; `toss` is the provider's answer to the cancellation. -/
def completeRefund (db : Db) (now : Time) (id : Nat)
    (toss : Except TossPaymentError TossPayment) : Except ShopError (RefundSplit × Db) :=
  match db.returns.get? id with
  | none => .error (.db .doesNotExist)
  | some r =>
    if r.type ≠ .refund then .error (.valueError "환불 타입에서만 사용 가능합니다.")
    else if r.status ≠ .received then
      .error (.valueError "반품 도착 상태에서만 환불 처리할 수 있습니다.")
    else if isSettled db id then .error (.valueError "이미 환불 처리된 반품입니다.")
    else do
      let order ← db.getOrder r.order
      let s := refundSplit db order r
      checkEarned db now r.user s
      checkBalance (db.payments.ofOrder? r.order) s.cashBack
      let paid ← refundCash db now id r s.cashBack toss
      let restocked := { paid with products := restockReturned paid.products r.items }
      let repaid :=
        if 0 < s.pointsBack then
          restocked.refundUsedPoints now r.user s.pointsBack r.order .cancelRefund (some id)
        else restocked
      let reclaimed ← reclaimShare repaid now id r s.earnedBack
      .ok (s, finishReturn reclaimed now id r.order order)

/-! ## Completing an exchange -/

/-- The product that goes out in exchange. -/
def takeExchangeProduct (products : Table Product) :
    Option ProductId → Except ShopError (Table Product)
  | none => .ok products
  | some k =>
    match products.get? k with
    | none => .error (.db .doesNotExist)
    | some p =>
      if p.stock < 1 then
        .error (.valueError ("교환 상품(" ++ p.name
          ++ ")의 재고가 부족합니다. 환불로 전환하거나 재입고를 기다려주세요."))
      else .ok (products.modify k (addStock (-1)))

/-- The loop over the return items: each product that is still there is
locked and gets its quantity back. -/
def restockExchanged (products : Table Product) :
    List ReturnItem → Except ShopError (Table Product)
  | [] => .ok products
  | it :: rest =>
    match it.product with
    | none => restockExchanged products rest
    | some k =>
      match products.get? k with
      | none => .error (.db .doesNotExist)
      | some _ => restockExchanged (products.modify k (addStock it.quantity)) rest

/-- `complete_exchange`. -/
def completeExchange (db : Db) (now : Time) (id : Nat) : Except ShopError Db :=
  match db.returns.get? id with
  | none => .error (.db .doesNotExist)
  | some r =>
    if r.type ≠ .exchange then .error (.valueError "교환 타입에서만 사용 가능합니다.")
    else if r.status ≠ .received then
      .error (.valueError "반품 도착 상태에서만 교환 처리할 수 있습니다.")
    else do
      let taken ← takeExchangeProduct db.products r.exchangeProduct
      let restocked ← restockExchanged taken r.items
      .ok { db with products := restocked, returns := db.returns.modify id (markCompleted now) }

end ReturnService

end Shopping
