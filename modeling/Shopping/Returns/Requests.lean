import Shopping.Returns.Service

/-!
# Requesting a return

The first half of `ReturnService` and `ReturnCreateSerializer`: what is checked
when a customer asks for a return, and `create_return`.  The checks read the
database without a lock, and `create_return` does not make them again, so the
two are separate functions with a `ReturnRequest` between them.

After it the steps to a return that has arrived: `approve_return`,
`reject_return` and `confirm_receive_return`, which lock the row, and the two
actions of the customer, which do not: the tracking number of
`ReturnUpdateSerializer` and `destroy`.

An order item has no key here; its place in the order stands for it.
-/

namespace Shopping

/-- An entry of `items`; the field admits no quantity below 1. -/
structure ReturnLine where
  orderItem : Nat
  quantity : Nat
  positive : 0 < quantity := by decide
  deriving DecidableEq, Repr

/-- The body of the request. -/
structure ReturnData where
  orderId : Option OrderId
  type : ReturnType := .refund
  lines : List ReturnLine
  refundAccountBank : String := ""
  refundAccountNumber : String := ""
  exchangeProduct : Option ProductId := none
  deriving DecidableEq, Repr

/-- `validated_data`; the exchange product is the row that the field read. -/
structure ReturnRequest where
  order : OrderId
  user : UserId
  type : ReturnType
  lines : List ReturnLine
  exchangeProduct : Option (ProductId × Product) := none
  deriving DecidableEq, Repr

namespace ReturnStatus

/-- The statuses of a return that is being processed. -/
def isOpen : ReturnStatus → Bool
  | .requested | .approved | .shipping | .received => true
  | _ => false

end ReturnStatus

namespace ReturnService

/-! ## Checking -/

/-- `validate_order_for_return`. -/
def validateOrderForReturn (db : Db) (now : Time) (o : OrderId) (order : Order) :
    Except ShopError Unit :=
  if order.status ≠ .delivered then
    .error (.validationError "배송 완료된 주문만 신청 가능합니다.")
  else if 7 < (now - order.createdAt) / (24 * 60 * 60) then
    .error (.validationError "배송 완료 후 7일이 지나 신청할 수 없습니다.")
  else if db.returns.any fun _ r => decide (r.order = o) && r.status.isOpen then
    .error (.validationError "이미 처리 중인 교환/환불이 있습니다.")
  else .ok ()

/-- The quantity of the order item `i` in the items of a return. -/
def itemQuantity (i : Nat) (items : List ReturnItem) : Int :=
  (items.map fun it => if it.orderItem = i then (it.quantity : Int) else 0).sum

/-- `already_returned`: what completed refund returns have of the item. -/
def alreadyReturned (db : Db) (o : OrderId) (i : Nat) : Int :=
  db.returns.sum fun _ r => if isCompleted o r then itemQuantity i r.items else 0

/-- The loop of `validate_return_items`. -/
def validateLines (db : Db) (o : OrderId) (order : Order) : List ReturnLine → Except ShopError Unit
  | [] => .ok ()
  | line :: rest =>
    match order.items[line.orderItem]? with
    | none =>
      .error (.validationError
        ("주문 상품(ID: " ++ toString line.orderItem ++ ")을 찾을 수 없습니다."))
    | some it =>
      let returnable := it.quantity - alreadyReturned db o line.orderItem
      if returnable < line.quantity then
        .error (.validationError
          (it.productName ++ ": 반품 수량(" ++ toString line.quantity ++ ")이 반품 가능 수량("
            ++ toString returnable ++ ")을 초과할 수 없습니다."))
      else validateLines db o order rest

/-- `validate_return_items`. -/
def validateReturnItems (db : Db) (o : OrderId) (order : Order) (lines : List ReturnLine) :
    Except ShopError Unit :=
  if lines = [] then .error (.validationError "반품할 상품을 선택해주세요.")
  else validateLines db o order lines

/-- The field `exchange_product`: the product is read by its key. -/
def readExchangeProduct (db : Db) :
    Option ProductId → Except ShopError (Option (ProductId × Product))
  | none => .ok none
  | some k =>
    match db.products.get? k with
    | none =>
      .error (.validationError
        ("유효하지 않은 pk \"" ++ toString k ++ "\" - 객체가 존재하지 않습니다."))
    | some p => .ok (some (k, p))

/-- `ReturnCreateSerializer.validate`. -/
def validateRequest (db : Db) (now : Time) (user : UserId) (data : ReturnData) :
    Except ShopError ReturnRequest := do
  let exchangeProduct ← readExchangeProduct db data.exchangeProduct
  match data.orderId.filter fun o => decide (o ≠ 0) with
  | none => .error (.validationError "주문 ID가 필요합니다.")
  | some o =>
    match (db.orders.get? o).filter fun order => decide (order.user = user) with
    | none => .error (.validationError "주문을 찾을 수 없습니다.")
    | some order => do
      validateOrderForReturn db now o order
      if data.type = .refund ∧ (data.refundAccountBank = "" ∨ data.refundAccountNumber = "") then
        .error (.validationError "환불 계좌 정보를 입력해주세요.")
      else do
        validateReturnItems db o order data.lines
        .ok
          { order := o, user := user, type := data.type, lines := data.lines
            exchangeProduct := exchangeProduct }

/-! ## Creating -/

/-- The rows of the return items, with the prices of the order items. -/
def returnItems (order : Order) : List ReturnLine → Except ShopError (List ReturnItem)
  | [] => .ok []
  | line :: rest =>
    match order.items[line.orderItem]? with
    | none => .error (.db .doesNotExist)
    | some it => (returnItems order rest).map fun items =>
      { product := it.product, quantity := line.quantity, orderItem := line.orderItem
        productPrice := it.price } :: items

/-- The checks of an exchange, which only look at the stock: the product that
goes out. -/
def checkExchange (db : Db) (exchangeProduct : Option (ProductId × Product))
    (items : List ReturnItem) : Except ShopError (Option ProductId) :=
  if 1 < items.length ∧ exchangeProduct = none then
    .error (.validationError
      "여러 상품 교환 시 교환받을 상품을 선택해주세요. 또는 환불 후 재구매를 권장합니다.")
  else
    match exchangeProduct with
    | some (k, p) =>
      if p.stock < 1 then .error (.validationError "교환 상품의 재고가 부족합니다.")
      else .ok (some k)
    | none =>
      match items with
      | [] => .ok none
      | first :: _ =>
        match first.product.bind fun k => (db.products.get? k).map fun p => (k, p) with
        | none =>
          .error (.validationError
            "해당 상품이 삭제되어 동일 상품 교환이 불가합니다. 환불을 신청해주세요.")
        | some (k, p) =>
          if p.stock < 1 then
            .error (.validationError ("동일 상품(" ++ p.name
              ++ ")의 재고가 부족합니다. 다른 상품으로 교환하거나 환불을 신청해주세요."))
          else .ok (some k)

/-- The `exchange_product` that is stored. -/
def exchangeProductOf (db : Db) (request : ReturnRequest) (items : List ReturnItem) :
    Except ShopError (Option ProductId) :=
  if request.type = .exchange then checkExchange db request.exchangeProduct items
  else .ok (request.exchangeProduct.map Prod.fst)

/-- `calculate_refund_amount`. -/
def calculateRefundAmount (items : List ReturnItem) : Int :=
  (items.map fun it => it.productPrice * (it.quantity : Int)).sum

/-- `create_return`, under the number that `generate_return_number` answers.
The number is unique, and so is an order item within one return. -/
def createReturn (db : Db) (returnNumber : String) (request : ReturnRequest) :
    Except ShopError (Nat × Db) := do
  let order ← db.getOrder request.order
  let items ← returnItems order request.lines
  let exchangeProduct ← exchangeProductOf db request items
  if db.returns.any fun _ r => decide (r.returnNumber = returnNumber) then
    .error (.db .integrityError)
  else if ¬ (request.lines.map ReturnLine.orderItem).Nodup then .error (.db .integrityError)
  else
    let row : Return :=
      { order := request.order
        user := request.user
        returnNumber := returnNumber
        type := request.type
        refundAmount := if request.type = .refund then calculateRefundAmount items else 0
        items := items
        exchangeProduct := exchangeProduct }
    .ok (db.returns.next, { db with returns := db.returns.insert row })

/-! ## Moving a return on -/

/-- Lock a return, check its status and change the row, or raise the message. -/
def moveReturn (db : Db) (id : Nat) (source : ReturnStatus) (change : Return → Return)
    (message : String) : Except ShopError Db :=
  match db.returns.get? id with
  | none => .error (.db .doesNotExist)
  | some r =>
    if r.status ≠ source then .error (.valueError message)
    else .ok { db with returns := db.returns.modify id change }

/-- The row that `approve_return` saves. -/
def markApproved (now : Time) (r : Return) : Return :=
  { r with status := .approved, approvedAt := some now }

/-- The row that `reject_return` saves. -/
def markRejected (reason : String) (r : Return) : Return :=
  { r with status := .rejected, rejectedReason := reason }

/-- The row that `confirm_receive_return` saves. -/
def markReceived (r : Return) : Return := { r with status := .received }

/-- `approve_return`. -/
def approveReturn (db : Db) (now : Time) (id : Nat) : Except ShopError Db :=
  moveReturn db id .requested (markApproved now) "신청 상태에서만 승인할 수 있습니다."

/-- `reject_return`. -/
def rejectReturn (db : Db) (id : Nat) (reason : String) : Except ShopError Db :=
  moveReturn db id .requested (markRejected reason) "신청 상태에서만 거부할 수 있습니다."

/-- `confirm_receive_return`. -/
def confirmReceiveReturn (db : Db) (id : Nat) : Except ShopError Db :=
  moveReturn db id .shipping markReceived "배송 중 상태에서만 수령 확인할 수 있습니다."

/-! ## The two actions of the customer -/

/-- `ReturnUpdateSerializer.validate`: the row, which was read without a lock. -/
def readForTracking (db : Db) (id : Nat) (shippingCompany trackingNumber : String) :
    Except ShopError Return :=
  match db.returns.get? id with
  | none => .error (.db .doesNotExist)
  | some r =>
    if r.status ≠ .approved then
      .error (.validationError "승인된 신청만 송장번호를 입력할 수 있습니다.")
    else if shippingCompany = "" ∨ trackingNumber = "" then
      .error (.validationError "택배사와 송장번호를 모두 입력해주세요.")
    else .ok r

/-- `ReturnUpdateSerializer.update`: the whole row is written as it was read.
The items are rows of their own, which this does not write. -/
def updateTracking (db : Db) (id : Nat) (row : Return) : Db :=
  let items := (db.returns.get? id).elim [] Return.items
  { db with returns := db.returns.put id { row with status := .shipping, items := items } }

/-- The checks of `destroy`, on the row that `get_object` read. -/
def readForDestroy (db : Db) (user : UserId) (id : Nat) : Except ShopError Unit :=
  match (db.returns.get? id).filter fun r => decide (r.user = user) with
  | none => .error (.db .doesNotExist)
  | some r =>
    if r.status ≠ .requested then
      .error (.validationError "신청 상태에서만 취소할 수 있습니다.")
    else .ok ()

/-- `return_obj.delete()`, of a row that may be gone already. -/
def deleteReturn (db : Db) (id : Nat) : Db :=
  { db with returns := db.returns.delete fun k _ => k == id }

end ReturnService

end Shopping
