import Shopping.Points.Service

/-!
# What the payment provider sends

The `Payment` object of the provider, as `confirm_payment`, `get_payment` and
`cancel_payment` of `utils/toss_payment.py` return it, and its errors.  A key
of the object can be missing, be there with `null`, or hold a value; `dict.get`
with a default tells the first two apart, so a `Field` does too.

Only the keys that the shop reads are here.
-/

namespace Shopping

/-- A key of a JSON object. -/
inductive Field (α : Type) where
  | absent
  | null
  | value (a : α)
  deriving DecidableEq, Repr

/-- `data.get(key, default)` written to a column that holds no null. -/
def Field.column {α : Type} (default : α) : Field α → Except DbError α
  | .absent => .ok default
  | .null => .error .integrityError
  | .value a => .ok a

/-- `data.get(key)`. -/
def Field.get {α : Type} : Field α → Option α
  | .absent => none
  | .null => none
  | .value a => some a

/-- Whether the column write of the field goes through. -/
def Field.fits {α : Type} : Field α → Bool
  | .null => false
  | _ => true

/-- `toss_order_id`: the order number, or `POINTS-<pk>` of a points payment.
`generate_order_number` makes the order number from the key of the order. -/
inductive TossOrderId where
  | orderNumber (order : OrderId)
  | points (order : OrderId)
  deriving DecidableEq, Repr

/-- `status` of the provider's payment object. -/
inductive TossStatus where
  | ready
  | inProgress
  | waitingForDeposit
  | done
  | canceled
  | partialCanceled
  | aborted
  | expired
  deriving DecidableEq, Repr

/-- `card`. -/
structure TossCard where
  issuerCode : Field String := .absent
  number : Field String := .absent
  installmentPlanMonths : Field Int := .absent
  deriving DecidableEq, Repr

/-- `virtualAccount`. -/
structure TossVirtualAccount where
  bankCode : Field String := .absent
  accountNumber : Field String := .absent
  dueDate : Option Time := none
  deriving DecidableEq, Repr

/-- An entry of `cancels`, and the same two keys of the object itself. -/
structure TossCancel where
  cancelReason : Field String := .absent
  canceledAt : Option Time := none
  deriving DecidableEq, Repr

/-- The payment object.  `card` and `virtualAccount` are `none` when the key
is missing or null, which the shop does not tell apart; `receipt` is the
`url` inside the receipt object. -/
structure TossPayment where
  status : Option TossStatus := none
  orderId : Option TossOrderId := none
  paymentKey : Option String := none
  totalAmount : Option Int := none
  approvedAt : Option Time := none
  method : Field String := .absent
  card : Option TossCard := none
  receipt : Field (Field String) := .absent
  virtualAccount : Option TossVirtualAccount := none
  secret : Option String := none
  cancels : List TossCancel := []
  ownCancel : TossCancel := {}
  failureMessage : Option String := none
  deriving DecidableEq, Repr

/-- `TossPaymentError`. -/
structure TossPaymentError where
  code : String
  message : String
  statusCode : Nat := 400
  deriving DecidableEq, Repr

/-- `TOSS_RECONCILE_ERRORS`. -/
def tossReconcileErrors : List String := ["ALREADY_PROCESSED_PAYMENT", "DUPLICATED_ORDER_ID"]

/-- `TOSS_NON_RETRYABLE_ERRORS`. -/
def tossNonRetryableErrors : List String :=
  ["ALREADY_PROCESSED_PAYMENT", "ALREADY_CANCELED_PAYMENT", "ALREADY_REFUND_PAYMENT",
    "DUPLICATED_ORDER_ID", "INVALID_PAYMENT_KEY", "INVALID_ORDER_ID", "INVALID_AMOUNT",
    "BELOW_MINIMUM_AMOUNT", "INVALID_REQUEST", "INVALID_API_KEY", "UNAPPROVED_ORDER_ID",
    "INVALID_CARD_NUMBER", "INVALID_CARD_EXPIRATION", "INVALID_STOPPED_CARD",
    "INVALID_CARD_LOST_OR_STOLEN", "INVALID_REJECT_CARD", "PAY_PROCESS_CANCELED",
    "PAY_PROCESS_ABORTED", "UNAUTHORIZED_KEY", "REJECT_ACCOUNT_PAYMENT", "REJECT_CARD_PAYMENT",
    "REJECT_CARD_COMPANY", "EXCEED_MAX_AUTH_COUNT", "EXCEED_MAX_DAILY_PAYMENT_COUNT",
    "EXCEED_MAX_PAYMENT_AMOUNT", "EXCEED_MAX_ONE_DAY_AMOUNT", "FORBIDDEN_REQUEST", "FDS_ERROR",
    "NOT_FOUND_PAYMENT", "NOT_FOUND_PAYMENT_SESSION"]

/-- `TOSS_RETRYABLE_ERRORS`. -/
def tossRetryableErrors : List String :=
  ["PROVIDER_ERROR", "FAILED_INTERNAL_SYSTEM_PROCESSING",
    "FAILED_PAYMENT_INTERNAL_SYSTEM_PROCESSING", "COMMON_ERROR", "UNKNOWN_PAYMENT_ERROR",
    "FAILED_CARD_COMPANY_RESPONSE", "NETWORK_ERROR", "TIMEOUT"]

/-- `TOSS_CARD_ISSUER_NAMES.get(code, code)`. -/
def tossCardIssuerName (code : String) : String :=
  match code with
  | "11" => "KB국민카드"
  | "21" => "하나카드"
  | "31" => "BC카드"
  | "41" => "신한카드"
  | "51" => "삼성카드"
  | "61" => "현대카드"
  | "71" => "롯데카드"
  | "91" => "NH농협카드"
  | code => code

end Shopping
