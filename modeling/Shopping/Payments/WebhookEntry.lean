import Shopping.Lib.Json
import Shopping.Payments.Webhook

/-!
# The webhook entry

`shopping/webhooks/toss_webhook_view.py` and the two serializers that it reads
a body with.  Everybody can post a body, and of what it says only the payment
key and the order number are used: `received` is the part up to the handler,
and what it answers is the payment as the provider reports it.

The provider is the parameter `ask`: the answer of `get_payment` to a key,
which is put into the address as it stands in the body.  `WebhookEnv` is what
the model leaves open of texts: how an order number is written, and what
Python makes of a number of the body.
-/

namespace Shopping

/-! ## Texts and members -/

/-- The value of a member; of a key that stands there twice, the last one. -/
def Json.member? (fields : List (String × Json)) (key : String) : Option Json :=
  (fields.reverse.find? fun f => decide (f.1 = key)).map Prod.snd

/-- The value is the string. -/
def Json.isText (s : String) : Json → Bool
  | .string t => decide (t = s)
  | _ => false

/-- `str.isspace` of one character. -/
def isSpaceChar (c : Char) : Bool :=
  decide (c.toNat ∈ [0x09, 0x0A, 0x0B, 0x0C, 0x0D, 0x1C, 0x1D, 0x1E, 0x1F, 0x20, 0x85, 0xA0,
    0x1680, 0x2000, 0x2001, 0x2002, 0x2003, 0x2004, 0x2005, 0x2006, 0x2007, 0x2008, 0x2009, 0x200A,
    0x2028, 0x2029, 0x202F, 0x205F, 0x3000])

/-- `str.strip`. -/
def strip (s : String) : String :=
  String.ofList (((s.toList.dropWhile isSpaceChar).reverse.dropWhile isSpaceChar).reverse)

/-- What the texts of the view depend on. -/
structure WebhookEnv where
  /-- `toss_order_id` as it is stored and sent. -/
  text : TossOrderId → String
  /-- `str` of a number. -/
  str : String → String
  /-- A number that is false. -/
  isZero : String → Bool

/-- `bool(value)`. -/
def Json.isTruthy (env : WebhookEnv) : Json → Bool
  | .null => false
  | .bool b => b
  | .number lexeme => !env.isZero lexeme
  | .string s => decide (s ≠ "")
  | .array items => !items.isEmpty
  | .object fields => !fields.isEmpty

/-! ## The serializers -/

/-- What a field is refused for; `message` is a text of the serializer itself. -/
inductive FieldError where
  | required
  | null
  | blank
  | notAString
  | nullCharacters
  | notADictionary
  | noData
  | message (text : String)
  deriving DecidableEq, Repr

/-- `serializer.errors`, in the order of the fields. -/
abbrev SerializerErrors := List (String × FieldError)

/-- The text of a `CharField`. -/
def charText (s : String) : Except FieldError String :=
  if strip s = "" then .error .blank
  else if s.toList.contains '\x00' then .error .nullCharacters
  else .ok (strip s)

/-- `CharField().run_validation`. -/
def charField (env : WebhookEnv) : Json → Except FieldError String
  | .null => .error .null
  | .string s => charText s
  | .number lexeme => charText (env.str lexeme)
  | .bool _ | .array _ | .object _ => .error .notAString

/-- A field of the body that must be there. -/
def requiredField (env : WebhookEnv) : Option Json → Except FieldError String
  | none => .error .required
  | some value => charField env value

/-- A field with `required=False`. -/
def optionalField (env : WebhookEnv) : Option Json → Except FieldError (Option String)
  | none => .ok none
  | some value => (charField env value).map some

/-- `data`, with `validate_data`. -/
def dataField : Option Json → Except FieldError (List (String × Json))
  | none => .error .required
  | some .null => .error .null
  | some (.object fields) => .ok fields
  | some _ => .error (.message "data must be an object.")

/-- The errors of one field. -/
def errorsOf {α : Type} (name : String) : Except FieldError α → SerializerErrors
  | .ok _ => []
  | .error e => [(name, e)]

/-- `validated_data` of `PaymentWebhookSerializer`. -/
structure PaymentWebhook where
  eventType : String
  createdAt : Option String
  data : List (String × Json)

namespace PaymentWebhook

/-- `SUPPORTED_EVENTS`. -/
def supportedEvents : List String := ["PAYMENT_STATUS_CHANGED"]

/-- `is_supported`, as `validate_eventType` leaves it. -/
def isSupported (w : PaymentWebhook) : Bool := decide (w.eventType ∈ supportedEvents)

/-- `PaymentWebhookSerializer(data=body).is_valid()`. -/
def ofBody (env : WebhookEnv) : Json → Except SerializerErrors PaymentWebhook
  | .null => .error [("non_field_errors", .noData)]
  | .object fields =>
    let eventType := requiredField env (Json.member? fields "eventType")
    let createdAt := optionalField env (Json.member? fields "createdAt")
    let data := dataField (Json.member? fields "data")
    match eventType, createdAt, data with
    | .ok eventType, .ok createdAt, .ok data => .ok ⟨eventType, createdAt, data⟩
    | _, _, _ => .error (errorsOf "eventType" eventType ++ errorsOf "createdAt" createdAt ++
        errorsOf "data" data)
  | .bool _ | .number _ | .string _ | .array _ => .error [("non_field_errors", .notADictionary)]

end PaymentWebhook

/-- `validated_data` of `DepositCallbackSerializer`. -/
structure DepositCallback where
  createdAt : Option String
  secret : String
  status : String
  transactionKey : Option String
  orderId : String
  deriving DecidableEq, Repr

/-- `DepositCallbackSerializer(data=payload).is_valid()`. -/
def DepositCallback.ofPayload (env : WebhookEnv) (fields : List (String × Json)) :
    Except SerializerErrors DepositCallback :=
  let createdAt := optionalField env (Json.member? fields "createdAt")
  let secret := requiredField env (Json.member? fields "secret")
  let status := requiredField env (Json.member? fields "status")
  let transactionKey := optionalField env (Json.member? fields "transactionKey")
  let orderId := requiredField env (Json.member? fields "orderId")
  match createdAt, secret, status, transactionKey, orderId with
  | .ok createdAt, .ok secret, .ok status, .ok transactionKey, .ok orderId =>
    .ok ⟨createdAt, secret, status, transactionKey, orderId⟩
  | _, _, _, _, _ => .error (errorsOf "createdAt" createdAt ++ errorsOf "secret" secret ++
      errorsOf "status" status ++ errorsOf "transactionKey" transactionKey ++
      errorsOf "orderId" orderId)

namespace TossWebhookView

open TossWebhookService

/-! ## The view -/

/-- What the view answers; `raises` is an error that nothing catches. -/
inductive WebhookReply where
  | message (text : String)
  | error (text : String) (statusCode : Nat)
  | invalid (errors : SerializerErrors)
  | raises
  deriving DecidableEq, Repr

/-- `get_payment`: what the provider answers to a payment key. -/
abbrev Ask := Json → Except TossPaymentError TossPayment

/-- `_is_deposit_callback`. -/
def isDepositCallback (fields : List (String × Json)) : Bool :=
  (Json.member? fields "eventType").isNone && (Json.member? fields "secret").isSome

/-- `_lookup_and_dispatch`, up to the handler. -/
def lookUp (env : WebhookEnv) (ask : Ask) (paymentKey orderId : Json) :
    Except WebhookReply TossPayment :=
  match ask paymentKey with
  | .error e =>
    if e.statusCode = 404 then .error (.error "Unknown payment" 400)
    else .error (.error "Payment lookup failed" 500)
  | .ok info =>
    if info.orderId.any fun id => orderId.isText (env.text id) then .ok info
    else .error (.error "orderId mismatch" 400)

/-- `hmac.compare_digest(secret, payment.toss_secret)`, which raises on a
character that is not ASCII. -/
def compareDigest (a b : String) : Option Bool :=
  let isAscii := fun c : Char => decide (c.toNat < 128)
  if a.toList.all isAscii && b.toList.all isAscii then some (decide (a = b)) else none

/-- `Payment.objects.filter(toss_order_id=order_id).first()`. -/
def paymentOfText (env : WebhookEnv) (db : Db) (orderId : String) : Option Payment :=
  (db.payments.table.find? fun _ p => decide (env.text p.tossOrderId = orderId)).map Prod.snd

/-- `_handle_deposit_callback`, up to the handler. -/
def handleDepositCallback (env : WebhookEnv) (db : Db) (ask : Ask)
    (fields : List (String × Json)) : Except WebhookReply TossPayment :=
  match DepositCallback.ofPayload env fields with
  | .error errors => .error (.invalid errors)
  | .ok callback =>
    match paymentOfText env db callback.orderId with
    | none => .error (.error "Unknown order" 400)
    | some payment =>
      match Payment.truthy payment.paymentKey with
      | none => .error (.error "Unknown order" 400)
      | some paymentKey =>
        if payment.tossSecret = "" then .error (.error "Invalid secret" 400)
        else
          match compareDigest callback.secret payment.tossSecret with
          | none => .error .raises
          | some false => .error (.error "Invalid secret" 400)
          | some true => lookUp env ask (.string paymentKey) (.string callback.orderId)

/-- `toss_webhook` on a body with `eventType`, up to the handler. -/
def handleStatusChanged (env : WebhookEnv) (ask : Ask) (body : Json) :
    Except WebhookReply TossPayment :=
  match PaymentWebhook.ofBody env body with
  | .error errors => .error (.invalid errors)
  | .ok webhook =>
    if !webhook.isSupported then .error (.message "Event ignored")
    else
      match Json.member? webhook.data "paymentKey", Json.member? webhook.data "orderId" with
      | some paymentKey, some orderId =>
        if paymentKey.isTruthy env && orderId.isTruthy env then lookUp env ask paymentKey orderId
        else .error (.error "paymentKey and orderId are required" 400)
      | _, _ => .error (.error "paymentKey and orderId are required" 400)

/-- `toss_webhook`, up to the handler: what the provider reports, or the reply
that ends the request. -/
def received (env : WebhookEnv) (db : Db) (ask : Ask) (body : Json) :
    Except WebhookReply TossPayment :=
  match body with
  | .object fields =>
    if isDepositCallback fields then handleDepositCallback env db ask fields
    else handleStatusChanged env ask body
  | .null | .bool _ | .number _ | .string _ | .array _ => handleStatusChanged env ask body

/-! ## The handlers -/

/-- The reply after a handler. -/
def processed (db : Db) (sent : List Message) : Outcome WebhookReply :=
  { result := .message "Webhook processed", db := db, sent := sent }

/-- The reply when a handler raises: the provider sends the webhook again. -/
def processingFailed (db : Db) : Outcome WebhookReply :=
  { result := .error "Processing failed" 500, db := db }

/-- The payment that `handle_payment_failed` reads, when it goes on. -/
def readFailure (db : Db) (info : TossPayment) : Option (Nat × Payment) :=
  (info.orderId.bind db.payments.ofTossOrderId?).filter fun e => acceptsFailure e.2

/-- The writes of `handle_payment_failed`, on the row it read.  They are not in
a transaction: when the broker does not take the rollback, the payment stays
closed and the log is missing. -/
def saveFailure (db : Db) (now : Time) (k : Nat) (payment : Payment) (info : TossPayment)
    (published : Bool) : Outcome WebhookReply :=
  match failPayment db now k payment info true with
  | .error _ => processingFailed db
  | .ok out =>
    if published || out.sent.isEmpty then processed out.db out.sent
    else processingFailed { out.db with logs := db.logs }

/-- A handler that is one transaction. -/
def handleLocked (db : Db) (now : Time) (info : TossPayment) : Outcome WebhookReply :=
  match dispatch db now info with
  | .error _ => processingFailed db
  | .ok db' => processed db' []

/-- The status is one that `handle_payment_failed` takes. -/
def reportsFailure (info : TossPayment) : Bool :=
  decide (info.status = some .aborted ∨ info.status = some .expired)

/-- The `try` of `_lookup_and_dispatch`. -/
def process (db : Db) (now : Time) (info : TossPayment) (published : Bool) :
    Outcome WebhookReply :=
  if reportsFailure info then
    match readFailure db info with
    | none => processed db []
    | some (k, payment) => saveFailure db now k payment info published
  else handleLocked db now info

/-- `toss_webhook`. -/
def tossWebhook (env : WebhookEnv) (db : Db) (now : Time) (ask : Ask) (body : Json)
    (published : Bool) : Outcome WebhookReply :=
  match received env db ask body with
  | .error reply => { result := reply, db := db }
  | .ok info => process db now info published

/-! ### What is received -/

section

variable {env : WebhookEnv} {db : Db} {ask : Ask} {info : TossPayment}

/-- A payment that was looked up is the answer of the provider, and has the
order number that was given. -/
theorem lookUp_ok {paymentKey orderId : Json} (h : lookUp env ask paymentKey orderId = .ok info) :
    ask paymentKey = .ok info ∧ ∃ id, info.orderId = some id ∧ orderId = .string (env.text id) := by
  unfold lookUp at h
  split at h
  · split at h
    · cases h
    · cases h
  · rename_i answer hask
    split at h
    · rename_i hany
      cases h
      obtain ⟨id, hid, htext⟩ := (Option.any_eq_true _ _).mp hany
      refine ⟨hask, id, hid, ?_⟩
      cases orderId with
      | string s =>
        rw [of_decide_eq_true htext]
      | null | bool | number | array | object => cases htext
    · cases h

/-- A deposit callback goes on to the payment of the order number, with the key
that the shop has of it. -/
theorem handleDepositCallback_ok {fields : List (String × Json)}
    (h : handleDepositCallback env db ask fields = .ok info) :
    ∃ key id, ask (.string key) = .ok info ∧ info.orderId = some id ∧
      ∃ k p, db.payments.get? k = some p ∧ env.text p.tossOrderId = env.text id ∧
        p.paymentKey = some key ∧ p.tossSecret ≠ "" := by
  unfold handleDepositCallback at h
  split at h
  · cases h
  · rename_i callback _
    split at h
    · cases h
    · rename_i payment hpayment
      split at h
      · cases h
      · rename_i key hkey
        split at h
        · cases h
        · rename_i hsecret
          split at h
          · cases h
          · cases h
          · obtain ⟨hask, id, hid, htext⟩ := lookUp_ok h
            obtain ⟨e, hfind, rfl⟩ := Option.map_eq_some_iff.mp hpayment
            have hfound := Table.find?_eq_some_get hfind
            refine ⟨key, id, hask, hid, e.1, e.2, hfound.1, ?_, ?_, hsecret⟩
            · rw [of_decide_eq_true hfound.2]
              exact Json.string.inj htext
            · exact (Option.filter_eq_some_iff.mp hkey).1

/-- Whatever is posted, what goes on to a handler is an answer of the
provider. -/
theorem received_ok {body : Json} (h : received env db ask body = .ok info) :
    ∃ key id, ask key = .ok info ∧ info.orderId = some id := by
  have hstatus : ∀ body, handleStatusChanged env ask body = .ok info →
      ∃ key id, ask key = .ok info ∧ info.orderId = some id := by
    intro body h
    unfold handleStatusChanged at h
    split at h
    · cases h
    · split at h
      · cases h
      · split at h
        · rename_i paymentKey _ _ _
          split at h
          · obtain ⟨hask, id, hid, _⟩ := lookUp_ok h
            exact ⟨paymentKey, id, hask, hid⟩
          · cases h
        · cases h
  unfold received at h
  split at h
  · split at h
    · obtain ⟨key, id, hask, hid, _⟩ := handleDepositCallback_ok h
      exact ⟨.string key, id, hask, hid⟩
    · exact hstatus _ h
  · exact hstatus _ h
  · exact hstatus _ h
  · exact hstatus _ h
  · exact hstatus _ h
  · exact hstatus _ h

end

end TossWebhookView

end Shopping
