import Shopping.Payments.Records
import Shopping.Payments.Webhook
import Shopping.Returns.Service

/-!
# Responses with nulls

The four recorders of `Payment` on every shape that the provider's object can
have.  A column without null takes a key that is missing and a key that has a
value, and refuses an explicit null; `dict.get` with a default does not catch
it.  `fitsPaid`, `fitsIssued` and `fitsCanceled` say where a null is refused.

`TossPayment.plain` is the object with these keys left out instead of null,
which every recorder takes.  A response that fits is recorded as its plain form
is, so no caller fails because of it (`toss_response_recorded`).
-/

namespace Shopping

/-- The key is left out instead of null. -/
def Field.plain {α : Type} : Field α → Field α
  | .null => .absent
  | f => f

def TossCard.plain (card : TossCard) : TossCard where
  issuerCode := card.issuerCode.plain
  number := card.number.plain
  installmentPlanMonths := card.installmentPlanMonths.plain

def TossVirtualAccount.plain (account : TossVirtualAccount) : TossVirtualAccount :=
  { account with
    bankCode := account.bankCode.plain
    accountNumber := account.accountNumber.plain }

def TossCancel.plain (cancel : TossCancel) : TossCancel :=
  { cancel with cancelReason := cancel.cancelReason.plain }

/-- `receipt` and its `url`. -/
def plainReceipt : Field (Field String) → Field (Field String)
  | .value url => .value url.plain
  | _ => .absent

/-- The object without a null in the keys that are recorded. -/
def TossPayment.plain (data : TossPayment) : TossPayment :=
  { data with
    method := data.method.plain
    card := data.card.map TossCard.plain
    receipt := plainReceipt data.receipt
    virtualAccount := data.virtualAccount.map TossVirtualAccount.plain
    cancels := data.cancels.map TossCancel.plain
    ownCancel := data.ownCancel.plain }

/-- `mark_as_canceled` and `mark_as_partial_canceled` go through. -/
def TossPayment.fitsCanceled (data : TossPayment) : Bool :=
  (Payment.latestCancel data).cancelReason.fits

section

variable {α : Type} {f : Field α} {data : TossPayment}

theorem Field.plain_of_fits (h : f.fits = true) : f.plain = f := by
  cases f with
  | absent => rfl
  | null => cases h
  | value a => rfl

@[simp] theorem Field.fits_plain (f : Field α) : f.plain.fits = true := by
  cases f with
  | absent => rfl
  | null => rfl
  | value a => rfl

@[simp] theorem Field.get_plain (f : Field α) : f.plain.get = f.get := by
  cases f with
  | absent => rfl
  | null => rfl
  | value a => rfl

/-! ## The plain form -/

theorem TossCard.plain_of_fits {card : TossCard} (h : card.fits = true) : card.plain = card := by
  unfold TossCard.fits at h
  rw [Bool.and_eq_true, Bool.and_eq_true] at h
  unfold TossCard.plain
  rw [Field.plain_of_fits h.1.1, Field.plain_of_fits h.1.2, Field.plain_of_fits h.2]

@[simp] theorem TossCard.fits_plain (card : TossCard) : card.plain.fits = true := by
  simp [TossCard.fits, TossCard.plain]

theorem plainReceipt_of_fits (h : data.receiptFits = true) :
    plainReceipt data.receipt = data.receipt := by
  unfold TossPayment.receiptFits at h
  cases hreceipt : data.receipt with
  | absent => rfl
  | null =>
    rw [hreceipt] at h
    cases h
  | value url =>
    rw [hreceipt] at h
    exact congrArg Field.value (Field.plain_of_fits h)

theorem receiptFits_plain (data : TossPayment) : data.plain.receiptFits = true := by
  unfold TossPayment.receiptFits TossPayment.plain
  cases data.receipt with
  | absent => rfl
  | null => rfl
  | value url => exact url.fits_plain

theorem latestCancel_plain (data : TossPayment) :
    Payment.latestCancel data.plain = (Payment.latestCancel data).plain := by
  unfold Payment.latestCancel TossPayment.plain
  dsimp only
  rw [List.getLastD_map]

/-- Every recorder takes the plain form. -/
theorem fits_plain (data : TossPayment) :
    data.plain.fitsPaid = true ∧ data.plain.fitsIssued = true ∧ data.plain.fitsCanceled = true := by
  refine ⟨?_, ?_, ?_⟩
  · unfold TossPayment.fitsPaid
    rw [receiptFits_plain]
    cases hcard : data.card with
    | none => simp [TossPayment.plain, hcard]
    | some card => simp [TossPayment.plain, hcard]
  · unfold TossPayment.fitsIssued TossPayment.plain
    cases data.virtualAccount with
    | none => rfl
    | some account => simp [TossVirtualAccount.plain]
  · unfold TossPayment.fitsCanceled
    rw [latestCancel_plain]
    exact Field.fits_plain _

namespace Payment

/-- A response that fits is recorded as its plain form is. -/
theorem markAsPaid_plain (p : Payment) (now : Time) (h : data.fitsPaid = true) :
    p.markAsPaid now data.plain = p.markAsPaid now data := by
  unfold TossPayment.fitsPaid at h
  rw [Bool.and_eq_true, Bool.and_eq_true] at h
  obtain ⟨⟨hreceipt, hmethod⟩, hcard⟩ := h
  have hmethod' : data.plain.method = data.method := Field.plain_of_fits hmethod
  have hreceipt' : receiptUrlOf data.plain = receiptUrlOf data := by
    unfold receiptUrlOf
    rw [show data.plain.receipt = data.receipt from plainReceipt_of_fits hreceipt]
  have hcard' : data.plain.card = data.card := by
    show data.card.map TossCard.plain = data.card
    cases hc : data.card with
    | none => rfl
    | some card =>
      rw [hc, Option.all_some] at hcard
      rw [Option.map_some, TossCard.plain_of_fits hcard]
  unfold markAsPaid
  rw [hreceipt', hmethod', hcard']
  rfl

theorem markAsWaitingForDeposit_plain (p : Payment) (now : Time) (h : data.fitsIssued = true) :
    p.markAsWaitingForDeposit now data.plain = p.markAsWaitingForDeposit now data := by
  unfold TossPayment.fitsIssued at h
  rw [Bool.and_eq_true] at h
  have haccount : data.plain.virtualAccount.getD {} = data.virtualAccount.getD {} := by
    unfold TossPayment.plain
    cases hv : data.virtualAccount with
    | none => rfl
    | some account =>
      rw [hv] at h
      obtain ⟨hbank, hnumber⟩ :
        account.bankCode.fits = true ∧ account.accountNumber.fits = true := h
      rw [Option.map_some, Option.getD_some, Option.getD_some]
      unfold TossVirtualAccount.plain
      rw [Field.plain_of_fits hbank, Field.plain_of_fits hnumber]
  have hmethod : data.plain.method.get = data.method.get := Field.get_plain data.method
  unfold markAsWaitingForDeposit
  rw [haccount, hmethod]
  rfl

theorem latestCancel_of_fits (h : data.fitsCanceled = true) :
    latestCancel data.plain = latestCancel data := by
  rw [latestCancel_plain]
  unfold TossCancel.plain
  rw [Field.plain_of_fits h]

theorem markAsCanceled_plain (p : Payment) (now : Time) (h : data.fitsCanceled = true) :
    p.markAsCanceled now data.plain = p.markAsCanceled now data := by
  unfold markAsCanceled
  rw [latestCancel_of_fits h]

theorem markAsPartialCanceled_plain (p : Payment) (now : Time) (amount : Int)
    (h : data.fitsCanceled = true) :
    p.markAsPartialCanceled now amount data.plain = p.markAsPartialCanceled now amount data := by
  unfold markAsPartialCanceled
  rw [latestCancel_of_fits h]

theorem markAsCanceled_returns (p : Payment) (now : Time) (data : TossPayment) :
    (∃ q, p.markAsCanceled now data = .ok q) ↔ data.fitsCanceled = true := by
  simp only [markAsCanceled, bind_eq_ok, TossPayment.fitsCanceled, ← column_returns ""]
  constructor
  · rintro ⟨_, reason, hreason, _⟩
    exact ⟨reason, hreason⟩
  · rintro ⟨reason, hreason⟩
    exact ⟨_, reason, hreason, rfl⟩

theorem markAsPartialCanceled_returns (p : Payment) (now : Time) (amount : Int)
    (data : TossPayment) :
    (∃ q, p.markAsPartialCanceled now amount data = .ok q) ↔ data.fitsCanceled = true := by
  simp only [markAsPartialCanceled, bind_eq_ok, TossPayment.fitsCanceled, ← column_returns ""]
  constructor
  · intro ⟨_, reason, hreason, _⟩
    exact ⟨reason, hreason⟩
  · intro ⟨reason, hreason⟩
    exact ⟨_, reason, hreason, rfl⟩

end Payment

/-! ## The callers -/

open PaymentService PaymentTasks TossWebhookService ReturnService

theorem finalizePaymentConfirm_plain (db : Db) (now : Time) (k : Nat) (user : UserId)
    (published : Bool)
    (h : if data.status = some .waitingForDeposit then data.fitsIssued = true
      else data.fitsPaid = true) :
    finalizePaymentConfirm db now data.plain k user published
      = finalizePaymentConfirm db now data k user published := by
  unfold finalizePaymentConfirm recordVirtualAccountIssued
  rw [show data.plain.status = data.status from rfl]
  by_cases hst : data.status = some .waitingForDeposit
  · rw [if_pos hst] at h
    simp only [if_pos hst, Payment.markAsWaitingForDeposit_plain _ _ h]
  · rw [if_neg hst] at h
    simp only [if_neg hst, Payment.markAsPaid_plain _ _ h]

theorem handlePaymentDone_plain (db : Db) (now : Time) (h : data.fitsPaid = true) :
    handlePaymentDone db now data.plain = handlePaymentDone db now data := by
  unfold handlePaymentDone
  rw [show data.plain.orderId = data.orderId from rfl]
  simp only [Payment.markAsPaid_plain _ _ h]

theorem cancelPayment_plain (db : Db) (now : Time) (k : Nat) (user : UserId)
    (h : data.fitsCanceled = true) :
    cancelPayment db now k user (.ok data.plain) = cancelPayment db now k user (.ok data) := by
  unfold cancelPayment
  simp only [Payment.markAsCanceled_plain _ _ h]

theorem completeRefund_plain (db : Db) (now : Time) (id : Nat) (h : data.fitsCanceled = true) :
    completeRefund db now id (.ok data.plain) = completeRefund db now id (.ok data) := by
  unfold completeRefund refundCash
  simp only [Payment.markAsPartialCanceled_plain _ _ _ h]

end

open PaymentService PaymentTasks TossWebhookService ReturnService

/-- Each recorder goes through, for every payment, exactly when the keys that
it writes are not null.  A caller whose recorder goes through does what it does
on the plain form of the response, which every recorder takes. -/
theorem toss_response_recorded (data : TossPayment) :
    (∀ (p : Payment) now, (∃ q, p.markAsPaid now data = .ok q) ↔ data.fitsPaid = true) ∧
    (∀ (p : Payment) now,
      (∃ q, p.markAsWaitingForDeposit now data = .ok q) ↔ data.fitsIssued = true) ∧
    (∀ (p : Payment) now,
      (∃ q, p.markAsCanceled now data = .ok q) ↔ data.fitsCanceled = true) ∧
    (∀ (p : Payment) now amount,
      (∃ q, p.markAsPartialCanceled now amount data = .ok q) ↔ data.fitsCanceled = true) ∧
    (data.plain.fitsPaid = true ∧ data.plain.fitsIssued = true ∧
      data.plain.fitsCanceled = true) ∧
    ((if data.status = some .waitingForDeposit then data.fitsIssued = true
        else data.fitsPaid = true) →
      ∀ db now k user published, finalizePaymentConfirm db now data.plain k user published
        = finalizePaymentConfirm db now data k user published) ∧
    (data.fitsPaid = true → ∀ db now, handlePaymentDone db now data.plain
      = handlePaymentDone db now data) ∧
    (data.fitsCanceled = true → ∀ db now k user, cancelPayment db now k user (.ok data.plain)
      = cancelPayment db now k user (.ok data)) ∧
    (data.fitsCanceled = true → ∀ db now id, completeRefund db now id (.ok data.plain)
      = completeRefund db now id (.ok data)) :=
  ⟨fun p now => Payment.markAsPaid_returns p now data,
    fun p now => Payment.markAsWaitingForDeposit_returns p now data,
    fun p now => Payment.markAsCanceled_returns p now data,
    fun p now amount => Payment.markAsPartialCanceled_returns p now amount data,
    fits_plain data,
    fun h db now k user published => finalizePaymentConfirm_plain db now k user published h,
    fun h db now => handlePaymentDone_plain db now h,
    fun h db now k user => cancelPayment_plain db now k user h,
    fun h db now id => completeRefund_plain db now id h⟩

/-- A transfer that the provider approved without a receipt. -/
def unreceipted : TossPayment where
  status := some .done
  paymentKey := some "key"
  approvedAt := some 5
  method := .value "계좌이체"
  receipt := .null

/-- `mark_as_paid` raises on it, for every payment and at every time; with the
key left out it does not. -/
theorem null_receipt_raises :
    (∀ (p : Payment) now, p.markAsPaid now unreceipted = .error .attributeError) ∧
    ∀ (p : Payment) now, ∃ q, p.markAsPaid now unreceipted.plain = .ok q :=
  ⟨fun _ _ => rfl, fun _ _ => ⟨_, rfl⟩⟩

end Shopping
