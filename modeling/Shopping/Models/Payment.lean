import Shopping.Lib.Except
import Shopping.Models.Toss

/-!
# Payments

`Payment` and `PaymentLog` of `shopping/models/payment.py`.  The `mark_as_*`
methods change a row that the caller holds; each ends in `save()`, which the
table does.  A method that would write null into a column without null, or
that calls `.get` on null, raises.

`PaymentTable` is the table with its unique constraints: at most one payment
to an order (`OneToOneField`).  Every write checks the constraints, so the
field `unique` is kept by construction.
-/

namespace Shopping

/-- `Payment.STATUS_CHOICES`. -/
inductive PaymentStatus where
  | ready
  | inProgress
  | waitingForDeposit
  | done
  | canceled
  | partialCanceled
  | aborted
  | expired
  deriving DecidableEq, Repr

namespace PaymentStatus

/-- `get_status_display`. -/
def display : PaymentStatus → String
  | .ready => "결제 준비"
  | .inProgress => "결제 진행중"
  | .waitingForDeposit => "입금 대기"
  | .done => "결제 완료"
  | .canceled => "결제 취소"
  | .partialCanceled => "부분 취소"
  | .aborted => "결제 실패"
  | .expired => "결제 만료"

/-- `LIVE_PAYMENT_STATUSES`. -/
def isLive : PaymentStatus → Bool
  | .inProgress | .waitingForDeposit | .done => true
  | _ => false

/-- `["expired", "canceled", "aborted"]`: what the confirmation refuses as
invalid. -/
def isInvalid : PaymentStatus → Bool
  | .expired | .canceled | .aborted => true
  | _ => false

/-- What lets a confirmation pass: the payment is not settled, not closed and
not a virtual account. -/
def admitsConfirm (s : PaymentStatus) : Bool :=
  !decide (s = .done) && !decide (s = .waitingForDeposit) && !s.isInvalid

/-- What lets a webhook settle the payment or record a virtual account. -/
def isOpen (s : PaymentStatus) : Bool := !decide (s = .done) && !s.isInvalid

/-- The statuses of a payment that is closed. -/
def isClosed : PaymentStatus → Bool
  | .canceled | .partialCanceled | .aborted | .expired => true
  | _ => false

end PaymentStatus

/-- A row of `shopping_payment`. -/
structure Payment where
  order : OrderId
  paymentKey : Option String := none
  tossOrderId : TossOrderId
  idempotencyKey : Option String := none
  amount : Int
  method : String := ""
  cardCompany : String := ""
  cardNumber : String := ""
  installmentPlanMonths : Int := 0
  status : PaymentStatus := .ready
  approvedAt : Option Time := none
  receiptUrl : String := ""
  virtualAccountBankCode : String := ""
  virtualAccountNumber : String := ""
  virtualAccountDueDate : Option Time := none
  tossSecret : String := ""
  isCanceled : Bool := false
  canceledAmount : Int := 0
  cancelReason : String := ""
  canceledAt : Option Time := none
  failReason : String := ""
  updatedAt : Time
  deriving DecidableEq, Repr

/-- `PaymentLog.LOG_TYPE_CHOICES`, and the `"rollback"` that the rollback task
writes. -/
inductive LogType where
  | request
  | approve
  | cancel
  | webhook
  | error
  | rollback
  deriving DecidableEq, Repr

/-- A row of `shopping_payment_logs`; of `data` only `return_id`. -/
structure PaymentLog where
  payment : Nat
  logType : LogType
  message : String
  returnId : Option Nat := none
  deriving DecidableEq, Repr

/-- What the shop raises. -/
inductive ShopError where
  | orderServiceError (message : String)
  | cartServiceError (message code : String)
  | paymentInProgressError (message : String)
  | paymentCancelError (message : String)
  | paymentConfirmError (message : String)
  | validationError (message : String)
  | valueError (message : String)
  | orderNotExpirable (message : String)
  | attributeError
  | toss (error : TossPaymentError)
  | db (error : DbError)
  deriving DecidableEq, Repr

namespace Payment

/-- `is_paid`. -/
def isPaid (p : Payment) : Bool := decide (p.status = .done)

/-- `is_waiting_for_deposit`. -/
def isWaitingForDeposit (p : Payment) : Bool := decide (p.status = .waitingForDeposit)

/-- A write of a column without null. -/
def column {α : Type} (default : α) (f : Field α) : Except ShopError α :=
  (f.column default).mapError .db

/-- `payment_data.get("receipt", {}).get("url", "")`. -/
def receiptUrlOf (data : TossPayment) : Except ShopError String :=
  match data.receipt with
  | .absent => .ok ""
  | .null => .error .attributeError
  | .value url => column "" url

/-- The card columns of `mark_as_paid`; without a card they stay. -/
def withCard (p : Payment) : Option TossCard → Except ShopError Payment
  | none => .ok p
  | some card => do
    let issuerCode ← column "" card.issuerCode
    let cardNumber ← column "" card.number
    let months ← column 0 card.installmentPlanMonths
    .ok { p with
      cardCompany := tossCardIssuerName issuerCode
      cardNumber := cardNumber
      installmentPlanMonths := months }

/-- `mark_as_paid`, before `save()`. -/
def markAsPaid (p : Payment) (now : Time) (data : TossPayment) : Except ShopError Payment := do
  let receiptUrl ← receiptUrlOf data
  let method ← column "" data.method
  withCard { p with
    status := .done
    paymentKey := data.paymentKey
    approvedAt := data.approvedAt
    method := method
    receiptUrl := receiptUrl
    updatedAt := now } data.card

/-- The value that `or` keeps: not null and not empty. -/
def truthy (s : Option String) : Option String := s.filter fun v => decide (v ≠ "")

/-- `mark_as_waiting_for_deposit`, before `save()`. -/
def markAsWaitingForDeposit (p : Payment) (now : Time) (data : TossPayment) :
    Except ShopError Payment := do
  let account := data.virtualAccount.getD {}
  let bankCode ← column "" account.bankCode
  let accountNumber ← column "" account.accountNumber
  .ok { p with
    status := .waitingForDeposit
    paymentKey := (truthy data.paymentKey).or p.paymentKey
    method := (truthy data.method.get).getD p.method
    virtualAccountBankCode := bankCode
    virtualAccountNumber := accountNumber
    virtualAccountDueDate := account.dueDate
    tossSecret := (truthy data.secret).getD p.tossSecret
    updatedAt := now }

/-- `mark_as_expired`, before `save()`. -/
def markAsExpired (p : Payment) (now : Time) (reason : String) : Payment :=
  { p with status := .expired, failReason := reason, updatedAt := now }

/-- `mark_as_failed`, before `save()`. -/
def markAsFailed (p : Payment) (now : Time) (reason : String) : Payment :=
  { p with status := .aborted, failReason := reason, updatedAt := now }

/-- `cancels[-1] if cancels else cancel_data`. -/
def latestCancel (data : TossPayment) : TossCancel := data.cancels.getLastD data.ownCancel

/-- `mark_as_canceled`, before `save()`. -/
def markAsCanceled (p : Payment) (now : Time) (data : TossPayment) : Except ShopError Payment := do
  let reason ← column "" (latestCancel data).cancelReason
  .ok { p with
    status := .canceled, isCanceled := true, canceledAmount := p.amount, cancelReason := reason,
    canceledAt := (latestCancel data).canceledAt, updatedAt := now }

/-- `mark_as_partial_canceled`, before `save()`. -/
def markAsPartialCanceled (p : Payment) (now : Time) (partialAmount : Int) (data : TossPayment) :
    Except ShopError Payment := do
  let reason ← column "" (latestCancel data).cancelReason
  let canceledAmount := p.canceledAmount + partialAmount
  .ok { p with
    status := if p.amount ≤ canceledAmount then .canceled else .partialCanceled
    isCanceled := if p.amount ≤ canceledAmount then true else p.isCanceled
    canceledAmount := canceledAmount
    cancelReason := reason
    canceledAt := (latestCancel data).canceledAt
    updatedAt := now }

/-! ### What the methods write -/

/-- The columns that say whose charge a row is, and what of it came back. -/
structure SameCharge (p q : Payment) : Prop where
  order : q.order = p.order
  tossOrderId : q.tossOrderId = p.tossOrderId
  amount : q.amount = p.amount
  isCanceled : q.isCanceled = p.isCanceled
  canceledAmount : q.canceledAmount = p.canceledAmount

theorem withCard_spec {p q : Payment} {card : Option TossCard} (h : p.withCard card = .ok q) :
    q.status = p.status ∧ q.paymentKey = p.paymentKey ∧ SameCharge p q := by
  cases card with
  | none =>
    cases h
    exact ⟨rfl, rfl, rfl, rfl, rfl, rfl, rfl⟩
  | some c =>
    simp only [withCard, bind_eq_ok] at h
    obtain ⟨_, _, _, _, _, _, h⟩ := h
    cases h
    exact ⟨rfl, rfl, rfl, rfl, rfl, rfl, rfl⟩

theorem markAsPaid_spec {p q : Payment} {now : Time} {data : TossPayment}
    (h : p.markAsPaid now data = .ok q) : q.status = .done ∧ SameCharge p q := by
  simp only [markAsPaid, bind_eq_ok] at h
  obtain ⟨_, _, _, _, h⟩ := h
  obtain ⟨hst, _, hsame⟩ := withCard_spec h
  exact ⟨hst, hsame.order, hsame.tossOrderId, hsame.amount, hsame.isCanceled,
    hsame.canceledAmount⟩

theorem markAsPaid_paymentKey {p q : Payment} {now : Time} {data : TossPayment}
    (h : p.markAsPaid now data = .ok q) : q.paymentKey = data.paymentKey := by
  simp only [markAsPaid, bind_eq_ok] at h
  obtain ⟨_, _, _, _, h⟩ := h
  exact (withCard_spec h).2.1

theorem markAsWaitingForDeposit_spec {p q : Payment} {now : Time} {data : TossPayment}
    (h : p.markAsWaitingForDeposit now data = .ok q) :
    q.status = .waitingForDeposit ∧ SameCharge p q := by
  simp only [markAsWaitingForDeposit, bind_eq_ok] at h
  obtain ⟨_, _, _, _, h⟩ := h
  cases h
  exact ⟨rfl, rfl, rfl, rfl, rfl, rfl⟩

theorem markAsFailed_same (p : Payment) (now : Time) (reason : String) :
    SameCharge p (p.markAsFailed now reason) := ⟨rfl, rfl, rfl, rfl, rfl⟩

theorem markAsCanceled_spec {p q : Payment} {now : Time} {data : TossPayment}
    (h : p.markAsCanceled now data = .ok q) :
    q.status = .canceled ∧ q.isCanceled = true ∧ q.order = p.order := by
  simp only [markAsCanceled, bind_eq_ok] at h
  obtain ⟨_, _, h⟩ := h
  cases h
  exact ⟨rfl, rfl, rfl⟩

end Payment

/-! ## The table -/

/-- `shopping_payment` with its one-to-one column. -/
structure PaymentTable where
  table : Table Payment
  unique : ∀ j k p q, table.get? j = some p → table.get? k = some q → p.order = q.order → j = k

namespace PaymentTable

/-- No payment. -/
def empty : PaymentTable := ⟨Table.empty, fun _ _ _ _ h => by cases h⟩

/-- One payment. -/
def single (row : Payment) : PaymentTable where
  table := Table.empty.insert row
  unique := by
    intro i j p q hi hj _
    rw [Table.get?_insert, Table.get?_empty] at hi hj
    split at hi
    · rename_i hi1
      split at hj
      · rename_i hj1
        exact hi1.trans hj1.symm
      · cases hj
    · cases hi

/-- `Payment.objects.get(pk=...)`. -/
def get? (t : PaymentTable) (k : Nat) : Option Payment := t.table.get? k

/-- `Payment.objects.filter(order_id=...).first()`. -/
def ofOrder? (t : PaymentTable) (o : OrderId) : Option (Nat × Payment) :=
  t.table.find? fun _ p => decide (p.order = o)

/-- `Payment.objects.get(toss_order_id=...)`. -/
def ofTossOrderId? (t : PaymentTable) (id : TossOrderId) : Option (Nat × Payment) :=
  t.table.find? fun _ p => decide (p.tossOrderId = id)

/-- Another row than `k` holds a unique value of `row`. -/
def conflicts (t : PaymentTable) (k : Nat) (row : Payment) : Bool :=
  t.table.any fun j p => decide (j ≠ k) &&
    (decide (p.order = row.order) || decide (p.tossOrderId = row.tossOrderId) ||
      (row.paymentKey.isSome && decide (p.paymentKey = row.paymentKey)))

theorem order_ne_of_conflicts {t : PaymentTable} {k j : Nat} {row p : Payment}
    (h : t.conflicts k row = false) (hj : t.table.get? j = some p) (hne : j ≠ k) :
    p.order ≠ row.order := by
  intro hc
  have hp := Table.any_eq_false.mp h j p hj
  simp [hne, hc] at hp

/-- `save()`: write the whole row, or insert it when it is gone. -/
def save (t : PaymentTable) (k : Nat) (row : Payment) : Except ShopError PaymentTable :=
  if h : t.conflicts k row = true then .error (.db .integrityError)
  else .ok
    { table := t.table.put k row
      unique := by
        intro i j p q hi hj heq
        rw [Bool.not_eq_true] at h
        rw [Table.get?_put] at hi hj
        by_cases hik : i = k
        · by_cases hjk : j = k
          · exact hik.trans hjk.symm
          · rw [if_pos hik] at hi
            rw [if_neg hjk] at hj
            cases hi
            exact absurd heq.symm (order_ne_of_conflicts h hj hjk)
        · rw [if_neg hik] at hi
          by_cases hjk : j = k
          · rw [if_pos hjk] at hj
            cases hj
            exact absurd heq (order_ne_of_conflicts h hi hik)
          · rw [if_neg hjk] at hj
            exact t.unique i j p q hi hj heq }

/-- `Payment.objects.create(...)`: the table and the key of the row. -/
def create (t : PaymentTable) (row : Payment) : Except ShopError (Nat × PaymentTable) :=
  (t.save t.table.next row).map fun t' => (t.table.next, t')

/-- An update that leaves every row with its order. -/
def update (t : PaymentTable) (f : Nat → Payment → Payment)
    (hf : ∀ k p, (f k p).order = p.order) : PaymentTable where
  table := t.table.mapRows f
  unique := by
    intro i j p q hi hj heq
    rw [Table.get?_mapRows, Option.map_eq_some_iff] at hi hj
    obtain ⟨p', hi, rfl⟩ := hi
    obtain ⟨q', hj, rfl⟩ := hj
    rw [hf, hf] at heq
    exact t.unique i j p' q' hi hj heq

/-- `Payment.objects.filter(...).update(status=...)`. -/
def setStatus (t : PaymentTable) (sel : Nat → Payment → Bool) (s : PaymentStatus) :
    PaymentTable :=
  t.update (fun k p => if sel k p then { p with status := s } else p) fun k p => by
    split
    · rfl
    · rfl

/-- `Payment.objects.filter(order=...).delete()`. -/
def deleteOf (t : PaymentTable) (o : OrderId) : PaymentTable where
  table := t.table.delete fun _ p => decide (p.order = o)
  unique := by
    intro i j p q hi hj heq
    rw [Table.get?_delete, Option.filter_eq_some_iff] at hi hj
    exact t.unique i j p q hi.1 hj.1 heq

/-! ### What a fetch sees -/

theorem get?_save {t t' : PaymentTable} {k : Nat} {row : Payment} (h : t.save k row = .ok t')
    (j : Nat) : t'.get? j = if j = k then some row else t.get? j := by
  unfold save at h
  split at h
  · cases h
  · cases h
    exact Table.get?_put t.table k j row

theorem get?_setStatus (t : PaymentTable) (sel : Nat → Payment → Bool) (s : PaymentStatus)
    (k : Nat) : (t.setStatus sel s).get? k
      = (t.get? k).map fun p => if sel k p then { p with status := s } else p :=
  Table.get?_mapRows t.table _ k

theorem get?_deleteOf (t : PaymentTable) (o : OrderId) (k : Nat) :
    (t.deleteOf o).get? k = (t.get? k).filter fun p => !decide (p.order = o) :=
  Table.get?_delete t.table _ k

/-- The payment of an order is the one row of the order. -/
theorem ofOrder?_eq_some {t : PaymentTable} {o : OrderId} {k : Nat} {p : Payment} :
    t.ofOrder? o = some (k, p) ↔ t.get? k = some p ∧ p.order = o := by
  constructor
  · intro h
    have hk := Table.find?_eq_some_get h
    exact ⟨hk.1, of_decide_eq_true hk.2⟩
  · intro ⟨hk, ho⟩
    cases h : t.ofOrder? o with
    | none =>
      have hnone := Table.find?_eq_none.mp h k p hk
      simp [ho] at hnone
    | some r =>
      obtain ⟨j, q⟩ := r
      have hj := Table.find?_eq_some_get h
      have hjk : j = k := t.unique j k q p hj.1 hk ((of_decide_eq_true hj.2).trans ho.symm)
      subst hjk
      rw [Option.some.inj (hj.1.symm.trans hk)]

theorem ofOrder?_eq_none {t : PaymentTable} {o : OrderId} :
    t.ofOrder? o = none ↔ ∀ k p, t.get? k = some p → p.order ≠ o := by
  unfold ofOrder?
  rw [Table.find?_eq_none]
  simp only [decide_eq_false_iff_not]
  rfl

/-- A write of the row `k` of an order is seen by that order alone. -/
theorem ofOrder?_save {t t' : PaymentTable} {k : Nat} {row : Payment} (h : t.save k row = .ok t')
    (hk : ∀ p, t.get? k = some p → p.order = row.order) (o : OrderId) :
    t'.ofOrder? o = if o = row.order then some (k, row) else t.ofOrder? o := by
  have hrow : t'.get? k = some row := by rw [get?_save h, if_pos rfl]
  split
  · rename_i ho
    exact ofOrder?_eq_some.mpr ⟨hrow, ho.symm⟩
  · rename_i ho
    apply Option.ext
    intro ⟨j, q⟩
    simp only [ofOrder?_eq_some, get?_save h]
    by_cases hj : j = k
    · subst hj
      constructor
      · intro ⟨hq, hqo⟩
        rw [if_pos rfl] at hq
        cases hq
        exact absurd hqo.symm ho
      · intro ⟨hq, hqo⟩
        exact absurd (hqo.symm.trans (hk q hq)) ho
    · rw [if_neg hj]

theorem ofOrder?_create {t t' : PaymentTable} {k : Nat} {row : Payment}
    (h : t.create row = .ok (k, t')) (o : OrderId) :
    t'.ofOrder? o = if o = row.order then some (k, row) else t.ofOrder? o := by
  unfold create at h
  obtain ⟨t₁, hsave, hpair⟩ := map_eq_ok.mp h
  cases hpair
  refine ofOrder?_save hsave (fun p hp => ?_) o
  rw [get?, Table.get?_next] at hp
  cases hp

theorem ofOrder?_setStatus (t : PaymentTable) (sel : Nat → Payment → Bool) (s : PaymentStatus)
    (o : OrderId) : (t.setStatus sel s).ofOrder? o
      = (t.ofOrder? o).map fun e =>
        (e.1, if sel e.1 e.2 then { e.2 with status := s } else e.2) := by
  apply Option.ext
  intro ⟨j, q⟩
  simp only [ofOrder?_eq_some, get?_setStatus, Option.map_eq_some_iff, Prod.exists,
    Prod.mk.injEq]
  constructor
  · intro ⟨⟨p, hp, hq⟩, hqo⟩
    refine ⟨j, p, ⟨hp, ?_⟩, rfl, hq⟩
    rw [← hqo, ← hq]
    split
    · rfl
    · rfl
  · intro ⟨j', p, ⟨hp, hpo⟩, hj, hq⟩
    subst hj
    refine ⟨⟨p, hp, hq⟩, ?_⟩
    rw [← hq, ← hpo]
    split
    · rfl
    · rfl

theorem ofOrder?_deleteOf (t : PaymentTable) (o i : OrderId) :
    (t.deleteOf o).ofOrder? i = if i = o then none else t.ofOrder? i := by
  split
  · rename_i hi
    subst hi
    rw [ofOrder?_eq_none]
    intro k p hp
    rw [get?_deleteOf, Option.filter_eq_some_iff] at hp
    simpa using hp.2
  · rename_i hi
    apply Option.ext
    intro ⟨j, q⟩
    simp only [ofOrder?_eq_some, get?_deleteOf, Option.filter_eq_some_iff]
    constructor
    · intro ⟨⟨hq, _⟩, hqo⟩
      exact ⟨hq, hqo⟩
    · intro ⟨hq, hqo⟩
      refine ⟨⟨hq, ?_⟩, hqo⟩
      simpa [hqo] using hi

/-- Every row of `t` is still there in `t'`, with its order. -/
def Keeps (t t' : PaymentTable) : Prop :=
  ∀ k p, t.get? k = some p → ∃ q, t'.get? k = some q ∧ q.order = p.order

theorem Keeps.refl (t : PaymentTable) : t.Keeps t := fun _ p hp => ⟨p, hp, rfl⟩

theorem Keeps.trans {t t' t'' : PaymentTable} (h : t.Keeps t') (h' : t'.Keeps t'') :
    t.Keeps t'' := by
  intro k p hp
  obtain ⟨q, hq, hqo⟩ := h k p hp
  obtain ⟨r, hr, hro⟩ := h' k q hq
  exact ⟨r, hr, hro.trans hqo⟩

theorem keeps_save {t t' : PaymentTable} {k : Nat} {row : Payment} (h : t.save k row = .ok t')
    (hk : ∀ p, t.get? k = some p → p.order = row.order) : t.Keeps t' := by
  intro j p hp
  rw [get?_save h]
  by_cases hj : j = k
  · subst hj
    exact ⟨row, if_pos rfl, (hk p hp).symm⟩
  · exact ⟨p, by rw [if_neg hj, hp], rfl⟩

theorem keeps_create {t t' : PaymentTable} {k : Nat} {row : Payment}
    (h : t.create row = .ok (k, t')) : t.Keeps t' := by
  unfold create at h
  obtain ⟨t₁, hsave, hpair⟩ := map_eq_ok.mp h
  cases hpair
  refine keeps_save hsave fun p hp => ?_
  rw [get?, Table.get?_next] at hp
  cases hp

theorem keeps_setStatus (t : PaymentTable) (sel : Nat → Payment → Bool) (s : PaymentStatus) :
    t.Keeps (t.setStatus sel s) := by
  intro k p hp
  rw [get?_setStatus, hp]
  refine ⟨_, rfl, ?_⟩
  dsimp only
  split
  · rfl
  · rfl

/-- After a write of a row, the row is the one with its `toss_order_id`. -/
theorem ofTossOrderId?_save {t t' : PaymentTable} {k : Nat} {row : Payment}
    (h : t.save k row = .ok t') : t'.ofTossOrderId? row.tossOrderId = some (k, row) := by
  have hget := get?_save h
  have hfree : t.conflicts k row = false := by
    unfold save at h
    split at h
    · cases h
    · rename_i hc
      exact Bool.not_eq_true _ ▸ hc
  cases hof : t'.ofTossOrderId? row.tossOrderId with
  | none =>
    have hnone := Table.find?_eq_none.mp hof k row (by rw [← get?, hget, if_pos rfl])
    simp at hnone
  | some e =>
    obtain ⟨j, q⟩ := e
    obtain ⟨hj, hq⟩ := Table.find?_eq_some_get hof
    have hrow : (if j = k then some row else t.get? j) = some q := (hget j).symm.trans hj
    by_cases hjk : j = k
    · rw [if_pos hjk] at hrow
      rw [hjk, Option.some.inj hrow]
    · rw [if_neg hjk] at hrow
      have hother := Table.any_eq_false.mp hfree j q hrow
      simp [hjk, of_decide_eq_true hq] at hother

/-- A write of the row `k` is no conflict for the row `k`. -/
theorem conflicts_save {t t' : PaymentTable} {k : Nat} {row : Payment}
    (h : t.save k row = .ok t') (p : Payment) : t'.conflicts k p = t.conflicts k p := by
  have hget := get?_save h
  rw [Bool.eq_iff_iff]
  unfold conflicts
  rw [Table.any_eq_true, Table.any_eq_true]
  constructor
  · intro ⟨j, q, hj, hq⟩
    have hne : j ≠ k := by
      intro hc
      simp [hc] at hq
    refine ⟨j, q, ?_, hq⟩
    have hsame := hget j
    rw [if_neg hne] at hsame
    exact hsame.symm.trans hj
  · intro ⟨j, q, hj, hq⟩
    have hne : j ≠ k := by
      intro hc
      simp [hc] at hq
    refine ⟨j, q, ?_, hq⟩
    have hsame := hget j
    rw [if_neg hne] at hsame
    exact hsame.trans hj

theorem ofTossOrderId?_get {t : PaymentTable} {id : TossOrderId} {k : Nat} {p : Payment}
    (h : t.ofTossOrderId? id = some (k, p)) : t.get? k = some p :=
  (Table.find?_eq_some_get h).1

end PaymentTable

end Shopping
