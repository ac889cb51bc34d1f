import Shopping.Payments.Outcomes

/-!
# When a response can be recorded

The finalisation of a confirmation writes what the provider answered into
columns that hold no null and into a unique column.  `TossPayment.fitsPaid` and
`TossPayment.fitsIssued` say when the columns take the answer, and
`recordsResponse` when the whole write goes through.  The finalisation of a
payment that is not settled returns exactly then.
-/

namespace Shopping

/-! ## Columns -/

/-- The columns of the card take the answer. -/
def TossCard.fits (card : TossCard) : Bool :=
  card.issuerCode.fits && card.number.fits && card.installmentPlanMonths.fits

/-- The receipt is missing, or its address is not null. -/
def TossPayment.receiptFits (data : TossPayment) : Bool :=
  match data.receipt with
  | .absent => true
  | .null => false
  | .value url => url.fits

/-- `mark_as_paid` goes through. -/
def TossPayment.fitsPaid (data : TossPayment) : Bool :=
  data.receiptFits && data.method.fits && data.card.all TossCard.fits

/-- `mark_as_waiting_for_deposit` goes through. -/
def TossPayment.fitsIssued (data : TossPayment) : Bool :=
  (data.virtualAccount.getD {}).bankCode.fits && (data.virtualAccount.getD {}).accountNumber.fits

namespace Payment

theorem column_returns {α : Type} (default : α) (f : Field α) :
    (∃ a, column default f = .ok a) ↔ f.fits = true := by
  cases f with
  | absent => exact ⟨fun _ => rfl, fun _ => ⟨default, rfl⟩⟩
  | null =>
    constructor
    · intro ⟨a, h⟩
      cases h
    · intro h
      cases h
  | value a => exact ⟨fun _ => rfl, fun _ => ⟨a, rfl⟩⟩

theorem receiptUrlOf_returns (data : TossPayment) :
    (∃ url, receiptUrlOf data = .ok url) ↔ data.receiptFits = true := by
  unfold receiptUrlOf TossPayment.receiptFits
  cases data.receipt with
  | absent => exact ⟨fun _ => rfl, fun _ => ⟨"", rfl⟩⟩
  | null =>
    constructor
    · intro ⟨a, h⟩
      cases h
    · intro h
      cases h
  | value url => exact column_returns "" url

theorem withCard_returns (p : Payment) (card : Option TossCard) :
    (∃ q, p.withCard card = .ok q) ↔ card.all TossCard.fits = true := by
  cases card with
  | none => exact ⟨fun _ => rfl, fun _ => ⟨p, rfl⟩⟩
  | some c =>
    simp only [withCard, bind_eq_ok, Option.all_some, TossCard.fits, Bool.and_eq_true,
      ← column_returns ""]
    rw [← column_returns 0]
    constructor
    · rintro ⟨q, a, ha, b, hb, n, hn, _⟩
      exact ⟨⟨⟨a, ha⟩, b, hb⟩, n, hn⟩
    · rintro ⟨⟨⟨a, ha⟩, b, hb⟩, n, hn⟩
      exact ⟨_, a, ha, b, hb, n, hn, rfl⟩

theorem markAsPaid_returns (p : Payment) (now : Time) (data : TossPayment) :
    (∃ q, p.markAsPaid now data = .ok q) ↔ data.fitsPaid = true := by
  simp only [markAsPaid, bind_eq_ok, TossPayment.fitsPaid, Bool.and_eq_true]
  constructor
  · rintro ⟨q, url, hurl, method, hmethod, hq⟩
    exact ⟨⟨(receiptUrlOf_returns data).mp ⟨url, hurl⟩, (column_returns "" _).mp ⟨method, hmethod⟩⟩,
      (withCard_returns _ data.card).mp ⟨q, hq⟩⟩
  · rintro ⟨⟨hurl, hmethod⟩, hcard⟩
    obtain ⟨url, hurl⟩ := (receiptUrlOf_returns data).mpr hurl
    obtain ⟨method, hmethod⟩ := (column_returns "" data.method).mpr hmethod
    obtain ⟨q, hq⟩ := (withCard_returns { p with
      status := .done, paymentKey := data.paymentKey, approvedAt := data.approvedAt,
      method := method, receiptUrl := url, updatedAt := now } data.card).mpr hcard
    exact ⟨q, url, hurl, method, hmethod, hq⟩

theorem markAsWaitingForDeposit_returns (p : Payment) (now : Time) (data : TossPayment) :
    (∃ q, p.markAsWaitingForDeposit now data = .ok q) ↔ data.fitsIssued = true := by
  simp only [markAsWaitingForDeposit, bind_eq_ok, TossPayment.fitsIssued, Bool.and_eq_true,
    ← column_returns ""]
  constructor
  · rintro ⟨q, a, ha, b, hb, _⟩
    exact ⟨⟨a, ha⟩, b, hb⟩
  · rintro ⟨⟨a, ha⟩, b, hb⟩
    exact ⟨_, a, ha, b, hb, rfl⟩

end Payment

/-! ## The unique columns -/

namespace PaymentTable

theorem save_returns (t : PaymentTable) (k : Nat) (row : Payment) :
    (∃ t', t.save k row = .ok t') ↔ t.conflicts k row = false := by
  unfold save
  by_cases h : t.conflicts k row = true
  · rw [dif_pos h, h]
    constructor
    · intro ⟨t', ht⟩
      cases ht
    · intro hc
      cases hc
  · rw [dif_neg h]
    exact ⟨fun _ => Bool.not_eq_true _ ▸ h, fun _ => ⟨_, rfl⟩⟩

/-- A conflict is about the unique columns alone. -/
theorem conflicts_congr (t : PaymentTable) (k : Nat) {p q : Payment} (ho : q.order = p.order)
    (hid : q.tossOrderId = p.tossOrderId) (hkey : q.paymentKey = p.paymentKey) :
    t.conflicts k q = t.conflicts k p := by
  unfold conflicts
  rw [ho, hid, hkey]

end PaymentTable

/-! ## The finalisation -/

/-- The payment with the key that the finalisation writes. -/
def Payment.rekeyed (p : Payment) (response : TossPayment) : Payment :=
  { p with paymentKey :=
      if response.status = some .waitingForDeposit then
        (Payment.truthy response.paymentKey).or p.paymentKey
      else response.paymentKey }

/-- The columns take the response, no other payment has its key, and the
order is there when the response settles it. -/
def recordsResponse (db : Db) (k : Nat) (p : Payment) (response : TossPayment) : Bool :=
  (if response.status = some .waitingForDeposit then response.fitsIssued
    else (db.orders.get? p.order).isSome && response.fitsPaid) &&
  !db.payments.conflicts k (p.rekeyed response)

theorem savePayment_returns (db : Db) (k : Nat) (row : Payment) :
    (∃ saved, db.savePayment k row = .ok saved) ↔ db.payments.conflicts k row = false := by
  rw [← PaymentTable.save_returns]
  constructor
  · intro ⟨saved, h⟩
    obtain ⟨t, ht, _⟩ := Db.savePayment_eq_ok.mp h
    exact ⟨t, ht⟩
  · intro ⟨t, ht⟩
    exact ⟨_, Db.savePayment_eq_ok.mpr ⟨t, ht, rfl⟩⟩

theorem conflicts_of_issued {db : Db} {k : Nat} {p row : Payment} {now : Time}
    {response : TossPayment} (hst : response.status = some .waitingForDeposit)
    (h : p.markAsWaitingForDeposit now response = .ok row) :
    db.payments.conflicts k row = db.payments.conflicts k (p.rekeyed response) := by
  have hsame := (Payment.markAsWaitingForDeposit_spec h).2
  refine PaymentTable.conflicts_congr db.payments k hsame.order hsame.tossOrderId ?_
  simp only [Payment.markAsWaitingForDeposit, bind_eq_ok] at h
  obtain ⟨_, _, _, _, h⟩ := h
  cases h
  unfold Payment.rekeyed
  rw [if_pos hst]

theorem conflicts_of_markAsPaid {db : Db} {k : Nat} {p row : Payment} {now : Time}
    {response : TossPayment} (h : p.markAsPaid now response = .ok row) :
    db.payments.conflicts k row
      = db.payments.conflicts k { p with paymentKey := response.paymentKey } := by
  have hsame := (Payment.markAsPaid_spec h).2
  refine PaymentTable.conflicts_congr db.payments k hsame.order hsame.tossOrderId ?_
  simp only [Payment.markAsPaid, bind_eq_ok] at h
  obtain ⟨_, _, _, _, h⟩ := h
  exact (Payment.withCard_spec h).2.1

theorem conflicts_of_paid {db : Db} {k : Nat} {p row : Payment} {now : Time}
    {response : TossPayment} (hst : response.status ≠ some .waitingForDeposit)
    (h : p.markAsPaid now response = .ok row) :
    db.payments.conflicts k row = db.payments.conflicts k (p.rekeyed response) := by
  unfold Payment.rekeyed
  rw [if_neg hst]
  exact conflicts_of_markAsPaid h

/-- The finalisation of an unsettled payment returns exactly when the
response can be recorded. -/
theorem finalizePaymentConfirm_returns {db : Db} {k : Nat} {p : Payment}
    (hget : db.payments.get? k = some p) (hdone : p.status ≠ .done) (now : Time)
    (response : TossPayment) (user : UserId) (published : Bool) :
    (∃ out, PaymentTasks.finalizePaymentConfirm db now response k user published = .ok out) ↔
      recordsResponse db k p response = true := by
  unfold recordsResponse
  rw [Bool.and_eq_true, Bool.not_eq_true']
  constructor
  · intro ⟨out, h⟩
    obtain ⟨p', hget', hcase⟩ := PaymentTasks.finalizePaymentConfirm_ok h
    rw [hget] at hget'
    cases hget'
    have hpaid : ∀ {order : Order} {row : Payment} {saved : Db},
        response.status ≠ some .waitingForDeposit → db.orders.get? p.order = some order →
        p.markAsPaid now response = .ok row → db.savePayment k row = .ok saved →
        ((if response.status = some .waitingForDeposit then response.fitsIssued
          else (db.orders.get? p.order).isSome && response.fitsPaid) = true ∧
          db.payments.conflicts k (p.rekeyed response) = false) := by
      intro order row saved hst horder hrow hsaved
      rw [if_neg hst, ← conflicts_of_paid hst hrow, horder]
      exact ⟨(Payment.markAsPaid_returns p now response).mp ⟨row, hrow⟩,
        (savePayment_returns db k row).mp ⟨saved, hsaved⟩⟩
    cases hcase with
    | alreadyProcessed hd => exact absurd hd hdone
    | waiting _ hst hrow hsaved =>
      rw [if_pos hst, ← conflicts_of_issued hst hrow]
      exact ⟨(Payment.markAsWaitingForDeposit_returns p now response).mp ⟨_, hrow⟩,
        (savePayment_returns db k _).mp ⟨_, hsaved⟩⟩
    | orderCanceled _ hst horder _ hrow hsaved => exact hpaid hst horder hrow hsaved
    | success _ hst horder _ hrow hsaved => exact hpaid hst horder hrow hsaved
  · intro ⟨hfits, hfree⟩
    have hpaid : ¬ p.isPaid = true := by simpa [Payment.isPaid] using hdone
    have hlocked := Db.getPayment_eq_ok.mpr hget
    by_cases hst : response.status = some .waitingForDeposit
    · rw [if_pos hst] at hfits
      obtain ⟨row, hrow⟩ := (Payment.markAsWaitingForDeposit_returns p now response).mpr hfits
      rw [← conflicts_of_issued hst hrow] at hfree
      obtain ⟨saved, hsaved⟩ := (savePayment_returns db k row).mpr hfree
      have hissued : PaymentService.recordVirtualAccountIssued db now k p response
          = .ok (saved.log k .approve "가상계좌 발급 완료, 입금 대기") :=
        bind_eq_ok.mpr ⟨row, hrow, bind_eq_ok.mpr ⟨saved, hsaved, rfl⟩⟩
      simp only [PaymentTasks.finalizePaymentConfirm, hlocked, hissued, ok_bind, if_neg hpaid,
        if_pos hst]
      exact ⟨_, rfl⟩
    · rw [if_neg hst, Bool.and_eq_true] at hfits
      obtain ⟨order, horder⟩ := Option.isSome_iff_exists.mp hfits.1
      obtain ⟨row, hrow⟩ := (Payment.markAsPaid_returns p now response).mpr hfits.2
      rw [← conflicts_of_paid hst hrow] at hfree
      obtain ⟨saved, hsaved⟩ := (savePayment_returns db k row).mpr hfree
      have hfound := Db.getOrder_eq_ok.mpr horder
      simp only [PaymentTasks.finalizePaymentConfirm, hlocked, hfound, hrow, hsaved, ok_bind,
        if_neg hpaid, if_neg hst]
      split
      · exact ⟨_, rfl⟩
      · exact ⟨_, rfl⟩

end Shopping
