import Shopping.Payments.Outcomes
import Shopping.Points.Entries
import Shopping.Returns.Requests

/-!
# What the steps of a return commit

`CompletesReturn` has the split that a completed refund was made with and the
tables it left behind.  The other steps write the row of the return, and
`completeExchange` also the stock.
-/

namespace Shopping

/-- The history of an order is in the entries of the ledger. -/
theorem Db.hasHistory_eq (db : Db) (o : OrderId) (type : PointType) :
    db.hasHistory o type
      = db.ledger.entries.any fun e => decide (e.order = some o) && decide (e.type = type) :=
  db.ledger.any_entries fun e => decide (e.order = some o) && decide (e.type = type)

/-- More entries keep the history. -/
theorem Db.hasHistory_of_entries {db db' : Db} {booked : List Entry} {o : OrderId}
    {type : PointType} (h : db'.ledger.entries = db.ledger.entries ++ booked)
    (ho : db.hasHistory o type = true) : db'.hasHistory o type = true := by
  rw [Db.hasHistory_eq, List.any_eq_true] at ho ⊢
  obtain ⟨e, he, hp⟩ := ho
  rw [h]
  exact ⟨e, List.mem_append_left _ he, hp⟩

theorem Payment.markAsPartialCanceled_spec {p q : Payment} {now : Time} {amount : Int}
    {data : TossPayment} (h : p.markAsPartialCanceled now amount data = .ok q) :
    q.order = p.order ∧ q.amount = p.amount ∧ q.canceledAmount = p.canceledAmount + amount ∧
      (q.status = .canceled ∧ q.isCanceled = true ∨
        q.status = .partialCanceled ∧ q.isCanceled = p.isCanceled) := by
  simp only [Payment.markAsPartialCanceled, bind_eq_ok] at h
  obtain ⟨_, _, h⟩ := h
  cases h
  refine ⟨rfl, rfl, rfl, ?_⟩
  dsimp only
  split
  · exact Or.inl ⟨rfl, rfl⟩
  · exact Or.inr ⟨rfl, rfl⟩

namespace ReturnService

/-- The payment after `cashBack` went back to the customer. -/
inductive PaysBack (db : Db) (now : Time) (o : OrderId) (cashBack : Int) (db' : Db) : Prop where
  | nothing (hcash : cashBack ≤ 0) (hpayments : db'.payments = db.payments) :
      PaysBack db now o cashBack db'
  | cash {k : Nat} {p row : Payment} {data : TossPayment} (hcash : 0 < cashBack)
      (hof : db.payments.ofOrder? o = some (k, p))
      (hrow : p.markAsPartialCanceled now cashBack data = .ok row)
      (hsave : db.payments.save k row = .ok db'.payments) : PaysBack db now o cashBack db'

section

variable {db db' : Db} {now : Time} {o : OrderId} {cashBack : Int}

/-- The payment of another order is not written. -/
theorem PaysBack.frame (h : PaysBack db now o cashBack db') {i : OrderId} (hi : i ≠ o) :
    db'.payments.ofOrder? i = db.payments.ofOrder? i := by
  cases h with
  | nothing hcash hpayments => rw [hpayments]
  | cash hcash hof hrow hsave =>
    obtain ⟨hget, hord⟩ := PaymentTable.ofOrder?_eq_some.mp hof
    have hrowOrder := (Payment.markAsPartialCanceled_spec hrow).1
    rw [PaymentTable.ofOrder?_save hsave, if_neg fun hc => hi (hc.trans (hrowOrder.trans hord))]
    intro q hq
    rw [hget] at hq
    cases hq
    exact hrowOrder.symm

/-- What went back is added to the canceled amount of the payment. -/
theorem PaysBack.payment (h : PaysBack db now o cashBack db') {k : Nat} {p : Payment}
    (hof : db.payments.ofOrder? o = some (k, p)) :
    ∃ q, db'.payments.ofOrder? o = some (k, q) ∧ q.amount = p.amount ∧
      q.canceledAmount = p.canceledAmount + max cashBack 0 := by
  cases h with
  | nothing hcash hpayments =>
    refine ⟨p, by rw [hpayments, hof], rfl, ?_⟩
    rw [max_eq_right hcash, add_zero]
  | cash hcash hof' hrow hsave =>
    rename_i j p' row data
    rw [hof] at hof'
    cases hof'
    obtain ⟨hget, hord⟩ := PaymentTable.ofOrder?_eq_some.mp hof
    obtain ⟨hrowOrder, hamount, hcanceled, _⟩ := Payment.markAsPartialCanceled_spec hrow
    refine ⟨row, ?_, hamount, by rw [hcanceled, max_eq_left hcash.le]⟩
    rw [PaymentTable.ofOrder?_save hsave, if_pos (hrowOrder.trans hord).symm]
    intro q hq
    rw [hget] at hq
    cases hq
    exact hrowOrder.symm

/-- An order without a payment has none after it. -/
theorem PaysBack.none (h : PaysBack db now o cashBack db')
    (hof : db.payments.ofOrder? o = Option.none) : db'.payments.ofOrder? o = Option.none := by
  cases h with
  | nothing hcash hpayments => rw [hpayments, hof]
  | cash hcash hof' hrow hsave =>
    rw [hof] at hof'
    cases hof'

end

/-- `complete_refund` completed the return `id` with the split `s`. -/
structure CompletesReturn (db : Db) (now : Time) (id : Nat) (r : Return) (order : Order)
    (s : RefundSplit) (db' : Db) : Prop where
  found : db.returns.get? id = some r
  type : r.type = .refund
  received : r.status = .received
  orderFound : db.orders.get? r.order = some order
  split : s = refundSplit db order r
  balance : checkBalance (db.payments.ofOrder? r.order) s.cashBack = .ok ()
  returns : db'.returns = db.returns.modify id (markCompleted now)
  orders : db'.orders = db.orders ∨
    db'.orders = db.orders.modify r.order (Order.withStatus .refunded now)
  payments : PaysBack db now r.order s.cashBack db'
  entries : ∃ booked, db'.ledger.entries = db.ledger.entries ++ booked
  logs : ∃ logs, db'.logs = db.logs ++ logs

theorem refundCash_ok {db paid : Db} {now : Time} {id : Nat} {r : Return} {cashBack : Int}
    {toss : Except TossPaymentError TossPayment}
    (h : refundCash db now id r cashBack toss = .ok paid) :
    PaysBack db now r.order cashBack paid ∧ paid.orders = db.orders ∧
      paid.returns = db.returns ∧ paid.ledger = db.ledger ∧
      ∃ logs, paid.logs = db.logs ++ logs := by
  unfold refundCash at h
  split at h
  · rename_i hcash
    cases h
    exact ⟨.nothing hcash rfl, rfl, rfl, rfl, [], by simp⟩
  · rename_i hcash
    split at h
    · cases h
    · rename_i k p hof
      cases toss with
      | error e => cases h
      | ok data =>
        obtain ⟨row, hrow, h⟩ := bind_eq_ok.mp h
        obtain ⟨saved, hsaved, h⟩ := bind_eq_ok.mp h
        obtain ⟨payments, hsave, rfl⟩ := Db.savePayment_eq_ok.mp hsaved
        cases h
        exact ⟨.cash (not_le.mp hcash) hof hrow hsave, rfl, rfl, rfl, _, rfl⟩

theorem reclaimShare_ok {db db' : Db} {now : Time} {id : Nat} {r : Return} {earnedBack : Int}
    (h : reclaimShare db now id r earnedBack = .ok db') :
    ∃ ledger booked, db' = { db with ledger := ledger } ∧
      ledger.entries = db.ledger.entries ++ booked := by
  unfold reclaimShare at h
  split at h
  · cases h
    exact ⟨db.ledger, [], rfl, by simp⟩
  · dsimp only at h
    split at h
    · cases h
    · cases h
      exact ⟨_, _, rfl, PointService.usePointsFifo_entries _ _ _ _ _ _ _⟩

theorem finishReturn_tables (db : Db) (now : Time) (id : Nat) (o : OrderId) (order : Order) :
    (finishReturn db now id o order).returns = db.returns.modify id (markCompleted now) ∧
    ((finishReturn db now id o order).orders = db.orders ∨
      (finishReturn db now id o order).orders
        = db.orders.modify o (Order.withStatus .refunded now)) ∧
    (finishReturn db now id o order).payments = db.payments ∧
    (finishReturn db now id o order).ledger = db.ledger ∧
    (finishReturn db now id o order).logs = db.logs := by
  unfold finishReturn
  dsimp only
  split
  · exact ⟨rfl, Or.inr rfl, rfl, rfl, rfl⟩
  · exact ⟨rfl, Or.inl rfl, rfl, rfl, rfl⟩

theorem completeRefund_ok {db db' : Db} {now : Time} {id : Nat}
    {toss : Except TossPaymentError TossPayment} {s : RefundSplit}
    (h : completeRefund db now id toss = .ok (s, db')) :
    ∃ r order, CompletesReturn db now id r order s db' := by
  unfold completeRefund at h
  split at h
  · cases h
  · rename_i r hget
    split at h
    · cases h
    · rename_i htype
      split at h
      · cases h
      · rename_i hstatus
        split at h
        · cases h
        · obtain ⟨order, horder, h⟩ := bind_eq_ok.mp h
          rw [Db.getOrder_eq_ok] at horder
          obtain ⟨_, _, h⟩ := bind_eq_ok.mp h
          obtain ⟨_, hbalance, h⟩ := bind_eq_ok.mp h
          obtain ⟨paid, hpaid, h⟩ := bind_eq_ok.mp h
          obtain ⟨hpays, hpo, hpr, hpl, plogs, hplogs⟩ := refundCash_ok hpaid
          dsimp only at h
          generalize hrepaid : (if 0 < (refundSplit db order r).pointsBack then
              ({ paid with products := restockReturned paid.products r.items }).refundUsedPoints
                now r.user (refundSplit db order r).pointsBack r.order .cancelRefund (some id)
            else { paid with products := restockReturned paid.products r.items }) = repaid at h
          have hr : repaid.payments = paid.payments ∧ repaid.orders = paid.orders ∧
              repaid.returns = paid.returns ∧ repaid.logs = paid.logs ∧
              ∃ booked, repaid.ledger.entries = paid.ledger.entries ++ booked := by
            rw [← hrepaid]
            split
            · obtain ⟨booked, hbooked, _⟩ := PointService.refundUsedPoints_entries paid.ledger now
                r.user (refundSplit db order r).pointsBack r.order .cancelRefund (some id)
              exact ⟨rfl, rfl, rfl, rfl, booked, hbooked⟩
            · exact ⟨rfl, rfl, rfl, rfl, [], by simp⟩
          obtain ⟨hrp, hro, hrr, hrlogs, refunded, hrefunded⟩ := hr
          obtain ⟨reclaimed, hreclaimed, h⟩ := bind_eq_ok.mp h
          obtain ⟨ledger, taken, hdb, htaken⟩ := reclaimShare_ok hreclaimed
          cases h
          obtain ⟨hfr, hfo, hfp, hfl, hflogs⟩ := finishReturn_tables reclaimed now id r.order order
          subst hdb
          refine ⟨r, order, hget, not_not.mp htype, not_not.mp hstatus, horder, rfl, hbalance, ?_,
            ?_, ?_, ⟨refunded ++ taken, ?_⟩, plogs, ?_⟩
          · rw [hfr]
            show repaid.returns.modify id (markCompleted now) = _
            rw [hrr, hpr]
          · rcases hfo with hfo | hfo
            · exact Or.inl (hfo.trans (hro.trans hpo))
            · right
              rw [hfo]
              show repaid.orders.modify r.order (Order.withStatus .refunded now) = _
              rw [hro, hpo]
          · have hpayments := hfp.trans hrp
            cases hpays with
            | nothing hcash hpay => exact .nothing hcash (hpayments.trans hpay)
            | cash hcash hof hrow hsave =>
              refine .cash hcash hof hrow ?_
              rw [hpayments]
              exact hsave
          · rw [hfl, htaken, hrefunded, hpl, List.append_assoc]
          · exact hflogs.trans (hrlogs.trans hplogs)

/-! ## The other steps -/

/-- What `complete_exchange` commits: the row it locked had arrived. -/
theorem completeExchange_ok {db db' : Db} {now : Time} {id : Nat}
    (h : completeExchange db now id = .ok db') :
    ∃ r products, db.returns.get? id = some r ∧ r.type = .exchange ∧ r.status = .received ∧
      db' = { db with
        products := products, returns := db.returns.modify id (markCompleted now) } := by
  unfold completeExchange at h
  cases hget : db.returns.get? id with
  | none =>
    rw [hget] at h
    cases h
  | some r =>
    rw [hget] at h
    dsimp only at h
    by_cases htype : r.type ≠ .exchange
    · rw [if_pos htype] at h
      cases h
    · rw [if_neg htype] at h
      by_cases hstatus : r.status ≠ .received
      · rw [if_pos hstatus] at h
        cases h
      · rw [if_neg hstatus] at h
        obtain ⟨taken, _, h⟩ := bind_eq_ok.mp h
        obtain ⟨restocked, _, h⟩ := bind_eq_ok.mp h
        cases h
        exact ⟨r, restocked, rfl, not_not.mp htype, not_not.mp hstatus, rfl⟩

/-- The steps that only write the row. -/
theorem moveReturn_ok {db db' : Db} {id : Nat} {source : ReturnStatus} {change : Return → Return}
    {message : String} (h : moveReturn db id source change message = .ok db') :
    ∃ r, db.returns.get? id = some r ∧ r.status = source ∧
      db' = { db with returns := db.returns.modify id change } := by
  unfold moveReturn at h
  cases hget : db.returns.get? id with
  | none =>
    rw [hget] at h
    cases h
  | some r =>
    rw [hget] at h
    dsimp only at h
    by_cases hsource : r.status ≠ source
    · rw [if_pos hsource] at h
      cases h
    · rw [if_neg hsource] at h
      cases h
      exact ⟨r, rfl, not_not.mp hsource, rfl⟩

/-- The row that a tracking number will be written to was approved. -/
theorem readForTracking_ok {db : Db} {id : Nat} {company number : String} {r : Return}
    (h : readForTracking db id company number = .ok r) :
    db.returns.get? id = some r ∧ r.status = .approved := by
  unfold readForTracking at h
  cases hget : db.returns.get? id with
  | none =>
    rw [hget] at h
    cases h
  | some q =>
    rw [hget] at h
    dsimp only at h
    split_ifs at h with hstatus htexts
    cases h
    exact ⟨rfl, not_not.mp hstatus⟩

end ReturnService

end Shopping
