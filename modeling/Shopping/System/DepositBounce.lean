import Shopping.Points.Entries
import Shopping.Points.Reclaims
import Shopping.System.SettlementPaths

/-!
# A deposit that bounces

The provider can take a virtual account's `DONE` back to
`WAITING_FOR_DEPOSIT`.  `handle_waiting_for_deposit` then undoes what
`handle_payment_done` settled, and a new deposit settles the order once more.
`Deposited` and `Reverted` say what the two handlers leave behind; a bounce is
one after the other.
-/

namespace Shopping

open PointService TossWebhookService

/-! ## One deposit -/

/-- What `handle_payment_done` earns for the order. -/
def earnedByDone (db : Db) (order : Order) : Int :=
  if order.earnedPoints = 0 then
    max (earnPoints order.totalAmount (db.membership order.user).earnRate) 0
  else 0

/-- The order after a deposit. -/
def Order.deposited (db : Db) (now : Time) (row : Payment) (order : Order) : Order :=
  { order.withPaid (methodOrCard row.method) now with
    earnedPoints := order.earnedPoints + earnedByDone db order }

/-- What a deposit leaves behind. -/
structure Deposited (db : Db) (now : Time) (id : TossOrderId) (k : Nat) (o : OrderId)
    (order : Order) (row : Payment) (db' : Db) : Prop where
  payments : db.payments.save k row = .ok db'.payments
  found : db'.orders.get? o = some (order.deposited db now row)
  soldCount : ∀ j, (db'.products.get? j).map Product.soldCount
    = (db.products.get? j).map fun p => p.soldCount + quantityOf j order.items
  membership : db'.membership = db.membership
  marks : db'.webhookMarks = ((id, .done), now + webhookEventTtl) :: db.webhookMarks
  first : 0 < earnedByDone db order → earnExists db.ledger o = false
  ledger : db'.ledger = if 0 < earnedByDone db order then
    db.ledger.post now order.user (earnedByDone db order) .earn (some o) {} else db.ledger

section

variable {db db' : Db} {now : Time} {id : TossOrderId} {k : Nat} {payment : Payment}
  {order : Order} {event : TossPayment}

theorem earnedByDone_nonneg (db : Db) (order : Order) : 0 ≤ earnedByDone db order := by
  unfold earnedByDone
  split
  · exact le_max_right _ _
  · exact le_rfl

theorem earnedPoints_of_earned (h : 0 < earnedByDone db order) : order.earnedPoints = 0 := by
  unfold earnedByDone at h
  by_contra hc
  rw [if_neg hc] at h
  exact lt_irrefl 0 h

theorem markWebhookProcessed_fresh (hfresh : isWebhookDuplicate db now id .done = false) :
    markWebhookProcessed db now id .done
      = { db with webhookMarks := ((id, .done), now + webhookEventTtl) :: db.webhookMarks } := by
  unfold markWebhookProcessed
  rw [hfresh]
  rfl

theorem earnOnDone_earned {o : OrderId} {paid earned : Db} (hp : Paid db now k o order paid)
    (h : earnOnDone paid now o order = .ok earned) :
    (0 < earnedByDone db order → earnExists db.ledger o = false) ∧
      earned = if 0 < earnedByDone db order then
        { paid with ledger := (db.ledger.post now order.user (earnedByDone db order) .earn
          (some o) {}) }.saveOrder o fun x => { x with earnedPoints := earnedByDone db order }
        else paid := by
  rw [hp.earnOnDone] at h
  unfold earnedByDone
  generalize earnPoints order.totalAmount (db.membership order.user).earnRate = n at h
  by_cases hnone : order.earnedPoints = 0
  · rw [if_neg (not_not.mpr hnone)] at h
    rw [if_pos hnone]
    by_cases hn : 0 < n
    · rw [if_pos hn] at h
      rw [max_eq_left (le_of_lt hn), if_pos hn]
      cases hfirst : earnExists db.ledger o with
      | true =>
        rw [hfirst, if_pos rfl] at h
        cases h
      | false =>
        rw [hfirst, if_neg Bool.false_ne_true] at h
        exact ⟨fun _ => rfl, (Except.ok.inj h).symm⟩
    · rw [if_neg hn] at h
      rw [max_eq_right (not_lt.mp hn), if_neg (lt_irrefl 0)]
      exact ⟨fun hc => absurd hc (lt_irrefl 0), (Except.ok.inj h).symm⟩
  · rw [if_pos hnone] at h
    rw [if_neg hnone, if_neg (lt_irrefl 0)]
    exact ⟨fun hc => absurd hc (lt_irrefl 0), (Except.ok.inj h).symm⟩

/-- The deposit of a waiting payment, past the duplicate filter. -/
theorem handlePaymentDone_deposited {result : DoneResult} (hid : event.orderId = some id)
    (hfresh : isWebhookDuplicate db now id .done = false)
    (hof : db.payments.ofTossOrderId? id = some (k, payment))
    (hopen : payment.status.isOpen = true)
    (horder : db.orders.get? payment.order = some order) (hconfirmed : order.status = .confirmed)
    (h : handlePaymentDone db now event = .ok (result, db')) :
    result = .settled ∧ ∃ row, payment.markAsPaid now event = .ok row ∧
      Deposited db now id k payment.order order row db' := by
  have hcanceled : order.status ≠ .canceled := by
    rw [hconfirmed]
    decide
  have hunpaid : order.status ≠ .paid := by
    rw [hconfirmed]
    decide
  obtain ⟨hdone, haborted, hclosed, hexpired⟩ := closed_of_isOpen hopen
  have hwrites : ∃ row saved, payment.markAsPaid now event = .ok row ∧
      db.savePayment k row = .ok saved := by
    cases handlePaymentDone_found hid hfresh hof h with
    | alreadyPaid hst => simp [Payment.isPaid, hst] at hdone
    | chargedButFailed hst => exact absurd hst haborted
    | finalState hst => exact absurd hst hclosed
    | depositAfterExpiry hst => exact absurd hst hexpired
    | chargedOnCanceledOrder _ _ _ hrow hsaved => exact ⟨_, _, hrow, hsaved⟩
    | orderAlreadyPaid _ _ _ hrow hsaved => exact ⟨_, _, hrow, hsaved⟩
    | settled _ _ _ _ hrow hsaved _ => exact ⟨_, _, hrow, hsaved⟩
  obtain ⟨row, saved, hrow, hsaved⟩ := hwrites
  have hp := paid_of_saved hrow hsaved order payment.order (methodOrCard row.method) order.user
  rw [handlePaymentDone_settles hid hfresh hof hopen horder hcanceled hunpaid hrow hsaved,
    map_eq_ok] at h
  obtain ⟨earned, hearned, hpair⟩ := h
  obtain ⟨hfirst, hvalue⟩ := earnOnDone_earned hp hearned
  obtain ⟨payments, hsave, hrest⟩ := Db.savePayment_eq_ok.mp hsaved
  subst hrest
  have hmarks : earned.webhookMarks = db.webhookMarks := by
    rw [hvalue]
    split
    · rfl
    · rfl
  have hunmarked : isWebhookDuplicate (earned.log k .webhook "결제 완료 웹훅 처리") now id .done
      = false := by
    unfold isWebhookDuplicate at hfresh ⊢
    rw [← hfresh, ← hmarks]
    rfl
  rw [markWebhookProcessed_fresh hunmarked] at hpair
  cases hpair
  refine ⟨rfl, row, hrow, ?_⟩
  have hsold := hp.soldCount rfl
  have hn := earnedByDone_nonneg db order
  by_cases hpos : 0 < earnedByDone db order
  · rw [if_pos hpos] at hvalue
    subst hvalue
    refine ⟨hsave, ?_, hsold, rfl, rfl, hfirst, (if_pos hpos).symm⟩
    simp [Table.get?_modify_self, horder, Order.deposited, earnedPoints_of_earned hpos]
  · rw [if_neg hpos] at hvalue
    subst hvalue
    have hnone : earnedByDone db order = 0 := by omega
    refine ⟨hsave, ?_, hsold, rfl, rfl, hfirst, (if_neg hpos).symm⟩
    simp [Table.get?_modify_self, horder, Order.deposited, hnone]
    rfl

end

/-! ## Its revert -/

/-- What the order earned can be taken back. -/
def Db.Reclaimable (db : Db) (now : Time) (order : Order) : Prop :=
  0 < order.earnedPoints → order.earnedPoints ≤ db.ledger.points order.user ∧
    order.earnedPoints ≤ getUsablePoints db.ledger now order.user

/-- What the revert of a deposit leaves behind. -/
structure Reverted (db : Db) (now : Time) (k : Nat) (o : OrderId) (order : Order) (row : Payment)
    (db' : Db) : Prop where
  payments : db.payments.save k row = .ok db'.payments
  found : db'.orders.get? o
    = some { order with status := .confirmed, earnedPoints := 0, updatedAt := now }
  products : db'.products = updateProducts db.products takeSold order.items
  membership : db'.membership = db.membership
  marks : db'.webhookMarks = db.webhookMarks
  points : ∀ u, db'.ledger.points u
    = db.ledger.points u - if order.user = u then order.earnedPoints else 0
  remaining : ∀ u, db'.ledger.remainingSum u
    = db.ledger.remainingSum u - if order.user = u then order.earnedPoints else 0
  entries : ∃ booked, db'.ledger.entries = db.ledger.entries ++ booked

section

variable {db db' : Db} {now : Time} {k : Nat} {o : OrderId} {order : Order} {row : Payment}

theorem reverted_of_saved (horder : db.orders.get? o = some order)
    (hearned : 0 ≤ order.earnedPoints) (hreclaim : db.Reclaimable now order)
    (h : (revertDeposit db now k o order).savePayment k row = .ok db') :
    Reverted db now k o order row db' := by
  obtain ⟨payments, hsave, rfl⟩ := Db.savePayment_eq_ok.mp h
  have hpayments := (revertDeposit_tables db now k o order).1
  rw [hpayments] at hsave
  by_cases hpos : 0 < order.earnedPoints
  · obtain ⟨hpoints, husable⟩ := hreclaim hpos
    have hdone := (usePointsFifo_reclaim hpos hpoints husable (some o) none).1
    have hbooks := usePointsFifo_reclaim_books hpos hpoints husable (some o)
    have hentries := usePointsFifo_entries db.ledger now order.user order.earnedPoints
      .cancelDeduct (some o) none
    have hledger : (db.updateItems takeSold order.items).ledger = db.ledger := rfl
    unfold revertDeposit reclaimEarnedPoints
    simp only [if_pos hpos, hledger, hdone, if_true]
    refine ⟨hsave, ?_, rfl, rfl, rfl, fun u => (hbooks u).1, fun u => (hbooks u).2, _, hentries⟩
    simp [Table.get?_modify_self, horder]
  · have hnone : order.earnedPoints = 0 := by omega
    unfold revertDeposit
    simp only [if_neg hpos]
    refine ⟨hsave, ?_, rfl, rfl, rfl, fun u => ?_, fun u => ?_, [], ?_⟩
    · simp [Table.get?_modify_self, horder, hnone]
    · simp [hnone]
    · simp [hnone]
    · simp

end

/-! ## A deposit and its revert -/

/-- The order stands as before the deposit. -/
structure DepositUndone (db db' : Db) (o : OrderId) : Prop where
  status : db'.statusOf o = some .confirmed
  soldCount : ∀ j, (db'.products.get? j).map Product.soldCount
    = (db.products.get? j).map Product.soldCount
  points : ∀ u, db'.ledger.points u = db.ledger.points u
  remaining : ∀ u, db'.ledger.remainingSum u = db.ledger.remainingSum u

/-- Two databases that a deposit left behind agree on its order. -/
structure SameDeposit (db db' : Db) (k : Nat) (o : OrderId) : Prop where
  payment : db.payments.get? k = db'.payments.get? k
  order : db.orders.get? o = db'.orders.get? o
  soldCount : ∀ j, (db.products.get? j).map Product.soldCount
    = (db'.products.get? j).map Product.soldCount
  points : ∀ u, db.ledger.points u = db'.ledger.points u

/-- The provider reports the payment by virtual account that is on record. -/
structure Payment.ReportedBy (p : Payment) (e : TossPayment) : Prop where
  card : e.card = none
  account : ∃ a, e.virtualAccount = some a ∧ a.bankCode = .value p.virtualAccountBankCode ∧
    a.accountNumber = .value p.virtualAccountNumber ∧ a.dueDate = p.virtualAccountDueDate
  secret : e.secret = none ∨ e.secret = some p.tossSecret

section

variable {db db₁ db₂ : Db} {now₁ now₂ now₃ : Time} {id : TossOrderId} {k : Nat} {o : OrderId}
  {payment row₁ row₂ : Payment} {order : Order} {event₁ event₂ event₃ : TossPayment}

theorem Deposited.points (h : Deposited db now₁ id k o order row₁ db₁) (u : UserId) :
    db₁.ledger.points u
      = db.ledger.points u + if order.user = u then earnedByDone db order else 0 := by
  have hn := earnedByDone_nonneg db order
  rw [h.ledger]
  by_cases hpos : 0 < earnedByDone db order
  · rw [if_pos hpos, post_points]
  · have hnone : earnedByDone db order = 0 := by omega
    rw [if_neg hpos, hnone, ite_self, add_zero]

theorem Deposited.remaining (h : Deposited db now₁ id k o order row₁ db₁) (u : UserId) :
    db₁.ledger.remainingSum u
      = db.ledger.remainingSum u + if order.user = u then earnedByDone db order else 0 := by
  have hn := earnedByDone_nonneg db order
  rw [h.ledger]
  by_cases hpos : 0 < earnedByDone db order
  · rw [if_pos hpos, post_remainingSum_earn _ _ _ _ _ _ rfl rfl hn]
  · have hnone : earnedByDone db order = 0 := by omega
    rw [if_neg hpos, hnone, ite_self, add_zero]

/-- What a deposit added to the products, its revert takes away. -/
theorem Reverted.soldCount_restored {order₁ : Order}
    (hr : Reverted db₁ now₂ k o order₁ row₂ db₂)
    (hadded : ∀ j, (db₁.products.get? j).map Product.soldCount
      = (db.products.get? j).map fun p => p.soldCount + quantityOf j order₁.items)
    (hsold : ∀ j p, db.products.get? j = some p → 0 ≤ p.soldCount) (j : ProductId) :
    (db₂.products.get? j).map Product.soldCount = (db.products.get? j).map Product.soldCount := by
  have henough : ∀ i p, db₁.products.get? i = some p → quantityOf i order₁.items ≤ p.soldCount := by
    intro i p hp
    have hi := hadded i
    rw [hp, Option.map_some] at hi
    obtain ⟨q, hq, hsum⟩ := Option.map_eq_some_iff.mp hi.symm
    have hq0 := hsold i q hq
    omega
  rw [hr.products, updateProducts_takeSold order₁.items db₁.products henough j]
  have hj := hadded j
  cases hp : db₁.products.get? j with
  | none =>
    rw [hp] at hj
    cases hq : db.products.get? j with
    | none => rfl
    | some q =>
      rw [hq] at hj
      cases hj
  | some p =>
    rw [hp] at hj
    obtain ⟨q, hq, hsum⟩ := Option.map_eq_some_iff.mp hj.symm
    rw [hq, Option.map_some, Option.map_some]
    congr 1
    omega

/-- The revert takes back what the order holds as earned, and so undoes the
deposit of an order that held nothing before it. -/
theorem depositUndone_iff (hd : Deposited db now₁ id k o order row₁ db₁)
    (hr : Reverted db₁ now₂ k o (order.deposited db now₁ row₁) row₂ db₂)
    (hsold : ∀ j p, db.products.get? j = some p → 0 ≤ p.soldCount) :
    DepositUndone db db₂ o ↔ order.earnedPoints = 0 := by
  have hpoints : ∀ u, db₂.ledger.points u
      = db.ledger.points u - if order.user = u then order.earnedPoints else 0 := by
    intro u
    rw [hr.points, hd.points]
    show db.ledger.points u + _ - (if order.user = u then order.earnedPoints + earnedByDone db order
      else 0) = _
    split
    · omega
    · omega
  have hremaining : ∀ u, db₂.ledger.remainingSum u
      = db.ledger.remainingSum u - if order.user = u then order.earnedPoints else 0 := by
    intro u
    rw [hr.remaining, hd.remaining]
    show db.ledger.remainingSum u + _ - (if order.user = u then
      order.earnedPoints + earnedByDone db order else 0) = _
    split
    · omega
    · omega
  constructor
  · intro h
    have hsame := (hpoints order.user).symm.trans (h.points order.user)
    rw [if_pos rfl] at hsame
    omega
  · intro hnone
    refine ⟨?_, fun j => ?_, fun u => ?_, fun u => ?_⟩
    · unfold Db.statusOf
      rw [hr.found]
      rfl
    · exact hr.soldCount_restored hd.soldCount hsold j
    · rw [hpoints, hnone, ite_self, sub_zero]
    · rw [hremaining, hnone, ite_self, sub_zero]

/-- The row of a bounced deposit takes a new deposit like the row before. -/
theorem markAsPaid_again (h₁ : payment.ReportedBy event₁) (h₂ : payment.ReportedBy event₂)
    (hrow₁ : payment.markAsPaid now₁ event₁ = .ok row₁)
    (hrow₂ : row₁.markAsWaitingForDeposit now₂ event₂ = .ok row₂) :
    row₂.markAsPaid now₃ event₃ = payment.markAsPaid now₃ event₃ := by
  obtain ⟨a, haccount, hbank, hnumber, hdue⟩ := h₂.account
  simp only [Payment.markAsPaid, bind_eq_ok, h₁.card] at hrow₁
  obtain ⟨url, _, method, _, hrow₁⟩ := hrow₁
  cases hrow₁
  simp only [Payment.markAsWaitingForDeposit, bind_eq_ok, haccount, Option.getD_some, hbank,
    hnumber, hdue] at hrow₂
  obtain ⟨bank, hb, number, hn, hrow₂⟩ := hrow₂
  cases hb
  cases hn
  cases hrow₂
  have hsecret : (Payment.truthy event₂.secret).getD payment.tossSecret = payment.tossSecret := by
    obtain hs | hs := h₂.secret
    · rw [hs]
      rfl
    · rw [hs]
      unfold Payment.truthy
      rw [Option.filter_some]
      split
      · rfl
      · rfl
  rw [hsecret]
  rfl

/-- A reverted deposit was settled before, or charged on a canceled order. -/
theorem bounced {result : DoneResult} (hid₁ : event₁.orderId = some id)
    (hid₂ : event₂.orderId = some id)
    (hof : db.payments.ofTossOrderId? id = some (k, payment))
    (hwaiting : payment.status = .waitingForDeposit)
    (horder : db.orders.get? payment.order = some order)
    (hstatus : order.status = .confirmed ∨ order.status = .canceled)
    (hearned : 0 ≤ order.earnedPoints)
    (hdone : handlePaymentDone db now₁ event₁ = .ok (result, db₁))
    (hreclaim : ∀ order₁, db₁.orders.get? payment.order = some order₁ →
      db₁.Reclaimable now₂ order₁)
    (hrevert : handleWaitingForDeposit db₁ now₂ event₂ = .ok (.depositReverted, db₂)) :
    isWebhookDuplicate db now₁ id .done = false ∧ ∃ row₁ row₂ order₁,
      payment.markAsPaid now₁ event₁ = .ok row₁ ∧
      row₁.markAsWaitingForDeposit now₂ event₂ = .ok row₂ ∧
      db.payments.save k row₁ = .ok db₁.payments ∧
      Reverted db₁ now₂ k payment.order order₁ row₂ db₂ ∧
      (order.status = .confirmed → order₁ = order.deposited db now₁ row₁ ∧
        Deposited db now₁ id k payment.order order row₁ db₁) := by
  have hopen : payment.status.isOpen = true := by
    rw [hwaiting]
    decide
  have hfresh : isWebhookDuplicate db now₁ id .done = false := by
    by_contra hdup
    rw [Bool.not_eq_false] at hdup
    simp only [handlePaymentDone, hid₁, hdup, if_true] at hdone
    cases hdone
    have hpaid := (handleWaitingForDeposit_reverted hid₂ hof hrevert).1
    rw [hwaiting] at hpaid
    cases hpaid
  refine ⟨hfresh, ?_⟩
  have hid : payment.tossOrderId = id := of_decide_eq_true (Table.find?_eq_some_get hof).2
  -- What either branch of the deposit leaves for the revert.
  have hnext : ∀ {row₁ : Payment} {order₁ : Order}, payment.markAsPaid now₁ event₁ = .ok row₁ →
      db.payments.save k row₁ = .ok db₁.payments →
      db₁.orders.get? payment.order = some order₁ → 0 ≤ order₁.earnedPoints →
      ∃ row₂, row₁.markAsWaitingForDeposit now₂ event₂ = .ok row₂ ∧
        Reverted db₁ now₂ k payment.order order₁ row₂ db₂ := by
    intro row₁ order₁ hrow₁ hsave horder₁ hearned₁
    have hsame := (Payment.markAsPaid_spec hrow₁).2
    have hof₁ := PaymentTable.ofTossOrderId?_save hsave
    rw [hsame.tossOrderId, hid] at hof₁
    obtain ⟨_, order', row₂, horder', hrow₂, hsaved⟩ :=
      handleWaitingForDeposit_reverted hid₂ hof₁ hrevert
    rw [hsame.order] at horder' hsaved
    rw [horder₁] at horder'
    cases horder'
    exact ⟨row₂, hrow₂, reverted_of_saved horder₁ hearned₁ (hreclaim _ horder₁) hsaved⟩
  obtain hconfirmed | hcanceled := hstatus
  · obtain ⟨_, row₁, hrow₁, hd⟩ :=
      handlePaymentDone_deposited hid₁ hfresh hof hopen horder hconfirmed hdone
    have hearned₁ : 0 ≤ (order.deposited db now₁ row₁).earnedPoints :=
      add_nonneg hearned (earnedByDone_nonneg db order)
    obtain ⟨row₂, hrow₂, hr⟩ := hnext hrow₁ hd.payments hd.found hearned₁
    exact ⟨row₁, row₂, _, hrow₁, hrow₂, hd.payments, hr, fun _ => ⟨rfl, hd⟩⟩
  · have hunpaid : order.status ≠ .paid := by
      rw [hcanceled]
      decide
    obtain ⟨hne, haborted, hclosed, hexpired⟩ := closed_of_isOpen hopen
    have hwrites : ∃ row₁, payment.markAsPaid now₁ event₁ = .ok row₁ ∧
        db.payments.save k row₁ = .ok db₁.payments ∧ db₁.orders = db.orders := by
      cases handlePaymentDone_found hid₁ hfresh hof hdone with
      | alreadyPaid hst => simp [Payment.isPaid, hst] at hne
      | chargedButFailed hst => exact absurd hst haborted
      | finalState hst => exact absurd hst hclosed
      | depositAfterExpiry hst => exact absurd hst hexpired
      | chargedOnCanceledOrder _ _ _ hrow hsaved =>
        obtain ⟨hsave, horders, _⟩ := savePayment_payments hsaved
        exact ⟨_, hrow, by simpa using hsave, by simpa using horders⟩
      | orderAlreadyPaid _ hfound hst _ _ =>
        rw [horder] at hfound
        cases hfound
        exact absurd hst hunpaid
      | settled _ hfound hst _ _ _ _ =>
        rw [horder] at hfound
        cases hfound
        exact absurd hcanceled hst
    obtain ⟨row₁, hrow₁, hsave, horders⟩ := hwrites
    obtain ⟨row₂, hrow₂, hr⟩ := hnext hrow₁ hsave (horders ▸ horder) hearned
    refine ⟨row₁, row₂, order, hrow₁, hrow₂, hsave, hr, fun hconfirmed => ?_⟩
    rw [hcanceled] at hconfirmed
    cases hconfirmed

theorem isWebhookDuplicate_later (h : isWebhookDuplicate db now₁ id .done = false)
    (hle : now₁ ≤ now₃) : isWebhookDuplicate db now₃ id .done = false := by
  unfold isWebhookDuplicate at h ⊢
  rw [List.any_eq_false] at h ⊢
  intro m hm hc
  rw [Bool.and_eq_true, decide_eq_true_eq, decide_eq_true_eq] at hc
  refine h m hm ?_
  rw [Bool.and_eq_true, decide_eq_true_eq, decide_eq_true_eq]
  exact ⟨hc.1, lt_of_le_of_lt hle hc.2⟩

/-- After a bounce the mark of the first deposit is the newest. -/
theorem isWebhookDuplicate_bounced
    (hmarks : db₂.webhookMarks = ((id, .done), now₁ + webhookEventTtl) :: db.webhookMarks)
    (h : isWebhookDuplicate db now₃ id .done = false) :
    isWebhookDuplicate db₂ now₃ id .done = false ↔ now₁ + webhookEventTtl ≤ now₃ := by
  unfold isWebhookDuplicate at h ⊢
  rw [hmarks, List.any_cons, h, Bool.or_false]
  simp

/-- The row of the first earning is still there after the bounce. -/
theorem earnExists_bounced {order₁ : Order} (hd : Deposited db now₁ id k o order row₁ db₁)
    (hr : Reverted db₁ now₂ k o order₁ row₂ db₂) (hpos : 0 < earnedByDone db order) :
    PointService.earnExists db₂.ledger o = true := by
  have hrow : db₁.hasHistory o .earn = true := by
    rw [Db.hasHistory_eq, hd.ledger, if_pos hpos]
    unfold Ledger.post
    simp
  obtain ⟨booked, hentries⟩ := hr.entries
  rw [← hasHistory_earn]
  exact Db.hasHistory_of_entries hentries hrow

/-- A deposit after one that was undone leaves the same as the first one, when
neither earns. -/
theorem DepositUndone.sameDeposit {order₂ : Order} {row : Payment} {again single : Db}
    (h : DepositUndone db db₂ o) (hds : Deposited db now₃ id k o order row single)
    (hda : Deposited db₂ now₃ id k o order₂ row again) (hitems : order₂.items = order.items)
    (hzero : earnedByDone db order = 0) (hzero₂ : earnedByDone db₂ order₂ = 0)
    (hsame : order₂.deposited db₂ now₃ row = order.deposited db now₃ row) :
    SameDeposit again single k o := by
  refine ⟨?_, ?_, fun j => ?_, fun u => ?_⟩
  · rw [PaymentTable.get?_save hda.payments, PaymentTable.get?_save hds.payments, if_pos rfl,
      if_pos rfl]
  · rw [hda.found, hds.found, hsame]
  · have hcount : ∀ x : Option Product,
        (x.map fun p => p.soldCount + quantityOf j order.items)
          = (x.map Product.soldCount).map fun s => s + quantityOf j order.items := by
      intro x
      rw [Option.map_map]
      rfl
    rw [hda.soldCount, hds.soldCount, hitems, hcount, hcount, h.soldCount j]
  · rw [hda.points, hds.points, hzero, hzero₂, h.points, ite_self, ite_self]

/-- A bounced deposit is undone, and a new deposit settles the order like the
first one would have, exactly when the order was confirmed, held no earned
points, earns none, and the new deposit comes after the mark of the first one
has run out.  A canceled order never stays canceled. -/
theorem deposit_bounce_undone {single : Db} {result₁ result₃ : DoneResult}
    (hid₁ : event₁.orderId = some id) (hid₂ : event₂.orderId = some id)
    (hid₃ : event₃.orderId = some id)
    (hof : db.payments.ofTossOrderId? id = some (k, payment))
    (hwaiting : payment.status = .waitingForDeposit)
    (horder : db.orders.get? payment.order = some order)
    (hstatus : order.status = .confirmed ∨ order.status = .canceled)
    (hearned : 0 ≤ order.earnedPoints)
    (hsold : ∀ j p, db.products.get? j = some p → 0 ≤ p.soldCount) (hlater : now₁ ≤ now₃)
    (hreport₁ : payment.ReportedBy event₁) (hreport₂ : payment.ReportedBy event₂)
    (hdone : handlePaymentDone db now₁ event₁ = .ok (result₁, db₁))
    (hreclaim : ∀ order₁, db₁.orders.get? payment.order = some order₁ →
      db₁.Reclaimable now₂ order₁)
    (hrevert : handleWaitingForDeposit db₁ now₂ event₂ = .ok (.depositReverted, db₂))
    (hsingle : handlePaymentDone db now₃ event₃ = .ok (result₃, single)) :
    ((order.status = .confirmed → DepositUndone db db₂ payment.order ∧
        ∃ again, handlePaymentDone db₂ now₃ event₃ = .ok (.settled, again) ∧
          SameDeposit again single k payment.order) ∧
      (order.status = .canceled → db₂.statusOf payment.order = some .canceled)) ↔
    order.status = .confirmed ∧ order.earnedPoints = 0 ∧
      earnPoints order.totalAmount (db.membership order.user).earnRate ≤ 0 ∧
      now₁ + webhookEventTtl ≤ now₃ := by
  obtain ⟨hfresh, row₁, row₂, order₁, hrow₁, hrow₂, hsave₁, hr, hsettled⟩ :=
    bounced hid₁ hid₂ hof hwaiting horder hstatus hearned hdone hreclaim hrevert
  have hfresh₃ := isWebhookDuplicate_later hfresh hlater
  have hopen : payment.status.isOpen = true := by
    rw [hwaiting]
    decide
  have hback : db₂.statusOf payment.order = some .confirmed := by
    unfold Db.statusOf
    rw [hr.found]
    rfl
  -- The payment after the bounce.
  have hsame₁ := (Payment.markAsPaid_spec hrow₁).2
  obtain ⟨hwaiting₂, hsame₂⟩ := Payment.markAsWaitingForDeposit_spec hrow₂
  have horder₂ : row₂.order = payment.order := hsame₂.order.trans hsame₁.order
  have hof₂ : db₂.payments.ofTossOrderId? id = some (k, row₂) := by
    have h := PaymentTable.ofTossOrderId?_save hr.payments
    rwa [hsame₂.tossOrderId, hsame₁.tossOrderId,
      of_decide_eq_true (Table.find?_eq_some_get hof).2] at h
  have hopen₂ : row₂.status.isOpen = true := by
    rw [hwaiting₂]
    decide
  have hfound₂ := hr.found
  rw [← horder₂] at hfound₂
  constructor
  · rintro ⟨hcon, hcan⟩
    obtain hconfirmed | hcanceled := hstatus
    · obtain ⟨rfl, hd⟩ := hsettled hconfirmed
      obtain ⟨hundone, again, hagain, _⟩ := hcon hconfirmed
      have hnone := (depositUndone_iff hd hr hsold).mp hundone
      have hfresh₂ : isWebhookDuplicate db₂ now₃ id .done = false := by
        by_contra hdup
        rw [Bool.not_eq_false] at hdup
        simp only [handlePaymentDone, hid₃, hdup, if_true] at hagain
        cases hagain
      refine ⟨hconfirmed, hnone, ?_,
        (isWebhookDuplicate_bounced (hr.marks.trans hd.marks) hfresh₃).mp hfresh₂⟩
      obtain ⟨_, row₃, _, hd₂⟩ :=
        handlePaymentDone_deposited hid₃ hfresh₂ hof₂ hopen₂ hfound₂ rfl hagain
      by_contra hrate
      have hearns : earnedByDone db₂ { order.deposited db now₁ row₁ with
          status := .confirmed, earnedPoints := 0, updatedAt := now₂ } = earnedByDone db order := by
        unfold earnedByDone
        rw [if_pos rfl, if_pos hnone, hr.membership, hd.membership]
        rfl
      have hpos : 0 < earnedByDone db order := by
        unfold earnedByDone
        rw [if_pos hnone]
        exact lt_of_lt_of_le (not_le.mp hrate) (le_max_left _ _)
      have hkept := earnExists_bounced hd hr hpos
      rw [← horder₂, hd₂.first (hearns ▸ hpos)] at hkept
      cases hkept
    · rw [hcan hcanceled] at hback
      cases hback
  · rintro ⟨hconfirmed, hnone, hrate, hmark⟩
    obtain ⟨rfl, hd⟩ := hsettled hconfirmed
    obtain ⟨_, row₃, hrow₃, hds⟩ :=
      handlePaymentDone_deposited hid₃ hfresh₃ hof hopen horder hconfirmed hsingle
    have hundone := (depositUndone_iff hd hr hsold).mpr hnone
    have hfresh₂ := (isWebhookDuplicate_bounced (hr.marks.trans hd.marks) hfresh₃).mpr hmark
    have hrate₂ : earnPoints order.totalAmount (db₂.membership order.user).earnRate ≤ 0 := by
      rw [hr.membership, hd.membership]
      exact hrate
    have hrow₃' := (markAsPaid_again hreport₁ hreport₂ hrow₁ hrow₂).trans hrow₃
    have hfree : db₂.payments.conflicts k row₃ = false := by
      rw [PaymentTable.conflicts_save hr.payments, PaymentTable.conflicts_save hsave₁]
      exact (PaymentTable.save_returns db.payments k row₃).mp ⟨_, hds.payments⟩
    obtain ⟨saved, hsaved⟩ := (savePayment_returns db₂ k row₃).mpr hfree
    refine ⟨fun _ => ⟨hundone, ?_⟩, fun hc => ?_⟩
    · generalize hreverted : ({ order.deposited db now₁ row₁ with
        status := .confirmed, earnedPoints := 0, updatedAt := now₂ } : Order) = order₂ at hfound₂
      have hconfirmed₂ : order₂.status = .confirmed := by rw [← hreverted]
      have hnone₂ : order₂.earnedPoints = 0 := by rw [← hreverted]
      have hsameRate : earnPoints order₂.totalAmount (db₂.membership order₂.user).earnRate ≤ 0 := by
        rw [← hreverted]
        exact hrate₂
      have hp := paid_of_saved hrow₃' hsaved order₂ row₂.order (methodOrCard row₃.method)
        order₂.user
      have hagain := handlePaymentDone_settles hid₃ hfresh₂ hof₂ hopen₂ hfound₂
        (by rw [hconfirmed₂]; decide) (by rw [hconfirmed₂]; decide) hrow₃' hsaved
      rw [hp.earnOnDone, if_neg (not_not.mpr hnone₂), if_neg (not_lt.mpr hsameRate)] at hagain
      refine ⟨_, hagain, ?_⟩
      obtain ⟨_, row, hrow, hda⟩ :=
        handlePaymentDone_deposited hid₃ hfresh₂ hof₂ hopen₂ hfound₂ hconfirmed₂ hagain
      obtain rfl : row = row₃ := Except.ok.inj (hrow.symm.trans hrow₃')
      have hzero : earnedByDone db order = 0 := by
        unfold earnedByDone
        rw [if_pos hnone, max_eq_right hrate]
      have hzero₂ : earnedByDone db₂ order₂ = 0 := by
        unfold earnedByDone
        rw [if_pos hnone₂, max_eq_right hsameRate]
      rw [← horder₂] at hds hundone ⊢
      refine hundone.sameDeposit hds hda (by rw [← hreverted]; rfl) hzero hzero₂ ?_
      unfold Order.deposited
      rw [hzero, hzero₂, hnone, hnone₂, ← hreverted]
      rfl
    · rw [hconfirmed] at hc
      cases hc

end

/-! ## A virtual account -/

/-- The payment of the order 1, by virtual account. -/
def accountPayment : Payment :=
  { World.onePayment .waitingForDeposit with
    paymentKey := some "key", method := "가상계좌", virtualAccountBankCode := "088",
    virtualAccountNumber := "110", tossSecret := "secret" }

/-- The shop with the order 1, worth `total`, in one status. -/
def accountShop (status : OrderStatus) (total : Int) : Db :=
  { (World.shop status .waitingForDeposit).db with
    orders := Table.empty.insert { World.oneOrder status with totalAmount := total }
    payments := PaymentTable.single accountPayment }

/-- The provider's report of the payment. -/
def accountReport (status : TossStatus) : TossPayment :=
  { status := some status, orderId := some (.orderNumber 1), paymentKey := some "key",
    method := .value "가상계좌", secret := some "secret",
    virtualAccount := some { bankCode := .value "088", accountNumber := .value "110" } }

theorem accountPayment_reported (status : TossStatus) :
    accountPayment.ReportedBy (accountReport status) :=
  ⟨rfl, ⟨_, rfl, rfl, rfl, rfl⟩, Or.inr rfl⟩

/-- An order of 50 earns nothing: its deposit bounces without a trace. -/
theorem deposit_bounce_undone_small :
    ∃ db₁ db₂ single again,
      handlePaymentDone (accountShop .confirmed 50) 1 (accountReport .done)
        = .ok (.settled, db₁) ∧
      handleWaitingForDeposit db₁ 2 (accountReport .waitingForDeposit)
        = .ok (.depositReverted, db₂) ∧
      handlePaymentDone (accountShop .confirmed 50) 100 (accountReport .done)
        = .ok (.settled, single) ∧
      DepositUndone (accountShop .confirmed 50) db₂ 1 ∧
      handlePaymentDone db₂ 100 (accountReport .done) = .ok (.settled, again) ∧
      SameDeposit again single 1 1 := by
  obtain ⟨db₁, db₂, single, hdone, hrevert, hsingle, hnone⟩ : ∃ db₁ db₂ single,
      handlePaymentDone (accountShop .confirmed 50) 1 (accountReport .done)
        = .ok (.settled, db₁) ∧
      handleWaitingForDeposit db₁ 2 (accountReport .waitingForDeposit)
        = .ok (.depositReverted, db₂) ∧
      handlePaymentDone (accountShop .confirmed 50) 100 (accountReport .done)
        = .ok (.settled, single) ∧
      (db₁.orders.get? 1).map Order.earnedPoints = some 0 :=
    ⟨_, _, _, rfl, rfl, rfl, rfl⟩
  have hof : (accountShop .confirmed 50).payments.ofTossOrderId? (.orderNumber 1)
      = some (1, accountPayment) := rfl
  have horder : (accountShop .confirmed 50).orders.get? 1
      = some { World.oneOrder .confirmed with totalAmount := 50 } := rfl
  have hsold : ∀ j p, (accountShop .confirmed 50).products.get? j = some p → 0 ≤ p.soldCount := by
    intro j p hp
    have hinsert : (accountShop .confirmed 50).products
        = Table.empty.insert ⟨"책", 10000, 9, 0, true⟩ := rfl
    rw [hinsert, Table.get?_insert, Table.get?_empty] at hp
    split at hp
    · cases hp
      exact le_rfl
    · cases hp
  have hreclaim : ∀ order₁, db₁.orders.get? accountPayment.order = some order₁ →
      db₁.Reclaimable 2 order₁ := by
    intro order₁ hfound hpos
    have hfound' : db₁.orders.get? 1 = some order₁ := hfound
    rw [hfound'] at hnone
    have hzero : order₁.earnedPoints = 0 := Option.some.inj hnone
    omega
  have hbounce := deposit_bounce_undone rfl rfl rfl hof rfl horder (Or.inl rfl) (by decide) hsold
    (by decide) (accountPayment_reported .done) (accountPayment_reported .waitingForDeposit) hdone
    hreclaim hrevert hsingle
  obtain ⟨hundone, again, hagain, hsame⟩ :=
    (hbounce.mpr ⟨rfl, rfl, by decide, by decide⟩).1 rfl
  exact ⟨db₁, db₂, single, again, hdone, hrevert, hsingle, hundone, hagain, hsame⟩

/-- An order of 10000 earns 100 points: after the bounce the row of the
earning is in the way of a new deposit.  A canceled order comes out of a
bounce as confirmed. -/
theorem deposit_bounce_sticks :
    (∃ db₁ db₂ single,
      handlePaymentDone (accountShop .confirmed 10000) 1 (accountReport .done)
        = .ok (.settled, db₁) ∧
      handleWaitingForDeposit db₁ 2 (accountReport .waitingForDeposit)
        = .ok (.depositReverted, db₂) ∧
      handlePaymentDone (accountShop .confirmed 10000) 100 (accountReport .done)
        = .ok (.settled, single) ∧
      handlePaymentDone db₂ 100 (accountReport .done) = .error (.db .integrityError)) ∧
    ∃ db₁ db₂,
      handlePaymentDone (accountShop .canceled 10000) 1 (accountReport .done)
        = .ok (.chargedOnCanceledOrder, db₁) ∧
      handleWaitingForDeposit db₁ 2 (accountReport .waitingForDeposit)
        = .ok (.depositReverted, db₂) ∧
      db₂.statusOf 1 = some .confirmed := by
  exact ⟨⟨_, _, _, rfl, rfl, rfl, rfl⟩, _, _, rfl, rfl, rfl⟩

end Shopping
