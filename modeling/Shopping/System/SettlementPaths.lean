import Shopping.Charges.Refinement
import Shopping.Payments.Records
import Shopping.Points.Invariant
import Shopping.System.World

/-!
# The three ways to settle a payment

`confirm_payment_sync`, `finalize_payment_confirm` with the earning task after
it, and `handle_payment_done` are written apart.  `Settlement` is what they
have to agree on.  `settledWith` is a settlement that earns some points; each
path ends in one or leaves everything as it was, and the lemmas say which.
-/

namespace Shopping

/-- What a settlement leaves for the payment `k` and the order `o`. -/
structure Settlement where
  payment : Option PaymentStatus
  order : Option OrderStatus
  earnedPoints : Option Int
  soldCount : ProductId → Option Int
  points : UserId → Int
  earnRows : List Int

/-- The points of the earn rows of the order. -/
def Ledger.earnRowsOf (L : Ledger) (o : OrderId) : List Int :=
  (L.entries.filter fun e => decide (e.order = some o) && decide (e.type = .earn)).map Entry.points

def Db.settlement (db : Db) (k : Nat) (o : OrderId) : Settlement where
  payment := (db.payments.get? k).map Payment.status
  order := db.statusOf o
  earnedPoints := (db.orders.get? o).map Order.earnedPoints
  soldCount := fun j => (db.products.get? j).map Product.soldCount
  points := db.ledger.points
  earnRows := db.ledger.earnRowsOf o

/-- The database after a call: as before when it raises. -/
def committed {α : Type} (db : Db) : Except ShopError (α × Db) → Db
  | .ok out => out.2
  | .error _ => db

/-- `confirm_payment_sync`. -/
def settledBySync (db : Db) (now : Time) (k : Nat) (user : UserId) (data : TossPayment) : Db :=
  committed db (PaymentService.confirmPaymentSync db now k user (.ok data))

/-- `finalize_payment_confirm`, and then `add_points_after_payment`. -/
def settledByTasks (db : Db) (now later : Time) (k : Nat) (o : OrderId) (user : UserId)
    (data : TossPayment) : Db :=
  match PaymentTasks.finalizePaymentConfirm db now data k user true with
  | .ok out => committed out.db (PointTasks.addPointsAfterPayment out.db later user o)
  | .error _ => db

/-- `handle_payment_done`. -/
def settledByWebhook (db : Db) (now : Time) (data : TossPayment) : Db :=
  committed db (TossWebhookService.handlePaymentDone db now data)

/-- A settlement that earns `n` points, or none when `n` is not positive. -/
def settledWith (db : Db) (o : OrderId) (order : Order) (n : Int) : Settlement where
  payment := some .done
  order := some .paid
  earnedPoints := some (if 0 < n then n else order.earnedPoints)
  soldCount := fun j => (db.products.get? j).map fun p => p.soldCount + quantityOf j order.items
  points := fun u => db.ledger.points u + if 0 < n ∧ order.user = u then n else 0
  earnRows := db.ledger.earnRowsOf o ++ if 0 < n then [n] else []

/-! ## The common part -/

section

variable {db : Db} {now : Time} {k : Nat} {payment row : Payment} {order : Order} {saved : Db}

theorem earnRowsOf_append {L L' : Ledger} {booked : List Entry} (o : OrderId)
    (h : L'.entries = L.entries ++ booked) :
    L'.earnRowsOf o = L.earnRowsOf o
      ++ ((booked.filter fun e => decide (e.order = some o) && decide (e.type = .earn)).map
        Entry.points) := by
  unfold Ledger.earnRowsOf
  rw [h, List.filter_append, List.map_append]

/-- The tables of a paid order before its points are booked. -/
structure Paid (db : Db) (now : Time) (k : Nat) (o : OrderId) (order : Order) (paid : Db) :
    Prop where
  payment : (paid.payments.get? k).map Payment.status = some .done
  orders : ∃ method, paid.orders = db.orders.modify o (Order.withPaid method now)
  products : paid.products = updateProducts db.products addSold order.items
  ledger : paid.ledger = db.ledger
  membership : paid.membership = db.membership

theorem paid_of_saved {data : TossPayment} (hrow : payment.markAsPaid now data = .ok row)
    (hsaved : db.savePayment k row = .ok saved) (order : Order) (o : OrderId) (method : String)
    (user : UserId) :
    Paid db now k o order (((saved.updateItems addSold order.items).saveOrder o
      (Order.withPaid method now)).deactivateCarts user) := by
  obtain ⟨hsave, horders, hproducts, _, hledger⟩ := savePayment_payments hsaved
  have hmembership : saved.membership = db.membership := by
    obtain ⟨payments, _, rfl⟩ := Db.savePayment_eq_ok.mp hsaved
    rfl
  constructor
  · rw [Db.deactivateCarts_payments, Db.saveOrder_payments, Db.updateItems_payments,
      PaymentTable.get?_save hsave, if_pos rfl, Option.map_some, (Payment.markAsPaid_spec hrow).1]
  · exact ⟨method, by simp [horders]⟩
  · simp [hproducts]
  · simp [hledger]
  · exact hmembership

/-- What one point operation answers for the earning of an order. -/
theorem addPoints_earn {L : Ledger} {user : UserId} {n : Int} (hn : 0 < n) (o : OrderId) :
    PointService.addPoints L now user n .earn (some o)
      = if PointService.earnExists L o = true then .error .integrityError
        else .ok (true, L.post now user n .earn (some o) {}) := by
  unfold PointService.addPoints
  rw [if_neg (not_le.mpr hn)]
  simp only [true_and, Option.any_some]
  rfl

theorem hasHistory_earn (db : Db) (o : OrderId) :
    db.hasHistory o .earn = PointService.earnExists db.ledger o := by
  unfold Db.hasHistory PointService.earnExists
  simp only [Bool.and_comm]

namespace Paid

variable {o : OrderId} {paid db' : Db}

theorem get_order (h : Paid db now k o order paid) (horder : db.orders.get? o = some order) :
    ∃ method, paid.orders.get? o = some (order.withPaid method now) := by
  obtain ⟨method, hmodify⟩ := h.orders
  refine ⟨method, ?_⟩
  rw [hmodify, Table.get?_modify_self, horder]
  rfl

theorem soldCount (h : Paid db now k o order paid) (hproducts : db'.products = paid.products)
    (j : ProductId) : (db'.products.get? j).map Product.soldCount
      = (db.products.get? j).map fun p => p.soldCount + quantityOf j order.items := by
  have hfield : ∀ (m : Int) (p : Product), (addSold m p).soldCount = p.soldCount + 1 * m := by
    intro m p
    rw [one_mul]
    rfl
  rw [hproducts, h.products, updateProducts_field hfield]
  simp only [one_mul]

/-- Nothing is earned. -/
theorem settlement (h : Paid db now k o order paid) (horder : db.orders.get? o = some order)
    (hpayments : db'.payments = paid.payments) (horders : db'.orders = paid.orders)
    (hproducts : db'.products = paid.products) (hledger : db'.ledger = paid.ledger) {n : Int}
    (hn : n ≤ 0) : db'.settlement k o = settledWith db o order n := by
  obtain ⟨method, hmodify⟩ := h.orders
  have hrow : db'.orders.get? o = some (order.withPaid method now) := by
    rw [horders, hmodify, Table.get?_modify_self, horder]
    rfl
  have hpos : ¬ 0 < n := not_lt.mpr hn
  have hsold := h.soldCount hproducts
  unfold Db.settlement settledWith Db.statusOf
  rw [hpayments, h.payment, hrow, hledger, h.ledger]
  simp only [hsold, if_neg hpos, if_neg fun hc : 0 < n ∧ _ => hpos hc.1, add_zero,
    List.append_nil]
  rfl

/-- Points are earned. -/
theorem settlement_earned (h : Paid db now k o order paid)
    (horder : db.orders.get? o = some order) {n : Int} (hn : 0 < n) (later : Time)
    (hpayments : db'.payments = paid.payments)
    (horders : db'.orders = paid.orders.modify o fun x => { x with earnedPoints := n })
    (hproducts : db'.products = paid.products)
    (hledger : db'.ledger = db.ledger.post later order.user n .earn (some o) {}) :
    db'.settlement k o = settledWith db o order n := by
  obtain ⟨method, hmodify⟩ := h.orders
  have hrow : db'.orders.get? o = some { order.withPaid method now with earnedPoints := n } := by
    rw [horders, Table.get?_modify_self, hmodify, Table.get?_modify_self, horder]
    rfl
  have hsold := h.soldCount hproducts
  have hpoints : db'.ledger.points
      = fun u => db.ledger.points u + if 0 < n ∧ order.user = u then n else 0 := by
    funext u
    rw [hledger, post_points]
    simp only [hn, true_and]
  have hrows : db'.ledger.earnRowsOf o = db.ledger.earnRowsOf o ++ [n] := by
    have hentries : db'.ledger.entries = db.ledger.entries ++ [⟨some o, .earn, n⟩] := by
      rw [hledger]
      unfold Ledger.post
      rw [Ledger.entries_createHistory, Ledger.entries_setPoints]
    rw [earnRowsOf_append o hentries]
    simp
  unfold Db.settlement settledWith Db.statusOf
  rw [hpayments, h.payment, hrow, hpoints, hrows]
  simp only [hsold, if_pos hn]
  rfl

/-- The task after the settlement earns at the rate that the user has now,
unless the order earned before. -/
theorem settlement_task (h : Paid db now k o order paid) (horder : db.orders.get? o = some order)
    (hfinal : 0 < order.finalAmount) {later : Time} (logType : LogType) (message : String) :
    (committed (paid.log k logType message) (PointTasks.addPointsAfterPayment
        (paid.log k logType message) later order.user o)).settlement k o
      = settledWith db o order
          (if 0 < order.earnedPoints ∨ PointService.earnExists db.ledger o = true then 0
            else earnPoints order.totalAmount (db.membership order.user).earnRate) := by
  obtain ⟨method, hget⟩ := h.get_order horder
  generalize hlogged : paid.log k logType message = logged
  have hpayments : logged.payments = paid.payments := hlogged ▸ rfl
  have horders : logged.orders = paid.orders := hlogged ▸ rfl
  have hproducts : logged.products = paid.products := hlogged ▸ rfl
  have hledger : logged.ledger = db.ledger := hlogged ▸ h.ledger
  have hmembership : logged.membership = db.membership := hlogged ▸ h.membership
  have hsame : ∀ n ≤ 0, logged.settlement k o = settledWith db o order n := by
    intro n hn
    exact h.settlement horder hpayments horders hproducts (hledger.trans h.ledger.symm) hn
  have hrow : logged.getOrder o = .ok (order.withPaid method now) := by
    rw [Db.getOrder_eq_ok, horders, hget]
  have hearned : (order.withPaid method now).earnedPoints = order.earnedPoints := rfl
  have hamount : (order.withPaid method now).finalAmount = order.finalAmount := rfl
  have htotal : (order.withPaid method now).totalAmount = order.totalAmount := rfl
  rw [← hmembership]
  simp only [PointTasks.addPointsAfterPayment, hrow, ok_bind, hearned, hamount, htotal,
    hasHistory_earn, hledger, if_neg (not_le.mpr hfinal)]
  generalize earnPoints order.totalAmount (logged.membership order.user).earnRate = n
  by_cases hbefore : 0 < order.earnedPoints ∨ PointService.earnExists db.ledger o = true
  · rw [if_pos hbefore, if_pos hbefore]
    exact hsame 0 le_rfl
  · rw [if_neg hbefore, if_neg hbefore]
    by_cases hn : n ≤ 0
    · rw [if_pos hn]
      exact hsame n hn
    · have hpos := not_le.mp hn
      rw [if_neg hn, addPoints_earn hpos, if_neg fun hx => hbefore (Or.inr hx)]
      have hmoves := PaymentTasks.logOnPayment_moves (({ logged with
        ledger := db.ledger.post later order.user n .earn (some o) {} }).saveOrder o fun x =>
          { x with earnedPoints := n }) o .approve ("포인트 " ++ toString n ++ "점 적립")
      have hmodify : (logged.orders.modify o fun x => { x with earnedPoints := n })
          = paid.orders.modify o fun x => { x with earnedPoints := n } := by
        rw [horders]
      exact h.settlement_earned horder hpos later (hmoves.payments.trans hpayments)
        (hmoves.orders.trans hmodify) (hmoves.products.trans hproducts)
        (PaymentTasks.logOnPayment_ledger _ _ _ _)

/-- The earning of `handle_payment_done`. -/
theorem earnOnDone (h : Paid db now k o order paid) :
    TossWebhookService.earnOnDone paid now o order
      = if order.earnedPoints ≠ 0 then .ok paid
        else if 0 < earnPoints order.totalAmount (db.membership order.user).earnRate then
          if PointService.earnExists db.ledger o = true then .error (.db .integrityError)
          else .ok (({ paid with ledger := (db.ledger.post now order.user
              (earnPoints order.totalAmount (db.membership order.user).earnRate) .earn (some o)
              {}) }).saveOrder o fun x => { x with
                earnedPoints := earnPoints order.totalAmount (db.membership order.user).earnRate })
        else .ok paid := by
  unfold TossWebhookService.earnOnDone
  rw [h.membership, h.ledger]
  generalize earnPoints order.totalAmount (db.membership order.user).earnRate = n
  by_cases hearned : order.earnedPoints ≠ 0
  · rw [if_pos hearned, if_pos hearned]
  · rw [if_neg hearned, if_neg hearned]
    by_cases hn : 0 < n
    · simp only [if_pos hn, addPoints_earn hn]
      cases PointService.earnExists db.ledger o with
      | true => rfl
      | false => rfl
    · simp only [if_neg hn]

end Paid

end

/-! ## The three paths -/

section

variable {db : Db} {now later : Time} {k : Nat} {payment : Payment} {order : Order}
  {data : TossPayment}

/-- The settlement can be written exactly when the row takes the response. -/
theorem recordsResponse_paid (hst : data.status = some .done)
    (horder : db.orders.get? payment.order = some order) (now : Time) :
    recordsResponse db k payment data = true ↔
      ∃ row saved, payment.markAsPaid now data = .ok row ∧ db.savePayment k row = .ok saved := by
  have hpaid : data.status ≠ some .waitingForDeposit := by
    rw [hst]
    decide
  unfold recordsResponse
  rw [if_neg hpaid, horder, Option.isSome_some, Bool.true_and, Bool.and_eq_true,
    Bool.not_eq_true']
  constructor
  · intro ⟨hfits, hfree⟩
    obtain ⟨row, hrow⟩ := (Payment.markAsPaid_returns payment now data).mpr hfits
    rw [← conflicts_of_paid hpaid hrow] at hfree
    obtain ⟨saved, hsaved⟩ := (savePayment_returns db k row).mpr hfree
    exact ⟨row, saved, hrow, hsaved⟩
  · intro ⟨row, saved, hrow, hsaved⟩
    rw [← conflicts_of_paid hpaid hrow]
    exact ⟨(Payment.markAsPaid_returns payment now data).mp ⟨row, hrow⟩,
      (savePayment_returns db k row).mp ⟨saved, hsaved⟩⟩

theorem open_of_admits (h : payment.status.admitsConfirm = true) :
    payment.isPaid = false ∧ payment.isWaitingForDeposit = false ∧
      payment.status.isInvalid = false := by
  simpa [PaymentStatus.admitsConfirm, Payment.isPaid, Payment.isWaitingForDeposit,
    and_assoc] using h

theorem confirmPaymentSync_settled {user : UserId} {out : PaymentService.ConfirmResult × Db}
    (hget : db.payments.get? k = some payment)
    (horder : db.orders.get? payment.order = some order) (hst : data.status = some .done)
    (h : PaymentService.confirmPaymentSync db now k user (.ok data) = .ok out) :
    payment.status.admitsConfirm = true ∧ ∃ row saved earned,
      payment.markAsPaid now data = .ok row ∧ db.savePayment k row = .ok saved ∧
      PaymentService.earnOnConfirm (((saved.updateItems addSold order.items).saveOrder
        payment.order (Order.withPaid row.method now)).deactivateCarts user) now k payment.order
          order user = .ok earned := by
  obtain ⟨p, _, _, hp, hadmits, _⟩ := PaymentService.confirmPaymentSync_ok h
  obtain rfl : payment = p := Option.some.inj (hget.symm.trans hp)
  have hopen := open_of_admits hadmits
  simp only [PaymentService.confirmPaymentSync, Db.getPayment_eq_ok.mpr hget,
    Db.getOrder_eq_ok.mpr horder, ok_bind, hopen, hst] at h
  obtain ⟨row, hrow, h⟩ := bind_eq_ok.mp h
  obtain ⟨saved, hsaved, h⟩ := bind_eq_ok.mp h
  obtain ⟨earned, hearned, _⟩ := bind_eq_ok.mp h
  exact ⟨hadmits, row, saved, earned, hrow, hsaved, hearned⟩

/-- `confirm_payment_sync` settles at the rate of the order. -/
theorem settledBySync_settlement (hget : db.payments.get? k = some payment)
    (horder : db.orders.get? payment.order = some order) (hfinal : 0 < order.finalAmount)
    (hst : data.status = some .done) :
    (settledBySync db now k order.user data).settlement k payment.order
      = if payment.status.admitsConfirm = true ∧ recordsResponse db k payment data = true ∧
          (0 < earnPoints order.totalAmount order.earnRateAtOrder →
            PointService.earnExists db.ledger payment.order = false)
        then settledWith db payment.order order
          (earnPoints order.totalAmount order.earnRateAtOrder)
        else db.settlement k payment.order := by
  generalize hn : earnPoints order.totalAmount order.earnRateAtOrder = n
  unfold settledBySync
  by_cases hc : payment.status.admitsConfirm = true ∧ recordsResponse db k payment data = true ∧
      (0 < n → PointService.earnExists db.ledger payment.order = false)
  · rw [if_pos hc]
    obtain ⟨hadmits, hrec, hfirst⟩ := hc
    obtain ⟨row, saved, hrow, hsaved⟩ := (recordsResponse_paid hst horder now).mp hrec
    have hpaid := paid_of_saved hrow hsaved order payment.order row.method order.user
    have hopen := open_of_admits hadmits
    have hledger := hpaid.ledger
    generalize hbase : ((saved.updateItems addSold order.items).saveOrder payment.order
      (Order.withPaid row.method now)).deactivateCarts order.user = paid at hpaid hledger
    simp only [PaymentService.confirmPaymentSync, Db.getPayment_eq_ok.mpr hget,
      Db.getOrder_eq_ok.mpr horder, ok_bind, hopen, hst, hrow, hsaved, hbase,
      PaymentService.earnOnConfirm, if_pos hfinal, hn]
    by_cases hpos : 0 < n
    · simp only [if_pos hpos, hledger, addPoints_earn hpos, hfirst hpos]
      exact hpaid.settlement_earned horder hpos now rfl rfl rfl rfl
    · simp only [if_neg hpos]
      exact hpaid.settlement horder rfl rfl rfl rfl (not_lt.mp hpos)
  · rw [if_neg hc]
    cases hcall : PaymentService.confirmPaymentSync db now k order.user (.ok data) with
    | error e => rfl
    | ok out =>
      obtain ⟨hadmits, row, saved, earned, hrow, hsaved, hearned⟩ :=
        confirmPaymentSync_settled hget horder hst hcall
      have hledger := (paid_of_saved hrow hsaved order payment.order row.method order.user).ledger
      refine absurd ⟨hadmits, (recordsResponse_paid hst horder now).mpr ⟨row, saved, hrow, hsaved⟩,
        fun hpos => ?_⟩ hc
      by_contra hexists
      rw [Bool.not_eq_false] at hexists
      simp only [PaymentService.earnOnConfirm, if_pos hfinal, hn, if_pos hpos, hledger,
        addPoints_earn hpos, hexists] at hearned
      cases hearned

/-- `finalize_payment_confirm` settles, and the task after it earns at the
rate that the user has now, unless the order earned before. -/
theorem settledByTasks_settlement (hget : db.payments.get? k = some payment)
    (horder : db.orders.get? payment.order = some order) (hconfirmed : order.status = .confirmed)
    (hfinal : 0 < order.finalAmount) (hdone : payment.status ≠ .done)
    (hst : data.status = some .done) :
    (settledByTasks db now later k payment.order order.user data).settlement k payment.order
      = if recordsResponse db k payment data = true
        then settledWith db payment.order order
          (if 0 < order.earnedPoints ∨ PointService.earnExists db.ledger payment.order = true then 0
            else earnPoints order.totalAmount (db.membership order.user).earnRate)
        else db.settlement k payment.order := by
  generalize hn : earnPoints order.totalAmount (db.membership order.user).earnRate = n
  have hpaid : ¬ payment.isPaid = true := by simpa [Payment.isPaid] using hdone
  unfold settledByTasks
  by_cases hrec : recordsResponse db k payment data = true
  · rw [if_pos hrec]
    obtain ⟨row, saved, hrow, hsaved⟩ := (recordsResponse_paid hst horder now).mp hrec
    have hp := paid_of_saved hrow hsaved order payment.order row.method order.user
    generalize hbase : ((saved.updateItems addSold order.items).saveOrder payment.order
      (Order.withPaid row.method now)).deactivateCarts order.user = paid at hp
    have hcanceled : ¬ order.status = .canceled := by
      rw [hconfirmed]
      decide
    simp only [PaymentTasks.finalizePaymentConfirm, Db.getPayment_eq_ok.mpr hget,
      Db.getOrder_eq_ok.mpr horder, ok_bind, if_neg hpaid, hst, hrow, hsaved, hbase,
      if_neg hcanceled]
    exact hn ▸ hp.settlement_task horder hfinal .approve "결제 승인 완료"
  · rw [if_neg hrec]
    cases hcall : PaymentTasks.finalizePaymentConfirm db now data k order.user true with
    | error e => rfl
    | ok out =>
      exact absurd ((finalizePaymentConfirm_returns hget hdone now data order.user true).mp
        ⟨out, hcall⟩) hrec

/-- `handle_payment_done` settles a payment that is not closed, and earns at
the rate that the user has now. -/
theorem settledByWebhook_settlement {id : TossOrderId} (hid : data.orderId = some id)
    (hof : db.payments.ofTossOrderId? id = some (k, payment))
    (horder : db.orders.get? payment.order = some order) (hconfirmed : order.status = .confirmed)
    (hst : data.status = some .done) :
    (settledByWebhook db now data).settlement k payment.order
      = if TossWebhookService.isWebhookDuplicate db now id .done = false ∧
          payment.status.isOpen = true ∧ recordsResponse db k payment data = true ∧
          (order.earnedPoints = 0 →
            0 < earnPoints order.totalAmount (db.membership order.user).earnRate →
              PointService.earnExists db.ledger payment.order = false)
        then settledWith db payment.order order
          (if order.earnedPoints = 0
            then earnPoints order.totalAmount (db.membership order.user).earnRate else 0)
        else db.settlement k payment.order := by
  generalize hn : earnPoints order.totalAmount (db.membership order.user).earnRate = n
  have hcanceled : order.status ≠ .canceled := by
    rw [hconfirmed]
    decide
  have hunpaid : order.status ≠ .paid := by
    rw [hconfirmed]
    decide
  unfold settledByWebhook
  by_cases hc : TossWebhookService.isWebhookDuplicate db now id .done = false ∧
      payment.status.isOpen = true ∧ recordsResponse db k payment data = true ∧
      (order.earnedPoints = 0 → 0 < n → PointService.earnExists db.ledger payment.order = false)
  · rw [if_pos hc]
    obtain ⟨hfresh, hopen, hrec, hfirst⟩ := hc
    obtain ⟨row, saved, hrow, hsaved⟩ := (recordsResponse_paid hst horder now).mp hrec
    have hp := paid_of_saved hrow hsaved order payment.order
      (TossWebhookService.methodOrCard row.method) order.user
    generalize hbase : ((saved.updateItems addSold order.items).saveOrder payment.order
      (Order.withPaid (TossWebhookService.methodOrCard row.method) now)).deactivateCarts
        order.user = paid at hp
    rw [TossWebhookService.handlePaymentDone_settles hid hfresh hof hopen horder hcanceled hunpaid
      hrow hsaved, hbase, hp.earnOnDone, hn]
    by_cases he : order.earnedPoints = 0
    · rw [if_neg (not_not.mpr he), if_pos he]
      by_cases hpos : 0 < n
      · rw [if_pos hpos, hfirst he hpos, if_neg Bool.false_ne_true]
        exact hp.settlement_earned horder hpos now (by simp [committed, Except.map])
          (by simp [committed, Except.map]) (by simp [committed, Except.map])
          (by simp [committed, Except.map])
      · rw [if_neg hpos]
        exact hp.settlement horder (by simp [committed, Except.map])
          (by simp [committed, Except.map]) (by simp [committed, Except.map])
          (by simp [committed, Except.map]) (not_lt.mp hpos)
    · rw [if_pos he, if_neg he]
      exact hp.settlement horder (by simp [committed, Except.map])
        (by simp [committed, Except.map]) (by simp [committed, Except.map])
        (by simp [committed, Except.map]) le_rfl
  · rw [if_neg hc]
    cases hcall : TossWebhookService.handlePaymentDone db now data with
    | error e => rfl
    | ok out =>
      obtain ⟨result, db'⟩ := out
      cases hdup : TossWebhookService.isWebhookDuplicate db now id .done with
      | true =>
        simp only [TossWebhookService.handlePaymentDone, hid, hdup, if_true] at hcall
        cases hcall
        rfl
      | false =>
        cases TossWebhookService.handlePaymentDone_found hid hdup hof hcall with
        | alreadyPaid _ => rfl
        | chargedButFailed _ => rfl
        | finalState _ => rfl
        | depositAfterExpiry _ => rfl
        | chargedOnCanceledOrder _ hfound hc' _ _ =>
          rw [horder] at hfound
          cases hfound
          exact absurd hc' hcanceled
        | orderAlreadyPaid _ hfound hp' _ _ =>
          rw [horder] at hfound
          cases hfound
          exact absurd hp' hunpaid
        | settled hopen _ _ _ hrow hsaved _ =>
          refine absurd ⟨rfl, hopen, (recordsResponse_paid hst horder now).mpr
            ⟨_, _, hrow, hsaved⟩, fun he hpos => ?_⟩ (hdup ▸ hc)
          by_contra hexists
          rw [Bool.not_eq_false] at hexists
          rw [TossWebhookService.handlePaymentDone_settles hid hdup hof hopen horder hcanceled
            hunpaid hrow hsaved,
            (paid_of_saved hrow hsaved order payment.order _ order.user).earnOnDone,
            if_neg (not_not.mpr he), hn, if_pos hpos,
            if_pos hexists] at hcall
          cases hcall

theorem earnPoints_nonneg {total rate : Int} (htotal : 0 ≤ total) (hrate : 0 ≤ rate) :
    0 ≤ earnPoints total rate :=
  Int.tdiv_nonneg (mul_nonneg htotal hrate) (by decide)

theorem Membership.earnRate_nonneg (m : Membership) : 0 ≤ m.earnRate := by
  cases m <;> decide

/-- Two settlements are the same only when they earn the same. -/
theorem settledWith_inj {o : OrderId} {n m : Int} (hn : 0 ≤ n) (hm : 0 ≤ m)
    (h : settledWith db o order n = settledWith db o order m) : n = m := by
  have hrows : (if 0 < n then [n] else []) = if 0 < m then [m] else [] :=
    List.append_cancel_left (congrArg Settlement.earnRows h)
  by_cases hnpos : 0 < n
  · rw [if_pos hnpos] at hrows
    by_cases hmpos : 0 < m
    · rw [if_pos hmpos] at hrows
      exact List.head_eq_of_cons_eq hrows
    · rw [if_neg hmpos] at hrows
      cases hrows
  · rw [if_neg hnpos] at hrows
    by_cases hmpos : 0 < m
    · rw [if_pos hmpos] at hrows
      cases hrows
    · omega

/-- Three settlements are the same, and earn `n` points. -/
structure SameSettlement (before sync tasks webhook : Settlement) (n : Int) : Prop where
  done : sync.payment = some .done
  sync_tasks : sync = tasks
  sync_webhook : sync = webhook
  earnedPoints : sync.earnedPoints = some n
  earnRows : sync.earnRows = before.earnRows ++ if 0 < n then [n] else []

/-- The confirmation settles at the rate that the order was placed with, the
task and the webhook at the rate that the user has now.  The three paths
agree on a confirmed order exactly when both rates earn the same, the payment
still admits a confirmation and the response can be recorded, the order has
no points from an earlier settlement, and the webhook is not filtered out. -/
theorem settlement_paths_agree {id : TossOrderId} (hid : data.orderId = some id)
    (hof : db.payments.ofTossOrderId? id = some (k, payment))
    (horder : db.orders.get? payment.order = some order) (hconfirmed : order.status = .confirmed)
    (hfinal : 0 < order.finalAmount) (hdone : payment.status ≠ .done)
    (hst : data.status = some .done) (hearned : 0 ≤ order.earnedPoints)
    (htotal : 0 ≤ order.totalAmount) (hrate : 0 ≤ order.earnRateAtOrder)
    (now₁ now₂ later now₃ : Time) :
    SameSettlement (db.settlement k payment.order)
        ((settledBySync db now₁ k order.user data).settlement k payment.order)
        ((settledByTasks db now₂ later k payment.order order.user data).settlement k payment.order)
        ((settledByWebhook db now₃ data).settlement k payment.order)
        (order.totalAmount * order.earnRateAtOrder / 100) ↔
      earnPoints order.totalAmount (db.membership order.user).earnRate
          = earnPoints order.totalAmount order.earnRateAtOrder ∧
        payment.status.admitsConfirm = true ∧ recordsResponse db k payment data = true ∧
        order.earnedPoints = 0 ∧
        (0 < earnPoints order.totalAmount order.earnRateAtOrder →
          PointService.earnExists db.ledger payment.order = false) ∧
        TossWebhookService.isWebhookDuplicate db now₃ id .done = false := by
  have hget := PaymentTable.ofTossOrderId?_get hof
  have hfloor : order.totalAmount * order.earnRateAtOrder / 100
      = earnPoints order.totalAmount order.earnRateAtOrder :=
    (Int.tdiv_eq_ediv_of_nonneg (mul_nonneg htotal hrate)).symm
  rw [hfloor, settledBySync_settlement hget horder hfinal hst,
    settledByTasks_settlement hget horder hconfirmed hfinal hdone hst,
    settledByWebhook_settlement hid hof horder hconfirmed hst]
  have hn₀ := earnPoints_nonneg htotal hrate
  have hn₁ := earnPoints_nonneg htotal (db.membership order.user).earnRate_nonneg
  generalize earnPoints order.totalAmount order.earnRateAtOrder = n₀ at hn₀
  generalize earnPoints order.totalAmount (db.membership order.user).earnRate = n₁ at hn₁
  have hunsettled : (db.settlement k payment.order).payment ≠ some .done := by
    unfold Db.settlement
    rw [hget]
    intro hc
    exact hdone (Option.some.inj hc)
  constructor
  · intro ⟨hpaid, htasks, hwebhook, hpoints, _⟩
    by_cases hsync : payment.status.admitsConfirm = true ∧
        recordsResponse db k payment data = true ∧
        (0 < n₀ → PointService.earnExists db.ledger payment.order = false)
    · obtain ⟨hadmits, hrec, hfirst⟩ := hsync
      rw [if_pos ⟨hadmits, hrec, hfirst⟩] at htasks hwebhook hpoints
      rw [if_pos hrec] at htasks
      by_cases hweb : TossWebhookService.isWebhookDuplicate db now₃ id .done = false ∧
          payment.status.isOpen = true ∧ recordsResponse db k payment data = true ∧
          (order.earnedPoints = 0 → 0 < n₁ →
            PointService.earnExists db.ledger payment.order = false)
      · rw [if_pos hweb] at hwebhook
        -- Points from an earlier settlement would keep the task from earning.
        have hnone : order.earnedPoints = 0 := by
          by_cases hpos : 0 < n₀
          · by_contra hne
            have hbefore : 0 < order.earnedPoints := lt_of_le_of_ne hearned (Ne.symm hne)
            rw [if_pos (Or.inl hbefore)] at htasks
            have := settledWith_inj hn₀ le_rfl htasks
            omega
          · have hkept : (if 0 < n₀ then n₀ else order.earnedPoints) = n₀ :=
              Option.some.inj hpoints
            rw [if_neg hpos] at hkept
            omega
        rw [if_pos hnone] at hwebhook
        exact ⟨(settledWith_inj hn₀ hn₁ hwebhook).symm, hadmits, hrec, hnone, hfirst, hweb.1⟩
      · rw [if_neg hweb] at hwebhook
        exact absurd (hwebhook ▸ rfl) hunsettled
    · rw [if_neg hsync] at hpaid
      exact absurd hpaid hunsettled
  · intro ⟨hsame, hadmits, hrec, hnone, hfirst, hfresh⟩
    subst hsame
    have hopen : payment.status.isOpen = true := by
      unfold PaymentStatus.admitsConfirm at hadmits
      unfold PaymentStatus.isOpen
      simp_all
    have htasks : (if 0 < order.earnedPoints ∨
        PointService.earnExists db.ledger payment.order = true then 0 else n₁) = n₁ := by
      split
      · rename_i hbefore
        by_contra hne
        have hpos : 0 < n₁ := lt_of_le_of_ne hn₁ hne
        obtain hpoints | hexists := hbefore
        · omega
        · rw [hfirst hpos] at hexists
          cases hexists
      · rfl
    rw [if_pos ⟨hadmits, hrec, hfirst⟩, if_pos hrec, htasks,
      if_pos ⟨hfresh, hopen, hrec, fun _ => hfirst⟩, if_pos hnone]
    refine ⟨rfl, rfl, rfl, ?_, rfl⟩
    show some (if 0 < n₁ then n₁ else order.earnedPoints) = some n₁
    congr 1
    split
    · rfl
    · omega

end

/-! ## A user who moved up since the order -/

/-- The order 1 is confirmed at the rate of a bronze user. -/
def bronzeOrderShop (membership : Membership) : Db :=
  { (World.shop .confirmed .ready).db with membership := fun _ => membership }

/-- The user is still a bronze user: 1 percent of 10000 in all three. -/
theorem settlement_paths_agree_bronze :
    SameSettlement ((bronzeOrderShop .bronze).settlement 1 1)
      ((settledBySync (bronzeOrderShop .bronze) 1 1 7 World.approval).settlement 1 1)
      ((settledByTasks (bronzeOrderShop .bronze) 2 3 1 1 7 World.approval).settlement 1 1)
      ((settledByWebhook (bronzeOrderShop .bronze) 4 World.approval).settlement 1 1) 100 := by
  have hof : (bronzeOrderShop .bronze).payments.ofTossOrderId? (.orderNumber 1)
      = some (1, World.onePayment .ready) := by decide
  have horder : (bronzeOrderShop .bronze).orders.get? 1 = some (World.oneOrder .confirmed) := by
    decide
  have hid : World.approval.orderId = some (.orderNumber 1) := rfl
  have hagree := settlement_paths_agree hid hof horder rfl (by decide)
    (by decide) rfl (by decide) (by decide) (by decide) 1 2 3 4
  exact hagree.mpr ⟨rfl, rfl, by decide, rfl, fun _ => by decide, by decide⟩

/-- The user has moved up to silver: the confirmation earns 100 points, the
task and the webhook 200. -/
theorem settlement_paths_disagree :
    ((settledBySync (bronzeOrderShop .silver) 1 1 7 World.approval).settlement 1 1).earnedPoints
        = some 100 ∧
      ((settledByTasks (bronzeOrderShop .silver) 2 3 1 1 7 World.approval).settlement 1
        1).earnedPoints = some 200 ∧
      ((settledByWebhook (bronzeOrderShop .silver) 4 World.approval).settlement 1 1).earnedPoints
        = some 200 := by
  decide

end Shopping
