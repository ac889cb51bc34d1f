import Shopping.System.Steps

/-!
# What the payment of an order is for

A payment is made out for the final amount of its order when it is requested,
and neither changes afterwards: `KeepsPrices` holds of every event but the two
that create a row and the one that writes a row back.

`run_charges` puts the three kinds together: what is said about the key, the
order number and the amount of every row, and of every row that a failure
callback read, is kept by every event when it is true of a new row.
-/

namespace Shopping

/-- The amount that the provider's order number stands for. -/
def PriceOf (db : Db) : TossOrderId → Int → Prop
  | .orderNumber o, amount => ∃ order, db.orders.get? o = some order ∧ order.finalAmount = amount
  | .points _, amount => amount = 0

/-- An order number has one price. -/
theorem PriceOf.unique {db : Db} {id : TossOrderId} {a b : Int} (ha : PriceOf db id a)
    (hb : PriceOf db id b) : a = b := by
  cases id with
  | orderNumber o =>
    obtain ⟨x, hx, rfl⟩ := ha
    obtain ⟨y, hy, rfl⟩ := hb
    rw [hx] at hy
    cases hy
    rfl
  | points o =>
    have ha' : a = 0 := ha
    have hb' : b = 0 := hb
    rw [ha', hb']

/-! ## Rows that stay for the same charge -/

/-- Every row was there, with its order number and its amount. -/
structure KeepsCharges (t t' : PaymentTable) : Prop where
  rows : ∀ k q, t'.get? k = some q → ∃ p, t.get? k = some p ∧ q.tossOrderId = p.tossOrderId ∧
    q.amount = p.amount
  next : t.table.next ≤ t'.table.next

/-- What is agreed when an order is placed: its final amount, the points that
it uses, and the value of its goods. -/
def Order.terms (x : Order) : Int × Int × Int := (x.finalAmount, x.usedPoints, x.totalAmount)

/-- Every order is there, on its terms. -/
def KeepsTotals (t t' : Table Order) : Prop :=
  ∀ o x, t.get? o = some x → ∃ y, t'.get? o = some y ∧ y.terms = x.terms

/-- The payments stay for the same charges, and the orders at the same price. -/
structure KeepsPrices (db db' : Db) : Prop where
  charges : KeepsCharges db.payments db'.payments
  totals : KeepsTotals db.orders db'.orders

section

variable {t t' t'' : PaymentTable} {x x' x'' : Table Order} {db db' db'' : Db}

theorem KeepsCharges.refl (t : PaymentTable) : KeepsCharges t t :=
  ⟨fun _ q hq => ⟨q, hq, rfl, rfl⟩, le_refl _⟩

theorem KeepsCharges.of_eq (h : t' = t) : KeepsCharges t t' := by
  rw [h]
  exact .refl t

theorem KeepsCharges.trans (h : KeepsCharges t t') (h' : KeepsCharges t' t'') :
    KeepsCharges t t'' := by
  refine ⟨fun k r hr => ?_, h.next.trans h'.next⟩
  obtain ⟨q, hq, hid, ha⟩ := h'.rows k r hr
  obtain ⟨p, hp, hid', ha'⟩ := h.rows k q hq
  exact ⟨p, hp, hid.trans hid', ha.trans ha'⟩

theorem PaymentTable.next_save {k : Nat} {row : Payment} (h : t.save k row = .ok t') :
    t'.table.next = max t.table.next (k + 1) := by
  unfold PaymentTable.save at h
  split at h
  · cases h
  · cases h
    rfl

theorem KeepsCharges.of_save {k : Nat} {p row : Payment} (hget : t.get? k = some p)
    (hsave : t.save k row = .ok t') (hid : row.tossOrderId = p.tossOrderId)
    (ha : row.amount = p.amount) : KeepsCharges t t' := by
  refine ⟨fun j q hq => ?_, ?_⟩
  · rw [PaymentTable.get?_save hsave] at hq
    split at hq
    · rename_i hj
      cases hq
      exact ⟨p, by rw [hj, hget], hid, ha⟩
    · exact ⟨q, hq, rfl, rfl⟩
  · rw [PaymentTable.next_save hsave]
    exact le_max_left _ _

theorem KeepsCharges.of_setStatus (t : PaymentTable) (sel : Nat → Payment → Bool)
    (s : PaymentStatus) : KeepsCharges t (t.setStatus sel s) := by
  refine ⟨fun k q hq => ?_, le_refl _⟩
  rw [PaymentTable.get?_setStatus, Option.map_eq_some_iff] at hq
  obtain ⟨p, hp, rfl⟩ := hq
  refine ⟨p, hp, ?_⟩
  split
  · exact ⟨rfl, rfl⟩
  · exact ⟨rfl, rfl⟩

theorem KeepsTotals.refl (x : Table Order) : KeepsTotals x x := fun _ y hy => ⟨y, hy, rfl⟩

theorem KeepsTotals.of_eq (h : x' = x) : KeepsTotals x x' := by
  rw [h]
  exact .refl x

theorem KeepsTotals.trans (h : KeepsTotals x x') (h' : KeepsTotals x' x'') :
    KeepsTotals x x'' := by
  intro o y hy
  obtain ⟨z, hz, ha⟩ := h o y hy
  obtain ⟨u, hu, ha'⟩ := h' o z hz
  exact ⟨u, hu, ha'.trans ha⟩

theorem KeepsTotals.of_modify {o : OrderId} {f : Order → Order} (h : x' = x.modify o f)
    (hf : ∀ y, (f y).terms = y.terms) : KeepsTotals x x' := by
  intro i y hy
  rw [h, Table.get?_modify]
  split
  · exact ⟨f y, by rw [hy]; rfl, hf y⟩
  · exact ⟨y, hy, rfl⟩

theorem KeepsTotals.of_modify_modify {o : OrderId} {f g : Order → Order}
    (h : x' = (x.modify o f).modify o g) (hf : ∀ y, (f y).terms = y.terms)
    (hg : ∀ y, (g y).terms = y.terms) : KeepsTotals x x' := by
  have hfirst : KeepsTotals x (x.modify o f) := .of_modify rfl hf
  exact hfirst.trans (.of_modify h hg)

theorem KeepsTotals.of_insert {row : Order} (h : x' = x.insert row) : KeepsTotals x x' := by
  intro o y hy
  rw [h]
  exact ⟨y, Table.get?_insert_of_some hy row, rfl⟩

theorem KeepsPrices.refl (db : Db) : KeepsPrices db db := ⟨.refl _, .refl _⟩

theorem KeepsPrices.of_eq (h : db' = db) : KeepsPrices db db' := by
  rw [h]
  exact .refl db

theorem KeepsPrices.trans (h : KeepsPrices db db') (h' : KeepsPrices db' db'') :
    KeepsPrices db db'' := ⟨h.charges.trans h'.charges, h.totals.trans h'.totals⟩

theorem KeepsPrices.of_tables (hp : db'.payments = db.payments) (ho : db'.orders = db.orders) :
    KeepsPrices db db' := ⟨.of_eq hp, .of_eq ho⟩

theorem KeepsPrices.of_modify {o : OrderId} {f : Order → Order}
    (hp : db'.payments = db.payments) (ho : db'.orders = db.orders.modify o f)
    (hf : ∀ y, (f y).terms = y.terms) : KeepsPrices db db' :=
  ⟨.of_eq hp, .of_modify ho hf⟩

theorem KeepsPrices.of_save {k : Nat} {p row : Payment} {saved : Db}
    (hget : db.payments.get? k = some p) (hsave : db.savePayment k row = .ok saved)
    (hsame : p.SameCharge row) : KeepsPrices db saved := by
  obtain ⟨hsave', horders, _⟩ := savePayment_payments hsave
  exact ⟨.of_save hget hsave' hsame.tossOrderId hsame.amount, .of_eq horders⟩

theorem KeepsPrices.log (h : KeepsPrices db db') (k : Nat) (logType : LogType) (message : String) :
    KeepsPrices db (db'.log k logType message) := ⟨h.charges, h.totals⟩

/-- What is at a price keeps it. -/
theorem KeepsTotals.priceOf (h : KeepsTotals db.orders db'.orders) {id : TossOrderId} {amount : Int}
    (hp : PriceOf db id amount) : PriceOf db' id amount := by
  cases id with
  | orderNumber o =>
    obtain ⟨x, hx, rfl⟩ := hp
    obtain ⟨y, hy, hterms⟩ := h o x hx
    exact ⟨y, hy, congrArg Prod.fst hterms⟩
  | points o => exact hp

end

/-! ## The functions of the shop -/

theorem Payment.markAsCanceled_charge {p q : Payment} {now : Time} {data : TossPayment}
    (h : p.markAsCanceled now data = .ok q) :
    q.tossOrderId = p.tossOrderId ∧ q.amount = p.amount := by
  simp only [Payment.markAsCanceled, bind_eq_ok] at h
  obtain ⟨_, _, h⟩ := h
  cases h
  exact ⟨rfl, rfl⟩

theorem Payment.markAsPartialCanceled_charge {p q : Payment} {now : Time} {amount : Int}
    {data : TossPayment} (h : p.markAsPartialCanceled now amount data = .ok q) :
    q.tossOrderId = p.tossOrderId ∧ q.amount = p.amount := by
  simp only [Payment.markAsPartialCanceled, bind_eq_ok] at h
  obtain ⟨_, _, h⟩ := h
  cases h
  exact ⟨rfl, rfl⟩

section

open PaymentService PaymentTasks TossWebhookService OrderTasks

variable {db db' : Db} {now : Time} {k : Nat} {o : OrderId}

theorem MovesPoints.prices (h : MovesPoints db db') : KeepsPrices db db' :=
  .of_tables h.payments h.orders

theorem PaymentService.Earns.prices (h : Earns db o db') : KeepsPrices db db' := by
  rcases h.orders with horders | ⟨n, horders⟩
  · exact .of_tables h.payments horders
  · exact .of_modify h.payments horders fun _ => rfl

theorem prices_of_close {f : Order → Order} {closed : PaymentStatus}
    (hp : db'.payments = (OrderService.closePayments db o closed).payments)
    (ho : db'.orders = db.orders.modify o f) (hf : ∀ y, (f y).terms = y.terms) :
    KeepsPrices db db' := by
  refine ⟨?_, .of_modify ho hf⟩
  rw [hp]
  exact .of_setStatus _ _ _

theorem Cancels.prices {closed : PaymentStatus} {order : Order}
    (h : Cancels db now o closed order db') : KeepsPrices db db' :=
  prices_of_close h.payments h.orders fun _ => rfl

theorem OrderTasks.expireOrder_prices {expired : Bool}
    (h : expireOrder db now o = .ok (expired, db')) : KeepsPrices db db' := by
  rcases expireOrder_ok h with h | ⟨order, h⟩
  · exact .of_eq h
  · refine ⟨?_, ?_⟩
    · rw [h.payments]
      exact .of_setStatus _ _ _
    · exact .of_modify_modify h.orders (fun _ => rfl) fun _ => rfl

theorem OrderTasks.processOrderHeavyTasks_prices {cart : CartId} {usePoints : Int}
    {out : Outcome ProcessResult}
    (h : processOrderHeavyTasks db now o cart usePoints = .ok out) : KeepsPrices db out.db := by
  obtain ⟨order, _, hdb | ⟨_, cart, products, items, shortage, _, _, hcase⟩⟩ :=
    processOrderHeavyTasks_ok h
  · exact .of_eq hdb
  · cases hcase with
    | failed reason horders _ hpayments _ =>
      exact ⟨.of_eq hpayments, .of_modify_modify horders (fun _ => rfl) fun _ => rfl⟩
    | confirmed horders _ hpayments _ =>
      exact ⟨.of_eq hpayments, .of_modify_modify horders (fun _ => rfl) fun _ => rfl⟩

theorem prices_of_paid {p row : Payment} {saved : Db} {data : TossPayment} {items : List OrderItem}
    {method : String} {user : UserId} (hget : db.payments.get? k = some p)
    (hrow : p.markAsPaid now data = .ok row) (hsaved : db.savePayment k row = .ok saved) :
    KeepsPrices db (((saved.updateItems addSold items).saveOrder p.order
      (Order.withPaid method now)).deactivateCarts user) := by
  have hsave : KeepsPrices db saved := .of_save hget hsaved (Payment.markAsPaid_spec hrow).2
  exact hsave.trans (.of_modify rfl rfl fun _ => rfl)

theorem PaymentService.confirmPaymentSync_prices {user : UserId}
    {toss : Except TossPaymentError TossPayment} {result : ConfirmResult}
    (h : confirmPaymentSync db now k user toss = .ok (result, db')) : KeepsPrices db db' := by
  obtain ⟨p, data, _, hget, _, hcase⟩ := confirmPaymentSync_ok h
  cases hcase with
  | waiting hrow hsaved =>
    have hsave := KeepsPrices.of_save hget hsaved (Payment.markAsWaitingForDeposit_spec hrow).2
    exact hsave.log _ _ _
  | paid horder hrow hsaved hearned =>
    exact ((prices_of_paid hget hrow hsaved).trans hearned.prices).log _ _ _

theorem PaymentService.confirmPaymentAsync_prices {paymentKey : String} {order : OrderId}
    {amount : Int} {user : UserId} {published : Bool} {out : Outcome Unit}
    (h : confirmPaymentAsync db now k paymentKey order amount user published = .ok out) :
    KeepsPrices db out.db := by
  obtain ⟨p, saved, hget, _, _, hsaved, hdb, _⟩ := confirmPaymentAsync_ok h
  rw [hdb]
  exact .of_save hget hsaved ⟨rfl, rfl, rfl, rfl, rfl⟩

theorem PaymentService.cancelPayment_prices {user : UserId}
    {toss : Except TossPaymentError TossPayment} {result : CancelResult}
    (h : cancelPayment db now k user toss = .ok (result, db')) : KeepsPrices db db' := by
  obtain ⟨p, order, data, row, hget, _, _, _, hrow, _, hcase⟩ := cancelPayment_ok h
  obtain ⟨hid, ha⟩ := Payment.markAsCanceled_charge hrow
  have hsave : ∀ saved, db.savePayment k row = .ok saved → KeepsPrices db saved := by
    intro saved hsaved
    obtain ⟨hs, horders, _⟩ := savePayment_payments hsaved
    exact ⟨.of_save hget hs hid ha, .of_eq horders⟩
  cases hcase with
  | refundOnly _ hsaved => exact (hsave _ hsaved).log _ _ _
  | canceled hpaid hsaved hrefunded hdeducted =>
    rename_i saved refunded deducted
    have hback : KeepsPrices saved refunded := by
      have hmod : KeepsPrices saved ((saved.updateItems addStockTakeSold order.items).saveOrder
          p.order (Order.withStatus .canceled now)) := .of_modify rfl rfl fun _ => rfl
      rw [hrefunded]
      dsimp only
      split
      · exact hmod.trans (.of_tables rfl rfl)
      · exact hmod
    exact (((hsave _ hsaved).trans hback).trans (deductEarned_ok hdeducted).prices).log _ _ _

theorem PaymentService.cancelVirtualAccountBeforeDeposit_prices {user : UserId}
    {toss : Except TossPaymentError TossPayment}
    (h : cancelVirtualAccountBeforeDeposit db now o user toss = .ok db') : KeepsPrices db db' := by
  obtain ⟨j, p, data, row, saved, hof, _, hrow, hsaved, order, hcancels⟩ :=
    cancelVirtualAccountBeforeDeposit_ok h
  obtain ⟨hid, ha⟩ := Payment.markAsCanceled_charge hrow
  obtain ⟨hs, horders, _⟩ := savePayment_payments hsaved
  have hsave : KeepsPrices db saved :=
    ⟨.of_save (PaymentTable.ofOrder?_eq_some.mp hof).1 hs hid ha, .of_eq horders⟩
  exact (hsave.log _ _ _).trans (Cancels.prices hcancels)

theorem PaymentService.cancelByCustomer_prices {order : Order} {user : UserId}
    {toss : Except TossPaymentError TossPayment} {result : CustomerCancel}
    (h : cancelByCustomer db now o order user toss = .ok (result, db')) : KeepsPrices db db' := by
  rcases cancelByCustomer_ok h with ⟨j, p, out, _, h⟩ | h | h
  · exact cancelPayment_prices h
  · exact cancelVirtualAccountBeforeDeposit_prices h
  · obtain ⟨x, h⟩ := OrderService.cancelOrder_ok h
    exact h.prices

theorem ReturnService.completeRefund_prices {id : Nat} {toss : Except TossPaymentError TossPayment}
    {s : RefundSplit} (h : ReturnService.completeRefund db now id toss = .ok (s, db')) :
    KeepsPrices db db' := by
  obtain ⟨r, order, h⟩ := ReturnService.completeRefund_ok h
  refine ⟨?_, ?_⟩
  · cases h.payments with
    | nothing _ hpayments => exact .of_eq hpayments
    | cash _ hof hrow hsave =>
      obtain ⟨hid, ha⟩ := Payment.markAsPartialCanceled_charge hrow
      exact .of_save (PaymentTable.ofOrder?_eq_some.mp hof).1 hsave hid ha
  · rcases h.orders with horders | horders
    · exact .of_eq horders
    · exact .of_modify horders fun _ => rfl

theorem PaymentTasks.finalizePaymentConfirm_prices {response : TossPayment} {user : UserId}
    {published : Bool} {out : Outcome FinalizeResult}
    (h : finalizePaymentConfirm db now response k user published = .ok out) :
    KeepsPrices db out.db := by
  obtain ⟨p, hget, hcase⟩ := finalizePaymentConfirm_ok h
  cases hcase with
  | alreadyProcessed _ => exact .refl db
  | waiting _ _ hrow hsaved =>
    have hsave := KeepsPrices.of_save hget hsaved (Payment.markAsWaitingForDeposit_spec hrow).2
    exact hsave.log _ _ _
  | orderCanceled _ _ _ _ hrow hsaved =>
    have hsave := KeepsPrices.of_save hget hsaved (Payment.markAsPaid_spec hrow).2
    exact hsave.log _ _ _
  | success _ _ _ _ hrow hsaved => exact (prices_of_paid hget hrow hsaved).log _ _ _

theorem PaymentTasks.callTossConfirmApi_prices (amount : Int) (id : TossOrderId) (user : UserId)
    (answer : TossAnswer) (retriesLeft published : Bool) : KeepsPrices db
      (callTossConfirmApi db o amount id k user answer retriesLeft published).db := by
  obtain ⟨logged, hmoves, _, hdb | ⟨_, hdb⟩⟩ :=
    callTossConfirmApi_commits db o amount id k user answer retriesLeft published
  · rw [hdb]
    exact hmoves.prices
  · rw [hdb]
    exact hmoves.prices.trans ⟨.of_setStatus _ _ _, .refl _⟩

theorem PaymentTasks.abortPaymentOf_prices (reason : String) :
    KeepsPrices db (abortPaymentOf db o reason) := by
  unfold abortPaymentOf
  split
  · exact .refl db
  · exact ⟨.of_setStatus _ _ _, .refl _⟩

theorem PaymentTasks.rollbackPaymentFailure_prices (reason : String) :
    KeepsPrices db (rollbackPaymentFailure db now o reason).2 := by
  unfold rollbackPaymentFailure
  split
  · exact .refl db
  · split
    · exact .refl db
    · split
      · exact .refl db
      · split
        · exact .refl db
        · refine KeepsPrices.trans ?_ (abortPaymentOf_prices reason)
          split
          · exact .of_modify rfl rfl fun _ => rfl
          · exact .of_modify rfl rfl fun _ => rfl

theorem TossWebhookService.handlePaymentDone_prices {event : TossPayment} {result : DoneResult}
    (h : handlePaymentDone db now event = .ok (result, db')) : KeepsPrices db db' := by
  rcases handlePaymentDone_ok h with ⟨h, _⟩ | ⟨id, k, p, _, hof, hcase⟩
  · exact .of_eq h
  · have hget := PaymentTable.ofTossOrderId?_get hof
    have hmark : ∀ x : Db, KeepsPrices x (markWebhookProcessed x now id .done) := fun x =>
      .of_tables (markWebhookProcessed_payments ..) (markWebhookProcessed_orders ..)
    cases hcase with
    | alreadyPaid => exact .refl db
    | chargedButFailed => exact .of_tables rfl rfl
    | finalState => exact .refl db
    | depositAfterExpiry => exact .of_tables rfl rfl
    | chargedOnCanceledOrder _ _ _ hrow hsaved =>
      have hsave := KeepsPrices.of_save hget hsaved (Payment.markAsPaid_spec hrow).2
      exact (hsave.log _ _ _).trans (hmark _)
    | orderAlreadyPaid _ _ _ hrow hsaved =>
      have hsave := KeepsPrices.of_save hget hsaved (Payment.markAsPaid_spec hrow).2
      exact hsave.trans (hmark _)
    | settled _ _ _ _ hrow hsaved hearned =>
      have hpaid := (prices_of_paid hget hrow hsaved).trans hearned.prices
      exact (hpaid.log _ _ _).trans (hmark _)

theorem TossWebhookService.handlePaymentCanceled_prices {event : TossPayment}
    {result : CanceledResult} (h : handlePaymentCanceled db now event = .ok (result, db')) :
    KeepsPrices db db' := by
  rcases handlePaymentCanceled_ok h with h | ⟨id, k, p, order, row, _, hof, _, _, _, hrow, hcase⟩
  · exact .of_eq h
  · obtain ⟨hid, ha⟩ := Payment.markAsCanceled_charge hrow
    have hmark : ∀ x : Db, KeepsPrices x (markWebhookProcessed x now id .canceled) := fun x =>
      .of_tables (markWebhookProcessed_payments ..) (markWebhookProcessed_orders ..)
    have hsave : ∀ saved, db.savePayment k row = .ok saved → KeepsPrices db saved := by
      intro saved hsaved
      obtain ⟨hs, horders, _⟩ := savePayment_payments hsaved
      exact ⟨.of_save (PaymentTable.ofTossOrderId?_get hof) hs hid ha, .of_eq horders⟩
    cases hcase with
    | orderAlreadyCanceled _ hsaved => exact (hsave _ hsaved).trans (hmark _)
    | canceled hstatus hsaved =>
      rename_i saved
      obtain ⟨hrp, hro, _⟩ := restoreOnCanceled_tables saved order
      have hrestored : KeepsPrices saved (restoreOnCanceled saved order) := .of_tables hrp hro
      have hsettled := hrestored.trans
        (movesPoints_settleOnCanceled (restoreOnCanceled saved order) now k p.order order).prices
      have hcanceled : KeepsPrices
          (settlePointsOnCanceled (restoreOnCanceled saved order) now k p.order order)
          ((settlePointsOnCanceled (restoreOnCanceled saved order) now k p.order order).saveOrder
            p.order (Order.withStatus .canceled now)) := .of_modify rfl rfl fun _ => rfl
      have hall := ((hsave _ hsaved).trans hsettled).trans hcanceled
      exact (hall.log _ _ _).trans (hmark _)

theorem TossWebhookService.handleWaitingForDeposit_prices {event : TossPayment}
    {result : WaitingResult} (h : handleWaitingForDeposit db now event = .ok (result, db')) :
    KeepsPrices db db' := by
  rcases handleWaitingForDeposit_ok h with h | ⟨id, k, p, order, row, _, hof, _, _, _, hrow, hcase⟩
  · exact .of_eq h
  · have hget := PaymentTable.ofTossOrderId?_get hof
    have hsame := (Payment.markAsWaitingForDeposit_spec hrow).2
    cases hcase with
    | depositReverted _ hsaved =>
      obtain ⟨hrp, ⟨n, hro⟩, _⟩ := revertDeposit_tables db now k p.order order
      have hreverted : KeepsPrices db (revertDeposit db now k p.order order) :=
        .of_modify hrp hro fun _ => rfl
      refine hreverted.trans (.of_save ?_ hsaved hsame)
      rw [hrp]
      exact hget
    | issued _ hsaved =>
      have hlogged : KeepsPrices db (db.log k .webhook "가상계좌 발급 웹훅 처리, 입금 대기") :=
        .of_tables rfl rfl
      exact hlogged.trans (.of_save hget hsaved hsame)

end

/-! ## New rows, and rows that are written back -/

/-- What is said about the key, the order number and the amount of a row. -/
abbrev ChargeFact := Nat → TossOrderId → Int → Prop

/-- The fact of every row of the table. -/
def PaymentTable.All (I : ChargeFact) (t : PaymentTable) : Prop :=
  ∀ k p, t.get? k = some p → I k p.tossOrderId p.amount

section

variable {I : ChargeFact} {t t' : PaymentTable}

theorem KeepsCharges.all (h : KeepsCharges t t') (ht : t.All I) : t'.All I := by
  intro k q hq
  obtain ⟨p, hp, hid, ha⟩ := h.rows k q hq
  rw [hid, ha]
  exact ht k p hp

theorem PaymentTable.All.save {k : Nat} {row : Payment} (ht : t.All I)
    (h : t.save k row = .ok t') (hI : I k row.tossOrderId row.amount) : t'.All I := by
  intro j q hq
  rw [PaymentTable.get?_save h] at hq
  split at hq
  · rename_i hj
    cases hq
    rw [hj]
    exact hI
  · exact ht j q hq

theorem PaymentTable.All.create {k : Nat} {row : Payment} (ht : t.All I)
    (h : t.create row = .ok (k, t')) (hI : I t.table.next row.tossOrderId row.amount) :
    t'.All I ∧ k = t.table.next ∧ t.table.next ≤ t'.table.next := by
  unfold PaymentTable.create at h
  obtain ⟨t₁, hsave, hpair⟩ := map_eq_ok.mp h
  cases hpair
  refine ⟨ht.save hsave hI, rfl, ?_⟩
  rw [PaymentTable.next_save hsave]
  exact le_max_left _ _

theorem PaymentTable.All.deleteOf (ht : t.All I) (o : OrderId) : (t.deleteOf o).All I := by
  intro k p hp
  rw [PaymentTable.get?_deleteOf, Option.filter_eq_some_iff] at hp
  exact ht k p hp.1

end

section

open PaymentService

variable {I : ChargeFact} {db db' : Db} {now : Time}

/-- The row that `create_payment` makes is for the final amount that it was
given. -/
theorem PaymentService.createFromRequest_charge {request : PaymentRequest} {method : String}
    {key : Option String} {k : Nat}
    (h : createFromRequest db now request method key = .ok (k, db')) :
    db' = db ∨ ∃ row, row.tossOrderId = .orderNumber request.orderId ∧
      row.amount = request.order.finalAmount ∧ Requests db request.orderId k row db' := by
  unfold createFromRequest at h
  split at h
  · cases h
    exact Or.inl rfl
  · unfold createPayment at h
    split at h
    · cases h
      exact Or.inl rfl
    · obtain ⟨found, hget, h⟩ := bind_eq_ok.mp h
      rw [Db.getOrder_eq_ok] at hget
      obtain ⟨⟨k', payments⟩, hcreate, h⟩ := bind_eq_ok.mp h
      cases h
      exact Or.inr ⟨_, rfl, rfl, by rw [hget, Option.isSome_some], rfl, rfl, rfl,
        by simpa [deletePayments] using hcreate, by simp [deletePayments]⟩

theorem PaymentService.createFromRequest_all {request : PaymentRequest} {method : String}
    {key : Option String} {k : Nat}
    (h : createFromRequest db now request method key = .ok (k, db')) (hdb : db.payments.All I)
    (hI : I db.payments.table.next (.orderNumber request.orderId) request.order.finalAmount) :
    db'.payments.All I ∧ db.payments.table.next ≤ db'.payments.table.next ∧
      db'.orders = db.orders := by
  rcases createFromRequest_charge h with rfl | ⟨row, hid, ha, hreq⟩
  · exact ⟨hdb, le_refl _, rfl⟩
  · obtain ⟨hall, _, hnext⟩ := (hdb.deleteOf request.orderId).create hreq.payments
      (by rw [hid, ha]; exact hI)
    exact ⟨hall, hnext, hreq.orders⟩

theorem PaymentService.completePointsOnlyPayment_all {o : OrderId} {seen : Order} {user : UserId}
    {n : Int} (h : completePointsOnlyPayment db now o seen user = .ok (n, db'))
    (hdb : db.payments.All I) (hI : I db.payments.table.next (.points o) 0) :
    db'.payments.All I ∧ db.payments.table.next ≤ db'.payments.table.next ∧
      KeepsTotals db.orders db'.orders := by
  obtain ⟨order, k, payment, found, h⟩ := completePointsOnlyPayment_ok h
  have htotals : KeepsTotals db.orders db'.orders := .of_modify h.orders fun _ => rfl
  have hfound := h.paymentFound
  unfold getOrCreatePointsPayment at hfound
  split at hfound
  · rename_i hof
    cases hfound
    have hcharges : KeepsCharges db.payments db'.payments :=
      .of_save (PaymentTable.ofOrder?_eq_some.mp hof).1 h.saved rfl rfl
    exact ⟨hcharges.all hdb, hcharges.next, htotals⟩
  · obtain ⟨⟨k', payments⟩, hcreate, hfound⟩ := map_eq_ok.mp hfound
    cases hfound
    obtain ⟨hall, hk, hnext⟩ := hdb.create hcreate hI
    have hrow : I k' (.points o) 0 := by
      rw [hk]
      exact hI
    refine ⟨hall.save h.saved hrow, hnext.trans ?_, htotals⟩
    rw [PaymentTable.next_save h.saved]
    exact le_max_left _ _

end

/-! ## The events -/

/-- What is said about every payment, and about every one that a failure
callback read. -/
structure Charged (I : ChargeFact) (w : World) : Prop where
  rows : w.db.payments.All I
  reads : ∀ seen ∈ w.failureReads, I seen.row.1 seen.row.2.tossOrderId seen.row.2.amount

namespace World

variable {w : World} {now : Time}

/-- The fact is true of the rows that an event creates. -/
def NewCharge (I : ChargeFact) (w : World) : Event → Prop
  | .createRequest n _ _ => ∀ request, w.paymentRequests[n]? = some request →
      I w.db.payments.table.next (.orderNumber request.orderId) request.order.finalAmount
  | .completePointsOnly n _ => ∀ seen, w.orderReads[n]? = some seen →
      I w.db.payments.table.next (.points seen.1) 0
  | _ => True

/-- Every call but those of three events leaves the payments for the charges
they are for. -/
theorem commits_prices {e : Event} {db : Db} (h : Commits w now e db)
    (hcreate : ∀ n method key, e ≠ .createRequest n method key)
    (hpoints : ∀ n user, e ≠ .completePointsOnly n user)
    (hfail : ∀ n published, e ≠ .writeFailure n published) : KeepsPrices w.db db := by
  cases h with
  | placeOrder hread hcall =>
    obtain ⟨order, hplaces⟩ := OrderService.placeOrder_ok hcall
    exact ⟨.of_eq hplaces.payments, .of_insert hplaces.orders⟩
  | @republishStalled n giveUp published seen hread =>
    rcases (OrderTasks.republishLoop_one now giveUp (fun _ => published) w.db seen.1 seen.2).1 with
      hdb | ⟨order, habandons⟩
    · exact .of_eq hdb
    · exact .of_modify habandons.payments habandons.orders fun _ => rfl
  | cancelOrder hcall =>
    obtain ⟨order, hcancels⟩ := OrderService.cancelOrder_ok hcall
    exact Cancels.prices hcancels
  | cancelByCustomer hread hcall => exact PaymentService.cancelByCustomer_prices hcall
  | expireOrder hcall => exact OrderTasks.expireOrder_prices hcall
  | createRequest hread hcall => exact absurd rfl (hcreate _ _ _)
  | confirmAsync hread hcall => exact PaymentService.confirmPaymentAsync_prices hcall
  | confirmSync hcall => exact PaymentService.confirmPaymentSync_prices hcall
  | processOrder hmsg hcall => exact OrderTasks.processOrderHeavyTasks_prices hcall
  | confirm hmsg => exact PaymentTasks.callTossConfirmApi_prices _ _ _ _ _ _
  | finalize hmsg hcall => exact PaymentTasks.finalizePaymentConfirm_prices hcall
  | alertFinalize hmsg => exact (PaymentTasks.alertFinalizeExhausted_movesPoints _ _).prices
  | @rollback n d o reason hmsg => exact PaymentTasks.rollbackPaymentFailure_prices reason
  | addPoints hmsg hcall => exact (PointTasks.addPointsAfterPayment_ok hcall).prices
  | @reconcile stall lookup => exact (PaymentTasks.reconcileLoop_spec lookup _ w.db).1.prices
  | failView | failCallback | failWebhook => exact absurd rfl (hfail _ _)
  | webhookDone hcall => exact TossWebhookService.handlePaymentDone_prices hcall
  | webhookCanceled hcall => exact TossWebhookService.handlePaymentCanceled_prices hcall
  | webhookWaiting hcall => exact TossWebhookService.handleWaitingForDeposit_prices hcall
  | cancelPayment hcall => exact PaymentService.cancelPayment_prices hcall
  | cancelVirtualAccount hcall =>
    exact PaymentService.cancelVirtualAccountBeforeDeposit_prices hcall
  | completePointsOnly hread hcall => exact absurd rfl (hpoints _ _)
  | completeRefund hread hcall => exact ReturnService.completeRefund_prices hcall

/-- Every event keeps what is said about the charges, and the totals of the
orders. -/
theorem run_charges {I : ChargeFact} {e : Event} (h : Charged I w) (hnew : w.NewCharge I e) :
    Charged I (w.run now e) ∧
      w.db.payments.table.next ≤ (w.run now e).db.payments.table.next ∧
      KeepsTotals w.db.orders (w.run now e).db.orders := by
  have hrows : (w.run now e).db.payments.All I ∧
      w.db.payments.table.next ≤ (w.run now e).db.payments.table.next ∧
      KeepsTotals w.db.orders (w.run now e).db.orders := by
    refine run_of (P := fun db => db.payments.All I ∧
      w.db.payments.table.next ≤ db.payments.table.next ∧ KeepsTotals w.db.orders db.orders)
      ⟨h.rows, le_refl _, .refl _⟩ fun db hcommits => ?_
    cases id hcommits with
    | createRequest hread hcall =>
      obtain ⟨hall, hnext, horders⟩ :=
        PaymentService.createFromRequest_all hcall h.rows (hnew _ hread)
      exact ⟨hall, hnext, .of_eq horders⟩
    | completePointsOnly hread hcall =>
      exact PaymentService.completePointsOnlyPayment_all hcall h.rows (hnew _ hread)
    | failView | failCallback | failWebhook =>
      -- The row that was read is written back.
      obtain ⟨seen, row, hfails⟩ := savesFailure hcommits
      have hI : I seen.row.1 row.tossOrderId row.amount := by
        rw [hfails.same.tossOrderId, hfails.same.amount]
        exact h.reads seen (List.mem_of_getElem? hfails.read)
      refine ⟨h.rows.save hfails.saved hI, ?_, .of_eq hfails.orders⟩
      rw [PaymentTable.next_save hfails.saved]
      exact le_max_left _ _
    | _ =>
      have hprices : KeepsPrices w.db _ := commits_prices hcommits nofun nofun nofun
      exact ⟨hprices.charges.all h.rows, hprices.charges.next, hprices.totals⟩
  refine ⟨⟨hrows.1, fun seen hseen => ?_⟩, hrows.2⟩
  rcases run_readsRows w now e seen hseen with hseen | hget
  · exact h.reads seen hseen
  · exact h.rows _ _ hget

/-- The terms of an order are agreed once. -/
theorem run_totals (w : World) (now : Time) (e : Event) :
    w.db.payments.table.next ≤ (w.run now e).db.payments.table.next ∧
      KeepsTotals w.db.orders (w.run now e).db.orders := by
  have hnothing : Charged (fun _ _ _ => True) w := ⟨fun _ _ _ => trivial, fun _ _ => trivial⟩
  refine (run_charges hnothing ?_).2
  cases e with
  | createRequest n method key => exact fun _ _ => trivial
  | completePointsOnly n user => exact fun _ _ => trivial
  | _ => trivial

/-! ### What was read before -/

/-- The orders that were read, and the requests that were validated. -/
def snapshots (w : World) : List (OrderId × Order) × List PaymentService.PaymentRequest :=
  (w.orderReads, w.paymentRequests)

/-- Only two events read an order to use it later. -/
def takesSnapshot : Event → Bool
  | .validateRequest .. | .readOrder _ => true
  | _ => false

theorem run_snapshots (w : World) {e : Event} (he : takesSnapshot e = false) :
    (w.run now e).snapshots = w.snapshots := by
  by_cases hreads : reads e = false
  · exact congrArg (fun held => (held.1, held.2.2)) (run_held hreads)
  cases e with
  | readForFailView id user code message =>
    exact after_of (P := fun u => u.snapshots = w.snapshots) rfl fun _ _ => rfl
  | readForFailCallback id message =>
    simp only [run, readPayment]
    split
    · rfl
    · rfl
  | readForFailWebhook event =>
    simp only [run]
    split
    · rfl
    · split
      · rfl
      · rfl
  | readOrder | validateRequest => cases he
  | _ => exact absurd rfl hreads

/-- The order of a request is the row that was there. -/
theorem run_paymentRequests (w : World) (e : Event) :
    ∀ request ∈ (w.run now e).paymentRequests, request ∈ w.paymentRequests ∨
      w.db.orders.get? request.orderId = some request.order := by
  intro r hr
  by_cases he : takesSnapshot e = false
  · have hsame : (w.run now e).paymentRequests = w.paymentRequests :=
      congrArg Prod.snd (run_snapshots w he)
    rw [hsame] at hr
    exact Or.inl hr
  · cases e with
    | validateRequest o user isStaff =>
      revert r
      refine after_of (P := fun u => ∀ request ∈ u.paymentRequests, request ∈ w.paymentRequests ∨
        w.db.orders.get? request.orderId = some request.order) (fun _ h => Or.inl h) ?_
      intro request hout r hr
      rcases List.mem_append.mp hr with hr | hr
      · exact Or.inl hr
      · cases List.mem_singleton.mp hr
        right
        unfold PaymentService.validateOrderId at hout
        split at hout
        · cases hout
        · rename_i order hget
          split at hout
          · cases hout
          · dsimp only at hout
            split at hout
            · cases hout
            · split at hout
              · cases hout
              · split at hout
                · cases hout
                · cases hout
                  exact hget
    | readOrder o =>
      simp only [run] at hr
      split at hr
      · exact Or.inl hr
      · exact Or.inl hr
    | _ => exact absurd rfl he

/-- An order that was read is the row that was there. -/
theorem run_orderReads (w : World) (e : Event) :
    ∀ seen ∈ (w.run now e).orderReads, seen ∈ w.orderReads ∨
      w.db.orders.get? seen.1 = some seen.2 := by
  intro seen hseen
  by_cases he : takesSnapshot e = false
  · have hsame : (w.run now e).orderReads = w.orderReads := congrArg Prod.fst (run_snapshots w he)
    rw [hsame] at hseen
    exact Or.inl hseen
  · cases e with
    | validateRequest o user isStaff =>
      revert seen
      exact after_of (P := fun u => ∀ seen ∈ u.orderReads, seen ∈ w.orderReads ∨
        w.db.orders.get? seen.1 = some seen.2) (fun _ h => Or.inl h) fun _ _ _ h => Or.inl h
    | readOrder o =>
      simp only [run] at hseen
      split at hseen
      · exact Or.inl hseen
      · rename_i order hget
        rcases List.mem_append.mp hseen with hseen | hseen
        · exact Or.inl hseen
        · cases List.mem_singleton.mp hseen
          exact Or.inr hget
    | _ => exact absurd rfl he

end World

end Shopping
