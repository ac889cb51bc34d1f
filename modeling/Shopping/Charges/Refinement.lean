import Shopping.Charges.Machine
import Shopping.Payments.WebhookOutcomes
import Shopping.Returns.Outcomes

/-!
# The functions move charges

Each function of the shop refines the machine of `Shopping.Charges.Machine`:
when it returns, it has left every charge as it was, or has made a move of its
own kind on the charge of one order.

Almost every write is a save of one payment row and an update of its order, so
`acts_of_save` is where most of the lemmas end.
-/

namespace Shopping

variable {db db' : Db} {now : Time} {k : Nat} {o : OrderId}

/-! ## Writes of one payment and its order -/

/-- The status of an order. -/
def Db.statusOf (db : Db) (o : OrderId) : Option OrderStatus := (db.orders.get? o).map Order.status

theorem statusOf_of_orders (h : db'.orders = db.orders) (i : OrderId) :
    db'.statusOf i = db.statusOf i := by
  unfold Db.statusOf
  rw [h]

/-- An update of the order `o` to the status `s`. -/
theorem statusOf_modify {f : Order → Order} {s : OrderStatus}
    (h : db'.orders = db.orders.modify o f) (hf : ∀ x, (f x).status = s) (i : OrderId) :
    db'.statusOf i = if i = o then (db.statusOf o).map fun _ => s else db.statusOf i := by
  unfold Db.statusOf
  rw [h, Table.get?_modify]
  split
  · rename_i hi
    subst hi
    cases db.orders.get? i with
    | none => rfl
    | some x => simp [hf]
  · rfl

/-- An update of the order `o` is not seen in another order. -/
theorem statusOf_modify_ne {f : Order → Order} (h : db'.orders = db.orders.modify o f) {i : OrderId}
    (hi : i ≠ o) : db'.statusOf i = db.statusOf i := by
  unfold Db.statusOf
  rw [h, Table.get?_modify, if_neg hi]

/-- An update of the order `o` that leaves its status. -/
theorem statusOf_modify_same {f : Order → Order} (h : db'.orders = db.orders.modify o f)
    (hf : ∀ x, (f x).status = x.status) (i : OrderId) : db'.statusOf i = db.statusOf i := by
  unfold Db.statusOf
  rw [h, Table.get?_modify]
  split
  · cases db.orders.get? i with
    | none => rfl
    | some x => simp [hf]
  · rfl

/-- What was released stays released. -/
def KeepsReleased (db db' : Db) : Prop :=
  ∀ o s, db.statusOf o = some s → s.isReleased = true → db'.statusOf o = some s

theorem KeepsReleased.of_orders (h : db'.orders = db.orders) : KeepsReleased db db' := by
  intro o s hs _
  rw [statusOf_of_orders h]
  exact hs

theorem KeepsReleased.trans {db'' : Db} (h : KeepsReleased db db') (h' : KeepsReleased db' db'') :
    KeepsReleased db db'' := by
  intro o s hs hrel
  exact h' o s (h o s hs hrel) hrel

/-- A function of `act` keeps what was released, when its moves do. -/
theorem KeepsReleased.of_follows {act : Act} (h : Follows act o db db')
    (hmove : ∀ c s, Move act (db.charge o) c → (db.charge o).order = some s →
      s.isReleased = true → c.order = some s) : KeepsReleased db db' := by
  intro i s hs hrel
  have hbefore : (db.charge i).order = some s := hs
  have hafter : (db'.charge i).order = some s := by
    rcases h with hsame | hacts
    · rw [hsame i]
      exact hbefore
    · by_cases hi : i = o
      · subst hi
        exact hmove _ s hacts.move hbefore hrel
      · rw [hacts.frame i hi]
        exact hbefore
  exact hafter

theorem PaymentService.Earns.statusOf (h : PaymentService.Earns db o db') (i : OrderId) :
    db'.statusOf i = db.statusOf i := by
  rcases h.orders with ho | ⟨n, ho⟩
  · exact statusOf_of_orders ho i
  · exact statusOf_modify_same ho (fun _ => rfl) i

theorem charge_of_payment {p : Payment} (h : db.payments.get? k = some p) :
    db.charge p.order = ⟨db.statusOf p.order, some p.status, p.isCanceled⟩ := by
  have hof := PaymentTable.ofOrder?_eq_some.mpr ⟨h, rfl⟩
  simp [Db.charge, Db.statusOf, hof]

/-- A save of the row `k` under its own order, with an update of that order,
is seen in the charge of the order alone. -/
theorem charge_of_save {p row : Payment} (hget : db.payments.get? k = some p)
    (hsave : db.payments.save k row = .ok db'.payments) (hrow : row.order = p.order)
    (hframe : ∀ i, i ≠ p.order → db'.statusOf i = db.statusOf i) :
    (∀ i, i ≠ p.order → db'.charge i = db.charge i) ∧
      db'.charge p.order = ⟨db'.statusOf p.order, some row.status, row.isCanceled⟩ := by
  have hsame : ∀ q, db.payments.get? k = some q → q.order = row.order := by
    intro q hq
    rw [hget] at hq
    cases hq
    exact hrow.symm
  have hof := PaymentTable.ofOrder?_save hsave hsame
  constructor
  · intro i hi
    have hst := hframe i hi
    unfold Db.statusOf at hst
    unfold Db.charge
    rw [hst, hof, if_neg fun hc => hi (hc.trans hrow)]
  · unfold Db.charge Db.statusOf
    rw [hof, if_pos hrow.symm]
    rfl

/-- Such a save is a move when the two charges of the order are one. -/
theorem acts_of_save {act : Act} {p row : Payment} (hget : db.payments.get? k = some p)
    (hsave : db.payments.save k row = .ok db'.payments) (hrow : row.order = p.order)
    (hframe : ∀ i, i ≠ p.order → db'.statusOf i = db.statusOf i)
    (hmove : Move act ⟨db.statusOf p.order, some p.status, p.isCanceled⟩
      ⟨db'.statusOf p.order, some row.status, row.isCanceled⟩) : Acts act p.order db db' := by
  obtain ⟨hother, htarget⟩ := charge_of_save hget hsave hrow hframe
  refine ⟨hother, ?_⟩
  rw [charge_of_payment hget, htarget]
  exact hmove

/-- The save of a row, with every order as it was. -/
theorem acts_of_save_only {act : Act} {p row : Payment} (hget : db.payments.get? k = some p)
    (hsave : db.payments.save k row = .ok db'.payments) (hrow : row.order = p.order)
    (horders : db'.orders = db.orders)
    (hmove : Move act ⟨db.statusOf p.order, some p.status, p.isCanceled⟩
      ⟨db.statusOf p.order, some row.status, row.isCanceled⟩) : Acts act p.order db db' := by
  refine acts_of_save hget hsave hrow (fun i _ => statusOf_of_orders horders i) ?_
  rw [statusOf_of_orders horders]
  exact hmove

/-- The save of a row, with its order put to the status `s`. -/
theorem acts_of_save_order {act : Act} {p row : Payment} {order : Order} {s : OrderStatus}
    (hget : db.payments.get? k = some p) (hsave : db.payments.save k row = .ok db'.payments)
    (hrow : row.order = p.order) (horder : db.orders.get? p.order = some order)
    (hstatus : ∀ i, db'.statusOf i
      = if i = p.order then (db.statusOf p.order).map fun _ => s else db.statusOf i)
    (hmove : Move act ⟨some order.status, some p.status, p.isCanceled⟩
      ⟨some s, some row.status, row.isCanceled⟩) : Acts act p.order db db' := by
  have hbefore : db.statusOf p.order = some order.status := by
    unfold Db.statusOf
    rw [horder]
    rfl
  refine acts_of_save hget hsave hrow (fun i hi => ?_) ?_
  · rw [hstatus, if_neg hi]
  · rw [hstatus, if_pos rfl, hbefore]
    exact hmove

theorem keeps_of_save {p row : Payment} (hget : db.payments.get? k = some p)
    (hsave : db.payments.save k row = .ok db'.payments) (hrow : row.order = p.order) :
    db.payments.Keeps db'.payments := by
  refine PaymentTable.keeps_save hsave fun q hq => ?_
  rw [hget] at hq
  cases hq
  exact hrow.symm

theorem keeps_of_eq (h : db'.payments = db.payments) : db.payments.Keeps db'.payments := by
  rw [h]
  exact PaymentTable.Keeps.refl _

theorem savePayment_payments {row : Payment} {saved : Db} (h : db.savePayment k row = .ok saved) :
    db.payments.save k row = .ok saved.payments ∧ saved.orders = db.orders ∧
      saved.products = db.products ∧ saved.logs = db.logs ∧ saved.ledger = db.ledger := by
  obtain ⟨payments, hsave, heq⟩ := Db.savePayment_eq_ok.mp h
  subst heq
  exact ⟨hsave, rfl, rfl, rfl, rfl⟩

/-- The order that a settlement writes. -/
theorem settled_orders {row : Payment} {saved : Db} (h : db.savePayment k row = .ok saved)
    (items : List OrderItem) (o : OrderId) (method : String) (now : Time) (user : UserId) :
    (((saved.updateItems addSold items).saveOrder o (Order.withPaid method now)).deactivateCarts
      user).orders = db.orders.modify o (Order.withPaid method now) := by
  simp [(savePayment_payments h).2.1]

/-! ## Orders alone -/

/-- An update of the order `o` that leaves the payments alone. -/
theorem acts_of_order {act : Act} (hpay : db'.payments = db.payments)
    (hframe : ∀ i, i ≠ o → db'.statusOf i = db.statusOf i)
    (hmove : ∀ p c, Move act ⟨db.statusOf o, p, c⟩ ⟨db'.statusOf o, p, c⟩) :
    Acts act o db db' := by
  constructor
  · intro i hi
    have hst := hframe i hi
    unfold Db.statusOf at hst
    unfold Db.charge
    rw [hst, hpay]
  · have hm := hmove ((db.payments.ofOrder? o).map fun e => e.2.status)
      ((db.payments.ofOrder? o).any fun e => e.2.isCanceled)
    unfold Db.statusOf at hm
    unfold Db.charge
    rw [hpay]
    exact hm

theorem OrderService.Places.acts {order : Order} (h : OrderService.Places db o order db') :
    Acts .placeOrder o db db' := by
  have hstatus : ∀ i, db'.statusOf i = if i = o then some .pending else db.statusOf i := by
    intro i
    unfold Db.statusOf
    rw [h.orders, Table.get?_insert, ← h.key]
    split
    · rw [Option.map_some, h.pending]
    · rfl
  refine acts_of_order h.payments (fun i hi => ?_) fun p c => ?_
  · rw [hstatus, if_neg hi]
  · have hfresh : db.statusOf o = none := by
      unfold Db.statusOf
      rw [h.key, Table.get?_next]
      rfl
    rw [hstatus, if_pos rfl, hfresh]
    exact .placeOrder

/-- A pending order put to the status `s`. -/
theorem acts_of_pending {act : Act} {order : Order} {s : OrderStatus}
    (hfound : db.orders.get? o = some order) (hpending : order.status = .pending)
    (hpay : db'.payments = db.payments)
    (hstatus : ∀ i, db'.statusOf i
      = if i = o then (db.statusOf o).map fun _ => s else db.statusOf i)
    (hmove : ∀ p c, Move act ⟨some .pending, p, c⟩ ⟨some s, p, c⟩) : Acts act o db db' := by
  refine acts_of_order hpay (fun i hi => ?_) fun p c => ?_
  · rw [hstatus, if_neg hi]
  · rw [hstatus, if_pos rfl]
    unfold Db.statusOf
    rw [hfound, Option.map_some, hpending]
    exact hmove p c

theorem OrderTasks.ProcessCase.acts {order : Order} {products : Table Product}
    {items : List OrderItem} (hfound : db.orders.get? o = some order)
    (hpending : order.status = .pending)
    (h : OrderTasks.ProcessCase db now o order products items db') :
    Acts .processOrder o db db' := by
  generalize htaken : (db.saveOrder o fun x => { x with items := x.items ++ items }) = taken
  have htables :
      taken.orders = db.orders.modify o fun x => { x with items := x.items ++ items } := by
    rw [← htaken]
    rfl
  have hitems : ∀ i, taken.statusOf i = db.statusOf i := by
    refine statusOf_modify_same htables ?_
    intro x
    rfl
  cases h with
  | failed reason horders _ hpayments _ =>
    rw [← htables] at horders
    refine acts_of_pending hfound hpending hpayments (s := .failed) (fun i => ?_) fun _ _ =>
      .orderFailed
    rw [← hitems, ← hitems]
    exact statusOf_modify horders (fun _ => rfl) i
  | confirmed horders _ hpayments _ =>
    rw [← htables] at horders
    refine acts_of_pending hfound hpending hpayments (s := .confirmed) (fun i => ?_) fun _ _ =>
      .orderConfirmed
    rw [← hitems, ← hitems]
    exact statusOf_modify horders (fun _ => rfl) i

theorem OrderTasks.Abandons.acts {order : Order} (h : OrderTasks.Abandons db now o order db') :
    Acts .abandonOrder o db db' :=
  acts_of_pending h.found h.pending h.payments (statusOf_modify h.orders fun _ => rfl)
    fun _ _ => .abandonOrder

/-! ## `PaymentService` -/

namespace PaymentService

theorem Requests.ofOrder? {row : Payment} (h : Requests db o k row db') (i : OrderId) :
    db'.payments.ofOrder? i = if i = o then some (k, row) else db.payments.ofOrder? i := by
  rw [PaymentTable.ofOrder?_create h.payments, h.order]
  split
  · rfl
  · rename_i hi
    rw [PaymentTable.ofOrder?_deleteOf, if_neg hi]

theorem Requests.acts {row : Payment} (h : Requests db o k row db') : Acts .request o db db' := by
  constructor
  · intro i hi
    unfold Db.charge
    rw [h.ofOrder?, if_neg hi, h.orders]
  · obtain ⟨x, hx⟩ := Option.isSome_iff_exists.mp h.found
    unfold Db.charge
    rw [h.ofOrder?, if_pos rfl, h.orders, hx]
    simp only [Option.map_some, h.ready, Option.any_some, h.notCanceled]
    exact .request

theorem confirmPaymentAsync_acts {paymentKey : String} {order : OrderId} {amount : Int}
    {user : UserId} {published : Bool} {out : Outcome Unit}
    (h : confirmPaymentAsync db now k paymentKey order amount user published = .ok out) :
    ∃ payment, db.payments.get? k = some payment ∧
      Acts .confirmAsync payment.order db out.db ∧ db.payments.Keeps out.db.payments := by
  obtain ⟨payment, saved, hget, hadmits, hnew, hsaved, hdb, _⟩ := confirmPaymentAsync_ok h
  obtain ⟨hsave, horders, _, _, _⟩ := savePayment_payments hsaved
  rw [hdb]
  exact ⟨payment, hget, acts_of_save_only hget hsave rfl horders (.confirmAsync hadmits hnew),
    keeps_of_save hget hsave rfl⟩

theorem confirmPaymentSync_acts {user : UserId} {toss : Except TossPaymentError TossPayment}
    {result : ConfirmResult} (h : confirmPaymentSync db now k user toss = .ok (result, db')) :
    ∃ payment, db.payments.get? k = some payment ∧
      Acts .confirmSync payment.order db db' ∧ db.payments.Keeps db'.payments := by
  obtain ⟨payment, data, _, hget, hadmits, hcase⟩ := confirmPaymentSync_ok h
  refine ⟨payment, hget, ?_⟩
  cases hcase with
  | waiting hrow hsaved =>
    rename_i row saved
    obtain ⟨hst, hsame⟩ := Payment.markAsWaitingForDeposit_spec hrow
    obtain ⟨hsave, horders, _, _, _⟩ := savePayment_payments hsaved
    refine ⟨acts_of_save_only hget hsave hsame.order horders ?_,
      keeps_of_save hget hsave hsame.order⟩
    rw [hst, hsame.isCanceled]
    exact .syncIssued hadmits
  | paid horder hrow hsaved hearned =>
    rename_i order row saved earned
    obtain ⟨hst, hsame⟩ := Payment.markAsPaid_spec hrow
    obtain ⟨hsave, _⟩ := savePayment_payments hsaved
    have hpay : (earned.log k .approve "결제 승인 완료").payments = saved.payments :=
      hearned.payments
    rw [← hpay] at hsave
    have hstatus : ∀ i, (earned.log k .approve "결제 승인 완료").statusOf i
        = if i = payment.order then (db.statusOf payment.order).map fun _ => .paid
          else db.statusOf i := by
      intro i
      have hpaid := settled_orders hsaved order.items payment.order row.method now user
      exact (hearned.statusOf i).trans (statusOf_modify hpaid (fun _ => rfl) i)
    refine ⟨acts_of_save_order hget hsave hsame.order horder hstatus ?_,
      keeps_of_save hget hsave hsame.order⟩
    rw [hst, hsame.isCanceled]
    exact .syncPaid hadmits

theorem cancelPayment_acts {user : UserId} {toss : Except TossPaymentError TossPayment}
    {result : CancelResult} (h : cancelPayment db now k user toss = .ok (result, db')) :
    ∃ payment, db.payments.get? k = some payment ∧
      Acts .cancelPayment payment.order db db' ∧ db.payments.Keeps db'.payments := by
  obtain ⟨payment, order, data, row, hget, horder, hflag, hdone, hrow, _, hcase⟩ :=
    cancelPayment_ok h
  obtain ⟨hst, hrowFlag, hord⟩ := Payment.markAsCanceled_spec hrow
  refine ⟨payment, hget, ?_⟩
  cases hcase with
  | refundOnly hcanceled hsaved =>
    rename_i saved
    obtain ⟨hsave, horders, _, _, _⟩ := savePayment_payments hsaved
    refine ⟨acts_of_save_only hget hsave hord horders ?_, keeps_of_save hget hsave hord⟩
    unfold Db.statusOf
    rw [horder, hst, hrowFlag, hdone, hflag, Option.map_some, hcanceled]
    exact .cancelPayment (Or.inr rfl)
  | canceled hpaid hsaved hrefunded hdeducted =>
    rename_i saved refunded deducted
    obtain ⟨hsave, horders, _, _, _⟩ := savePayment_payments hsaved
    have hded := deductEarned_ok hdeducted
    have hpay : (deducted.log k .cancel "결제가 성공적으로 취소되었습니다.").payments
        = saved.payments := by
      rw [Db.log_payments, hded.payments, hrefunded]
      dsimp only
      split
      · rfl
      · rfl
    rw [← hpay] at hsave
    have hmod : (deducted.log k .cancel "결제가 성공적으로 취소되었습니다.").orders
        = db.orders.modify payment.order (Order.withStatus .canceled now) := by
      rw [Db.log_orders, hded.orders, hrefunded, ← horders]
      dsimp only
      split
      · rfl
      · rfl
    refine ⟨acts_of_save_order hget hsave hord horder (statusOf_modify hmod fun _ => rfl) ?_,
      keeps_of_save hget hsave hord⟩
    rw [hst, hrowFlag, hdone, hflag, hpaid]
    exact .cancelPayment (Or.inl rfl)

end PaymentService

/-! ## Closing an unpaid order -/

/-- The fence closes the one payment of the order. -/
theorem closePayments_ofOrder? (closed : PaymentStatus)
    (hlive : ∀ j p, db.payments.get? j = some p → p.order = o → p.status.isLive = false)
    (i : OrderId) : (OrderService.closePayments db o closed).payments.ofOrder? i =
      if i = o then (db.payments.ofOrder? o).map fun e => (e.1, { e.2 with status := closed })
      else db.payments.ofOrder? i := by
  unfold OrderService.closePayments
  rw [PaymentTable.ofOrder?_setStatus]
  split
  · rename_i hi
    subst hi
    refine Option.map_congr fun e he => ?_
    obtain ⟨hget, hord⟩ := PaymentTable.ofOrder?_eq_some.mp he
    simp [hord, hlive e.1 e.2 hget hord]
  · rename_i hi
    cases hof : db.payments.ofOrder? i with
    | none => rfl
    | some e =>
      obtain ⟨_, hord⟩ := PaymentTable.ofOrder?_eq_some.mp hof
      have hne : e.2.order ≠ o := fun hc => hi (hord.symm.trans hc)
      simp [hne]

/-- Closing the payments of `o` and cancelling `o` is a move of
`cancel_order`. -/
theorem acts_of_close {order : Order} {closed : PaymentStatus}
    (hfound : db.orders.get? o = some order) (hunpaid : order.status.isUnpaid = true)
    (hlive : ∀ j p, db.payments.get? j = some p → p.order = o → p.status.isLive = false)
    (hpayments : db'.payments = (OrderService.closePayments db o closed).payments)
    (hstatus : ∀ i, db'.statusOf i
      = if i = o then (db.statusOf o).map fun _ => .canceled else db.statusOf i) :
    Acts (.cancelOrder closed) o db db' := by
  have hof := closePayments_ofOrder? closed hlive
  constructor
  · intro i hi
    have hst := hstatus i
    rw [if_neg hi] at hst
    unfold Db.statusOf at hst
    unfold Db.charge
    rw [hst, hpayments, hof, if_neg hi]
  · have hst := hstatus o
    rw [if_pos rfl] at hst
    unfold Db.statusOf at hst
    unfold Db.charge
    rw [hst, hpayments, hof, if_pos rfl, hfound]
    have hpay : ((db.payments.ofOrder? o).map fun e => (e.1, { e.2 with status := closed })).map
        (fun e => e.2.status) = ((db.payments.ofOrder? o).map fun e => e.2.status).map
          fun _ => closed := by
      rw [Option.map_map, Option.map_map]
      rfl
    have hflag : (((db.payments.ofOrder? o).map fun e =>
        (e.1, { e.2 with status := closed })).any fun e => e.2.isCanceled)
          = (db.payments.ofOrder? o).any fun e => e.2.isCanceled := by
      cases db.payments.ofOrder? o with
      | none => rfl
      | some e => rfl
    rw [hpay, hflag]
    refine .cancelOrder hunpaid fun q hq => ?_
    obtain ⟨e, he, heq⟩ := Option.map_eq_some_iff.mp hq
    obtain ⟨hget, hord⟩ := PaymentTable.ofOrder?_eq_some.mp he
    rw [← heq]
    exact hlive e.1 e.2 hget hord

theorem keeps_close {closed : PaymentStatus}
    (h : db'.payments = (OrderService.closePayments db o closed).payments) :
    db.payments.Keeps db'.payments := by
  rw [h]
  exact PaymentTable.keeps_setStatus _ _ _

theorem Cancels.acts {closed : PaymentStatus} {order : Order}
    (h : Cancels db now o closed order db') : Acts (.cancelOrder closed) o db db' :=
  acts_of_close h.found h.unpaid h.notLive h.payments (statusOf_modify h.orders fun _ => rfl)

theorem OrderTasks.expireOrder_follows {expired : Bool}
    (h : OrderTasks.expireOrder db now o = .ok (expired, db')) :
    Follows (.cancelOrder .expired) o db db' ∧ db.payments.Keeps db'.payments := by
  rcases OrderTasks.expireOrder_ok h with heq | ⟨order, hexp⟩
  · rw [heq]
    exact ⟨Or.inl (SameCharges.refl db), PaymentTable.Keeps.refl _⟩
  · refine ⟨Or.inr (acts_of_close hexp.found hexp.unpaid hexp.notLive hexp.payments fun i => ?_),
      keeps_close hexp.payments⟩
    have hcanceled : (db.saveOrder o (Order.withStatus .canceled now)).statusOf i
        = if i = o then (db.statusOf o).map fun _ => .canceled else db.statusOf i :=
      statusOf_modify (Db.saveOrder_orders db o (Order.withStatus .canceled now)) (fun _ => rfl) i
    rw [← hcanceled]
    refine statusOf_modify_same hexp.orders ?_ i
    intro x
    rfl

theorem PaymentService.cancelVirtualAccountBeforeDeposit_acts {user : UserId}
    {toss : Except TossPaymentError TossPayment}
    (h : PaymentService.cancelVirtualAccountBeforeDeposit db now o user toss = .ok db') :
    Acts .cancelVirtualAccount o db db' ∧ db.payments.Keeps db'.payments := by
  obtain ⟨k, payment, data, row, saved, hof, hwaiting, hrow, hsaved, order, hcancels⟩ :=
    PaymentService.cancelVirtualAccountBeforeDeposit_ok h
  obtain ⟨hget, hord⟩ := PaymentTable.ofOrder?_eq_some.mp hof
  subst hord
  obtain ⟨hst, hflag, hrowOrder⟩ := Payment.markAsCanceled_spec hrow
  obtain ⟨hsave, horders, _, _, _⟩ := savePayment_payments hsaved
  generalize hlogged : saved.log k .cancel "입금 전 가상계좌 반납 — 주문 취소" = logged at hcancels
  have hpay : logged.payments = saved.payments := by rw [← hlogged, Db.log_payments]
  have hstatus : ∀ i, logged.statusOf i = db.statusOf i :=
    statusOf_of_orders (by rw [← hlogged, Db.log_orders, horders])
  rw [← hpay] at hsave
  obtain ⟨hother, htarget⟩ := charge_of_save hget hsave hrowOrder fun i _ => hstatus i
  have hclose := hcancels.acts
  refine ⟨⟨fun i hi => (hclose.frame i hi).trans (hother i hi), ?_⟩,
    (keeps_of_save hget hsave hrowOrder).trans (keeps_close hcancels.payments)⟩
  have hmove := hclose.move
  rw [htarget, hstatus, hst, hflag] at hmove
  rw [charge_of_payment hget, hwaiting]
  -- The move of the cancellation says what the closed account turned into.
  generalize db'.charge payment.order = c at hmove
  generalize db.statusOf payment.order = s at hmove
  cases hmove with
  | cancelOrder hs _ => exact .cancelVirtualAccount hs

/-- The paths of a customer's cancellation. -/
theorem PaymentService.cancelByCustomer_acts {order : Order} {user : UserId}
    {toss : Except TossPaymentError TossPayment} {result : PaymentService.CustomerCancel}
    (h : PaymentService.cancelByCustomer db now o order user toss = .ok (result, db')) :
    (Acts .cancelPayment o db db' ∨ Acts .cancelVirtualAccount o db db' ∨
      Acts (.cancelOrder .canceled) o db db') ∧ db.payments.Keeps db'.payments := by
  rcases PaymentService.cancelByCustomer_ok h with ⟨k, p, out, hof, hcancel⟩ | hcancel | hcancel
  · obtain ⟨payment, hget, hacts, hkeeps⟩ := PaymentService.cancelPayment_acts hcancel
    obtain ⟨hp, hord⟩ := PaymentTable.ofOrder?_eq_some.mp hof
    rw [hget] at hp
    cases hp
    rw [hord] at hacts
    exact ⟨Or.inl hacts, hkeeps⟩
  · obtain ⟨hacts, hkeeps⟩ := PaymentService.cancelVirtualAccountBeforeDeposit_acts hcancel
    exact ⟨Or.inr (Or.inl hacts), hkeeps⟩
  · obtain ⟨order, hcancels⟩ := OrderService.cancelOrder_ok hcancel
    exact ⟨Or.inr (Or.inr hcancels.acts), keeps_close hcancels.payments⟩

theorem PaymentService.completePointsOnlyPayment_acts {seen : Order} {user : UserId} {n : Int}
    (h : PaymentService.completePointsOnlyPayment db now o seen user = .ok (n, db')) :
    Acts .pointsOnly o db db' ∧ db.payments.Keeps db'.payments := by
  obtain ⟨order, k, payment, found, hp⟩ := PaymentService.completePointsOnlyPayment_ok h
  obtain ⟨horders, _, _, hord, hfound⟩ := PaymentService.getOrCreatePointsPayment_ok hp.paymentFound
  subst hord
  have hof : found.payments.ofOrder? payment.order = some (k, payment) := by
    rcases hfound with ⟨heq, hof⟩ | ⟨_, _, _, hcreate⟩
    · rw [heq]
      exact hof
    · rw [PaymentTable.ofOrder?_create hcreate, if_pos rfl]
  have hother : ∀ i, i ≠ payment.order →
      found.payments.ofOrder? i = db.payments.ofOrder? i := by
    intro i hi
    rcases hfound with ⟨heq, _⟩ | ⟨_, _, _, hcreate⟩
    · rw [heq]
    · rw [PaymentTable.ofOrder?_create hcreate, if_neg hi]
  have hget := (PaymentTable.ofOrder?_eq_some.mp hof).1
  have hstatus := statusOf_modify hp.orders fun _ => rfl
  have hframe : ∀ i, i ≠ payment.order → db'.statusOf i = found.statusOf i := by
    intro i hi
    rw [hstatus, if_neg hi, statusOf_of_orders horders]
  obtain ⟨hsaved, htarget⟩ := charge_of_save hget hp.saved rfl hframe
  have hkeeps : db.payments.Keeps found.payments := by
    rcases hfound with ⟨heq, _⟩ | ⟨_, _, _, hcreate⟩
    · rw [heq]
      exact PaymentTable.Keeps.refl _
    · exact PaymentTable.keeps_create hcreate
  refine ⟨⟨fun i hi => ?_, ?_⟩, hkeeps.trans (keeps_of_save hget hp.saved rfl)⟩
  · rw [hsaved i hi]
    unfold Db.charge
    rw [hother i hi, horders]
  · rw [htarget, hstatus, if_pos rfl]
    unfold Db.charge Db.statusOf
    rw [hp.orderFound]
    rcases hfound with ⟨heq, hof⟩ | ⟨hnone, _, hflag, _⟩
    · rw [hof]
      exact .pointsOnly fun hc => hp.notPaid (Option.some.inj hc)
    · rw [hnone]
      simp only [Option.map_some, Option.map_none, Option.any_none, hflag]
      exact .pointsOnly nofun

/-! ## `ReturnService` -/

/-- The order keeps its status or is refunded. -/
theorem ReturnService.CompletesReturn.statusOf {id : Nat} {r : Return} {order : Order}
    {s : RefundSplit} (h : ReturnService.CompletesReturn db now id r order s db') :
    (∀ i, i ≠ r.order → db'.statusOf i = db.statusOf i) ∧
      ∃ t, db'.statusOf r.order = some t ∧ (t = order.status ∨ t = .refunded) := by
  have hbefore : db.statusOf r.order = some order.status := by
    unfold Db.statusOf
    rw [h.orderFound]
    rfl
  rcases h.orders with ho | ho
  · exact ⟨fun i _ => statusOf_of_orders ho i, order.status,
      (statusOf_of_orders ho _).trans hbefore, Or.inl rfl⟩
  · have hst := statusOf_modify ho fun _ => rfl
    refine ⟨fun i hi => by rw [hst, if_neg hi], .refunded, ?_, Or.inr rfl⟩
    rw [hst, if_pos rfl, hbefore]
    rfl

theorem ReturnService.completeRefund_acts {id : Nat} {toss : Except TossPaymentError TossPayment}
    {s : RefundSplit} (h : ReturnService.completeRefund db now id toss = .ok (s, db')) :
    ∃ r, db.returns.get? id = some r ∧ Acts .completeRefund r.order db db' ∧
      db.payments.Keeps db'.payments := by
  obtain ⟨r, order, hc⟩ := ReturnService.completeRefund_ok h
  obtain ⟨hother, t, hafter, ht⟩ := hc.statusOf
  have hbefore : db.statusOf r.order = some order.status := by
    unfold Db.statusOf
    rw [hc.orderFound]
    rfl
  refine ⟨r, hc.found, ?_⟩
  cases hc.payments with
  | nothing hcash hpayments =>
    refine ⟨acts_of_order hpayments hother fun p c => ?_, keeps_of_eq hpayments⟩
    rw [hbefore, hafter]
    exact .pointsReturned ht
  | cash hcash hof hrow hsave =>
    rename_i k p row data
    obtain ⟨hget, hord⟩ := PaymentTable.ofOrder?_eq_some.mp hof
    obtain ⟨hrowOrder, _, _, hstatus⟩ := Payment.markAsPartialCanceled_spec hrow
    rw [← hord] at hother hbefore hafter ⊢
    refine ⟨acts_of_save hget hsave hrowOrder hother ?_, keeps_of_save hget hsave hrowOrder⟩
    rw [hbefore, hafter]
    exact .cashReturned ht (hstatus.imp And.left And.left)

/-! ## `payment_tasks` -/

namespace PaymentTasks

theorem finalizePaymentConfirm_acts {response : TossPayment} {user : UserId} {published : Bool}
    {out : Outcome FinalizeResult}
    (h : finalizePaymentConfirm db now response k user published = .ok out) :
    ∃ payment, db.payments.get? k = some payment ∧ db.payments.Keeps out.db.payments ∧
      (out.db = db ∨ payment.status ≠ .done ∧ Acts .finalize payment.order db out.db) := by
  obtain ⟨payment, hget, hcase⟩ := finalizePaymentConfirm_ok h
  refine ⟨payment, hget, ?_⟩
  cases hcase with
  | alreadyProcessed hpaid => exact ⟨PaymentTable.Keeps.refl _, Or.inl rfl⟩
  | waiting hpaid hstatus hrow hsaved =>
    rename_i row saved
    obtain ⟨hst, hsame⟩ := Payment.markAsWaitingForDeposit_spec hrow
    obtain ⟨hsave, horders, _, _, _⟩ := savePayment_payments hsaved
    refine ⟨keeps_of_save hget hsave hsame.order,
      Or.inr ⟨hpaid, acts_of_save_only hget hsave hsame.order horders ?_⟩⟩
    rw [hst, hsame.isCanceled]
    exact .finalizeIssued hpaid
  | orderCanceled hpaid hstatus horder hcanceled hrow hsaved =>
    rename_i order row saved
    obtain ⟨hst, hsame⟩ := Payment.markAsPaid_spec hrow
    obtain ⟨hsave, horders, _, _, _⟩ := savePayment_payments hsaved
    refine ⟨keeps_of_save hget hsave hsame.order,
      Or.inr ⟨hpaid, acts_of_save_only hget hsave hsame.order horders ?_⟩⟩
    unfold Db.statusOf
    rw [hst, hsame.isCanceled, horder, Option.map_some, hcanceled]
    exact .finalizeCanceled hpaid
  | success hpaid hstatus horder hcanceled hrow hsaved =>
    rename_i order row saved
    obtain ⟨hst, hsame⟩ := Payment.markAsPaid_spec hrow
    obtain ⟨hsave, _⟩ := savePayment_payments hsaved
    have hmod : ((((saved.updateItems addSold order.items).saveOrder payment.order
        (Order.withPaid row.method now)).deactivateCarts user).log k .approve
          "결제 승인 완료").orders = db.orders.modify payment.order (Order.withPaid row.method now) :=
      settled_orders hsaved order.items payment.order row.method now user
    refine ⟨keeps_of_save hget hsave hsame.order, Or.inr ⟨hpaid, acts_of_save_order hget hsave
      hsame.order horder (statusOf_modify hmod fun _ => rfl) ?_⟩⟩
    rw [hst, hsame.isCanceled]
    exact .finalizePaid hpaid hcanceled

theorem markConfirmAborted_follows (db : Db) (o : OrderId) :
    Follows .abort o db (markConfirmAborted db o) := by
  have hof : ∀ i, (markConfirmAborted db o).payments.ofOrder? i =
      if i = o then (db.payments.ofOrder? o).map fun e => (e.1, { e.2 with status := .aborted })
      else db.payments.ofOrder? i := by
    intro i
    unfold markConfirmAborted
    rw [PaymentTable.ofOrder?_setStatus]
    split
    · rename_i hi
      subst hi
      refine Option.map_congr fun e he => ?_
      simp [(PaymentTable.ofOrder?_eq_some.mp he).2]
    · rename_i hi
      cases hoi : db.payments.ofOrder? i with
      | none => rfl
      | some e =>
        have hne : e.2.order ≠ o := fun hc =>
          hi ((PaymentTable.ofOrder?_eq_some.mp hoi).2.symm.trans hc)
        simp [hne]
  have hother : ∀ i, i ≠ o → (markConfirmAborted db o).charge i = db.charge i := by
    intro i hi
    unfold Db.charge
    rw [hof, if_neg hi]
    rfl
  cases hpay : db.payments.ofOrder? o with
  | none =>
    left
    intro i
    by_cases hi : i = o
    · subst hi
      unfold Db.charge
      rw [hof, if_pos rfl, hpay]
      rfl
    · exact hother i hi
  | some e =>
    right
    refine ⟨hother, ?_⟩
    unfold Db.charge
    rw [hof, if_pos rfl, hpay]
    exact .abort

@[simp] theorem callTossConfirmApi_result (db : Db) (o : OrderId) (amount : Int)
    (tossOrderId : TossOrderId) (k : Nat) (user : UserId) (answer : TossAnswer)
    (retriesLeft published : Bool) :
    (callTossConfirmApi db o amount tossOrderId k user answer retriesLeft published).result
      = confirmDecision tossOrderId amount retriesLeft answer := by
  unfold callTossConfirmApi
  dsimp only
  split
  · rfl
  · rfl
  · rfl
  · rfl

/-- An execution of `call_toss_confirm_api` moves a charge only when it gives
up. -/
theorem callTossConfirmApi_follows (db : Db) (o : OrderId) (amount : Int)
    (tossOrderId : TossOrderId) (k : Nat) (user : UserId) (answer : TossAnswer)
    (retriesLeft published : Bool) :
    let out := callTossConfirmApi db o amount tossOrderId k user answer retriesLeft published
    db.payments.Keeps out.db.payments ∧
      (SameCharges db out.db ∨
        (∃ log reason, out.result = .abort log reason) ∧ Acts .abort o db out.db) := by
  intro out
  obtain ⟨logged, hmoves, _, hdb | ⟨hresult, hdb⟩⟩ :=
    callTossConfirmApi_commits db o amount tossOrderId k user answer retriesLeft published
  · rw [show out.db = logged from hdb]
    exact ⟨keeps_of_eq hmoves.payments,
      Or.inl (SameCharges.of_tables hmoves.orders hmoves.payments)⟩
  · rw [show out.db = markConfirmAborted logged o from hdb]
    have hlog := SameCharges.of_tables hmoves.orders hmoves.payments
    refine ⟨(keeps_of_eq hmoves.payments).trans (PaymentTable.keeps_setStatus _ _ _), ?_⟩
    rcases markConfirmAborted_follows logged o with hsame | hacts
    · exact Or.inl fun i => (hsame i).trans (hlog i)
    · refine Or.inr ⟨hresult, fun i hi => (hacts.frame i hi).trans (hlog i), ?_⟩
      rw [← hlog o]
      exact hacts.move

theorem rollbackPaymentFailure_follows (db : Db) (now : Time) (o : OrderId) (reason : String) :
    Follows .rollback o db (rollbackPaymentFailure db now o reason).2 ∧
      db.payments.Keeps (rollbackPaymentFailure db now o reason).2.payments := by
  rcases rollbackPaymentFailure_cases db now o reason with heq | ⟨order, hr⟩
  · rw [heq]
    exact ⟨Or.inl (SameCharges.refl db), PaymentTable.Keeps.refl _⟩
  · refine ⟨Or.inr ?_, hr.keeps⟩
    obtain ⟨why, horders⟩ := hr.orders
    have hstatus := statusOf_modify horders fun _ => rfl
    constructor
    · intro i hi
      have hst := hstatus i
      rw [if_neg hi] at hst
      unfold Db.statusOf at hst
      unfold Db.charge
      rw [hst, hr.payments, if_neg hi]
    · have hst := hstatus o
      rw [if_pos rfl] at hst
      unfold Db.statusOf at hst
      unfold Db.charge
      rw [hst, hr.payments, if_pos rfl, hr.found]
      have hbefore := hr.unpaid
      cases db.payments.ofOrder? o with
      | none => exact .rollback hbefore
      | some e =>
        have hpay : (if e.2.status ≠ .aborted ∧ e.2.status ≠ .expired then
            { e.2 with status := PaymentStatus.aborted } else e.2).status
              = e.2.status.rolledBack := by
          unfold PaymentStatus.rolledBack
          split
          · rfl
          · rfl
        have hflag : (if e.2.status ≠ .aborted ∧ e.2.status ≠ .expired then
            { e.2 with status := PaymentStatus.aborted } else e.2).isCanceled
              = e.2.isCanceled := by
          split
          · rfl
          · rfl
        simp only [Option.map_some, Option.any_some]
        rw [hpay, hflag]
        exact .rollback hbefore

end PaymentTasks

/-! ## `TossWebhookService` -/

namespace TossWebhookService

theorem handlePaymentDone_acts {event : TossPayment} {result : DoneResult}
    (h : handlePaymentDone db now event = .ok (result, db')) :
    db.payments.Keeps db'.payments ∧ ∃ i, Follows .webhookDone i db db' := by
  rcases handlePaymentDone_ok h with ⟨heq, _⟩ | ⟨id, k, payment, _, hof, hcase⟩
  · rw [heq]
    exact ⟨PaymentTable.Keeps.refl _, 0, Or.inl (SameCharges.refl db)⟩
  · have hget := PaymentTable.ofTossOrderId?_get hof
    cases hcase with
    | alreadyPaid _ => exact ⟨PaymentTable.Keeps.refl _, 0, Or.inl (SameCharges.refl db)⟩
    | chargedButFailed _ =>
      exact ⟨PaymentTable.Keeps.refl _, 0, Or.inl (SameCharges.of_tables rfl rfl)⟩
    | finalState _ => exact ⟨PaymentTable.Keeps.refl _, 0, Or.inl (SameCharges.refl db)⟩
    | depositAfterExpiry _ =>
      exact ⟨PaymentTable.Keeps.refl _, 0, Or.inl (SameCharges.of_tables rfl rfl)⟩
    | chargedOnCanceledOrder hopen horder hcanceled hrow hsaved =>
      rename_i order row saved
      obtain ⟨hst, hsame⟩ := Payment.markAsPaid_spec hrow
      obtain ⟨hsave, horders, _, _, _⟩ := savePayment_payments hsaved
      generalize hmark : markWebhookProcessed (saved.log k .error
        "취소된 주문에 결제 완료(입금) 확인 — 환불 필요") now id .done = db'
      have hsave' : db.payments.save k row = .ok db'.payments := by rw [← hmark]; simpa using hsave
      have horders' : db'.orders = db.orders := by rw [← hmark]; simpa using horders
      refine ⟨keeps_of_save hget hsave' hsame.order, payment.order,
        Or.inr (acts_of_save_only hget hsave' hsame.order horders' ?_)⟩
      unfold Db.statusOf
      rw [hst, hsame.isCanceled, horder, Option.map_some, hcanceled]
      exact .doneCanceled hopen
    | orderAlreadyPaid hopen horder hpaid hrow hsaved =>
      rename_i order row saved
      obtain ⟨hst, hsame⟩ := Payment.markAsPaid_spec hrow
      obtain ⟨hsave, horders, _, _, _⟩ := savePayment_payments hsaved
      generalize hmark : markWebhookProcessed saved now id .done = db'
      have hsave' : db.payments.save k row = .ok db'.payments := by rw [← hmark]; simpa using hsave
      have horders' : db'.orders = db.orders := by rw [← hmark]; simpa using horders
      refine ⟨keeps_of_save hget hsave' hsame.order, payment.order,
        Or.inr (acts_of_save_only hget hsave' hsame.order horders' ?_)⟩
      unfold Db.statusOf
      rw [hst, hsame.isCanceled, horder, Option.map_some, hpaid]
      exact .donePaid hopen (by decide)
    | settled hopen horder hcanceled hpaid hrow hsaved hearned =>
      rename_i order row saved earned
      obtain ⟨hst, hsame⟩ := Payment.markAsPaid_spec hrow
      obtain ⟨hsave, _⟩ := savePayment_payments hsaved
      generalize hmark : markWebhookProcessed (earned.log k .webhook "결제 완료 웹훅 처리")
        now id .done = db'
      have hpay : db'.payments = saved.payments := by rw [← hmark]; simpa using hearned.payments
      rw [← hpay] at hsave
      have hmod := settled_orders hsaved order.items payment.order (methodOrCard row.method) now
        order.user
      have hstatus : ∀ i, db'.statusOf i = if i = payment.order then
          (db.statusOf payment.order).map fun _ => .paid else db.statusOf i := by
        intro i
        have hearn := hearned.statusOf i
        rw [statusOf_modify hmod fun _ => rfl] at hearn
        rw [← hearn]
        exact statusOf_of_orders (by rw [← hmark]; simp) i
      refine ⟨keeps_of_save hget hsave hsame.order, payment.order,
        Or.inr (acts_of_save_order hget hsave hsame.order horder hstatus ?_)⟩
      rw [hst, hsame.isCanceled]
      exact .donePaid hopen hcanceled

theorem handlePaymentCanceled_acts {event : TossPayment} {result : CanceledResult}
    (h : handlePaymentCanceled db now event = .ok (result, db')) :
    db.payments.Keeps db'.payments ∧ ∃ i, Follows .webhookCanceled i db db' := by
  rcases handlePaymentCanceled_ok h with heq |
    ⟨id, k, payment, order, row, _, hof, hflag, haborted, horder, hrow, hcase⟩
  · rw [heq]
    exact ⟨PaymentTable.Keeps.refl _, 0, Or.inl (SameCharges.refl db)⟩
  · have hget := PaymentTable.ofTossOrderId?_get hof
    obtain ⟨hst, hrowFlag, hord⟩ := Payment.markAsCanceled_spec hrow
    have hsaved : db.payments.save k row = .ok db'.payments ∧
        ∀ i, db'.statusOf i = if i = payment.order then
          (db.statusOf payment.order).map fun _ => .canceled else db.statusOf i := by
      cases hcase with
      | orderAlreadyCanceled hcanceled hsaved =>
        obtain ⟨hsave, horders, _, _, _⟩ := savePayment_payments hsaved
        refine ⟨by simpa using hsave, fun i => ?_⟩
        rw [statusOf_of_orders (by simpa using horders)]
        split
        · rename_i hi
          unfold Db.statusOf
          rw [hi, horder, Option.map_some, Option.map_some, hcanceled]
        · rfl
      | canceled hcanceled hsaved =>
        rename_i saved
        obtain ⟨hsave, horders, _, _, _⟩ := savePayment_payments hsaved
        have hsettle := movesPoints_settleOnCanceled (restoreOnCanceled saved order) now k
          payment.order order
        obtain ⟨hrp, hro, _, _⟩ := restoreOnCanceled_tables saved order
        refine ⟨by simpa [hsettle.payments, hrp] using hsave, ?_⟩
        refine statusOf_modify (?_ : _ = db.orders.modify payment.order
          (Order.withStatus .canceled now)) fun _ => rfl
        simp [hsettle.orders, hro, horders]
    refine ⟨keeps_of_save hget hsaved.1 hord, payment.order,
      Or.inr (acts_of_save_order hget hsaved.1 hord horder hsaved.2 ?_)⟩
    rw [hst, hrowFlag, hflag]
    exact .canceled haborted

theorem handleWaitingForDeposit_acts {event : TossPayment} {result : WaitingResult}
    (h : handleWaitingForDeposit db now event = .ok (result, db')) :
    db.payments.Keeps db'.payments ∧ ∃ i, Follows .webhookWaiting i db db' := by
  rcases handleWaitingForDeposit_ok h with heq |
    ⟨id, k, payment, order, row, _, hof, hwaiting, hinvalid, horder, hrow, hcase⟩
  · rw [heq]
    exact ⟨PaymentTable.Keeps.refl _, 0, Or.inl (SameCharges.refl db)⟩
  · have hget := PaymentTable.ofTossOrderId?_get hof
    obtain ⟨hst, hsame⟩ := Payment.markAsWaitingForDeposit_spec hrow
    cases hcase with
    | depositReverted hpaid hsaved =>
      obtain ⟨hsave, horders, _, _, _⟩ := savePayment_payments hsaved
      obtain ⟨hrp, ⟨n, hro⟩, _⟩ := revertDeposit_tables db now k payment.order order
      rw [hrp] at hsave
      rw [hro] at horders
      refine ⟨keeps_of_save hget hsave hsame.order, payment.order, Or.inr (acts_of_save_order hget
        hsave hsame.order horder (statusOf_modify horders fun _ => rfl) ?_)⟩
      rw [hst, hsame.isCanceled, hpaid]
      exact .reverted
    | issued hpaid hsaved =>
      obtain ⟨hsave, horders, _, _, _⟩ := savePayment_payments hsaved
      refine ⟨keeps_of_save hget hsave hsame.order, payment.order,
        Or.inr (acts_of_save_only hget hsave hsame.order horders ?_)⟩
      rw [hst, hsame.isCanceled]
      refine .issued ?_
      simp [PaymentStatus.isOpen, hpaid, hinvalid]

end TossWebhookService

/-! ## Writes of a row that was read earlier -/

/-- The write of the row `k` as it was read, closed, moves the charge of the
order that the row had and still has. -/
theorem acts_of_stale_save {seen row : Payment} (hsave : db.payments.save k row = .ok db'.payments)
    (horders : db'.orders = db.orders) (horder : row.order = seen.order)
    (hflag : row.isCanceled = seen.isCanceled)
    (hclosed : row.status = .aborted ∨ row.status = .expired)
    {p : Payment} (hget : db.payments.get? k = some p) (hsame : p.order = seen.order) :
    Acts (.fail seen.isCanceled) p.order db db' ∧ db.payments.Keeps db'.payments := by
  have hord : row.order = p.order := horder.trans hsame.symm
  refine ⟨acts_of_save_only hget hsave hord horders ?_, keeps_of_save hget hsave hord⟩
  rw [hflag]
  exact .fail hclosed

end Shopping
