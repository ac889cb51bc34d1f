import Shopping.System.Steps

/-!
# Payments with points only and released orders

`complete_points_only_payment` checks the order that the view read, and then
locks the row without a second look at its status.  An order that a
cancellation, the expiry or a rollback releases between the two is paid
nevertheless.

`completePointsOnlyPayment_refuses` says when the function refuses a released
order, `keepsReleased_step` that no other step revives one.
-/

namespace Shopping

open PaymentService

/-! ## What the function looks at -/

/-- The checks on the order that the view read: it is confirmed, costs
nothing, and its points cover the amount and the shipping. -/
def coveredByPoints (seen : Order) : Bool :=
  decide (seen.status = .confirmed) && decide (seen.finalAmount = 0) &&
    decide (seen.totalAmount + seen.getTotalShippingFee - seen.usedPoints ≤ 0)

/-- The call gets past its checks: those on `seen`, and the one on the
payment of the order. -/
def passesChecks (db : Db) (o : OrderId) (seen : Order) : Bool :=
  coveredByPoints seen && !(db.payments.ofOrder? o).any fun e => e.2.isPaid

/-- A call with an order that does not stand the checks is refused. -/
theorem completePointsOnlyPayment_uncovered {db : Db} {now : Time} {o : OrderId} {seen : Order}
    {user : UserId} (h : coveredByPoints seen = false) :
    ∃ message, completePointsOnlyPayment db now o seen user
      = .error (.paymentConfirmError message) := by
  unfold completePointsOnlyPayment
  by_cases hstatus : seen.status = .confirmed
  · by_cases hfinal : seen.finalAmount = 0
    · have hpayable : 0 < seen.totalAmount + seen.getTotalShippingFee - seen.usedPoints := by
        simpa [coveredByPoints, hstatus, hfinal] using h
      rw [if_neg (not_not.mpr hstatus), if_neg (not_not.mpr hfinal)]
      exact ⟨_, if_pos hpayable⟩
    · rw [if_neg (not_not.mpr hstatus)]
      exact ⟨_, if_pos hfinal⟩
  · exact ⟨_, if_pos hstatus⟩

/-- What the call does after the checks on the order that the view read. -/
theorem completePointsOnlyPayment_covered {db : Db} {now : Time} {o : OrderId}
    {seen order : Order} {user : UserId} (h : coveredByPoints seen = true)
    (horder : db.orders.get? o = some order) :
    completePointsOnlyPayment db now o seen user = (do
      let (k, payment, found) ← getOrCreatePointsPayment db now o
      if payment.isPaid then .error (.paymentConfirmError "이미 완료된 결제입니다.")
      else do
        let saved ← found.savePayment k
          { payment with status := .done, method := "points", updatedAt := now }
        .ok (order.usedPoints,
          (((saved.updateItems addSold order.items).saveOrder o
            (Order.withPaid "points" now)).deactivateCarts user).log k .approve
              ("포인트 " ++ toString order.usedPoints ++ "점으로 전액 결제 완료"))) := by
  simp only [coveredByPoints, Bool.and_eq_true, decide_eq_true_eq] at h
  obtain ⟨⟨hstatus, hfinal⟩, hpayable⟩ := h
  unfold completePointsOnlyPayment
  rw [if_neg (not_not.mpr hstatus), if_neg (not_not.mpr hfinal), if_neg (not_lt.mpr hpayable),
    Db.getOrder_eq_ok.mpr horder]
  rfl

theorem savePayment_error {db : Db} {k : Nat} {row : Payment} {e : ShopError}
    (h : db.savePayment k row = .error e) : e = .db .integrityError := by
  unfold Db.savePayment PaymentTable.save at h
  split at h
  · cases h
    rfl
  · cases h

/-- The call refuses an order, whatever the status of the row is, exactly when
it does not get past its checks. -/
theorem completePointsOnlyPayment_refuses {db : Db} {now : Time} {o : OrderId}
    {seen order : Order} {user : UserId} (horder : db.orders.get? o = some order) :
    (∃ message, completePointsOnlyPayment db now o seen user
      = .error (.paymentConfirmError message)) ↔ passesChecks db o seen = false := by
  unfold passesChecks
  cases hcovered : coveredByPoints seen with
  | false =>
    simp only [Bool.false_and, iff_true]
    exact completePointsOnlyPayment_uncovered hcovered
  | true =>
    rw [completePointsOnlyPayment_covered hcovered horder, Bool.true_and, Bool.not_eq_false']
    -- A row that is there decides by its status; a new one is ready.
    unfold getOrCreatePointsPayment
    cases hof : db.payments.ofOrder? o with
    | some found =>
      obtain ⟨k, payment⟩ := found
      simp only [ok_bind, Option.any_some]
      cases hpaid : payment.isPaid with
      | true => exact ⟨fun _ => rfl, fun _ => ⟨_, rfl⟩⟩
      | false =>
        refine ⟨fun ⟨message, h⟩ => ?_, nofun⟩
        rw [if_neg Bool.false_ne_true] at h
        cases hsaved : db.savePayment k
            { payment with status := .done, method := "points", updatedAt := now } with
        | error e =>
          rw [hsaved, savePayment_error hsaved] at h
          cases h
        | ok saved =>
          rw [hsaved] at h
          cases h
    | none =>
      refine ⟨fun ⟨message, h⟩ => ?_, nofun⟩
      dsimp only at h
      generalize hrow : (
        { order := o, tossOrderId := .points o, amount := 0, method := "points",
          status := .ready, updatedAt := now } : Payment) = row at h
      have hready : row.isPaid = false := by
        rw [← hrow]
        rfl
      cases hcreate : db.payments.create row with
      | error e =>
        rw [hcreate] at h
        unfold PaymentTable.create PaymentTable.save at hcreate
        split at hcreate
        · cases hcreate
          cases h
        · cases hcreate
      | ok created =>
        rw [hcreate] at h
        simp only [Except.map, ok_bind, hready] at h
        rw [if_neg Bool.false_ne_true] at h
        cases hsaved : ({ db with payments := created.2 } : Db).savePayment created.1
            { row with status := .done, method := "points", updatedAt := now } with
        | error e =>
          rw [hsaved, savePayment_error hsaved] at h
          cases h
        | ok saved =>
          rw [hsaved] at h
          cases h

/-! ## Runs -/

/-- The payment with points, and what releases an order before it is paid. -/
def pointsEvent (w : World) : Event → Bool
  | .readOrder _ | .completePointsOnly _ _ | .cancelOrder _ | .expireOrder _ => true
  | .deliver n _ =>
    match w.messages[n]? with
    | some (.rollback _ _) => true
    | _ => false
  | _ => false

/-- The event is a payment with points that gets past its checks for an order
that was released. -/
def paysReleased (w : World) : Event → Bool
  | .completePointsOnly n _ =>
    match w.orderReads[n]? with
    | some (o, seen) =>
      passesChecks w.db o seen && (w.db.statusOf o).any OrderStatus.isReleased
    | none => false
  | _ => false

/-- An unpaid order is not released. -/
theorem OrderStatus.not_released_of_unpaid {s : OrderStatus} (h : s.isUnpaid = true) :
    s.isReleased = false := by
  cases s <;> first | rfl | cases h

/-- The functions that close an unpaid order change no released one. -/
theorem keepsReleased_of_unpaid {act : Act} {o : OrderId} {db db' : Db}
    (hact : act = .rollback ∨ ∃ closed, act = .cancelOrder closed) (h : Follows act o db db') :
    KeepsReleased db db' := by
  refine .of_follows h fun c s hmove hs hrel => ?_
  have hunpaid : s.isUnpaid = true := by
    generalize db.charge o = before at hmove hs
    rcases hact with rfl | ⟨closed, rfl⟩
    · cases hmove with
      | rollback hunpaid =>
        cases hs
        exact hunpaid
    · cases hmove with
      | cancelOrder hunpaid _ =>
        cases hs
        exact hunpaid
  rw [OrderStatus.not_released_of_unpaid hunpaid] at hrel
  cases hrel

theorem keepsReleased_step {w : World} {now : Time} {e : Event} (he : pointsEvent w e = true)
    (hpays : paysReleased w e = false) : KeepsReleased w.db (w.run now e).db := by
  refine World.run_of (P := KeepsReleased w.db) (.of_orders rfl) fun db hcommits => ?_
  cases hcommits with
  | @completePointsOnly n user read k db hread hcall =>
    obtain ⟨o, seen⟩ := read
    have hacts := (completePointsOnlyPayment_acts hcall).1
    refine .of_follows (Or.inr hacts) fun c s _ hs hrel => ?_
    -- The call returned, so it got past its checks, and the order is not released.
    obtain ⟨order, _, _, _, hp⟩ := completePointsOnlyPayment_ok hcall
    have hpassed : passesChecks w.db o seen = true := by
      rw [← Bool.not_eq_false]
      intro hc
      obtain ⟨message, herror⟩ := (completePointsOnlyPayment_refuses hp.orderFound).mpr hc
      rw [hcall] at herror
      cases herror
    have hstatus : w.db.statusOf o = some s := hs
    simp [paysReleased, hread, hpassed, hstatus, hrel] at hpays
  | cancelOrder hcall =>
    obtain ⟨order, hcancels⟩ := OrderService.cancelOrder_ok hcall
    exact keepsReleased_of_unpaid (Or.inr ⟨_, rfl⟩) (Or.inr hcancels.acts)
  | expireOrder hcall =>
    exact keepsReleased_of_unpaid (Or.inr ⟨_, rfl⟩) (OrderTasks.expireOrder_follows hcall).1
  | @rollback n d o reason hmsg =>
    exact keepsReleased_of_unpaid (Or.inl rfl)
      (PaymentTasks.rollbackPaymentFailure_follows w.db now o reason).1
  | processOrder hmsg | confirm hmsg | finalize hmsg | alertFinalize hmsg | addPoints hmsg =>
    simp [pointsEvent, hmsg] at he
  | _ => cases he

/-- Payments with points and released orders, in every run of them in which
no payment with points gets past its checks for a released order: what was
released stays released; and the call refuses a released order, and changes
nothing, exactly when it does not get past its checks. -/
theorem pointsOnly_keepsReleased {w₀ w : World} {es : List (Time × Event)}
    (h : Run World.step (fun w e => (pointsEvent w e.2 && !paysReleased w e.2) = true) w₀ es w) :
    KeepsReleased w₀.db w.db ∧
    ∀ now o s seen user, w.db.statusOf o = some s → s.isReleased = true →
      ((∃ message, completePointsOnlyPayment w.db now o seen user
        = .error (.paymentConfirmError message)) ↔ passesChecks w.db o seen = false) := by
  constructor
  · refine h.invariant (fun w => KeepsReleased w₀.db w.db) (.of_orders rfl) ?_
    intro t e u hkeeps hok hstep
    cases hstep
    rw [Bool.and_eq_true, Bool.not_eq_true'] at hok
    exact hkeeps.trans (keepsReleased_step hok.1 hok.2)
  · intro now o s seen user hs _
    obtain ⟨order, horder, _⟩ := Option.map_eq_some_iff.mp hs
    exact completePointsOnlyPayment_refuses horder

/-! ## A shop with an order paid by points -/

/-- The user earned 13000 points, and the order took them. -/
def usedLedger : Ledger :=
  match PointService.addPoints Ledger.empty 0 7 13000 with
  | .ok earned => (PointService.usePointsFifo earned.2 0 7 13000 .use (some 1)).2
  | .error _ => Ledger.empty

/-- The points cover the order, which has no payment yet. -/
def pointsShop : World where
  db := { (World.shop .confirmed .ready).db with
    ledger := usedLedger
    orders := Table.empty.insert
      { World.oneOrder .confirmed with usedPoints := 13000, finalAmount := 0 }
    payments := PaymentTable.empty }

/-- The order is read again after its cancellation, and refused. -/
def refusedPoints : List (Time × Event) :=
  [(1, .readOrder 1), (2, .cancelOrder 1), (3, .readOrder 1), (4, .completePointsOnly 1 7)]

theorem pointsOnly_keepsReleased_refused :
    ∃ w seen, Run World.step (fun w e => (pointsEvent w e.2 && !paysReleased w e.2) = true)
        pointsShop refusedPoints w ∧
      w.db.statusOf 1 = some .canceled ∧ w.orderReads[1]? = some (1, seen) ∧
      KeepsReleased pointsShop.db w.db ∧
      ∃ message, completePointsOnlyPayment w.db 5 1 seen 7
        = .error (.paymentConfirmError message) := by
  obtain ⟨w, hrun, hstate⟩ := Run.exists_of_execIf (by decide :
    (execIf World.step (fun w e => pointsEvent w e.2 && !paysReleased w e.2) pointsShop
      refusedPoints).any (fun w => decide (w.db.statusOf 1 = some .canceled) &&
        w.orderReads[1]?.any fun read => decide (read.1 = 1) &&
          !passesChecks w.db 1 read.2) = true)
  rw [Bool.and_eq_true, decide_eq_true_eq, Option.any_eq_true] at hstate
  obtain ⟨hstatus, ⟨o, seen⟩, hread, hrefused⟩ := hstate
  rw [Bool.and_eq_true, decide_eq_true_eq, Bool.not_eq_true'] at hrefused
  obtain ⟨rfl, hrefused⟩ := hrefused
  have h := pointsOnly_keepsReleased hrun
  exact ⟨w, seen, hrun, hstatus, hread, h.1,
    (h.2 5 1 .canceled seen 7 hstatus rfl).mpr hrefused⟩

/-- The order that was read before its cancellation is paid after it, with its
stock and its points given back. -/
theorem pointsOnly_pays_canceled_order :
    ∃ w w', Run World.step (fun w e => pointsEvent w e.2 = true) pointsShop
        [(1, .readOrder 1), (2, .cancelOrder 1)] w ∧
      w.db.statusOf 1 = some .canceled ∧
      (pointsShop.db.products.get? 1).map Product.stock = some 9 ∧
      (w.db.products.get? 1).map Product.stock = some 10 ∧
      pointsShop.db.ledger.points 7 = 0 ∧ w.db.ledger.points 7 = 13000 ∧
      World.step w (3, .completePointsOnly 0 7) = some w' ∧
      w'.db.statusOf 1 = some .paid := by
  obtain ⟨w, hrun, hstate⟩ := Run.exists_of_execIf (by decide :
    (execIf World.step (fun w e => pointsEvent w e.2) pointsShop
      [(1, .readOrder 1), (2, .cancelOrder 1)]).any (fun w => decide
        (w.db.statusOf 1 = some .canceled ∧
          (pointsShop.db.products.get? 1).map Product.stock = some 9 ∧
          (w.db.products.get? 1).map Product.stock = some 10 ∧
          pointsShop.db.ledger.points 7 = 0 ∧ w.db.ledger.points 7 = 13000 ∧
          (w.run 3 (.completePointsOnly 0 7)).db.statusOf 1 = some .paid)) = true)
  obtain ⟨hcanceled, hheld, hback, hused, hrefunded, hpaid⟩ := of_decide_eq_true hstate
  exact ⟨w, _, hrun, hcanceled, hheld, hback, hused, hrefunded, rfl, hpaid⟩

end Shopping
