import Shopping.System.StaffedShop
import Shopping.System.Stock

/-!
# The points that an order holds

What an order used is booked once; what it gets back has no such bound.  Four
functions close an order and give its points back, each with a check of its
own, and the completion of a return gives back a share.

* `refunds_within_uses`: when every step is within `backsRefunds`, no order
  gets back more than it used.
* `closed_orders_hold_nothing`: when every step is within `emptiesOrder`, an
  order that is closed holds no points.

`rollback_payment_failure`, `cancel_payment` and the webhook go by the points
that the order was placed with.  They do not see whether these were taken, nor
whether they were given back before, as `cancel_order` and `complete_refund`
see the first.
-/

namespace Shopping

open ReturnService

/-! ## The conditions -/

/-- The order used its points, and got none back. -/
def holdsPoints (db : Db) (o : OrderId) : Bool :=
  hasUse o db.usedRows && !hasRefund o db.usedRows

/-- The function closes the order and gives its points back. -/
def closesWithRefund (db : Db) (c : Closing) (o : OrderId) (order : Order) : Bool :=
  c.accepts order.status && c.givesBack db o order.status && decide (0 < order.usedPoints)

/-- The goods that come back are within what the order charged for goods. -/
def fitsGoods (db : Db) (order : Order) (r : Return) : Bool :=
  decide (0 ≤ completedGoods db r.order) && decide (0 ≤ r.refundAmount) &&
    decide (completedGoods db r.order + r.refundAmount ≤ order.totalAmount) &&
    decide (order.totalAmount < columnLimit)

/-- Nothing was given back but the share of the goods that came back. -/
def sharesOnly (db : Db) (order : Order) (r : Return) : Bool :=
  decide (givenBack r.order db.usedRows ≤ usedShare order (completedGoods db r.order))

namespace StaffedShop

/-- The points that the event gives back were taken, and not given back. -/
def backsRefunds (s : StaffedShop) (e : Time × StaffedEvent) : Bool :=
  let db := s.world.db
  ((s.closing e.2).all fun c => (db.orders.get? c.2).all fun order =>
    !closesWithRefund db c.1 c.2 order || holdsPoints db c.2) &&
  (e.2.completed.all fun id => (db.returns.get? id).all fun r =>
    (db.orders.get? r.order).all fun order =>
      decide (order.usedPoints ≤ 0) || fitsGoods db order r && sharesOnly db order r)

/-- An order that is closed gets back what it still has of its points. -/
def emptiesOrder (s : StaffedShop) (e : Time × StaffedEvent) : Bool :=
  let db := s.world.db
  (s.closing e.2).all fun c => (db.orders.get? c.2).all fun order =>
    !c.1.accepts order.status || decide (order.usedPoints ≤ 0) ||
      if c.1.givesBack db c.2 order.status then holdsPoints db c.2
      else !hasUse c.2 db.usedRows || decide (givenBack c.2 db.usedRows = order.usedPoints)

end StaffedShop

/-! ## What a step adds -/

section

variable {w w' : World} {o : OrderId} {order : Order}

/-- The use of an order that has one is of its points. -/
theorem UsesBooked.usedSum_eq (h : UsesBooked w) (huse : hasUse o w.db.usedRows = true)
    (hget : w.db.orders.get? o = some order) :
    0 < order.usedPoints ∧ usedSum o w.db.usedRows = -order.usedPoints := by
  obtain ⟨_, n, hpos, hn, hsum⟩ := h.used o huse
  have hsame : order.usedPoints = n := Db.UsesPoints.unique ⟨order, hget, rfl⟩ hn
  rw [hsame]
  exact ⟨hpos, hsum⟩

/-- Points are given back for goods only when points were used. -/
theorem hasUse_of_pointsBack {db : Db} {r : Return}
    (h : 0 < (refundSplit db order r).pointsBack) : hasUse r.order db.usedRows = true := by
  rw [← Db.hasHistory_use]
  unfold refundSplit at h
  dsimp only at h
  split at h
  · omega
  · rename_i hnone
    by_contra hc
    rw [Bool.not_eq_true] at hc
    exact hnone ⟨h, hc⟩

/-- What was given back for the goods before and for these is no more than was
used. -/
theorem givenBack_add_pointsBack_le {db : Db} {r : Return} (hused : 0 ≤ order.usedPoints)
    (hfits : fitsGoods db order r = true) (hshares : sharesOnly db order r = true) :
    givenBack r.order db.usedRows + (refundSplit db order r).pointsBack ≤ order.usedPoints := by
  simp only [fitsGoods, Bool.and_eq_true, decide_eq_true_eq] at hfits
  obtain ⟨⟨⟨hprevious, hgoods⟩, htotal⟩, hlimit⟩ := hfits
  have hbefore : givenBack r.order db.usedRows ≤ usedShare order (completedGoods db r.order) :=
    of_decide_eq_true hshares
  have hshare : pointsShare order (completedGoods db r.order) r.refundAmount
      = usedShare order (completedGoods db r.order + r.refundAmount)
        - usedShare order (completedGoods db r.order) := rfl
  have hmono := usedShare_le_usedShare hused hlimit hprevious (Int.le_add_of_nonneg_right hgoods)
    htotal
  have hall := usedShare_le_usedPoints hused hlimit (Int.add_nonneg hprevious hgoods) htotal
  have hback := pointsBack_le db order r (by omega)
  omega

/-! ## Refunds -/

/-- No order got back more than it used. -/
def WithinUse (db : Db) : Prop := ∀ o, givenBack o db.usedRows ≤ -usedSum o db.usedRows

theorem WithinUse.usedStep (h : WithinUse w.db) (hbooked : UsesBooked w)
    {closing : Option (Closing × OrderId)} {completed : Option Nat}
    (hstep : UsedStep closing completed w w')
    (hclose : ∀ c o order, closing = some (c, o) → w.db.orders.get? o = some order →
      closesWithRefund w.db c o order = true → holdsPoints w.db o = true)
    (hreturn : ∀ id r order, completed = some id → w.db.returns.get? id = some r →
      w.db.orders.get? r.order = some order → 0 < order.usedPoints →
      fitsGoods w.db order r = true ∧ sharesOnly w.db order r = true) : WithinUse w'.db := by
  intro o
  have hbefore := h o
  cases hstep with
  | quiet hrows _ =>
    rw [hrows]
    exact hbefore
  | uses _ _ hpos _ hrows _ =>
    rw [hrows, givenBack_use, usedSum_use]
    split
    · omega
    · omega
  | @closes c i order hclosing hcloses =>
    have hrefund := c.refundType_isRefund
    rw [hcloses.rows]
    split
    · rename_i hback
      rw [usedSum_refund hrefund, givenBack_refund hrefund]
      have hholds := hclose c i order hclosing hcloses.found (by
        simp [closesWithRefund, hcloses.accepts, hback.1, hback.2])
      simp only [holdsPoints, Bool.and_eq_true, Bool.not_eq_true'] at hholds
      by_cases hio : i = o
      · subst hio
        obtain ⟨_, hsum⟩ := hbooked.usedSum_eq hholds.1 hcloses.found
        rw [if_pos rfl, givenBack_of_not_hasRefund hholds.2]
        omega
      · rw [if_neg hio]
        omega
    · rw [List.append_nil]
      exact hbefore
  | @returns id r order hcompleted hfound horder hpos hrows _ =>
    rw [hrows, usedSum_refund rfl, givenBack_refund rfl]
    by_cases hro : r.order = o
    · subst hro
      obtain ⟨hused, hsum⟩ := hbooked.usedSum_eq (hasUse_of_pointsBack hpos) horder
      obtain ⟨hfits, hshares⟩ := hreturn id r order hcompleted hfound horder hused
      have hle := givenBack_add_pointsBack_le hused.le hfits hshares
      rw [if_pos rfl]
      omega
    · rw [if_neg hro]
      omega

/-! ## Closed orders -/

/-- An order that got points back used some. -/
def RefundsUsed (db : Db) : Prop :=
  ∀ o, hasRefund o db.usedRows = true → hasUse o db.usedRows = true

/-- What the closing of an order must find. -/
def Empties (w : World) (closing : Option (Closing × OrderId)) : Prop :=
  ∀ c o order, closing = some (c, o) → w.db.orders.get? o = some order →
    c.accepts order.status = true → 0 < order.usedPoints →
    if c.givesBack w.db o order.status = true then holdsPoints w.db o = true
    else hasUse o w.db.usedRows = true → givenBack o w.db.usedRows = order.usedPoints

theorem RefundsUsed.usedStep (h : RefundsUsed w.db) {closing : Option (Closing × OrderId)}
    {completed : Option Nat} (hstep : UsedStep closing completed w w')
    (hempties : Empties w closing) : RefundsUsed w'.db := by
  intro o hrefund
  cases hstep with
  | quiet hrows _ =>
    rw [hrows] at hrefund ⊢
    exact h o hrefund
  | uses _ _ _ _ hrows _ =>
    rw [hrows, hasRefund_use] at hrefund
    rw [hrows, hasUse_use, h o hrefund, Bool.true_or]
  | @closes c i order hclosing hcloses =>
    have htype := c.refundType_isRefund
    rw [hcloses.rows] at hrefund ⊢
    split at hrefund
    · rename_i hback
      rw [if_pos hback, hasUse_refund htype]
      rw [hasRefund_refund htype, Bool.or_eq_true] at hrefund
      rcases hrefund with hrefund | hio
      · exact h o hrefund
      · rw [decide_eq_true_eq] at hio
        subst hio
        have hfound := hempties c i order hclosing hcloses.found hcloses.accepts hback.1
        rw [if_pos hback.2, holdsPoints, Bool.and_eq_true] at hfound
        exact hfound.1
    · rename_i hback
      rw [if_neg hback, List.append_nil]
      rw [List.append_nil] at hrefund
      exact h o hrefund
  | @returns id r order _ _ _ hpos hrows _ =>
    rw [hrows, hasRefund_refund rfl, Bool.or_eq_true] at hrefund
    rw [hrows, hasUse_refund rfl]
    rcases hrefund with hrefund | hro
    · exact h o hrefund
    · rw [decide_eq_true_eq] at hro
      subst hro
      exact hasUse_of_pointsBack hpos

/-- The order that a step closes holds no points then. -/
theorem UsedStep.closed_holds_nothing {closing : Option (Closing × OrderId)}
    {completed : Option Nat} (hstep : UsedStep closing completed w w') (hbooked : UsesBooked w)
    (hrefunds : RefundsUsed w.db) (hempties : Empties w closing) {st : OrderStatus}
    (hclosed : w'.db.statusOf o = some st) (hst : st.isClosed = true)
    (hnew : w.db.statusOf o ≠ some st) :
    usedSum o w'.db.usedRows + givenBack o w'.db.usedRows = 0 := by
  cases hstep with
  | quiet _ hopen => exact absurd (hopen o st hclosed hst) hnew
  | uses _ _ _ _ _ hopen => exact absurd (hopen o st hclosed hst) hnew
  | returns _ _ _ _ _ hopen => exact absurd (hopen o st hclosed hst) hnew
  | @closes c i order hclosing hcloses =>
    have htype := c.refundType_isRefund
    have hio : o = i := by
      by_contra hne
      exact hnew ((hcloses.others o hne).symm.trans hclosed)
    subst hio
    rw [hcloses.rows]
    by_cases hpos : 0 < order.usedPoints
    · have hfound := hempties c o order hclosing hcloses.found hcloses.accepts hpos
      by_cases hgives : c.givesBack w.db o order.status = true
      · rw [if_pos hgives, holdsPoints, Bool.and_eq_true, Bool.not_eq_true'] at hfound
        obtain ⟨_, hsum⟩ := hbooked.usedSum_eq hfound.1 hcloses.found
        rw [if_pos ⟨hpos, hgives⟩, usedSum_refund htype, givenBack_refund htype, if_pos rfl,
          givenBack_of_not_hasRefund hfound.2]
        omega
      · rw [if_neg hgives] at hfound
        rw [if_neg (fun hc => hgives hc.2), List.append_nil]
        cases huse : hasUse o w.db.usedRows with
        | true =>
          obtain ⟨_, hsum⟩ := hbooked.usedSum_eq huse hcloses.found
          have hback := hfound huse
          omega
        | false =>
          have hnone : hasRefund o w.db.usedRows = false := by
            rw [Bool.eq_false_iff]
            intro hc
            rw [hrefunds o hc] at huse
            cases huse
          rw [usedSum_of_not_hasUse huse, givenBack_of_not_hasRefund hnone, add_zero]
    · -- An order without points used none, so it got none back.
      have huse : hasUse o w.db.usedRows = false := by
        rw [Bool.eq_false_iff]
        intro hc
        exact hpos (hbooked.usedSum_eq hc hcloses.found).1
      have hnone : hasRefund o w.db.usedRows = false := by
        rw [Bool.eq_false_iff]
        intro hc
        rw [hrefunds o hc] at huse
        cases huse
      rw [if_neg (fun hc => hpos hc.1), List.append_nil, usedSum_of_not_hasUse huse,
        givenBack_of_not_hasRefund hnone, add_zero]

end

/-! ## Every run -/

namespace StaffedShop

/-- No order was placed yet. -/
structure Opening (s : StaffedShop) : Prop where
  orders : s.world.db.orders.rows = []
  messages : s.world.messages = []
  reads : s.world.orderReads = []
  rows : ∀ e ∈ s.world.db.usedRows, e.order = none

variable {s t : StaffedShop} {es : List (Time × StaffedEvent)}

/-- Without a row of an order nothing was used and nothing given back. -/
theorem Opening.nothing (h : s.Opening) (o : OrderId) :
    hasUse o s.world.db.usedRows = false ∧ hasRefund o s.world.db.usedRows = false := by
  have hnone : ∀ p : Entry → Bool, (∀ e, p e = true → e.order = some o) →
      s.world.db.usedRows.any p = false := by
    intro p hp
    rw [List.any_eq_false]
    intro e he hc
    have horder := hp e hc
    rw [h.rows e he] at horder
    cases horder
  constructor
  · apply hnone
    intro e he
    rw [Bool.and_eq_true, decide_eq_true_eq] at he
    exact he.1
  · apply hnone
    intro e he
    rw [Bool.and_eq_true, decide_eq_true_eq] at he
    exact he.1

theorem Opening.usesBooked (h : s.Opening) : UsesBooked s.world := by
  constructor
  · intro o huse
    rw [(h.nothing o).1] at huse
    cases huse
  · intro o cart n hm
    rw [h.messages] at hm
    cases hm
  · intro seen hseen
    rw [h.reads] at hseen
    cases hseen

theorem Opening.withinUse (h : s.Opening) : WithinUse s.world.db := by
  intro o
  obtain ⟨huse, hrefund⟩ := h.nothing o
  rw [usedSum_of_not_hasUse huse, givenBack_of_not_hasRefund hrefund]
  exact le_refl 0

/-- The condition on the closings and on the returns, as propositions. -/
theorem withinUse_step (hbooked : UsesBooked s.world) (h : WithinUse s.world.db)
    {e : Time × StaffedEvent} (hok : s.backsRefunds e = true) :
    WithinUse (s.run e.1 e.2).world.db := by
  simp only [backsRefunds, Bool.and_eq_true] at hok
  refine h.usedStep hbooked (run_usedStep s e.1 e.2) ?_ ?_
  · intro c o order hclosing hfound hback
    have hall := hok.1
    rw [hclosing, Option.all_some, hfound, Option.all_some, hback] at hall
    exact hall
  · intro id r order hcompleted hfound horder hpos
    have hall := hok.2
    rw [hcompleted, Option.all_some, hfound, Option.all_some, horder, Option.all_some,
      decide_eq_false (not_le.mpr hpos), Bool.false_or, Bool.and_eq_true] at hall
    exact hall

theorem empties_of_emptiesOrder {e : Time × StaffedEvent} (hok : s.emptiesOrder e = true) :
    Empties s.world (s.closing e.2) := by
  intro c o order hclosing hfound haccepts hpos
  simp only [emptiesOrder] at hok
  rw [hclosing, Option.all_some, hfound, Option.all_some, haccepts,
    decide_eq_false (not_le.mpr hpos)] at hok
  simp only [Bool.not_true, Bool.false_or] at hok
  split
  · rename_i hgives
    rw [if_pos hgives] at hok
    exact hok
  · rename_i hgives
    intro huse
    rw [if_neg hgives, huse, Bool.not_true, Bool.false_or, decide_eq_true_eq] at hok
    exact hok

/-! ## The results -/

/-- When every refund of points is of points that were taken and not given back
yet, no order ever got back more than it used. -/
theorem refunds_within_uses (h : s.Opening)
    (hrun : Run step (fun s e => s.backsRefunds e = true) s es t) (o : OrderId) :
    givenBack o t.world.db.usedRows ≤ |usedSum o t.world.db.usedRows| := by
  have hinv : UsesBooked t.world ∧ WithinUse t.world.db := by
    refine hrun.invariant (fun u => UsesBooked u.world ∧ WithinUse u.world.db)
      ⟨h.usesBooked, h.withinUse⟩ ?_
    intro u e v hu hok hstep
    cases hstep
    exact ⟨usesBooked_step hu.1 e.2, withinUse_step hu.1 hu.2 hok⟩
  calc givenBack o t.world.db.usedRows ≤ -usedSum o t.world.db.usedRows := hinv.2 o
    _ ≤ |usedSum o t.world.db.usedRows| := neg_le_abs _

/-- A shop with two books in the cart of a user with 5000 points. -/
def pointShop : StaffedShop where
  world := { cartShop with
    db := { cartShop.db with
      ledger := match PointService.addPoints Ledger.empty 0 7 5000 with
        | .error _ => Ledger.empty
        | .ok given => given.2 } }

theorem opening_pointShop : pointShop.Opening := ⟨rfl, rfl, rfl, by decide⟩

/-- The order 1 is placed with 1000 points. -/
def placesOrder : List (Time × StaffedEvent) :=
  [(1, .shop (.requestOrder 7 1 "06236" 1000)), (1, .shop (.placeOrder 0 true))]

/-- The order is processed, canceled, rolled back and processed again. -/
def canceledOnce : List (Time × StaffedEvent) :=
  placesOrder ++ [(2, .shop (.deliver 0 {})), (3, .shop (.cancelOrder 1)), (4, .rollback 1 ""),
    (5, .shop (.deliver 0 {})), (6, .shop (.cancelOrder 1))]

theorem refunds_within_uses_canceled :
    ∃ t, Run step (fun s e => s.backsRefunds e = true) pointShop canceledOnce t ∧
      usedSum 1 t.world.db.usedRows = -1000 ∧ givenBack 1 t.world.db.usedRows = 1000 ∧
      givenBack 1 t.world.db.usedRows ≤ |usedSum 1 t.world.db.usedRows| := by
  obtain ⟨t, hrun, hstate⟩ := Run.exists_of_execIf (by decide +kernel :
    (execIf step backsRefunds pointShop canceledOnce).any (fun t => decide
      (usedSum 1 t.world.db.usedRows = -1000 ∧ givenBack 1 t.world.db.usedRows = 1000)) = true)
  obtain ⟨hused, hback⟩ := of_decide_eq_true hstate
  exact ⟨t, hrun, hused, hback, refunds_within_uses opening_pointShop hrun 1⟩

/-- The order is processed and gets a payment. -/
def getsPayment : List (Time × StaffedEvent) :=
  placesOrder ++ [(2, .shop (.deliver 0 {})), (3, .shop (.validateRequest 1 7 false)),
    (3, .shop (.createRequest 0 "card" none))]

/-- The approval of the payment. -/
def orderApproval : TossPayment := { World.approval with totalAmount := some 22000 }

/-- The customer's browser reports a failure while the provider approves, and
the rollback comes before the finalisation; later the payment is canceled. -/
def refundedTwice : List (Time × StaffedEvent) :=
  getsPayment ++ [(4, .shop (.confirmAsync 1 "key" 22000 7 true)),
    (5, .shop (.deliver 1 { answer := .confirmed orderApproval })),
    (6, .shop (.readForFailView (.orderNumber 1) 7 "PAY_PROCESS_CANCELED" "취소")),
    (6, .shop (.writeFailure 0 true)),
    (700, .shop (.detectOrphaned 600)),
    (701, .shop (.deliver 3 {})),
    (702, .shop (.deliver 2 {})),
    (703, .shop (.cancelPayment 1 7 (.ok { status := some .canceled })))]

/-- A rollback that comes before the processing gives back what was never
taken.  In the events of the shop alone the points of one use come back twice:
the finalisation pays the order that was rolled back. -/
theorem refunds_exceed_uses :
    (∃ t, Run step (fun _ _ => true = true) pointShop (placesOrder ++ [(2, .rollback 1 "")]) t ∧
      usedSum 1 t.world.db.usedRows = 0 ∧ givenBack 1 t.world.db.usedRows = 1000) ∧
    ∃ t, Run step (fun _ _ => true = true) pointShop refundedTwice t ∧
      usedSum 1 t.world.db.usedRows = -1000 ∧ givenBack 1 t.world.db.usedRows = 2000 := by
  constructor
  · obtain ⟨t, hrun, hstate⟩ := Run.exists_of_execIf (by decide +kernel :
      (execIf step (fun _ _ => true) pointShop (placesOrder ++ [(2, .rollback 1 "")])).any
        (fun t => decide
          (usedSum 1 t.world.db.usedRows = 0 ∧ givenBack 1 t.world.db.usedRows = 1000)) = true)
    obtain ⟨hused, hback⟩ := of_decide_eq_true hstate
    exact ⟨t, hrun, hused, hback⟩
  · obtain ⟨t, hrun, hstate⟩ := Run.exists_of_execIf (by decide +kernel :
      (execIf step (fun _ _ => true) pointShop refundedTwice).any (fun t => decide
        (usedSum 1 t.world.db.usedRows = -1000 ∧ givenBack 1 t.world.db.usedRows = 2000)) = true)
    obtain ⟨hused, hback⟩ := of_decide_eq_true hstate
    exact ⟨t, hrun, hused, hback⟩

/-- When every closing finds the points with the order, or back already where
it gives none, the order that a step closes holds no points after it. -/
theorem closed_orders_hold_nothing (h : s.Opening)
    (hrun : Run step (fun s e => s.emptiesOrder e = true) s es t) {e : Time × StaffedEvent}
    (hok : t.emptiesOrder e = true) {o : OrderId} {st : OrderStatus}
    (hclosed : (t.run e.1 e.2).world.db.statusOf o = some st) (hst : st.isClosed = true)
    (hnew : t.world.db.statusOf o ≠ some st) :
    usedSum o (t.run e.1 e.2).world.db.usedRows
      + givenBack o (t.run e.1 e.2).world.db.usedRows = 0 := by
  have hinv : UsesBooked t.world ∧ RefundsUsed t.world.db := by
    refine hrun.invariant (fun u => UsesBooked u.world ∧ RefundsUsed u.world.db)
      ⟨h.usesBooked, ?_⟩ ?_
    · intro i hrefund
      rw [(h.nothing i).2] at hrefund
      cases hrefund
    · intro u e v hu hok hstep
      cases hstep
      exact ⟨usesBooked_step hu.1 e.2,
        hu.2.usedStep (run_usedStep u e.1 e.2) (empties_of_emptiesOrder hok)⟩
  exact (run_usedStep t e.1 e.2).closed_holds_nothing hinv.1 hinv.2 (empties_of_emptiesOrder hok)
    hclosed hst hnew

/-- The provider's report that the payment was canceled. -/
def orderCancellation : TossPayment :=
  { status := some .canceled, orderId := some (.orderNumber 1) }

/-- The order is paid. -/
def paysOrder : List (Time × StaffedEvent) :=
  getsPayment ++ [(4, .shop (.webhookDone orderApproval))]

/-- The cancellation of a paid order gives the points back. -/
theorem closed_orders_hold_nothing_paid :
    ∃ t, Run step (fun s e => s.emptiesOrder e = true) pointShop paysOrder t ∧
      usedSum 1 t.world.db.usedRows = -1000 ∧
      (t.run 5 (.shop (.webhookCanceled orderCancellation))).world.db.statusOf 1
        = some .canceled ∧
      usedSum 1 (t.run 5 (.shop (.webhookCanceled orderCancellation))).world.db.usedRows
        + givenBack 1 (t.run 5 (.shop (.webhookCanceled orderCancellation))).world.db.usedRows
          = 0 := by
  obtain ⟨t, hrun, hstate⟩ := Run.exists_of_execIf (by decide +kernel :
    (execIf step emptiesOrder pointShop paysOrder).any (fun t => decide
      (usedSum 1 t.world.db.usedRows = -1000 ∧ t.world.db.statusOf 1 ≠ some .canceled ∧
        t.emptiesOrder (5, .shop (.webhookCanceled orderCancellation)) = true ∧
        (t.run 5 (.shop (.webhookCanceled orderCancellation))).world.db.statusOf 1
          = some .canceled)) = true)
  obtain ⟨hused, hnew, hok, hclosed⟩ := of_decide_eq_true hstate
  exact ⟨t, hrun, hused, hclosed,
    closed_orders_hold_nothing opening_pointShop hrun hok hclosed rfl hnew⟩

/-- The webhook cancels an order that was shipped, and gives nothing back. -/
theorem canceled_order_keeps_points :
    ∃ t, Run step (fun _ _ => true = true) pointShop
        (paysOrder ++ [(5, .admin .markAsShipped 1)]) t ∧
      t.world.db.statusOf 1 = some .shipped ∧
      (t.run 6 (.shop (.webhookCanceled orderCancellation))).world.db.statusOf 1
        = some .canceled ∧
      usedSum 1 (t.run 6 (.shop (.webhookCanceled orderCancellation))).world.db.usedRows
        + givenBack 1 (t.run 6 (.shop (.webhookCanceled orderCancellation))).world.db.usedRows
          = -1000 := by
  obtain ⟨t, hrun, hstate⟩ := Run.exists_of_execIf (by decide +kernel :
    (execIf step (fun _ _ => true) pointShop (paysOrder ++ [(5, .admin .markAsShipped 1)])).any
      (fun t => decide (t.world.db.statusOf 1 = some .shipped ∧
        (t.run 6 (.shop (.webhookCanceled orderCancellation))).world.db.statusOf 1
          = some .canceled ∧
        usedSum 1 (t.run 6 (.shop (.webhookCanceled orderCancellation))).world.db.usedRows
          + givenBack 1 (t.run 6 (.shop (.webhookCanceled orderCancellation))).world.db.usedRows
            = -1000)) = true)
  exact ⟨t, hrun, of_decide_eq_true hstate⟩

end StaffedShop

end Shopping
