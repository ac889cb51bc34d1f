import Shopping.Returns.Shares
import Shopping.System.Steps

/-!
# Partial returns add up

The refunds of one order, over every run of completed returns.  After returns
of the value `S` in all, the points given back are at most `usedShare order S`,
the cash at most the rest of `S`, and the earned points taken are exactly
`earnedUpTo order S`; without fees the first two are exact as well.

`Returning` is the invariant.  Its sums are under the condition that no more
than the total came back, which a run keeps backwards: the value that came back
only grows.
-/

namespace Shopping

open ReturnService

/-! ## Sums over the refunds -/

/-- The sum of `f` over the refunds of the order `o`. -/
def refundSum (f : RefundSplit → Int) (o : OrderId) (refunds : List (OrderId × RefundSplit)) :
    Int :=
  (refunds.map fun x => if x.1 = o then f x.2 else 0).sum

@[simp] theorem refundSum_nil (f : RefundSplit → Int) (o : OrderId) : refundSum f o [] = 0 := rfl

@[simp] theorem refundSum_snoc (f : RefundSplit → Int) (o i : OrderId) (s : RefundSplit)
    (refunds : List (OrderId × RefundSplit)) :
    refundSum f o (refunds ++ [(i, s)]) = refundSum f o refunds + if i = o then f s else 0 := by
  simp [refundSum]

/-! ## The order that is returned -/

/-- An order whose goods can come back: its amounts, its use of points, and
its payment, of which nothing came back yet. -/
structure Returnable (db : Db) (o : OrderId) (order : Order) : Prop where
  found : db.orders.get? o = some order
  amounts : Amounts order
  shipping_nonneg : 0 ≤ order.getTotalShippingFee
  history : 0 < order.usedPoints → db.hasHistory o .use = true
  paid : 0 < order.totalAmount + order.getTotalShippingFee - order.usedPoints →
    ∃ k p, db.payments.ofOrder? o = some (k, p) ∧
      p.amount = order.totalAmount + order.getTotalShippingFee - order.usedPoints
  amount_nonneg : ∀ k p, db.payments.ofOrder? o = some (k, p) → 0 ≤ p.amount
  uncanceled : ∀ k p, db.payments.ofOrder? o = some (k, p) → p.canceledAmount = 0
  returns : ∀ id r, db.returns.get? id = some r → r.order = o → r.type = .refund →
    0 ≤ r.refundAmount ∧ 0 ≤ r.returnShippingFee ∧ r.status ≠ .completed

/-- Every completed refund return of the order was free of a fee. -/
def WithoutFees (db : Db) (o : OrderId) : Prop :=
  ∀ id r, db.returns.get? id = some r → isCompleted o r = true → r.returnShippingFee = 0

/-- The sums after goods of the value `S` came back. -/
structure RefundSums (w : World) (o : OrderId) (order : Order) (S : Int) : Prop where
  nonneg : ∀ x ∈ w.refunds, x.1 = o →
    0 ≤ x.2.cashBack ∧ 0 ≤ x.2.pointsBack ∧ 0 ≤ x.2.earnedBack
  points_le : refundSum RefundSplit.pointsBack o w.refunds ≤ usedShare order S
  cash_le : refundSum RefundSplit.cashBack o w.refunds ≤ S - usedShare order S
  earned_eq : refundSum RefundSplit.earnedBack o w.refunds = earnedUpTo order S
  canceled : ∀ k p, w.db.payments.ofOrder? o = some (k, p) →
    p.canceledAmount = refundSum RefundSplit.cashBack o w.refunds
  exact : WithoutFees w.db o →
    refundSum RefundSplit.pointsBack o w.refunds = usedShare order S ∧
    refundSum RefundSplit.cashBack o w.refunds = S - usedShare order S

/-- The invariant of the refunds of one order. -/
structure Returning (w : World) (o : OrderId) (order : Order) : Prop where
  row : ∃ status updatedAt,
    w.db.orders.get? o = some { order with status := status, updatedAt := updatedAt }
  history : 0 < order.usedPoints → w.db.hasHistory o .use = true
  paid : 0 < order.totalAmount + order.getTotalShippingFee - order.usedPoints →
    ∃ k p, w.db.payments.ofOrder? o = some (k, p)
  amount : ∀ k p, w.db.payments.ofOrder? o = some (k, p) →
    order.totalAmount - usedForGoods order ≤ p.amount
  returns : ∀ id r, w.db.returns.get? id = some r → r.order = o → r.type = .refund →
    0 ≤ r.refundAmount ∧ 0 ≤ r.returnShippingFee
  goods_nonneg : 0 ≤ completedGoods w.db o
  sums : completedGoods w.db o ≤ order.totalAmount →
    RefundSums w o order (completedGoods w.db o)

/-- The payment of the order covers the cash of all its goods. -/
theorem Returnable.amount_le {db : Db} {o : OrderId} {order : Order} (h : Returnable db o order)
    {k : Nat} {p : Payment} (hof : db.payments.ofOrder? o = some (k, p)) :
    order.totalAmount - usedForGoods order ≤ p.amount := by
  have hship := h.shipping_nonneg
  have hnn := h.amount_nonneg k p hof
  unfold usedForGoods
  by_cases hpos : 0 < order.totalAmount + order.getTotalShippingFee - order.usedPoints
  · obtain ⟨j, q, hq, hamount⟩ := h.paid hpos
    rw [hof] at hq
    cases hq
    omega
  · omega

theorem Returnable.returning {w : World} {o : OrderId} {order : Order}
    (h : Returnable w.db o order) (hnew : w.refunds = []) : Returning w o order := by
  have hgoods : completedGoods w.db o = 0 := by
    refine (Table.sum_congr fun id r hr => ?_).trans (Table.sum_zero w.db.returns)
    rw [if_neg]
    intro hc
    simp only [isCompleted, Bool.and_eq_true, decide_eq_true_eq] at hc
    exact (h.returns id r hr hc.1.1 hc.1.2).2.2 hc.2
  refine ⟨⟨_, _, h.found⟩, h.history, fun hpos => ?_, fun k p => h.amount_le, ?_, hgoods.ge, ?_⟩
  · obtain ⟨k, p, hof, _⟩ := h.paid hpos
    exact ⟨k, p, hof⟩
  · intro id r hr ho ht
    obtain ⟨hamount, hfee, _⟩ := h.returns id r hr ho ht
    exact ⟨hamount, hfee⟩
  · intro _
    rw [hgoods]
    refine ⟨?_, ?_, ?_, ?_, ?_, fun _ => ⟨?_, ?_⟩⟩
    · rw [hnew]
      intro x hx
      cases hx
    · rw [hnew, h.amounts.usedShare_zero, refundSum_nil]
    · rw [hnew, h.amounts.usedShare_zero, refundSum_nil, sub_zero]
    · rw [hnew, h.amounts.earnedUpTo_zero, refundSum_nil]
    · intro k p hof
      rw [hnew, refundSum_nil]
      exact h.uncanceled k p hof
    · rw [hnew, h.amounts.usedShare_zero, refundSum_nil]
    · rw [hnew, h.amounts.usedShare_zero, refundSum_nil, sub_zero]

/-! ## One return -/

section Step

variable {db db' : Db} {now : Time} {id : Nat} {r : Return} {x : Order} {s : RefundSplit}
  {o : OrderId}

/-- A completed return adds its value to what came back, of its own order. -/
theorem completedGoods_complete (h : CompletesReturn db now id r x s db') :
    completedGoods db' o = completedGoods db o + if r.order = o then r.refundAmount else 0 := by
  unfold completedGoods
  rw [h.returns, Table.sum_modify h.found]
  have hbefore : isCompleted o r = false := by
    simp [isCompleted, h.received]
  have hafter : isCompleted o (markCompleted now r) = decide (r.order = o) := by
    simp [isCompleted, markCompleted, h.type]
  rw [hbefore, hafter]
  by_cases ho : r.order = o
  · simp [ho, markCompleted]
  · simp [ho]

/-- The completed returns of before are completed after. -/
theorem withoutFees_before (h : CompletesReturn db now id r x s db') (hfees : WithoutFees db' o) :
    WithoutFees db o := by
  intro j q hq hcompleted
  have hafter : db'.returns.get? j = some (if j = id then markCompleted now q else q) := by
    rw [h.returns, Table.get?_modify]
    split
    · rw [hq]
      rfl
    · exact hq
  by_cases hj : j = id
  · -- The row that is completed now was not before.
    rw [hj, h.found] at hq
    cases hq
    simp [isCompleted, h.received] at hcompleted
  · rw [if_neg hj] at hafter
    exact hfees j q hafter hcompleted

/-- The row of the return that is completed. -/
theorem completed_fee (h : CompletesReturn db now id r x s db')
    (hfees : WithoutFees db' r.order) : r.returnShippingFee = 0 := by
  have hrow : db'.returns.get? id = some (markCompleted now r) := by
    rw [h.returns, Table.get?_modify_self, h.found]
    rfl
  have hcompleted : isCompleted r.order (markCompleted now r) = true := by
    simp [isCompleted, markCompleted, h.type]
  have hfee : (markCompleted now r).returnShippingFee = 0 := hfees id _ hrow hcompleted
  exact hfee

/-- The payment of an order after a completed return, and what it was before. -/
theorem completed_payment (h : CompletesReturn db now id r x s db') {k : Nat} {q : Payment}
    (hq : db'.payments.ofOrder? o = some (k, q)) :
    ∃ p, db.payments.ofOrder? o = some (k, p) ∧ q.amount = p.amount ∧
      q.canceledAmount = p.canceledAmount + if r.order = o then max s.cashBack 0 else 0 := by
  by_cases ho : r.order = o
  · subst ho
    cases hof : db.payments.ofOrder? r.order with
    | none =>
      rw [h.payments.none hof] at hq
      cases hq
    | some e =>
      obtain ⟨j, p⟩ := e
      obtain ⟨q', hq', hamount, hcanceled⟩ := h.payments.payment hof
      rw [hq'] at hq
      cases hq
      exact ⟨p, rfl, hamount, by rw [if_pos rfl, hcanceled]⟩
  · rw [h.payments.frame (Ne.symm ho)] at hq
    exact ⟨q, hq, rfl, by rw [if_neg ho, add_zero]⟩

/-- A return of another order is not in the sums. -/
theorem RefundSums.completeOther {w : World} {order : Order} {S : Int}
    (hsums : RefundSums w o order S) (h : CompletesReturn w.db now id r x s db')
    (ho : r.order ≠ o) :
    RefundSums { w.commit db' with refunds := w.refunds ++ [(r.order, s)] } o order S := by
  constructor
  · intro y hy hyo
    rcases List.mem_append.mp hy with hy | hy
    · exact hsums.nonneg y hy hyo
    · cases List.mem_singleton.mp hy
      exact absurd hyo ho
  · rw [refundSum_snoc, if_neg ho, add_zero]
    exact hsums.points_le
  · rw [refundSum_snoc, if_neg ho, add_zero]
    exact hsums.cash_le
  · rw [refundSum_snoc, if_neg ho, add_zero]
    exact hsums.earned_eq
  · intro k q hq
    obtain ⟨p, hp, _, hcanceled⟩ := completed_payment h hq
    rw [refundSum_snoc, if_neg ho, add_zero, hcanceled, if_neg ho, add_zero]
    exact hsums.canceled k p hp
  · intro hfees
    rw [refundSum_snoc, refundSum_snoc, if_neg ho, if_neg ho, add_zero, add_zero]
    exact hsums.exact (withoutFees_before h hfees)

end Step

namespace Returning

variable {w : World} {o : OrderId} {order : Order}

/-- What a split of the order adds to the sums, at the order's present row. -/
theorem splitBounds (hw : Returning w o order) (hamounts : Amounts order) {id : Nat} {r : Return}
    {x : Order} (hr : w.db.returns.get? id = some r) (ho : r.order = o) (ht : r.type = .refund)
    (hx : w.db.orders.get? o = some x)
    (hsum : completedGoods w.db o + r.refundAmount ≤ order.totalAmount) :
    SplitBounds w.db x r ∧ usedShare x = usedShare order ∧ earnedUpTo x = earnedUpTo order := by
  obtain ⟨status, updatedAt, hrow⟩ := hw.row
  rw [hrow] at hx
  cases hx
  obtain ⟨hgoods, hfee⟩ := hw.returns id r hr ho ht
  subst ho
  refine ⟨refundSplit_bounds ?_ hw.goods_nonneg hgoods hsum hfee hw.history, rfl, rfl⟩
  exact ⟨hamounts.total_pos, hamounts.total_lt, hamounts.used_nonneg, hamounts.earned_nonneg,
    hamounts.earned_lt⟩

/-- The balance of the payment covers the cash of every further return. -/
theorem balance (hw : Returning w o order) (hamounts : Amounts order)
    (hship : 0 ≤ order.getTotalShippingFee) {id : Nat} {r : Return}
    {x : Order} (hr : w.db.returns.get? id = some r) (ho : r.order = o) (ht : r.type = .refund)
    (hx : w.db.orders.get? o = some x)
    (hsum : completedGoods w.db o + r.refundAmount ≤ order.totalAmount) :
    checkBalance (w.db.payments.ofOrder? o) (refundSplit w.db x r).cashBack = .ok () := by
  obtain ⟨hsplit, hused, _⟩ := hw.splitBounds hamounts hr ho ht hx hsum
  have hgoods := (hw.returns id r hr ho ht).1
  have hsums := hw.sums (by omega)
  have hprev := hw.goods_nonneg
  have hcash := hsplit.cash_le
  have hrest := hamounts.sub_usedShare_le (by omega) hsum
  rw [ho, hused] at hcash
  have htotal : refundSum RefundSplit.cashBack o w.refunds + (refundSplit w.db x r).cashBack
      ≤ order.totalAmount - usedForGoods order := by
    have hbefore := hsums.cash_le
    omega
  unfold checkBalance
  by_cases hpos : (refundSplit w.db x r).cashBack ≤ 0
  · rw [if_pos hpos]
  · rw [if_neg hpos]
    cases hof : w.db.payments.ofOrder? o with
    | some e =>
      obtain ⟨k, p⟩ := e
      have hcanceled := hsums.canceled k p hof
      have hamount := hw.amount k p hof
      dsimp only
      rw [if_neg (by omega)]
    | none =>
      -- Without a payment the points covered everything, and no cash is left to give back.
      have hcovered : ¬ 0 < order.totalAmount + order.getTotalShippingFee - order.usedPoints := by
        intro hc
        obtain ⟨k, p, hp⟩ := hw.paid hc
        rw [hof] at hp
        cases hp
      have hall : usedForGoods order = order.totalAmount := min_eq_right (by omega)
      have hsum0 : 0 ≤ refundSum RefundSplit.cashBack o w.refunds := by
        refine List.sum_nonneg fun y hy => ?_
        obtain ⟨z, hz, rfl⟩ := List.mem_map.mp hy
        split
        · rename_i hzo
          exact (hsums.nonneg z hz hzo).1
        · exact le_refl 0
      omega

/-- The split of a return of the order goes on top of the sums. -/
theorem completeSums (hw : Returning w o order) (hamounts : Amounts order) {now : Time} {id : Nat}
    {r : Return} {x : Order} {s : RefundSplit} {db' : Db}
    (h : CompletesReturn w.db now id r x s db') (ho : r.order = o)
    (hsum : completedGoods w.db o + r.refundAmount ≤ order.totalAmount) :
    RefundSums { w.commit db' with refunds := w.refunds ++ [(r.order, s)] } o order
      (completedGoods w.db o + r.refundAmount) := by
  have hgoods := (hw.returns id r h.found ho h.type).1
  have hsums := hw.sums (by omega)
  have hx := h.orderFound
  rw [ho] at hx
  obtain ⟨hsplit, hused, hearned⟩ := hw.splitBounds hamounts h.found ho h.type hx hsum
  obtain ⟨hc0, hp0, he0, hple, hcle, heq, hpeq, hceq⟩ := hsplit
  rw [← h.split] at hc0 hp0 he0 hple hcle heq hpeq hceq
  rw [ho, hused] at hple hcle hpeq hceq
  rw [ho, hearned] at heq
  have hpoints := hsums.points_le
  have hcash := hsums.cash_le
  have htaken := hsums.earned_eq
  constructor
  · intro y hy hyo
    rcases List.mem_append.mp hy with hy | hy
    · exact hsums.nonneg y hy hyo
    · cases List.mem_singleton.mp hy
      exact ⟨hc0, hp0, he0⟩
  · rw [refundSum_snoc, if_pos ho]
    omega
  · rw [refundSum_snoc, if_pos ho]
    omega
  · rw [refundSum_snoc, if_pos ho]
    omega
  · intro k q hq
    obtain ⟨p, hp, _, hcanceled⟩ := completed_payment h hq
    rw [refundSum_snoc, if_pos ho, hcanceled, if_pos ho, max_eq_left hc0, hsums.canceled k p hp]
  · intro hfees
    have hfees' : WithoutFees db' o := hfees
    obtain ⟨hpoints', hcash'⟩ := hsums.exact (withoutFees_before h hfees')
    have hfee : r.returnShippingFee = 0 := by
      rw [← ho] at hfees'
      exact completed_fee h hfees'
    rw [refundSum_snoc, refundSum_snoc, if_pos ho, if_pos ho, hpoints', hcash', hpeq hfee,
      hceq hfee]
    constructor
    · omega
    · omega

/-- A completed return keeps the invariant. -/
theorem complete (hw : Returning w o order) (hamounts : Amounts order) {now : Time} {id : Nat}
    {r : Return} {x : Order} {s : RefundSplit} {db' : Db}
    (h : CompletesReturn w.db now id r x s db') :
    Returning { w.commit db' with refunds := w.refunds ++ [(r.order, s)] } o order := by
  obtain ⟨booked, hentries⟩ := h.entries
  have hgoods : completedGoods db' o
      = completedGoods w.db o + if r.order = o then r.refundAmount else 0 :=
    completedGoods_complete h
  refine ⟨?_, fun hpos => Db.hasHistory_of_entries hentries (hw.history hpos), fun hpos => ?_,
    fun k q hq => ?_, fun j q hq ho ht => ?_, ?_, fun hle => ?_⟩
  · obtain ⟨status, updatedAt, hrow⟩ := hw.row
    rcases h.orders with horders | horders
    · exact ⟨status, updatedAt, by rw [World.commit_db, horders, hrow]⟩
    · show ∃ status updatedAt, db'.orders.get? o = _
      rw [horders, Table.get?_modify]
      split
      · exact ⟨.refunded, now, by rw [hrow]; rfl⟩
      · exact ⟨status, updatedAt, hrow⟩
  · obtain ⟨k, p, hof⟩ := hw.paid hpos
    by_cases ho : r.order = o
    · subst ho
      obtain ⟨q, hq, _⟩ := h.payments.payment hof
      exact ⟨k, q, hq⟩
    · exact ⟨k, p, (h.payments.frame (Ne.symm ho)).trans hof⟩
  · obtain ⟨p, hp, hamount, _⟩ := completed_payment h hq
    rw [hamount]
    exact hw.amount k p hp
  · have hq' : (w.db.returns.modify id (markCompleted now)).get? j = some q := by
      rw [← h.returns]
      exact hq
    rcases Table.modify_cases hq' with ⟨before, _, hbefore, rfl⟩ | ⟨_, hq'⟩
    · exact hw.returns j before hbefore ho ht
    · exact hw.returns j q hq' ho ht
  · show 0 ≤ completedGoods db' o
    rw [hgoods]
    have h0 := hw.goods_nonneg
    by_cases ho : r.order = o
    · have hamount := (hw.returns id r h.found ho h.type).1
      rw [if_pos ho]
      omega
    · rw [if_neg ho, add_zero]
      exact h0
  · have hle' : completedGoods db' o ≤ order.totalAmount := hle
    show RefundSums _ o order (completedGoods db' o)
    rw [hgoods] at hle' ⊢
    by_cases ho : r.order = o
    · rw [if_pos ho] at hle' ⊢
      exact hw.completeSums hamounts h ho hle'
    · rw [if_neg ho, add_zero] at hle' ⊢
      exact (hw.sums hle').completeOther h ho

end Returning

/-! ## Runs -/

/-- The completion of a refund return. -/
def isRefund : Event → Bool
  | .completeRefund _ _ => true
  | _ => false

theorem Returning.step {w : World} {o : OrderId} {order : Order} {now : Time} {e : Event}
    (hw : Returning w o order) (hamounts : Amounts order) (he : isRefund e = true) :
    Returning (w.run now e) o order := by
  cases e with
  | completeRefund id toss =>
    simp only [World.run]
    cases hget : w.db.returns.get? id with
    | none => exact hw
    | some r =>
      refine World.after_of (P := fun u => Returning u o order) hw ?_
      rintro ⟨s, db⟩ hout
      obtain ⟨r', x, hcompletes⟩ := completeRefund_ok hout
      have hfound := hcompletes.found
      rw [hget] at hfound
      cases hfound
      exact hw.complete hamounts hcompletes
  | _ => cases he

/-- What the refunds of the order came to, and what the next one would. -/
structure RefundsAddUp (w : World) (o : OrderId) (order : Order) : Prop where
  nonneg : ∀ x ∈ w.refunds, x.1 = o →
    0 ≤ x.2.cashBack ∧ 0 ≤ x.2.pointsBack ∧ 0 ≤ x.2.earnedBack
  points_le : refundSum RefundSplit.pointsBack o w.refunds
    ≤ min order.usedPoints order.totalAmount
  earned_le : refundSum RefundSplit.earnedBack o w.refunds ≤ order.earnedPoints
  canceled : ∀ k p, w.db.payments.ofOrder? o = some (k, p) →
    p.canceledAmount = refundSum RefundSplit.cashBack o w.refunds ∧ p.canceledAmount ≤ p.amount
  next : ∀ id r row, w.db.returns.get? id = some r → r.order = o → r.type = .refund →
    w.db.orders.get? o = some row → completedGoods w.db o + r.refundAmount ≤ order.totalAmount →
    (0 ≤ (refundSplit w.db row r).cashBack ∧ 0 ≤ (refundSplit w.db row r).pointsBack ∧
      0 ≤ (refundSplit w.db row r).earnedBack) ∧
    checkBalance (w.db.payments.ofOrder? o) (refundSplit w.db row r).cashBack = .ok ()
  all : WithoutFees w.db o → completedGoods w.db o = order.totalAmount →
    refundSum RefundSplit.pointsBack o w.refunds = min order.usedPoints order.totalAmount ∧
    refundSum RefundSplit.earnedBack o w.refunds = order.earnedPoints ∧
    refundSum RefundSplit.cashBack o w.refunds + refundSum RefundSplit.pointsBack o w.refunds
      = order.totalAmount

theorem Returning.addUp {w : World} {o : OrderId} {order : Order} (hw : Returning w o order)
    (hamounts : Amounts order) (hship : 0 ≤ order.getTotalShippingFee)
    (hle : completedGoods w.db o ≤ order.totalAmount) : RefundsAddUp w o order := by
  have hsums := hw.sums hle
  have hgoods := hw.goods_nonneg
  constructor
  · exact hsums.nonneg
  · exact hsums.points_le.trans (hamounts.usedShare_le hgoods hle)
  · exact hsums.earned_eq.trans_le (hamounts.earnedUpTo_le hgoods hle)
  · intro k p hof
    refine ⟨hsums.canceled k p hof, ?_⟩
    have hamount := hw.amount k p hof
    have hrest := hamounts.sub_usedShare_le hgoods hle
    rw [hsums.canceled k p hof]
    exact hsums.cash_le.trans (hrest.trans hamount)
  · intro id r row hr ho ht hrow hsum
    obtain ⟨hsplit, _⟩ := hw.splitBounds hamounts hr ho ht hrow hsum
    exact ⟨⟨hsplit.cash_nonneg, hsplit.points_nonneg, hsplit.earned_nonneg⟩,
      hw.balance hamounts hship hr ho ht hrow hsum⟩
  · intro hfees htotal
    obtain ⟨hpoints, hcash⟩ := hsums.exact hfees
    rw [htotal, hamounts.usedShare_total] at hpoints hcash
    refine ⟨hpoints, ?_, ?_⟩
    · rw [hsums.earned_eq, htotal, hamounts.earnedUpTo_total]
    · rw [hpoints, hcash]
      omega

/-- The refunds of an order add up, in every run that completes returns whose
value is at most that of the order. -/
theorem partial_refunds_add_up {w₀ w : World} {es : List (Time × Event)} {o : OrderId}
    {order : Order} (hstart : Returnable w₀.db o order) (hnew : w₀.refunds = [])
    (h : Run World.step (fun _ e => isRefund e.2 = true) w₀ es w)
    (hgoods : completedGoods w.db o ≤ order.totalAmount) : RefundsAddUp w o order := by
  have hw : Returning w o order := by
    refine h.invariant (fun w => Returning w o order) (hstart.returning hnew) ?_
    intro t e u ht hok hstep
    cases hstep
    exact ht.step hstart.amounts hok
  exact hw.addUp hstart.amounts hstart.shipping_nonneg hgoods

/-! ## An order returned in three parts -/

/-- A return of one of the three books, which has arrived. -/
def returnOf (number : String) (refundAmount : Int) : Return :=
  { order := 1, user := 7, returnNumber := number, status := .received,
    refundAmount := refundAmount, items := [{ product := some 1, quantity := 1 }] }

/-- The user got 3000 points, used them, and earned 100. -/
def returnedLedger : Ledger :=
  match PointService.addPoints Ledger.empty 0 7 3000 with
  | .error _ => Ledger.empty
  | .ok given =>
    match PointService.addPoints (PointService.usePointsFifo given.2 0 7 3000 .use (some 1)).2 0 7
      100 .earn (some 1) with
    | .error _ => Ledger.empty
    | .ok earned => earned.2

/-- The row of the delivered order. -/
def deliveredOrder : Order :=
  { World.oneOrder .delivered with
    usedPoints := 3000, finalAmount := 10000, earnedPoints := 100
    items := [⟨some 1, "책", 1, 3334⟩, ⟨some 1, "책", 2, 3333⟩] }

/-- The delivered order, paid with points and in cash, and its three returns. -/
def returnShop : World where
  db := { (World.shop .delivered .done).db with
    ledger := returnedLedger
    orders := Table.empty.insert deliveredOrder
    payments := PaymentTable.single { World.onePayment .done with amount := 10000 }
    returns := ((Table.empty.insert (returnOf "R1" 3334)).insert (returnOf "R2" 3333)).insert
      (returnOf "R3" 3333) }

/-- The three refunds. -/
def threeRefunds : List (Time × Event) :=
  [(1, .completeRefund 2 (.ok {})), (2, .completeRefund 1 (.ok {})),
    (3, .completeRefund 3 (.ok {}))]

theorem returnShop_returnable : Returnable returnShop.db 1 deliveredOrder where
  found := rfl
  amounts := ⟨by decide, by decide, by decide, by decide, by decide⟩
  shipping_nonneg := by decide
  history _ := by decide
  paid _ := ⟨1, _, rfl, rfl⟩
  amount_nonneg k p hof := by
    cases hof
    decide
  uncanceled k p hof := by
    cases hof
    rfl
  returns id r hr _ _ := by
    have hall : ∀ x ∈ returnShop.db.returns.rows,
        0 ≤ x.2.refundAmount ∧ 0 ≤ x.2.returnShippingFee ∧ x.2.status ≠ .completed := by decide
    exact hall _ (Table.get?_eq_some.mp hr)

theorem partial_refunds_add_up_three :
    ∃ w, Run World.step (fun _ e => isRefund e.2 = true) returnShop threeRefunds w ∧
      completedGoods w.db 1 = 10000 ∧ w.refunds.length = 3 ∧ RefundsAddUp w 1 deliveredOrder := by
  obtain ⟨w, hrun, hstate⟩ := Run.exists_of_execIf (by decide +kernel :
    (execIf World.step (fun _ e => isRefund e.2) returnShop threeRefunds).any (fun w => decide
      (completedGoods w.db 1 = 10000 ∧ w.refunds.length = 3)) = true)
  obtain ⟨hgoods, hlength⟩ := of_decide_eq_true hstate
  exact ⟨w, hrun, hgoods, hlength,
    partial_refunds_add_up returnShop_returnable rfl hrun (le_of_eq hgoods)⟩

end Shopping
