import Shopping.Points.Entries

/-!
# The rows of used points

A use is booked for its order and so is a refund of it.  `usedRows` are these
two kinds of entries, in the order in which they were booked; the earnings,
their reclaims and the expiries are left out.  Each point operation adds at
most one of them.
-/

namespace Shopping

/-- A use of points, or a refund of one. -/
def Entry.isOfUse (e : Entry) : Bool := decide (e.type = .use) || e.type.isUsedPointsRefund

/-- The uses and their refunds, oldest first. -/
def Ledger.usedRows (L : Ledger) : List Entry := L.entries.filter Entry.isOfUse

theorem Ledger.usedRows_append {L L' : Ledger} {booked : List Entry}
    (h : L'.entries = L.entries ++ booked) :
    L'.usedRows = L.usedRows ++ booked.filter Entry.isOfUse := by
  unfold Ledger.usedRows
  rw [h, List.filter_append]

/-! ## The operations -/

namespace PointService

/-- Added points are no use. -/
theorem addPoints_usedRows {L L' : Ledger} {now : Time} {user : UserId} {amount : Int}
    {order : Option OrderId} {b : Bool}
    (h : addPoints L now user amount .earn order = .ok (b, L')) : L'.usedRows = L.usedRows := by
  rw [Ledger.usedRows_append (addPoints_entries h)]
  split
  · exact List.append_nil _
  · exact List.append_nil _

/-- A reclaim is no use. -/
theorem reclaim_usedRows (L : Ledger) (now : Time) (user : UserId) (amount : Int)
    (order : Option OrderId) (returnId : Option Nat) :
    (usePointsFifo L now user amount .cancelDeduct order returnId).2.usedRows = L.usedRows := by
  rw [Ledger.usedRows_append (usePointsFifo_entries L now user amount .cancelDeduct order returnId)]
  split
  · exact List.append_nil _
  · exact List.append_nil _

/-- A use that succeeds is one row. -/
theorem use_usedRows {L : Ledger} {now : Time} {user : UserId} {amount : Int}
    {order : Option OrderId} {returnId : Option Nat}
    (h : (usePointsFifo L now user amount .use order returnId).1.success = true) :
    (usePointsFifo L now user amount .use order returnId).2.usedRows
      = L.usedRows ++ [⟨order, .use, -amount⟩] := by
  rw [Ledger.usedRows_append (usePointsFifo_entries L now user amount .use order returnId),
    if_pos h]
  rfl

/-- A refund is one row; what expires of it at once is booked as an expiry. -/
theorem refund_usedRows (L : Ledger) (now : Time) (user : UserId) {amount : Int} (order : OrderId)
    {type : PointType} (returnId : Option Nat) (hpos : 0 < amount)
    (htype : type.isUsedPointsRefund = true) :
    (refundUsedPoints L now user amount order type returnId).2.usedRows
      = L.usedRows ++ [⟨some order, type, amount⟩] := by
  have hrow : Entry.isOfUse ⟨some order, type, amount⟩ = true := by
    simp [Entry.isOfUse, htype]
  unfold refundUsedPoints
  rw [if_neg (not_le.mpr hpos)]
  dsimp only
  split
  · have hentries : ∀ n : Int, [(⟨some order, type, amount⟩ : Entry),
        ⟨some order, .expire, n⟩].filter Entry.isOfUse = [⟨some order, type, amount⟩] := by
      intro n
      rw [List.filter_cons_of_pos hrow]
      rfl
    unfold Ledger.usedRows
    simp only [Ledger.entries_createHistory, Ledger.entries_setPoints, restoreLoop_entries,
      List.append_assoc, List.filter_append, List.singleton_append, hentries]
  · unfold Ledger.usedRows
    simp [restoreLoop_entries, hrow]

end PointService

/-! ## What an order used and got back -/

/-- The points of the rows of the order `o` with a type in `p`. -/
def sumOf (o : OrderId) (p : PointType → Bool) (rows : List Entry) : Int :=
  (rows.map fun e => if e.order = some o ∧ p e.type = true then e.points else 0).sum

/-- The sum of the uses of the order, which are negative. -/
def usedSum (o : OrderId) (rows : List Entry) : Int := sumOf o (fun t => decide (t = .use)) rows

/-- What was given back to the order. -/
def givenBack (o : OrderId) (rows : List Entry) : Int := sumOf o PointType.isUsedPointsRefund rows

/-- The order has a use row. -/
def hasUse (o : OrderId) (rows : List Entry) : Bool :=
  rows.any fun e => decide (e.order = some o) && decide (e.type = .use)

/-- The order has a refund row. -/
def hasRefund (o : OrderId) (rows : List Entry) : Bool :=
  rows.any fun e => decide (e.order = some o) && e.type.isUsedPointsRefund

section

variable {o i : OrderId} {p : PointType → Bool} {rows : List Entry} {type : PointType} {n : Int}

@[simp] theorem sumOf_append (o : OrderId) (p : PointType → Bool) (rows booked : List Entry) :
    sumOf o p (rows ++ booked) = sumOf o p rows + sumOf o p booked := by
  simp [sumOf]

theorem sumOf_single (o i : OrderId) (p : PointType → Bool) (type : PointType) (n : Int) :
    sumOf o p [⟨some i, type, n⟩] = if i = o ∧ p type = true then n else 0 := by
  simp [sumOf]

/-- Without a row there is no sum. -/
theorem sumOf_eq_zero (h : (rows.any fun e => decide (e.order = some o) && p e.type) = false) :
    sumOf o p rows = 0 := by
  unfold sumOf
  apply List.sum_eq_zero
  intro x hx
  obtain ⟨e, he, rfl⟩ := List.mem_map.mp hx
  rw [if_neg]
  intro hc
  have hnot := List.any_eq_false.mp h e he
  simp [hc.1, hc.2] at hnot

theorem usedSum_of_not_hasUse (h : hasUse o rows = false) : usedSum o rows = 0 := sumOf_eq_zero h

theorem givenBack_of_not_hasRefund (h : hasRefund o rows = false) : givenBack o rows = 0 :=
  sumOf_eq_zero h

/-- A use row of the order `i`. -/
theorem usedSum_use (o i : OrderId) (rows : List Entry) (n : Int) :
    usedSum o (rows ++ [⟨some i, .use, n⟩]) = usedSum o rows + if i = o then n else 0 := by
  rw [usedSum, sumOf_append, sumOf_single]
  simp [usedSum]

theorem givenBack_use (o i : OrderId) (rows : List Entry) (n : Int) :
    givenBack o (rows ++ [⟨some i, .use, n⟩]) = givenBack o rows := by
  rw [givenBack, sumOf_append, sumOf_single, if_neg (fun hc => Bool.noConfusion hc.2), add_zero]
  rfl

/-- A refund row of the order `i`. -/
theorem usedSum_refund (ht : type.isUsedPointsRefund = true) :
    usedSum o (rows ++ [⟨some i, type, n⟩]) = usedSum o rows := by
  have hne : type ≠ .use := by
    rintro rfl
    cases ht
  rw [usedSum, sumOf_append, sumOf_single, if_neg (fun hc => hne (of_decide_eq_true hc.2)),
    add_zero]
  rfl

theorem givenBack_refund (ht : type.isUsedPointsRefund = true) :
    givenBack o (rows ++ [⟨some i, type, n⟩]) = givenBack o rows + if i = o then n else 0 := by
  rw [givenBack, sumOf_append, sumOf_single]
  simp [ht, givenBack]

theorem hasUse_use :
    hasUse o (rows ++ [⟨some i, .use, n⟩]) = (hasUse o rows || decide (i = o)) := by
  simp [hasUse]

theorem hasUse_refund (ht : type.isUsedPointsRefund = true) :
    hasUse o (rows ++ [⟨some i, type, n⟩]) = hasUse o rows := by
  have hne : type ≠ .use := by
    rintro rfl
    cases ht
  simp [hasUse, hne]

theorem hasRefund_use : hasRefund o (rows ++ [⟨some i, .use, n⟩]) = hasRefund o rows := by
  simp [hasRefund, PointType.isUsedPointsRefund]

theorem hasRefund_refund (ht : type.isUsedPointsRefund = true) :
    hasRefund o (rows ++ [⟨some i, type, n⟩]) = (hasRefund o rows || decide (i = o)) := by
  simp [hasRefund, ht]

end

/-- A search of the history for a use finds the use rows. -/
theorem Ledger.hasUse_eq (L : Ledger) (o : OrderId) :
    (L.histories.any fun _ h => decide (h.order = some o) && decide (h.type = .use))
      = hasUse o L.usedRows := by
  have hany := L.any_entries fun e => decide (e.order = some o) && decide (e.type = .use)
  refine hany.trans ?_
  unfold hasUse Ledger.usedRows
  rw [List.any_filter]
  refine congrArg (List.any L.entries) (funext fun e => ?_)
  by_cases ht : e.type = .use
  · simp [Entry.isOfUse, ht]
  · simp [ht]

end Shopping
