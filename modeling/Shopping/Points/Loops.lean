import Shopping.Points.Service

/-!
# The two point loops as walks

`_consume_points_fifo` and `refund_used_points` visit the fetched earn rows
one by one and save each row's metadata on the way.  Both are the walk `draw`
of `Shopping.Lib.Draw` followed by one update of the table:

* `consumeLoop_eq`: the entries are `draw amount` over the remaining points,
  and every row in an entry records the use of its amount.
* `restoreLoop_eq`: the entries are `draw amount` over the outstanding use,
  every row in an entry that is not due records the refund, and the amounts
  of the due rows are what expires at once.

The proofs go by induction on the fetched rows.  The rows have distinct ids,
so the update of the first row and the updates of the rest do not meet.
-/

namespace Shopping

/-! ## The update of the table -/

/-- The row `k` after the entries `ds` used it. -/
def PointHistory.usedBy (now : Time) (ds : Details) (k : Nat) (r : PointHistory) : PointHistory :=
  if 0 < amountAt k ds then r.recordUse now (amountAt k ds) else r

/-- The row `k` after the entries `ds` gave its use by `order` back. -/
def PointHistory.restoredBy (now : Time) (order : OrderId) (ds : Details) (k : Nat)
    (r : PointHistory) : PointHistory :=
  if 0 < amountAt k ds ∧ now < r.expiry then r.recordRefund now order (amountAt k ds) else r

namespace Ledger

/-- The ledger after the entries `ds` used its rows. -/
def applyUses (L : Ledger) (now : Time) (ds : Details) : Ledger :=
  { L with histories := L.histories.mapRows (PointHistory.usedBy now ds) }

/-- The ledger after the entries `ds` gave the use by `order` back. -/
def applyRestores (L : Ledger) (now : Time) (order : OrderId) (ds : Details) : Ledger :=
  { L with histories := L.histories.mapRows (PointHistory.restoredBy now order ds) }

/-- What the entries `ds` take from rows that are due. -/
def dueAmount (L : Ledger) (now : Time) (ds : Details) : Int :=
  L.histories.sum fun k r => if r.expiry ≤ now then amountAt k ds else 0

@[simp] theorem applyUses_points (L : Ledger) (now : Time) (ds : Details) :
    (L.applyUses now ds).points = L.points := rfl

@[simp] theorem applyRestores_points (L : Ledger) (now : Time) (order : OrderId) (ds : Details) :
    (L.applyRestores now order ds).points = L.points := rfl

@[simp] theorem applyUses_nil (L : Ledger) (now : Time) : L.applyUses now [] = L := by
  have hid : PointHistory.usedBy now [] = fun _ r => r := by
    funext k r
    simp [PointHistory.usedBy]
  rw [applyUses, hid, Table.mapRows_id]

@[simp] theorem applyRestores_nil (L : Ledger) (now : Time) (order : OrderId) :
    L.applyRestores now order [] = L := by
  have hid : PointHistory.restoredBy now order [] = fun _ r => r := by
    funext k r
    simp [PointHistory.restoredBy]
  rw [applyRestores, hid, Table.mapRows_id]

@[simp] theorem dueAmount_nil (L : Ledger) (now : Time) : L.dueAmount now [] = 0 := by
  simp [dueAmount]

/-- The use of the first entry, then of the others. -/
theorem applyUses_cons (L : Ledger) (now : Time) {k : Nat} {x : Int} {ds : Details}
    (hx : 0 < x) (hk : k ∉ ds.map Prod.fst) :
    (L.saveRow k (PointHistory.recordUse now x)).applyUses now ds
      = L.applyUses now ((k, x) :: ds) := by
  unfold applyUses saveRow Table.modify
  simp only [Table.mapRows_mapRows]
  congr 2
  funext j r
  by_cases hj : j = k
  · subst hj
    simp [PointHistory.usedBy, amountAt_of_not_mem hk, hx]
  · simp [PointHistory.usedBy, hj, Ne.symm hj]

/-- The give-back of the first entry, then of the others. -/
theorem applyRestores_cons {L : Ledger} {now : Time} {order : OrderId} {k : Nat} {x : Int}
    {r : PointHistory} {ds : Details} (hx : 0 < x) (hk : k ∉ ds.map Prod.fst)
    (hr : L.histories.get? k = some r) (hdue : now < r.expiry) :
    (L.saveRow k (PointHistory.recordRefund now order x)).applyRestores now order ds
      = L.applyRestores now order ((k, x) :: ds) := by
  unfold applyRestores saveRow Table.modify
  simp only [Table.mapRows_mapRows]
  refine congrArg (Ledger.mk _) (Table.mapRows_congr fun j s hj => ?_)
  by_cases hjk : j = k
  · subst hjk
    obtain rfl : r = s := Option.some.inj (hr.symm.trans hj)
    simp [PointHistory.restoredBy, amountAt_of_not_mem hk, hx, hdue]
  · simp [PointHistory.restoredBy, hjk, Ne.symm hjk]

/-- A due row keeps its metadata. -/
theorem applyRestores_cons_due {L : Ledger} {now : Time} {order : OrderId} {k : Nat} {x : Int}
    {r : PointHistory} {ds : Details} (hk : k ∉ ds.map Prod.fst)
    (hr : L.histories.get? k = some r) (hdue : r.expiry ≤ now) :
    L.applyRestores now order ds = L.applyRestores now order ((k, x) :: ds) := by
  refine congrArg (Ledger.mk _) (Table.mapRows_congr fun j s hj => ?_)
  by_cases hjk : j = k
  · subst hjk
    obtain rfl : r = s := Option.some.inj (hr.symm.trans hj)
    simp [PointHistory.restoredBy, amountAt_of_not_mem hk, Nat.not_lt.mpr hdue]
  · simp [PointHistory.restoredBy, Ne.symm hjk]

theorem dueAmount_cons {L : Ledger} {now : Time} {k : Nat} {r : PointHistory} (x : Int)
    (ds : Details) (hr : L.histories.get? k = some r) :
    L.dueAmount now ((k, x) :: ds) = (if r.expiry ≤ now then x else 0) + L.dueAmount now ds := by
  unfold dueAmount
  have hsplit : (L.histories.sum fun j s =>
        if s.expiry ≤ now then amountAt j ((k, x) :: ds) else 0)
      = L.histories.sum fun j s => (if j = k then if s.expiry ≤ now then x else 0 else 0)
          + if s.expiry ≤ now then amountAt j ds else 0 := by
    refine Table.sum_congr fun j s _ => ?_
    by_cases hjk : j = k
    · subst hjk
      split <;> simp
    · simp [hjk, Ne.symm hjk]
  rw [hsplit, Table.sum_add, Table.sum_single hr fun s => if s.expiry ≤ now then x else 0]

/-- A save of metadata moves no expiry date. -/
theorem dueAmount_saveRow (L : Ledger) (now : Time) (k : Nat) (order : OrderId) (x : Int)
    (ds : Details) :
    (L.saveRow k (PointHistory.recordRefund now order x)).dueAmount now ds
      = L.dueAmount now ds := by
  unfold dueAmount saveRow Table.modify
  rw [Table.sum_mapRows]
  refine Table.sum_congr fun j s _ => ?_
  split <;> rfl

end Ledger

namespace PointService

/-! ## The loops -/

/-- The capacities that `_consume_points_fifo` walks over. -/
def remainingCaps (rows : List (Nat × PointHistory)) : Entries :=
  rows.map fun p => (p.1, p.2.remainingPoints)

@[simp] theorem remainingCaps_keys (rows : List (Nat × PointHistory)) :
    (remainingCaps rows).map Prod.fst = rows.map Prod.fst := by
  simp [remainingCaps, Function.comp_def]

theorem consumeLoop_eq (now : Time) (L : Ledger) (rows : List (Nat × PointHistory)) (need : Int)
    (hnd : (rows.map Prod.fst).Nodup) :
    consumeLoop now L rows need
      = (L.applyUses now (draw need (remainingCaps rows)).1, draw need (remainingCaps rows)) := by
  induction rows generalizing L need with
  | nil => simp [consumeLoop, remainingCaps, draw]
  | cons p rest ih =>
    obtain ⟨k, r⟩ := p
    rw [List.map_cons, List.nodup_cons] at hnd
    have hcaps : remainingCaps ((k, r) :: rest)
        = (k, r.remainingPoints) :: remainingCaps rest := rfl
    rw [consumeLoop, hcaps, draw]
    by_cases h0 : need ≤ 0
    · simp [h0]
    · by_cases h1 : r.remainingPoints ≤ 0
      · simp only [h0, h1, if_true, if_false]
        exact ih L need hnd.2
      · simp only [h0, h1, if_false]
        rw [ih _ _ hnd.2]
        have hx : 0 < min r.remainingPoints need := lt_min (not_le.mp h1) (not_le.mp h0)
        have hk : k ∉ (draw (need - min r.remainingPoints need)
            (remainingCaps rest)).1.map Prod.fst := by
          intro hc
          have hmem := (draw_keys_sublist _ _).subset hc
          rw [remainingCaps_keys] at hmem
          exact hnd.1 hmem
        rw [L.applyUses_cons now hx hk]

/-- The capacities that `refund_used_points` walks over. -/
def outstandingCaps (left : Nat → Int) (rows : List (Nat × PointHistory)) : Entries :=
  rows.map fun p => (p.1, left p.1)

@[simp] theorem outstandingCaps_keys (left : Nat → Int) (rows : List (Nat × PointHistory)) :
    (outstandingCaps left rows).map Prod.fst = rows.map Prod.fst := by
  simp [outstandingCaps, Function.comp_def]

theorem restoreLoop_eq (now : Time) (order : OrderId) (left : Nat → Int) (L : Ledger)
    (rows : List (Nat × PointHistory)) (need : Int) (hnd : (rows.map Prod.fst).Nodup)
    (hleft : ∀ p ∈ rows, 0 < left p.1)
    (hrows : ∀ p ∈ rows, ∃ s, L.histories.get? p.1 = some s ∧ s.expiry = p.2.expiry) :
    restoreLoop now order left L rows need
      = (L.applyRestores now order (draw need (outstandingCaps left rows)).1,
          (draw need (outstandingCaps left rows)).1,
          L.dueAmount now (draw need (outstandingCaps left rows)).1,
          (draw need (outstandingCaps left rows)).2) := by
  induction rows generalizing L need with
  | nil => simp [restoreLoop, outstandingCaps, draw]
  | cons p rest ih =>
    obtain ⟨k, r⟩ := p
    rw [List.map_cons, List.nodup_cons] at hnd
    have hcaps : outstandingCaps left ((k, r) :: rest)
        = (k, left k) :: outstandingCaps left rest := rfl
    have hlk : 0 < left k := hleft (k, r) List.mem_cons_self
    obtain ⟨s, hs, hse⟩ := hrows (k, r) List.mem_cons_self
    have hleft' : ∀ q ∈ rest, 0 < left q.1 := fun q hq => hleft q (List.mem_cons_of_mem _ hq)
    have hrows' : ∀ q ∈ rest, ∃ s, L.histories.get? q.1 = some s ∧ s.expiry = q.2.expiry :=
      fun q hq => hrows q (List.mem_cons_of_mem _ hq)
    rw [restoreLoop, hcaps, draw]
    by_cases h0 : need ≤ 0
    · simp [h0]
    · have hx : 0 < min (left k) need := lt_min hlk (not_le.mp h0)
      have hk : k ∉ (draw (need - min (left k) need)
          (outstandingCaps left rest)).1.map Prod.fst := by
        intro hc
        have hmem := (draw_keys_sublist _ _).subset hc
        rw [outstandingCaps_keys] at hmem
        exact hnd.1 hmem
      simp only [h0, not_le.mpr hlk, if_false]
      rw [Ledger.dueAmount_cons _ _ hs]
      by_cases hdue : r.expiry ≤ now
      · rw [if_pos hdue, ih L _ hnd.2 hleft' hrows', hse, if_pos hdue,
          Ledger.applyRestores_cons_due hk hs (hse ▸ hdue)]
      · -- The saved row keeps its expiry date, so the rest sees the same dates.
        have hrows'' : ∀ q ∈ rest, ∃ s', (L.saveRow k
            (PointHistory.recordRefund now order (min (left k) need))).histories.get? q.1
              = some s' ∧ s'.expiry = q.2.expiry := by
          intro q hq
          obtain ⟨s', hs', hse'⟩ := hrows' q hq
          have hmem : q.1 ∈ rest.map Prod.fst := List.mem_map_of_mem hq
          have hne : q.1 ≠ k := fun hc => hnd.1 (hc ▸ hmem)
          refine ⟨s', ?_, hse'⟩
          rw [Ledger.saveRow, Table.get?_modify, if_neg hne, hs']
        rw [if_neg hdue, ih _ _ hnd.2 hleft' hrows'', hse, if_neg hdue, zero_add,
          Ledger.dueAmount_saveRow,
          Ledger.applyRestores_cons hx hk hs (hse ▸ not_le.mp hdue)]

end PointService

end Shopping
