import Shopping.Points.Refunds

/-!
# A refund and a reclaim of one order

A cancellation gives back the points that the order used and takes back the
points that it earned.  The give-back can only leave more to reclaim
(`Backed.usable_refund`), so the check that comes before it stays valid
(`Backed.reclaim_after_refund`).

`Touches f L L'` says that an operation updated the rows by `f` and added rows
that are no earn rows.  The rows that a later operation looks at are then the
same, in the same order.
-/

namespace Shopping

open PointService

/-! ## The invariant, one order at a time -/

/-- The account holds what the rows have left, and every earn row records the
use that an order has on it, within its points. -/
structure Backed (L : Ledger) : Prop where
  solvent : Solvent L
  out_nonneg : ∀ o k r, L.histories.get? k = some r → r.type = .earn → 0 ≤ outstanding L o k
  out_le : ∀ o k r, L.histories.get? k = some r → r.type = .earn →
    outstanding L o k ≤ r.metadata.usedAmount
  used_le : ∀ k r, L.histories.get? k = some r → r.type = .earn →
    r.metadata.usedAmount ≤ r.points

theorem Sound.backed {owner : OrderId → UserId} {now : Time} {L : Ledger}
    (h : Sound owner now L) : Backed L :=
  ⟨h.solvent, fun o k _ _ _ => h.covered.out_nonneg o k,
    fun o _ _ hr ht => h.covered.out_le hr ht o, h.covered.used_le⟩

/-! ## Updates that keep the order of the rows -/

/-- The update leaves what the queries look at alone. -/
structure KeepsRow (f : Nat → PointHistory → PointHistory) : Prop extends KeepsEntry f where
  expiresAt : ∀ k r, (f k r).expiresAt = r.expiresAt
  expired : ∀ k r, (f k r).metadata.expired = r.metadata.expired

theorem keepsRow_usedBy (now : Time) (ds : Details) : KeepsRow (PointHistory.usedBy now ds) := by
  refine ⟨keepsEntry_usedBy now ds, fun k r => ?_, fun k r => ?_⟩
  · unfold PointHistory.usedBy
    split
    · rfl
    · rfl
  · unfold PointHistory.usedBy
    split
    · rfl
    · rfl

theorem keepsRow_restoredBy (now : Time) (order : OrderId) (ds : Details) :
    KeepsRow (PointHistory.restoredBy now order ds) := by
  refine ⟨keepsEntry_restoredBy now order ds, fun k r => ?_, fun k r => ?_⟩
  · unfold PointHistory.restoredBy
    split
    · rfl
    · rfl
  · unfold PointHistory.restoredBy
    split
    · rfl
    · rfl

theorem KeepsRow.expiry {f : Nat → PointHistory → PointHistory} (hf : KeepsRow f) (k : Nat)
    (r : PointHistory) : (f k r).expiry = r.expiry := by
  unfold PointHistory.expiry
  rw [hf.expiresAt]

/-- The rows of `L` are updated by `f`, and the rows added are no earn rows. -/
def Touches (f : Nat → PointHistory → PointHistory) (L L' : Ledger) : Prop :=
  ∃ added, L'.histories.rows = (L.histories.rows.map fun p => (p.1, f p.1 p.2)) ++ added ∧
    ∀ p ∈ added, p.2.type ≠ .earn

namespace Touches

variable {f : Nat → PointHistory → PointHistory} {L L' : Ledger}

theorem touch (L : Ledger) (f : Nat → PointHistory → PointHistory) : Touches f L (L.touch f) := by
  refine ⟨[], ?_, fun p hp => ?_⟩
  · rw [List.append_nil, Table.mapRows_rows]
  · cases hp

theorem setPoints (h : Touches f L L') (user : UserId) (points : Int) :
    Touches f L (L'.setPoints user points) := h

theorem createHistory (h : Touches f L L') {type : PointType} (ht : type ≠ .earn) (now : Time)
    (user : UserId) (points : Int) (order : Option OrderId) (m : Metadata) :
    Touches f L (L'.createHistory now user points type order m) := by
  obtain ⟨added, hrows, hadded⟩ := h
  refine ⟨added ++ [(L'.histories.next,
    PointHistory.create now user points (L'.points user) type order m)], ?_, fun p hp => ?_⟩
  · unfold Ledger.createHistory
    rw [Table.insert_rows, hrows, List.append_assoc]
  · rcases List.mem_append.mp hp with hp | hp
    · exact hadded p hp
    · rw [List.mem_singleton.mp hp]
      exact ht

theorem post (h : Touches f L L') {type : PointType} (ht : type ≠ .earn) (now : Time)
    (user : UserId) (points : Int) (order : Option OrderId) (m : Metadata) :
    Touches f L (L'.post now user points type order m) :=
  (h.setPoints user (L'.points user + points)).createHistory ht now user points order m

/-- The row under a key of `L`. -/
theorem get? (h : Touches f L L') {k : Nat} {r : PointHistory}
    (hr : L.histories.get? k = some r) : L'.histories.get? k = some (f k r) := by
  obtain ⟨added, hrows, _⟩ := h
  rw [Table.get?_eq_some, hrows]
  exact List.mem_append_left _ (List.mem_map.mpr ⟨(k, r), Table.get?_eq_some.mp hr, rfl⟩)

/-- A row under another key is no earn row. -/
theorem new_row (h : Touches f L L') {k : Nat} (hk : L.histories.get? k = none)
    {r : PointHistory} (hr : L'.histories.get? k = some r) : r.type ≠ .earn := by
  obtain ⟨added, hrows, hadded⟩ := h
  rw [Table.get?_eq_some, hrows] at hr
  rcases List.mem_append.mp hr with hr | hr
  · obtain ⟨p, hp, hpk⟩ := List.mem_map.mp hr
    obtain ⟨rfl, _⟩ := Prod.mk.inj hpk
    rw [Table.get?_eq_some.mpr hp] at hk
    cases hk
  · exact hadded _ hr

theorem trans {g : Nat → PointHistory → PointHistory} {L'' : Ledger} (h : Touches f L L')
    (hg : KeepsRow g) (h' : Touches g L' L'') : Touches (fun k r => g k (f k r)) L L'' := by
  obtain ⟨added, hrows, hadded⟩ := h
  obtain ⟨added', hrows', hadded'⟩ := h'
  refine ⟨(added.map fun p => (p.1, g p.1 p.2)) ++ added', ?_, fun p hp => ?_⟩
  · rw [hrows', hrows, List.map_append, List.map_map, List.append_assoc]
    rfl
  · rcases List.mem_append.mp hp with hp | hp
    · obtain ⟨q, hq, rfl⟩ := List.mem_map.mp hp
      rw [hg.type]
      exact hadded q hq
    · exact hadded' p hp

/-- A query for earn rows that does not look at what `f` updates. -/
theorem select (h : Touches f L L') {p q : Nat → PointHistory → Bool}
    (hp : ∀ k r, q k (f k r) = p k r) (hearn : ∀ k r, q k r = true → r.type = .earn) :
    L'.histories.select q = (L.histories.select p).map fun e => (e.1, f e.1 e.2) := by
  obtain ⟨added, hrows, hadded⟩ := h
  have hnone : added.filter (fun e => q e.1 e.2) = [] := by
    rw [List.filter_eq_nil_iff]
    intro e he hc
    exact hadded e he (hearn e.1 e.2 hc)
  unfold Table.select
  rw [hrows, List.filter_append, hnone, List.append_nil, List.filter_map]
  simp only [Function.comp_def, hp]

theorem availablePoints (h : Touches f L L') (hf : KeepsRow f) (now : Time) (user : UserId)
    (type : PointType) :
    availablePoints L' now user type
      = (availablePoints L now user type).map fun p => (p.1, f p.1 p.2) := by
  have hsel := h.select (p := fun _ r => isUsable now user type r)
    (q := fun _ r => isUsable now user type r) (fun k r => ?_) fun k r hr => ?_
  · unfold PointService.availablePoints
    rw [hsel]
    refine (List.map_insertionSort _ _ _ _ fun p _ q _ => ?_).symm
    unfold expiresFirst
    rw [hf.expiry, hf.expiry, hf.createdAt, hf.createdAt]
  · unfold isUsable
    rw [hf.user, hf.type, hf.expiresAt, hf.expired]
  · exact (isUsable_user hr).2

theorem earnRows (h : Touches f L L') (hf : KeepsRow f) {order : OrderId}
    (hout : ∀ k, outstanding L' order k = outstanding L order k) :
    earnRows L' order = (earnRows L order).map fun p => (p.1, f p.1 p.2) := by
  have hsel := h.select
    (p := fun k r => decide (0 < outstanding L order k) && decide (r.type = .earn))
    (q := fun k r => decide (0 < outstanding L' order k) && decide (r.type = .earn))
    (fun k r => ?_) fun k r hr => ?_
  · unfold PointService.earnRows
    rw [hsel]
    refine (List.map_insertionSort _ _ _ _ fun p _ q _ => ?_).symm
    unfold expiresLast
    rw [hf.expiry, hf.expiry]
  · rw [hout, hf.type]
  · exact of_decide_eq_true (Bool.and_eq_true _ _ ▸ hr).2

/-- What is given back does not depend on what else was used. -/
theorem restored (h : Touches f L L') (hf : KeepsRow f) {order : OrderId}
    (hout : ∀ k, outstanding L' order k = outstanding L order k) (amount : Int) :
    restored L' order amount = restored L order amount := by
  unfold Shopping.restored outstandingCaps
  rw [h.earnRows hf hout, List.map_map]
  simp only [Function.comp_def, hout]

end Touches

/-! ## The reclaim -/

section Reclaim

variable {L : Ledger} {now : Time} {user : UserId} {amount : Int}

theorem remainingCaps_nonneg {rows : List (Nat × PointHistory)} :
    ∀ c ∈ remainingCaps rows, 0 ≤ c.2 := by
  intro c hc
  obtain ⟨p, _, rfl⟩ := List.mem_map.mp hc
  exact p.2.remainingPoints_nonneg

/-- What a use or a reclaim can take. -/
theorem availablePoints_total (L : Ledger) (now : Time) (user : UserId) (type : PointType) :
    Entries.total (remainingCaps (availablePoints L now user type))
      = L.histories.sum fun _ r =>
          if isUsable now user type r = true then r.remainingPoints else 0 := by
  unfold Entries.total remainingCaps availablePoints
  rw [List.map_map]
  exact Table.sum_select_insertionSort L.histories (fun _ r => isUsable now user type r)
    (fun _ r => r.remainingPoints) expiresFirst

/-- `get_usable_points` sums up the rows that a reclaim draws on. -/
theorem getUsablePoints_eq (L : Ledger) (now : Time) (user : UserId) :
    getUsablePoints L now user
      = Entries.total (remainingCaps (availablePoints L now user .cancelDeduct)) := by
  rw [availablePoints_total]
  rfl

/-- A row that a reclaim may draw on. -/
theorem isUsable_cancelDeduct {r : PointHistory} :
    isUsable now user .cancelDeduct r = true ↔
      r.user = user ∧ r.type = .earn ∧ now < r.expiry ∧ r.metadata.expired = false := by
  have hdate : r.type = .earn → ((r.expiresAt.any fun e => decide (now < e)) = true ↔
      now < r.expiry) := by
    intro ht
    obtain ⟨e, he⟩ := Option.isSome_iff_exists.mp (r.earn_expires ht)
    unfold PointHistory.expiry
    rw [he]
    simp
  unfold isUsable
  simp only [Bool.and_eq_true, Bool.or_eq_true, decide_eq_true_eq, Bool.not_eq_true', ne_eq,
    not_true_eq_false, false_or]
  constructor
  · rintro ⟨⟨⟨hu, ht⟩, hd⟩, hx⟩
    exact ⟨hu, ht, (hdate ht).mp hd, hx⟩
  · rintro ⟨hu, ht, hd, hx⟩
    exact ⟨⟨⟨hu, ht⟩, (hdate ht).mpr hd⟩, hx⟩

/-- The rows of a user have at least what is usable of them. -/
theorem usable_le_remainingSum (L : Ledger) (now : Time) (user : UserId) :
    getUsablePoints L now user ≤ L.remainingSum user := by
  refine Table.sum_le_sum fun k r _ => ?_
  show (if isUsable now user .cancelDeduct r = true then r.remainingPoints else 0)
    ≤ if r.user = user then r.remainingPoints else 0
  by_cases hr : isUsable now user .cancelDeduct r = true
  · rw [if_pos hr, if_pos (isUsable_user hr).1]
  · rw [if_neg hr]
    split
    · exact r.remainingPoints_nonneg
    · exact le_refl 0

/-- A reclaim that the account and the rows can bear succeeds. -/
theorem usePointsFifo_reclaim (hpos : 0 < amount) (hpoints : amount ≤ L.points user)
    (husable : amount ≤ getUsablePoints L now user) (order : Option OrderId)
    (returnId : Option Nat) :
    (usePointsFifo L now user amount .cancelDeduct order returnId).1.success = true ∧
      (usePointsFifo L now user amount .cancelDeduct order returnId).2
        = (L.touch (PointHistory.usedBy now (consumed L now user amount .cancelDeduct))).post now
            user (-amount) .cancelDeduct order
            { usedDetails := consumed L now user amount .cancelDeduct, returnId := returnId } := by
  have hacc : Accepts L user amount .cancelDeduct := ⟨hpos, nofun, hpoints⟩
  have hmissing : ¬ 0 < missing L now user amount .cancelDeduct := by
    rw [getUsablePoints_eq] at husable
    exact not_lt.mpr (draw_covered remainingCaps_nonneg husable)
  rcases usePointsFifo_cases L now user amount .cancelDeduct order returnId with
    ⟨hno, _⟩ | ⟨_, ⟨_, hshort⟩, _⟩ | ⟨_, _, hsuccess, _, hL⟩
  · exact absurd hacc hno
  · exact absurd hshort hmissing
  · exact ⟨hsuccess, hL⟩

/-- A reclaim takes the same off the account and off the rows. -/
theorem usePointsFifo_reclaim_books (hpos : 0 < amount) (hpoints : amount ≤ L.points user)
    (husable : amount ≤ getUsablePoints L now user) (order : Option OrderId) (v : UserId) :
    (usePointsFifo L now user amount .cancelDeduct order none).2.points v
        = L.points v - (if user = v then amount else 0) ∧
      (usePointsFifo L now user amount .cancelDeduct order none).2.remainingSum v
        = L.remainingSum v - if user = v then amount else 0 := by
  have htotal : Entries.total (consumed L now user amount .cancelDeduct) = amount := by
    have hsum := consumed_add_missing L now user amount .cancelDeduct
    have hleft : 0 ≤ missing L now user amount .cancelDeduct :=
      draw_left_nonneg (le_of_lt hpos) _
    have hcovered : missing L now user amount .cancelDeduct ≤ 0 := by
      rw [getUsablePoints_eq] at husable
      exact draw_covered remainingCaps_nonneg husable
    omega
  rw [(usePointsFifo_reclaim hpos hpoints husable order none).2, post_points,
    post_remainingSum _ _ _ _ _ _ _ (by decide), consumed_remainingSum, htotal]
  constructor
  · show L.points v + _ = _
    split
    · omega
    · omega
  · rfl

end Reclaim

/-! ## The refund -/

section Refund

variable {L : Ledger} {now : Time} {user : UserId} {amount : Int} {order : OrderId}

theorem refundUsedPoints_success (hpos : 0 < amount) (type : PointType) (returnId : Option Nat) :
    (refundUsedPoints L now user amount order type returnId).1.success = true := by
  unfold refundUsedPoints
  rw [if_neg (not_le.mpr hpos)]

/-- The rows after a refund. -/
theorem refundUsedPoints_touches (hpos : 0 < amount) {type : PointType} (htype : type ≠ .earn)
    (returnId : Option Nat) :
    Touches (PointHistory.restoredBy now order (restored L order amount)) L
      (refundUsedPoints L now user amount order type returnId).2 := by
  have hcredited := fun m => (((Touches.touch L (PointHistory.restoredBy now order
    (restored L order amount))).setPoints user (L.points user + amount)).createHistory htype now
      user amount (some order) m)
  unfold refundUsedPoints
  rw [if_neg (not_le.mpr hpos), restoreLoop_earnRows]
  dsimp only
  split
  · have hexpire : PointType.expire ≠ .earn := by decide
    exact ((hcredited _).setPoints user _).createHistory hexpire now user _ (some order) _
  · exact hcredited _

/-- What a refund leaves on the accounts: the clamp at 0 is the identity. -/
theorem refundUsedPoints_points (hpos : 0 < amount) (h0 : 0 ≤ L.points user) (type : PointType)
    (returnId : Option Nat) (v : UserId) :
    (refundUsedPoints L now user amount order type returnId).2.points v
      = L.points v + if user = v then amount - L.dueAmount now (restored L order amount)
          else 0 := by
  have hdue : L.dueAmount now (restored L order amount) ≤ amount :=
    dueAmount_le (le_of_lt hpos) L now order
  have hdue0 : 0 ≤ L.dueAmount now (restored L order amount) := dueAmount_nonneg
  have hcredit : ∀ m, (((L.touch (PointHistory.restoredBy now order
      (restored L order amount))).post now user amount type (some order) m).points v)
        = L.points v + if user = v then amount else 0 := fun m => post_points _ _ _ _ _ _ _ v
  have hcredit' : ∀ m, (((L.touch (PointHistory.restoredBy now order
      (restored L order amount))).post now user amount type (some order) m).points user)
        = L.points user + amount := by
    intro m
    rw [post_points, if_pos rfl]
  unfold refundUsedPoints
  rw [if_neg (not_le.mpr hpos), restoreLoop_earnRows]
  dsimp only
  split
  · rw [Ledger.createHistory_points]
    by_cases hv : v = user
    · subst hv
      rw [Ledger.setPoints_points_self, if_pos rfl]
      refine (congrArg (fun n => max (n - _) 0) (hcredit' _)).trans ?_
      rw [max_eq_left (by omega)]
      omega
    · rw [Ledger.setPoints_points_of_ne _ hv, if_neg fun hc => hv hc.symm]
      refine (hcredit _).trans ?_
      rw [if_neg fun hc => hv hc.symm]
  · refine (hcredit _).trans ?_
    split
    · omega
    · rfl

end Refund

/-! ## One after the other -/

namespace Backed

variable {L : Ledger} {now : Time} {user : UserId} {order : OrderId}

theorem points_nonneg (h : Backed L) (u : UserId) : 0 ≤ L.points u :=
  le_trans (remainingSum_nonneg L u) (h.solvent u)

theorem usable_le_points (h : Backed L) (now : Time) (u : UserId) :
    getUsablePoints L now u ≤ L.points u :=
  le_trans (usable_le_remainingSum L now u) (h.solvent u)

theorem restored_le_used (h : Backed L) {k : Nat} {r : PointHistory}
    (hr : L.histories.get? k = some r) (ht : r.type = .earn) (order : OrderId) (amount : Int) :
    amountAt k (restored L order amount) ≤ r.metadata.usedAmount :=
  le_trans (restored_le_outstanding (h.out_nonneg order k r hr ht)) (h.out_le order k r hr ht)

end Backed

/-- What a row gets back that a reclaim could take. -/
def backOf (now : Time) (ds : Details) (k : Nat) (r : PointHistory) : Int :=
  if r.type = .earn ∧ r.metadata.expired = false ∧ now < r.expiry then amountAt k ds else 0

/-- What a row has left once it got its use back, when it records that use. -/
theorem restoredBy_remaining {now : Time} {order : OrderId} {ds : Details} {k : Nat}
    {r : PointHistory} (h0 : 0 ≤ amountAt k ds)
    (hle : r.type = .earn → amountAt k ds ≤ r.metadata.usedAmount)
    (hused : r.type = .earn → r.metadata.usedAmount ≤ r.points) :
    (PointHistory.restoredBy now order ds k r).remainingPoints
      = r.remainingPoints + backOf now ds k r := by
  have hkeeps := keepsRow_restoredBy now order ds
  unfold backOf
  by_cases ht : r.type = .earn
  · have h1 := hle ht
    have h2 := hused ht
    cases hx : r.metadata.expired with
    | true =>
      have hgone : ∀ s : PointHistory, s.metadata.expired = true → s.remainingPoints = 0 := by
        intro s hs
        unfold PointHistory.remainingPoints
        rw [hs]
        simp
      rw [hgone r hx, hgone _ ((hkeeps.expired k r).trans hx), if_neg (by simp)]
      rfl
    | false =>
      have hleft : ∀ s : PointHistory, s.type = .earn → s.metadata.expired = false →
          s.remainingPoints = max 0 (s.points - s.metadata.usedAmount) := by
        intro s hs hsx
        unfold PointHistory.remainingPoints
        rw [if_neg (not_not.mpr hs), hsx]
        simp
      rw [hleft r ht hx, hleft _ ((hkeeps.type k r).trans ht) ((hkeeps.expired k r).trans hx),
        hkeeps.points]
      by_cases hdue : now < r.expiry
      · rw [if_pos ⟨ht, rfl, hdue⟩]
        unfold PointHistory.restoredBy
        split
        · show max 0 (r.points - max 0 (r.metadata.usedAmount - amountAt k ds)) = _
          omega
        · rename_i hc
          have hz : amountAt k ds = 0 := by
            by_contra hne
            exact hc ⟨by omega, hdue⟩
          rw [hz, add_zero]
      · rw [if_neg fun hc => hdue hc.2.2]
        unfold PointHistory.restoredBy
        rw [if_neg fun hc => hdue hc.2, add_zero]
  · rw [PointHistory.remainingPoints_of_ne ht,
      PointHistory.remainingPoints_of_ne fun hc => ht ((hkeeps.type k r).symm.trans hc),
      if_neg fun hc => ht hc.1]
    rfl

/-- The points that the order used are given back, if there are any. -/
def refundIfUsed (L : Ledger) (now : Time) (user : UserId) (used : Int) (order : OrderId)
    (returnId : Option Nat) : Ledger :=
  if 0 < used then (refundUsedPoints L now user used order .cancelRefund returnId).2 else L

namespace Backed

variable {L : Ledger} {now : Time} {user : UserId} {order : OrderId}

/-- What a row has left after the refund. -/
theorem restored_remaining (h : Backed L) {k : Nat} {r : PointHistory}
    (hr : L.histories.get? k = some r) (now : Time) (order : OrderId) (amount : Int) :
    (PointHistory.restoredBy now order (restored L order amount) k r).remainingPoints
      = r.remainingPoints + backOf now (restored L order amount) k r :=
  restoredBy_remaining (restored_nonneg k) (fun ht => h.restored_le_used hr ht order amount)
    (h.used_le k r hr)

theorem backOf_nonneg (L : Ledger) (now : Time) (order : OrderId) (amount : Int) (k : Nat)
    (r : PointHistory) : 0 ≤ backOf now (restored L order amount) k r := by
  unfold backOf
  split
  · exact restored_nonneg k
  · exact le_refl 0

/-- A refund only adds to what a reclaim finds. -/
theorem usable_refund (h : Backed L) (used : Int) (returnId : Option Nat) :
    getUsablePoints L now user
      ≤ getUsablePoints (refundIfUsed L now user used order returnId) now user := by
  unfold refundIfUsed
  split
  · rename_i hpos
    have htouch : Touches (PointHistory.restoredBy now order (restored L order used)) L
        (refundUsedPoints L now user used order .cancelRefund returnId).2 :=
      refundUsedPoints_touches hpos (by decide) returnId
    rw [getUsablePoints_eq, getUsablePoints_eq,
      htouch.availablePoints (keepsRow_restoredBy now order _)]
    unfold Entries.total remainingCaps
    simp only [List.map_map]
    refine List.sum_le_sum fun p hp => ?_
    obtain ⟨hget, _⟩ := (mem_availablePoints L now user .cancelDeduct).mp hp
    have hmore := h.restored_remaining hget now order used
    have hback := backOf_nonneg L now order used p.1 p.2
    show p.2.remainingPoints
      ≤ (PointHistory.restoredBy now order (restored L order used) p.1 p.2).remainingPoints
    omega
  · exact le_refl _

/-- A refund takes nothing from the account, even when part of it expires at
once. -/
theorem points_refund (h : Backed L) (used : Int) (returnId : Option Nat) (v : UserId) :
    L.points v ≤ (refundIfUsed L now user used order returnId).points v := by
  unfold refundIfUsed
  split
  · rename_i hpos
    rw [refundUsedPoints_points hpos (h.points_nonneg user)]
    have hdue := dueAmount_le (le_of_lt hpos) L now order
    split
    · omega
    · omega
  · exact le_refl _

/-- What the rows had to reclaim before the refund can be reclaimed after it. -/
theorem reclaim_after_refund (h : Backed L) {used earned : Int} (hpos : 0 < earned)
    (husable : earned ≤ getUsablePoints L now user) (returnId : Option Nat) :
    earned ≤ (refundIfUsed L now user used order returnId).points user ∧
      (usePointsFifo (refundIfUsed L now user used order returnId) now user earned .cancelDeduct
        (some order) returnId).1.success = true := by
  have hpoints : earned ≤ (refundIfUsed L now user used order returnId).points user :=
    calc earned
        ≤ getUsablePoints L now user := husable
      _ ≤ L.points user := h.usable_le_points now user
      _ ≤ _ := h.points_refund used returnId user
  have hmore : earned ≤ getUsablePoints (refundIfUsed L now user used order returnId) now user :=
    le_trans husable (h.usable_refund used returnId)
  exact ⟨hpoints, (usePointsFifo_reclaim hpos hpoints hmore _ _).1⟩

end Backed

/-! ## The two orders of refund and reclaim -/

/-- The points that the order earned are taken back, if there are any. -/
def reclaimIfEarned (L : Ledger) (now : Time) (user : UserId) (earned : Int) (order : OrderId) :
    Ledger :=
  if 0 < earned then (usePointsFifo L now user earned .cancelDeduct (some order)).2 else L

/-- What the row `k` has left. -/
def Ledger.remainingAt (L : Ledger) (k : Nat) : Int :=
  (L.histories.get? k).elim 0 PointHistory.remainingPoints

/-- Every row that gets something back comes after the rows that cover the
points earned without it, in the order in which a reclaim draws on them. -/
def CoveredBeforeBack (L : Ledger) (now : Time) (user : UserId) (used earned : Int)
    (order : OrderId) : Prop :=
  ∀ pre p post, availablePoints L now user .cancelDeduct = pre ++ p :: post →
    0 < amountAt p.1 (restored L order used) →
      earned ≤ ((pre ++ [p]).map fun q => q.2.remainingPoints).sum

theorem restored_of_nonpos {used : Int} (h : used ≤ 0) (L : Ledger) (order : OrderId) :
    restored L order used = [] := by
  unfold restored
  rw [draw_of_nonpos h]

theorem consumed_of_nonpos {amount : Int} (h : amount ≤ 0) (L : Ledger) (now : Time)
    (user : UserId) (type : PointType) : consumed L now user amount type = [] := by
  unfold consumed
  rw [draw_of_nonpos h]

namespace Touches

variable {f : Nat → PointHistory → PointHistory} {L L' : Ledger}

theorem refl (hf : ∀ k r, f k r = r) : Touches f L L := by
  refine ⟨[], ?_, fun p hp => ?_⟩
  · simp [hf]
  · cases hp

/-- What a row of `L` has left, and a row that is added. -/
theorem remainingAt (h : Touches f L L') (k : Nat) :
    L'.remainingAt k = (L.histories.get? k).elim 0 fun r => (f k r).remainingPoints := by
  unfold Ledger.remainingAt
  cases hr : L.histories.get? k with
  | some r =>
    rw [h.get? hr]
    rfl
  | none =>
    cases hr' : L'.histories.get? k with
    | none => rfl
    | some r' => exact PointHistory.remainingPoints_of_ne (h.new_row hr hr')

/-- What expires of entries about rows of `L`. -/
theorem dueAmount (h : Touches f L L') (hf : KeepsRow f) {ds : Details}
    (hds : ∀ d ∈ ds, ∃ r, L.histories.get? d.1 = some r) (now : Time) :
    L'.dueAmount now ds = L.dueAmount now ds := by
  obtain ⟨added, hrows, _⟩ := h
  -- An added row has another key than the rows of the entries.
  have hadded : (added.map fun p => if p.2.expiry ≤ now then amountAt p.1 ds else 0).sum = 0 := by
    refine List.sum_eq_zero fun x hx => ?_
    obtain ⟨p, hp, rfl⟩ := List.mem_map.mp hx
    have hnone : amountAt p.1 ds = 0 := by
      refine amountAt_of_not_mem fun hmem => ?_
      obtain ⟨d, hd, hdk⟩ := List.mem_map.mp hmem
      obtain ⟨r, hr⟩ := hds d hd
      have hnd := L'.histories.nodup_keys
      rw [hrows, List.map_append, List.nodup_append] at hnd
      refine hnd.2.2 d.1 (List.mem_map.mpr ⟨(d.1, f d.1 r), List.mem_map.mpr
        ⟨(d.1, r), Table.get?_eq_some.mp hr, rfl⟩, rfl⟩) p.1 (List.mem_map_of_mem hp) hdk
    rw [hnone, ite_self]
  unfold Ledger.dueAmount Table.sum
  rw [hrows, List.map_append, List.sum_append, hadded, add_zero, List.map_map]
  simp only [Function.comp_def, hf.expiry]

end Touches

section Orders

variable {L : Ledger} {now : Time} {user : UserId} {order : OrderId} {used earned : Int}

theorem refundIfUsed_touches (L : Ledger) (now : Time) (user : UserId) (used : Int)
    (order : OrderId) (returnId : Option Nat) :
    Touches (PointHistory.restoredBy now order (restored L order used)) L
      (refundIfUsed L now user used order returnId) := by
  unfold refundIfUsed
  split
  · rename_i hpos
    exact refundUsedPoints_touches hpos (by decide) returnId
  · rename_i hpos
    refine Touches.refl fun k r => ?_
    rw [restored_of_nonpos (not_lt.mp hpos)]
    simp [PointHistory.restoredBy]

theorem refundIfUsed_points (h0 : 0 ≤ L.points user) (returnId : Option Nat) (v : UserId) :
    (refundIfUsed L now user used order returnId).points v
      = L.points v + if user = v then max used 0 - L.dueAmount now (restored L order used)
          else 0 := by
  unfold refundIfUsed
  split
  · rename_i hpos
    rw [refundUsedPoints_points hpos h0, max_eq_left (le_of_lt hpos)]
  · rename_i hpos
    rw [restored_of_nonpos (not_lt.mp hpos), Ledger.dueAmount_nil, max_eq_right (not_lt.mp hpos)]
    simp

theorem reclaimIfEarned_touches (hpoints : earned ≤ L.points user)
    (husable : earned ≤ getUsablePoints L now user) (order : OrderId) :
    Touches (PointHistory.usedBy now (consumed L now user earned .cancelDeduct)) L
      (reclaimIfEarned L now user earned order) := by
  unfold reclaimIfEarned
  split
  · rename_i hpos
    rw [(usePointsFifo_reclaim hpos hpoints husable (some order) none).2]
    exact (Touches.touch L _).post (by decide) now user _ _ _
  · rename_i hpos
    refine Touches.refl fun k r => ?_
    rw [consumed_of_nonpos (not_lt.mp hpos)]
    simp [PointHistory.usedBy]

theorem reclaimIfEarned_points (hpoints : earned ≤ L.points user)
    (husable : earned ≤ getUsablePoints L now user) (order : OrderId) (v : UserId) :
    (reclaimIfEarned L now user earned order).points v
      = L.points v - if user = v then max earned 0 else 0 := by
  unfold reclaimIfEarned
  split
  · rename_i hpos
    rw [(usePointsFifo_reclaim hpos hpoints husable (some order) none).2, post_points,
      max_eq_left (le_of_lt hpos)]
    show L.points v + _ = _
    split
    · omega
    · omega
  · rename_i hpos
    rw [max_eq_right (not_lt.mp hpos)]
    simp

/-- A reclaim says nothing about the use of an order. -/
theorem reclaimIfEarned_outstanding (hpoints : earned ≤ L.points user)
    (husable : earned ≤ getUsablePoints L now user) (o order : OrderId) (k : Nat) :
    outstanding (reclaimIfEarned L now user earned order) o k = outstanding L o k := by
  unfold reclaimIfEarned
  split
  · rename_i hpos
    rw [(usePointsFifo_reclaim hpos hpoints husable (some order) none).2, post_outstanding,
      touch_outstanding (keepsEntry_usedBy now _),
      recordedUse_eq_zero fun _ => ⟨fun hc => PointType.noConfusion hc, rfl⟩, add_zero]
  · rfl

/-- The reclaim draws on the rows of the user that it may use. -/
theorem consumed_of_not_available {k : Nat} {type : PointType}
    (h : ∀ p ∈ availablePoints L now user type, p.1 ≠ k) (amount : Int) :
    amountAt k (consumed L now user amount type) = 0 := by
  refine amountAt_of_not_mem fun hmem => ?_
  have hkeys := (draw_keys_sublist amount
    (remainingCaps (availablePoints L now user type))).subset hmem
  rw [remainingCaps_keys] at hkeys
  obtain ⟨p, hp, hpk⟩ := List.mem_map.mp hkeys
  exact h p hp hpk

/-- What the refund adds to the rows that the reclaim draws on. -/
theorem Backed.consumed_same_iff (h : Backed L) :
    (∀ k, amountAt k (consumed L now user earned .cancelDeduct)
        = amountAt k (consumed (refundIfUsed L now user used order none) now user earned
            .cancelDeduct)) ↔
      CoveredBeforeBack L now user used earned order := by
  by_cases hneg : earned < 0
  · constructor
    · intro _ pre p post _ _
      refine le_trans (le_of_lt hneg) (List.sum_nonneg fun x hx => ?_)
      obtain ⟨q, _, rfl⟩ := List.mem_map.mp hx
      exact q.2.remainingPoints_nonneg
    · intro _ k
      rw [consumed_of_nonpos (le_of_lt hneg), consumed_of_nonpos (le_of_lt hneg)]
  · have hrows := (refundIfUsed_touches L now user used order none).availablePoints
      (keepsRow_restoredBy now order _) now user .cancelDeduct
    have hiff := draw_same_iff (a := fun p => p.2.remainingPoints)
      (b := fun p => backOf now (restored L order used) p.1 p.2)
      (l := availablePoints L now user .cancelDeduct) (not_lt.mp hneg)
      (availablePoints_nodup L now user .cancelDeduct)
      (fun p _ => p.2.remainingPoints_nonneg) (fun p _ => Backed.backOf_nonneg L now order used _ _)
    -- The capacities after the refund.
    have hcaps : remainingCaps (availablePoints (refundIfUsed L now user used order none) now user
        .cancelDeduct) = (availablePoints L now user .cancelDeduct).map fun p =>
          (p.1, p.2.remainingPoints + backOf now (restored L order used) p.1 p.2) := by
      unfold remainingCaps
      rw [hrows, List.map_map]
      refine List.map_congr_left fun p hp => ?_
      obtain ⟨hget, _⟩ := (mem_availablePoints L now user .cancelDeduct).mp hp
      exact congrArg (Prod.mk p.1) (h.restored_remaining hget now order used)
    have hback : ∀ p ∈ availablePoints L now user .cancelDeduct,
        backOf now (restored L order used) p.1 p.2 = amountAt p.1 (restored L order used) := by
      intro p hp
      obtain ⟨_, hus⟩ := (mem_availablePoints L now user .cancelDeduct).mp hp
      obtain ⟨_, ht, hdue, hx⟩ := isUsable_cancelDeduct.mp hus
      exact if_pos ⟨ht, hx, hdue⟩
    have hleft : (∀ k, amountAt k (consumed L now user earned .cancelDeduct)
        = amountAt k (consumed (refundIfUsed L now user used order none) now user earned
            .cancelDeduct)) ↔
        ∀ p ∈ availablePoints L now user .cancelDeduct,
          amountAt p.1 (consumed L now user earned .cancelDeduct)
            = amountAt p.1 (consumed (refundIfUsed L now user used order none) now user earned
                .cancelDeduct) := by
      constructor
      · intro hall p _
        exact hall p.1
      · intro hall k
        by_cases hk : ∃ p ∈ availablePoints L now user .cancelDeduct, p.1 = k
        · obtain ⟨p, hp, rfl⟩ := hk
          exact hall p hp
        · have hno : ∀ p ∈ availablePoints L now user .cancelDeduct, p.1 ≠ k :=
            fun p hp hc => hk ⟨p, hp, hc⟩
          rw [consumed_of_not_available hno, consumed_of_not_available]
          intro p hp
          rw [hrows] at hp
          obtain ⟨q, hq, rfl⟩ := List.mem_map.mp hp
          exact hno q hq
    rw [hleft]
    unfold consumed
    rw [hcaps]
    refine hiff.trans ?_
    unfold CoveredBeforeBack
    constructor
    · intro hcond pre p post hl hpos
      refine hcond pre p post hl ?_
      rw [hback p (by rw [hl]; simp)]
      exact hpos
    · intro hcond pre p post hl hpos
      refine hcond pre p post hl ?_
      rw [← hback p (by rw [hl]; simp)]
      exact hpos

/-- The accounts are the same in both orders. -/
theorem Backed.points_same (h : Backed L) (husable : earned ≤ getUsablePoints L now user)
    (v : UserId) :
    (reclaimIfEarned (refundIfUsed L now user used order none) now user earned order).points v
      = (refundIfUsed (reclaimIfEarned L now user earned order) now user used order
          none).points v := by
  have hpoints : earned ≤ L.points user := le_trans husable (h.usable_le_points now user)
  have hmore : earned ≤ getUsablePoints (refundIfUsed L now user used order none) now user :=
    le_trans husable (h.usable_refund used none)
  have hmorePoints : earned ≤ (refundIfUsed L now user used order none).points user :=
    le_trans hpoints (h.points_refund used none user)
  have htouch := reclaimIfEarned_touches hpoints husable order
  have hkeeps := keepsRow_usedBy now (consumed L now user earned .cancelDeduct)
  have hleft : 0 ≤ (reclaimIfEarned L now user earned order).points user := by
    rw [reclaimIfEarned_points hpoints husable, if_pos rfl]
    have h0 := h.points_nonneg user
    omega
  rw [reclaimIfEarned_points hmorePoints hmore, refundIfUsed_points (h.points_nonneg user),
    refundIfUsed_points hleft, reclaimIfEarned_points hpoints husable,
    htouch.restored hkeeps (reclaimIfEarned_outstanding hpoints husable order order) used,
    htouch.dueAmount hkeeps fun d hd => (restored_row hd).imp fun _ hr => hr.1]
  split
  · omega
  · omega

/-- What the rows have left is the same in both orders exactly when the points
earned are covered before any row that gets something back. -/
theorem Backed.remaining_same_iff (h : Backed L) (husable : earned ≤ getUsablePoints L now user) :
    (∀ k, (reclaimIfEarned (refundIfUsed L now user used order none) now user earned
        order).remainingAt k
      = (refundIfUsed (reclaimIfEarned L now user earned order) now user used order
          none).remainingAt k) ↔
      CoveredBeforeBack L now user used earned order := by
  have hpoints : earned ≤ L.points user := le_trans husable (h.usable_le_points now user)
  have hmore : earned ≤ getUsablePoints (refundIfUsed L now user used order none) now user :=
    le_trans husable (h.usable_refund used none)
  have hmorePoints : earned ≤ (refundIfUsed L now user used order none).points user :=
    le_trans hpoints (h.points_refund used none user)
  have hused := keepsRow_usedBy now (consumed L now user earned .cancelDeduct)
  have hreclaim := reclaimIfEarned_touches hpoints husable order
  have hrefund := refundIfUsed_touches L now user used order none
  -- The reclaim after the refund, and the refund after the reclaim.
  have hfirst := hrefund.trans (keepsRow_usedBy now _)
    (reclaimIfEarned_touches hmorePoints hmore order)
  have hsecond := hreclaim.trans (keepsRow_restoredBy now order _)
    (refundIfUsed_touches (reclaimIfEarned L now user earned order) now user used order none)
  rw [hreclaim.restored hused (reclaimIfEarned_outstanding hpoints husable order order) used]
    at hsecond
  rw [← h.consumed_same_iff]
  refine forall_congr' fun k => ?_
  rw [hfirst.remainingAt, hsecond.remainingAt]
  cases hr : L.histories.get? k with
  | none =>
    -- No entry is about a row that is not there.
    have hnone : ∀ {L' : Ledger}, L'.histories.get? k = none ∨ (∃ r, L'.histories.get? k = some r ∧
        r.type ≠ .earn) → amountAt k (consumed L' now user earned .cancelDeduct) = 0 := by
      intro L' hk
      refine consumed_of_not_available (fun p hp hpk => ?_) earned
      obtain ⟨hget, hus⟩ := (mem_availablePoints L' now user .cancelDeduct).mp hp
      rw [hpk] at hget
      rcases hk with hk | ⟨r, hk, ht⟩
      · rw [hk] at hget
        cases hget
      · rw [hk] at hget
        cases hget
        exact ht (isUsable_user hus).2
    have hafter : (refundIfUsed L now user used order none).histories.get? k = none ∨
        ∃ r, (refundIfUsed L now user used order none).histories.get? k = some r ∧
          r.type ≠ .earn := by
      cases hr' : (refundIfUsed L now user used order none).histories.get? k with
      | none => exact Or.inl rfl
      | some r => exact Or.inr ⟨r, rfl, hrefund.new_row hr hr'⟩
    simp [hnone (Or.inl hr), hnone hafter]
  | some r =>
    have htake : amountAt k (consumed L now user earned .cancelDeduct) ≤ r.remainingPoints :=
      consumed_le hr
    have htake0 : 0 ≤ amountAt k (consumed L now user earned .cancelDeduct) := consumed_nonneg k
    have hback : 0 ≤ amountAt k (restored L order used) := restored_nonneg k
    -- The row of the first order.
    have hone : (PointHistory.usedBy now (consumed (refundIfUsed L now user used order none) now
        user earned .cancelDeduct) k (PointHistory.restoredBy now order (restored L order used) k
          r)).remainingPoints
        = r.remainingPoints + backOf now (restored L order used) k r
          - amountAt k (consumed (refundIfUsed L now user used order none) now user earned
              .cancelDeduct) := by
      rw [usedBy_remainingPoints (consumed_nonneg k) (consumed_le (hrefund.get? hr)),
        h.restored_remaining hr now order used]
    -- The row of the second order.
    have htwo : (PointHistory.restoredBy now order (restored L order used) k
        (PointHistory.usedBy now (consumed L now user earned .cancelDeduct) k r)).remainingPoints
        = r.remainingPoints - amountAt k (consumed L now user earned .cancelDeduct)
          + backOf now (restored L order used) k r := by
      have hsame : backOf now (restored L order used) k
          (PointHistory.usedBy now (consumed L now user earned .cancelDeduct) k r)
            = backOf now (restored L order used) k r := by
        unfold backOf
        rw [hused.type, hused.expired, hused.expiry]
      rw [restoredBy_remaining hback (fun ht => ?_) fun ht => ?_, hsame,
        usedBy_remainingPoints htake0 htake]
      · rw [hused.type] at ht
        rw [usedBy_usedAmount htake0]
        have hle := h.restored_le_used hr ht order used
        omega
      · rw [hused.type] at ht
        rw [usedBy_usedAmount htake0, hused.points]
        have hle := h.used_le k r hr ht
        by_cases hpos : 0 < r.remainingPoints
        · obtain ⟨_, _, hrem⟩ := PointHistory.live_of_remainingPoints_pos hpos
          omega
        · omega
    show (_ : Int) = _ ↔ _
    rw [show (some r).elim 0 (fun r => (PointHistory.usedBy now (consumed (refundIfUsed L now user
        used order none) now user earned .cancelDeduct) k (PointHistory.restoredBy now order
          (restored L order used) k r)).remainingPoints) = _ from hone,
      show (some r).elim 0 (fun r => (PointHistory.restoredBy now order (restored L order used) k
        (PointHistory.usedBy now (consumed L now user earned .cancelDeduct) k
          r)).remainingPoints) = _ from htwo]
    constructor
    · intro heq
      omega
    · intro heq
      omega

end Orders

end Shopping
