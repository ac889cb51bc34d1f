import Shopping.Points.Standing

/-!
# An order that is refunded keeps no points alive

A user orders with points, the order is refunded in full, and the expiry batch
runs before, between and after.  Once every row that the order used is due,
the user has what a user has who never ordered.

`use` and `refund` move the same amount off and onto the account and the rows,
so the slack stays (`useOrder_slack`, `refundOrder_slack`).  The rows in between
are due at the end, so they leave nothing to either user.
-/

namespace Shopping

open PointService

variable {owner : OrderId → UserId} {u : UserId} {o : OrderId} {now : Time} {L : Ledger}
  {amount : Int}

/-! ## The order -/

/-- What a use of points can take of the user. -/
theorem usable_eq_remainingSum (L : Ledger) (now : Time) (u : UserId) :
    Entries.total (remainingCaps (availablePoints L now u .use)) = L.remainingSum u := by
  rw [availablePoints_total]
  refine Table.sum_congr fun k r _ => ?_
  by_cases hu : r.user = u
  · rw [if_pos hu]
    by_cases hpos : 0 < r.remainingPoints
    · obtain ⟨ht, hx, _⟩ := PointHistory.live_of_remainingPoints_pos hpos
      have husable : isUsable now u .use r = true := by simp [isUsable, hu, ht, hx]
      rw [if_pos husable]
    · have h0 := r.remainingPoints_nonneg
      split
      · rfl
      · omega
  · rw [if_neg hu, if_neg]
    intro hc
    exact hu (isUsable_user hc).1

/-- A use that the rows hold takes its amount off them. -/
theorem consumed_total (h0 : 0 ≤ amount) (hbacked : amount ≤ L.remainingSum u) :
    Entries.total (consumed L now u amount .use) = amount := by
  have hsum := consumed_add_missing L now u amount .use
  have hleft : 0 ≤ missing L now u amount .use := draw_left_nonneg h0 _
  have hcovered : missing L now u amount .use ≤ 0 := by
    rw [← usable_eq_remainingSum L now u] at hbacked
    exact draw_covered remainingCaps_nonneg hbacked
  omega

/-- A use of points that goes through. -/
theorem usePointsFifo_eq (h : (usePointsFifo L now u amount .use (some o)).1.success = true) :
    0 < amount ∧ (usePointsFifo L now u amount .use (some o)).1.usedDetails
        = consumed L now u amount .use ∧
      (usePointsFifo L now u amount .use (some o)).2
        = (L.touch (PointHistory.usedBy now (consumed L now u amount .use))).post now u (-amount)
            .use (some o) { usedDetails := consumed L now u amount .use } := by
  rcases usePointsFifo_cases L now u amount .use (some o) none with
    ⟨_, hno, _⟩ | ⟨_, ⟨hc, _⟩, _⟩ | ⟨hacc, _, _, hdetails, hL⟩
  · rw [hno] at h
    cases h
  · cases hc
  · exact ⟨hacc.1, hdetails, hL⟩

section Use

variable (hused : (usePointsFifo L now u amount .use (some o)).1.success = true)

include hused

/-- The order takes the same off the account and off the rows. -/
theorem useOrder_slack (hbacked : amount ≤ L.remainingSum u) :
    (usePointsFifo L now u amount .use (some o)).2.slack u = L.slack u := by
  obtain ⟨hpos, _, hL⟩ := usePointsFifo_eq hused
  unfold Ledger.slack
  rw [hL, post_points, post_remainingSum _ _ _ _ _ _ _ (by decide), consumed_remainingSum,
    if_pos rfl, if_pos rfl, consumed_total (le_of_lt hpos) hbacked]
  show L.points u + -amount - (L.remainingSum u - amount) = L.points u - L.remainingSum u
  omega

/-- The rows after the order. -/
theorem useOrder_touches :
    Touches (PointHistory.usedBy now (consumed L now u amount .use)) L
      (usePointsFifo L now u amount .use (some o)).2 := by
  rw [(usePointsFifo_eq hused).2.2]
  exact (Touches.touch L _).post (by decide) _ _ _ _ _

/-- The order only uses rows that are due at `T`. -/
theorem useOrder_lateLeft {T : Time}
    (hdue : ∀ d ∈ (usePointsFifo L now u amount .use (some o)).1.usedDetails, ∀ r,
      L.histories.get? d.1 = some r → r.expiry ≤ T) (k : Nat) :
    (usePointsFifo L now u amount .use (some o)).2.lateLeft u T k = L.lateLeft u T k := by
  rw [(usePointsFifo_eq hused).2.1] at hdue
  unfold Ledger.lateLeft
  rw [(useOrder_touches hused).earnRow (keepsEntry_usedBy now _)]
  cases hk : L.earnRow u k with
  | none => rfl
  | some r =>
    simp only [Option.map_some, Option.elim_some]
    rw [(keepsRow_usedBy now _).expiry]
    by_cases hlate : T < r.expiry
    · have hnone : amountAt k (consumed L now u amount .use) = 0 := by
        by_contra h0
        obtain ⟨d, hd, rfl⟩ := List.mem_map.mp (mem_keys_of_amountAt h0)
        exact absurd hlate (not_lt.mpr (hdue d hd r (Ledger.earnRow_eq_some.mp hk).1))
      have hsame : PointHistory.usedBy now (consumed L now u amount .use) k r = r := by
        unfold PointHistory.usedBy
        rw [if_neg (by omega)]
      rw [hsame]
    · rw [if_neg hlate, if_neg hlate]

/-- What a new order used of a row. -/
theorem useOrder_outstanding (hnew : ∀ k, outstanding L o k = 0) (k : Nat) :
    outstanding (usePointsFifo L now u amount .use (some o)).2 o k
      = amountAt k (consumed L now u amount .use) := by
  rw [(usePointsFifo_eq hused).2.2, post_outstanding, touch_outstanding (keepsEntry_usedBy now _),
    hnew, zero_add, recordedUse_use rfl]
  exact if_pos rfl

end Use

/-! ## The refund -/

section Refund

/-- The refund of the whole amount finds all of it on the rows. -/
theorem restored_total (h : Sound owner now L) {ds : Details}
    (hkeys : ∀ d ∈ ds, ∃ r, L.earnRow u d.1 = some r) (htotal : Entries.total ds = amount)
    (hout : ∀ k, outstanding L o k = amountAt k ds) :
    Entries.total (restored L o amount) = amount := by
  have hcaps : amount ≤ Entries.total (outstandingCaps (outstanding L o) (earnRows L o)) := by
    have hsum : Entries.total (outstandingCaps (outstanding L o) (earnRows L o))
        = L.histories.sum fun k r =>
          if (decide (0 < outstanding L o k) && decide (r.type = .earn)) = true then
            outstanding L o k else 0 := by
      unfold Entries.total outstandingCaps earnRows
      rw [List.map_map]
      exact Table.sum_select_insertionSort L.histories
        (fun k r => decide (0 < outstanding L o k) && decide (r.type = .earn))
        (fun k _ => outstanding L o k) expiresLast
    rw [hsum, ← htotal, ← sum_amountAt L.histories ds fun d hd =>
      (hkeys d hd).imp fun r hr => (Ledger.earnRow_eq_some.mp hr).1]
    refine Table.sum_le_sum fun k r hr => ?_
    rw [← hout]
    by_cases h0 : 0 < outstanding L o k
    · obtain ⟨r', hr', ht, _⟩ := h.covered.out_row o k h0
      rw [hr] at hr'
      cases hr'
      rw [if_pos (by simp [h0, ht])]
    · have h1 := h.covered.out_nonneg o k
      split
      · exact le_refl _
      · omega
  have hleft : unbacked L o amount ≤ 0 := by
    refine draw_covered (fun c hc => ?_) hcaps
    obtain ⟨p, hp, rfl⟩ := List.mem_map.mp hc
    exact le_of_lt (mem_earnRows.mp hp).2.1
  have hsplit := restored_add_unbacked L o amount
  have hnonneg : 0 ≤ unbacked L o amount := by
    refine draw_left_nonneg ?_ _
    rw [← htotal, ← sum_amountAt L.histories ds fun d hd =>
      (hkeys d hd).imp fun r hr => (Ledger.earnRow_eq_some.mp hr).1]
    refine Table.sum_nonneg fun k _ _ => ?_
    rw [← hout]
    exact h.covered.out_nonneg o k
  omega

variable (h : Sound owner now L) (howner : owner o = u) (hpos : 0 < amount) {type : PointType}
  (htype : type.isUsedPointsRefund = true) (returnId : Option Nat)

include hpos htype

/-- The rows after the refund. -/
theorem refundOrder_earnRow (k : Nat) :
    (refundUsedPoints L now u amount o type returnId).2.earnRow u k
      = (L.earnRow u k).map (PointHistory.restoredBy now o (restored L o amount) k) := by
  have hearn : type ≠ .earn := by
    intro hc
    rw [hc] at htype
    cases htype
  exact (refundUsedPoints_touches hpos hearn returnId).earnRow (keepsEntry_restoredBy _ _ _) u k

/-- The refund only gives back to rows that are due at `T`. -/
theorem refundOrder_lateLeft {T : Time}
    (hdue : ∀ k r, L.earnRow u k = some r → 0 < outstanding L o k → r.expiry ≤ T) (k : Nat) :
    (refundUsedPoints L now u amount o type returnId).2.lateLeft u T k = L.lateLeft u T k := by
  unfold Ledger.lateLeft
  rw [refundOrder_earnRow hpos htype]
  cases hk : L.earnRow u k with
  | none => rfl
  | some r =>
    simp only [Option.map_some, Option.elim_some]
    rw [(keepsRow_restoredBy now o _).expiry]
    by_cases hlate : T < r.expiry
    · have hnone : ¬ 0 < amountAt k (restored L o amount) := by
        intro h0
        have hnd : ((restored L o amount).map Prod.fst).Nodup := by
          refine draw_keys_nodup ?_ amount
          rw [outstandingCaps_keys]
          exact earnRows_nodup
        have hle := (mem_restored (mem_of_amountAt hnd (ne_of_gt h0))).2
        exact absurd hlate (not_lt.mpr (hdue k r hk (lt_of_lt_of_le h0 hle)))
      have hsame : PointHistory.restoredBy now o (restored L o amount) k r = r := by
        unfold PointHistory.restoredBy
        rw [if_neg fun hc => hnone hc.1]
      rw [hsame]
    · rw [if_neg hlate, if_neg hlate]

include h howner

/-- The refund puts the same on the account and on the rows, when no row that
the order used was flagged before its date. -/
theorem refundOrder_slack (htotal : Entries.total (restored L o amount) = amount)
    (hlive : ∀ k r, L.earnRow u k = some r → 0 < outstanding L o k →
      r.metadata.expired = true → r.expiry ≤ now) :
    (refundUsedPoints L now u amount o type returnId).2.slack u = L.slack u := by
  have hpoints := @refundUsedPoints_points L now u amount o hpos (h.points_nonneg u) type returnId u
  have hrows : (refundUsedPoints L now u amount o type returnId).2.remainingSum u
      = (L.touch (PointHistory.restoredBy now o (restored L o amount))).remainingSum u := by
    refine Ledger.remainingSum_congr fun k => ?_
    unfold Ledger.leftOf
    rw [refundOrder_earnRow hpos htype, (Touches.touch L _).earnRow (keepsEntry_restoredBy _ _ _)]
  -- Each row gets back what the order used of it, unless it is due.
  have hsum : (L.touch (PointHistory.restoredBy now o (restored L o amount))).remainingSum u
      = L.histories.sum fun k r => (if r.user = u then r.remainingPoints else 0)
        + (amountAt k (restored L o amount)
          - if r.expiry ≤ now then amountAt k (restored L o amount) else 0) := by
    unfold Ledger.remainingSum
    rw [Table.sum_mapRows]
    refine Table.sum_congr fun k r hr => ?_
    rw [(keepsEntry_restoredBy _ _ _).user, h.backed.restored_remaining hr]
    have h0 : 0 ≤ amountAt k (restored L o amount) := restored_nonneg k
    by_cases hback : 0 < amountAt k (restored L o amount)
    · have hout := lt_of_lt_of_le hback (restored_le h.covered o amount k)
      obtain ⟨r', hr', ht, hu⟩ := h.covered.out_row o k hout
      rw [hr] at hr'
      cases hr'
      rw [howner] at hu
      rw [if_pos hu, if_pos hu]
      unfold backOf
      by_cases hdue : r.expiry ≤ now
      · rw [if_neg fun hc => absurd hc.2.2 (not_lt.mpr hdue), if_pos hdue, sub_self]
      · have hx : r.metadata.expired = false := by
          rw [← Bool.not_eq_true]
          intro hx
          exact hdue (hlive k r (Ledger.earnRow_eq_some.mpr ⟨hr, hu, ht⟩) hout hx)
        rw [if_pos ⟨ht, hx, not_le.mp hdue⟩, if_neg hdue, sub_zero]
    · have hzero : amountAt k (restored L o amount) = 0 := by omega
      have hnone : backOf now (restored L o amount) k r = 0 := by
        unfold backOf
        rw [hzero, ite_self]
      rw [hnone, hzero, add_zero, ite_self, sub_zero, add_zero]
  have hdue : (L.histories.sum fun k r =>
      if r.expiry ≤ now then amountAt k (restored L o amount) else 0)
        = L.dueAmount now (restored L o amount) := rfl
  rw [Table.sum_add, Table.sum_sub, hdue, sum_amountAt L.histories _ fun d hd =>
    (restored_row hd).imp fun _ hr => hr.1, htotal] at hsum
  unfold Ledger.slack
  rw [hpoints, if_pos rfl, hrows, hsum]
  unfold Ledger.remainingSum
  omega

end Refund

/-! ## The time around the order -/

/-- A run of the batch, also of one that read its rows a while ago, or an
operation on another user. -/
def sparesUser (owner : OrderId → UserId) (u : UserId) (s : Time × Ledger) (e : Time × PointOp) :
    Bool :=
  match e.2 with
  | .add user _ _ _ _ => decide (user ≠ u)
  | .use user _ _ _ _ => decide (user ≠ u)
  | .refund order _ _ _ => decide (owner order ≠ u)
  | .expireOne k _ => (s.2.histories.get? k).all fun r =>
      decide (r.user ≠ u) || decide (r.expiry ≤ e.1)
  | .expireAll _ => true

/-- One such step. -/
theorem Stands.apply (h : Sound owner now L) {op : PointOp} (hallowed : op.allowed owner = true)
    {t : Time} (hspares : sparesUser owner u (t, L) (now, op) = true) :
    Stands owner u now L (op.apply owner now L) := by
  cases op with
  | add user amount type order returnId =>
    simp only [PointOp.apply]
    cases hadd : PointService.addPoints L now user amount type order returnId with
    | error e => exact .refl owner u now L
    | ok out => exact .add (of_decide_eq_true hspares) hadd
  | use user amount type order returnId =>
    unfold PointOp.allowed at hallowed
    simp only [Bool.and_eq_true, Option.all_eq_true, decide_eq_true_eq] at hallowed
    exact .use (of_decide_eq_true hspares) amount type (fun o ho => hallowed.2 o ho) returnId
  | refund order amount type returnId =>
    exact .refund h.covered (of_decide_eq_true hspares) amount hallowed returnId
      (h.points_nonneg _)
  | expireOne k stale =>
    simp only [PointOp.apply]
    cases hr : L.histories.get? k with
    | none => exact .refl owner u now L
    | some r =>
      dsimp only
      cases hexp : PointService.expireOne L now k { r with metadata := stale } with
      | error e => exact .refl owner u now L
      | ok out =>
        refine .expireOne h (fun s hs => ?_) hexp
        rw [hr] at hs
        cases hs
        refine ⟨rfl, fun hu => ?_⟩
        simp only [sparesUser, hr, Option.all_some, Bool.or_eq_true, decide_eq_true_eq] at hspares
        exact hspares.resolve_left fun hc => hc hu
  | expireAll fails => exact .expirePoints h fails

/-- A run of such steps. -/
theorem Stands.of_run {s t : Time × Ledger} {es : List (Time × PointOp)} (h : Sound owner s.1 s.2)
    (hrun : Run (pointStep owner) (fun s e => sparesUser owner u s e = true) s es t) :
    Sound owner t.1 t.2 ∧ s.1 ≤ t.1 ∧ Stands owner u t.1 s.2 t.2 := by
  refine hrun.invariant (fun t => Sound owner t.1 t.2 ∧ s.1 ≤ t.1 ∧ Stands owner u t.1 s.2 t.2)
    ⟨h, le_refl _, .refl owner u s.1 s.2⟩ ?_
  rintro t ⟨now, op⟩ t' ⟨hsound, hle, hstands⟩ hspares hstep
  unfold pointStep at hstep
  by_cases hc : t.1 ≤ now ∧ op.allowed owner = true
  · rw [if_pos hc] at hstep
    cases hstep
    have hnow := hsound.mono hc.1
    exact ⟨hnow.apply hc.2, le_trans hle hc.1,
      hstands.trans (.apply hnow hc.2 hspares) hc.1⟩
  · rw [if_neg hc] at hstep
    cases hstep

/-- A step that is taken. -/
theorem pointStep_eq_some {s s' : Time × Ledger} {t : Time} {op : PointOp}
    (h : pointStep owner s (t, op) = some s') :
    s.1 ≤ t ∧ op.allowed owner = true ∧ s' = (t, op.apply owner t s.2) := by
  unfold pointStep at h
  by_cases hc : s.1 ≤ t ∧ op.allowed owner = true
  · rw [if_pos hc] at h
    cases h
    exact ⟨hc.1, hc.2, rfl⟩
  · rw [if_neg hc] at h
    cases h

/-! ## No expiry laundering -/

/-- What a batch at `T` leaves to a user who stands as before. -/
theorem batch_same {T : Time} {L L' : Ledger} (h : Sound owner T L) (h' : Sound owner T L')
    (hslack : L'.slack u = L.slack u) (hlate : ∀ k, L'.lateLeft u T k = L.lateLeft u T k) :
    (expirePoints L' T fun _ => false).2.points u = (expirePoints L T fun _ => false).2.points u ∧
      ∀ k, (expirePoints L' T fun _ => false).2.leftOf u k
        = (expirePoints L T fun _ => false).2.leftOf u k := by
  obtain ⟨hleft, hsl⟩ := expirePoints_leaves (u := u) h
  obtain ⟨hleft', hsl'⟩ := expirePoints_leaves (u := u) h'
  have hsame : ∀ k, (expirePoints L' T fun _ => false).2.leftOf u k
      = (expirePoints L T fun _ => false).2.leftOf u k := by
    intro k
    rw [hleft, hleft', hlate]
  refine ⟨points_of_leftOf ?_ hsame, hsame⟩
  rw [hsl, hsl', hslack]

/-- An order that uses points and is refunded in full, with the batch before,
between and after, leaves its user at `T` with the same points, and the same on
every earn row, as no order at all, once every row that the order used is due
at `T`. -/
theorem no_expiry_laundering {s₀ s₁ s₂ s₃ s₄ s₅ s' : Time × Ledger}
    {es₁ es₂ es₃ es' : List (Time × PointOp)} {t₁ t₂ T : Time} {type : PointType}
    {returnId : Option Nat} (h₀ : Sound owner s₀.1 s₀.2)
    (hnew : ∀ k r, s₀.2.histories.get? k = some r → r.order ≠ some o)
    (hbefore : Run (pointStep owner) (fun s e => sparesUser owner u s e = true) s₀ es₁ s₁)
    (huse : pointStep owner s₁ (t₁, .use u amount .use (some o) none) = some s₂)
    (hused : (usePointsFifo s₁.2 t₁ u amount .use (some o)).1.success = true)
    (hbacked : amount ≤ s₁.2.remainingSum u)
    (hdue : ∀ d ∈ (usePointsFifo s₁.2 t₁ u amount .use (some o)).1.usedDetails, ∀ r,
      s₁.2.histories.get? d.1 = some r → r.expiry ≤ T)
    (hbetween : Run (pointStep owner) (fun s e => sparesUser owner u s e = true) s₂ es₂ s₃)
    (hrefund : pointStep owner s₃ (t₂, .refund o amount type returnId) = some s₄)
    (hafter : Run (pointStep owner) (fun s e => sparesUser owner u s e = true) s₄ es₃ s₅)
    (hnever : Run (pointStep owner) (fun s e => sparesUser owner u s e = true) s₀ es' s')
    (hT : s₅.1 ≤ T) (hT' : s'.1 ≤ T) :
    (expirePoints s₅.2 T fun _ => false).2.points u
        = (expirePoints s'.2 T fun _ => false).2.points u ∧
      ∀ k, (expirePoints s₅.2 T fun _ => false).2.leftOf u k
        = (expirePoints s'.2 T fun _ => false).2.leftOf u k := by
  obtain ⟨h₁, hle₁, hstands₁⟩ := Stands.of_run h₀ hbefore
  obtain ⟨ht₁, hallowed₁, rfl⟩ := pointStep_eq_some huse
  have howner : owner o = u := by simpa [PointOp.allowed] using hallowed₁
  have hnow₁ := h₁.mono ht₁
  obtain ⟨h₃, hle₃, hstands₃⟩ := Stands.of_run (hnow₁.apply hallowed₁) hbetween
  obtain ⟨ht₂, hallowed₂, rfl⟩ := pointStep_eq_some hrefund
  have hnow₃ := h₃.mono ht₂
  obtain ⟨h₅, hle₅, hstands₅⟩ := Stands.of_run (hnow₃.apply hallowed₂) hafter
  obtain ⟨h'', _, hstands'⟩ := Stands.of_run h₀ hnever
  obtain ⟨hpos, hdetails, _⟩ := usePointsFifo_eq hused
  have hT₃ : s₃.1 ≤ T := le_trans (le_trans ht₂ hle₅) hT
  have hT₁ : s₁.1 ≤ T := le_trans (le_trans ht₁ hle₃) hT₃
  -- What the order has on record between the two.
  have hzero : ∀ k, outstanding s₁.2 o k = 0 := by
    intro k
    rw [hstands₁.out o howner]
    refine (Table.sum_congr fun j r hj => ?_).trans (Table.sum_zero _)
    rw [if_neg (hnew j r hj)]
  have hout₃ : ∀ k, outstanding s₃.2 o k = amountAt k (consumed s₁.2 t₁ u amount .use) :=
    fun k => (hstands₃.out o howner k).trans (useOrder_outstanding hused hzero k)
  have hentry : ∀ d ∈ consumed s₁.2 t₁ u amount .use, ∃ r, s₃.2.earnRow u d.1 = some r ∧
      r.expiry ≤ T ∧ (r.metadata.expired = true → r.expiry ≤ t₂) := by
    intro d hd
    obtain ⟨_, r₁, hr₁, husable, _⟩ := mem_consumed hd
    obtain ⟨hu, ht⟩ := isUsable_user husable
    have hlive : r₁.metadata.expired = false := by
      simp only [isUsable, Bool.and_eq_true, Bool.not_eq_true'] at husable
      exact husable.2
    have hdue₁ : r₁.expiry ≤ T := hdue d (hdetails ▸ hd) r₁ hr₁
    have hrow₂ : (usePointsFifo s₁.2 t₁ u amount .use (some o)).2.earnRow u d.1
        = some (PointHistory.usedBy t₁ (consumed s₁.2 t₁ u amount .use) d.1 r₁) := by
      rw [(useOrder_touches hused).earnRow (keepsEntry_usedBy t₁ _),
        Ledger.earnRow_eq_some.mpr ⟨hr₁, hu, ht⟩]
      rfl
    have hkeeps := keepsRow_usedBy t₁ (consumed s₁.2 t₁ u amount .use)
    have hrel := hstands₃.rows d.1
    change Option.Rel _ ((usePointsFifo s₁.2 t₁ u amount .use (some o)).2.earnRow u d.1) _ at hrel
    rw [hrow₂] at hrel
    generalize hr₃ : s₃.2.earnRow u d.1 = x at hrel
    cases hrel with
    | some hab =>
      rename_i r
      refine ⟨r, rfl, ?_⟩
      rcases hab with rfl | ⟨hdate, hexpiry, _⟩
      · rw [hkeeps.expiry, hkeeps.expired, hlive]
        exact ⟨hdue₁, fun h => by cases h⟩
      · rw [hkeeps.expiry] at hdate hexpiry
        rw [hexpiry]
        exact ⟨hdue₁, fun _ => le_trans hdate ht₂⟩
  have hrow₃ : ∀ k r, s₃.2.earnRow u k = some r → 0 < outstanding s₃.2 o k →
      r.expiry ≤ T ∧ (r.metadata.expired = true → r.expiry ≤ t₂) := by
    intro k r hr hpos
    rw [hout₃] at hpos
    obtain ⟨d, hd, rfl⟩ := List.mem_map.mp (mem_keys_of_amountAt (ne_of_gt hpos))
    obtain ⟨r', hr', hentry'⟩ := hentry d hd
    rw [hr] at hr'
    cases hr'
    exact hentry'
  have htotal := restored_total h₃ (fun d hd => (hentry d hd).imp fun _ hr => hr.1)
    (consumed_total (le_of_lt hpos) hbacked) hout₃
  have happly : ∀ L, (PointOp.refund o amount type returnId).apply owner t₂ L
      = (refundUsedPoints L t₂ u amount o type returnId).2 := by
    intro L
    rw [← howner]
    rfl
  -- Both users stand at the end as they stood at the start.
  have hslack : s₅.2.slack u = s'.2.slack u := by
    rw [hstands₅.slack, hstands'.slack, happly,
      refundOrder_slack hnow₃ howner hpos hallowed₂ returnId htotal
        fun k r hr ho => (hrow₃ k r hr ho).2, hstands₃.slack]
    exact (useOrder_slack hused hbacked).trans hstands₁.slack
  have hlate : ∀ k, s₅.2.lateLeft u T k = s'.2.lateLeft u T k := by
    intro k
    rw [hstands₅.lateLeft hT, hstands'.lateLeft hT', happly,
      refundOrder_lateLeft hpos hallowed₂ returnId fun k r hr ho => (hrow₃ k r hr ho).1,
      hstands₃.lateLeft hT₃]
    exact (useOrder_lateLeft hused hdue k).trans (hstands₁.lateLeft hT₁ k)
  exact batch_same (h''.mono hT') (h₅.mono hT) hslack hlate

/-- An account with 1000 points on one row. -/
def oneRowLedger : Ledger :=
  (PointOp.add 7 1000 .earn none none).apply (fun _ => 7) 0 Ledger.empty

/-- The account after an order took 600 of them. -/
def ordered600 : Ledger :=
  (PointOp.use 7 600 .use (some 3) none).apply (fun _ => 7) 5 oneRowLedger

/-- The order is made while the row lives and refunded after the batch has
flagged it. -/
theorem no_expiry_laundering_between :
    ∃ s : Time × Ledger, Run (pointStep fun _ => 7)
        (fun s e => sparesUser (fun _ => 7) 7 s e = true) (5, ordered600)
        [(earnLifetime, .expireAll fun _ => false)] s ∧
      (expirePoints ((PointOp.refund 3 600 .cancelRefund none).apply (fun _ => 7) earnLifetime s.2)
          earnLifetime fun _ => false).2.points 7
        = (expirePoints oneRowLedger earnLifetime fun _ => false).2.points 7 := by
  have hbetween : Run (pointStep fun _ => 7) (fun s e => sparesUser (fun _ => 7) 7 s e = true)
      (5, ordered600) [(earnLifetime, .expireAll fun _ => false)]
      (earnLifetime, (PointOp.expireAll fun _ => false).apply (fun _ => 7) earnLifetime
        ordered600) := Run.nil.snoc rfl rfl
  have hsound : Sound (fun _ => 7) 0 oneRowLedger := (Sound.empty (fun _ => 7) 0).apply rfl
  have hrow : ∀ k r, oneRowLedger.histories.get? k = some r →
      k = 1 ∧ r.order = none ∧ r.expiry = earnLifetime := by
    intro k r hr
    have hhistories : oneRowLedger.histories = Table.empty.insert
      (PointHistory.create 0 7 1000 1000 .earn none {}) := rfl
    rw [hhistories, Table.get?_insert, Table.get?_empty] at hr
    split at hr
    · rename_i hk
      cases hr
      exact ⟨hk, rfl, rfl⟩
    · cases hr
  refine ⟨_, hbetween, ?_⟩
  refine (@no_expiry_laundering (fun _ => 7) 7 3 600 (0, oneRowLedger) (0, oneRowLedger) _ _ _ _
    (0, oneRowLedger) [] _ [] [] 5 earnLifetime earnLifetime .cancelRefund none hsound
    (fun k r hr => ?_) .nil rfl (by decide) (by decide) (fun d _ r hr => ?_) hbetween rfl .nil .nil
    (le_refl _) (Nat.zero_le _)).1
  · rw [(hrow k r hr).2.1]
    nofun
  · exact le_of_eq (hrow d.1 r hr).2.2

end Shopping
