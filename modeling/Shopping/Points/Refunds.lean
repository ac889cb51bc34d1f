import Shopping.Points.Uses

/-!
# Refunds and expiry keep the invariant

`refund_used_points` gives an order's use back to the earn rows it came from
and credits the amount; what went to rows that are due expires at once in a
second row.  `_expire_one` takes what one due row has left, and
`expire_points` does so for every due row.

The clamps of the three (`max(0, ..)` on `used_amount` and `Greatest(.., 0)` on
`user.points`) are the identity: `restored_le`, `Sound.dueAmount_le` and
`Sound.remaining_le_points` say why.
-/

namespace Shopping

open PointService

variable {owner : OrderId → UserId} {now : Time} {L : Ledger}

/-! ## Giving used points back -/

section Refund

/-- `restored` of `refund_used_points`. -/
def restored (L : Ledger) (order : OrderId) (amount : Int) : Details :=
  (draw amount (outstandingCaps (outstanding L order) (earnRows L order))).1

/-- `to_restore` after the loop of `refund_used_points`. -/
def unbacked (L : Ledger) (order : OrderId) (amount : Int) : Int :=
  (draw amount (outstandingCaps (outstanding L order) (earnRows L order))).2

variable {order : OrderId} {amount : Int}

theorem mem_earnRows {p : Nat × PointHistory} :
    p ∈ earnRows L order ↔
      L.histories.get? p.1 = some p.2 ∧ 0 < outstanding L order p.1 ∧ p.2.type = .earn := by
  unfold earnRows
  rw [List.mem_insertionSort, ← Prod.mk.eta (p := p), Table.mem_select, Bool.and_eq_true,
    decide_eq_true_eq, decide_eq_true_eq]

theorem earnRows_nodup : ((earnRows L order).map Prod.fst).Nodup :=
  Table.select_insertionSort_nodup _ _ _

theorem restoreLoop_earnRows (now : Time) (L : Ledger) (order : OrderId) (amount : Int) :
    restoreLoop now order (outstanding L order) L (earnRows L order) amount
      = (L.touch (PointHistory.restoredBy now order (restored L order amount)),
          restored L order amount, L.dueAmount now (restored L order amount),
          unbacked L order amount) := by
  refine restoreLoop_eq now order (outstanding L order) L _ amount earnRows_nodup
    (fun p hp => ?_) fun p hp => ?_
  · exact (mem_earnRows.mp hp).2.1
  · exact ⟨p.2, (mem_earnRows.mp hp).1, rfl⟩

theorem restored_add_unbacked (L : Ledger) (order : OrderId) (amount : Int) :
    Entries.total (restored L order amount) + unbacked L order amount = amount :=
  draw_total _ _

/-- Each entry is about an earn row that the order used. -/
theorem mem_restored {d : Nat × Int} (hd : d ∈ restored L order amount) :
    0 < d.2 ∧ d.2 ≤ outstanding L order d.1 := by
  obtain ⟨hpos, cap, hcap, hle⟩ := draw_entry hd
  obtain ⟨p, _, hpc⟩ := List.mem_map.mp hcap
  obtain ⟨hk, hc⟩ := Prod.mk.inj hpc
  refine ⟨hpos, ?_⟩
  rw [← hk, hc]
  exact hle

theorem restored_nonneg (k : Nat) : 0 ≤ amountAt k (restored L order amount) :=
  draw_amountAt_nonneg _ _ k

/-- Each entry is about an earn row. -/
theorem restored_row {d : Nat × Int} (hd : d ∈ restored L order amount) :
    ∃ r, L.histories.get? d.1 = some r ∧ r.type = .earn := by
  obtain ⟨_, cap, hcap, _⟩ := draw_entry hd
  obtain ⟨p, hp, hpc⟩ := List.mem_map.mp hcap
  obtain ⟨hget, _, ht⟩ := mem_earnRows.mp hp
  obtain ⟨hk, _⟩ := Prod.mk.inj hpc
  exact ⟨p.2, hk ▸ hget, ht⟩

theorem restored_le_outstanding {k : Nat} (h : 0 ≤ outstanding L order k) :
    amountAt k (restored L order amount) ≤ outstanding L order k := by
  by_cases h0 : amountAt k (restored L order amount) = 0
  · rw [h0]
    exact h
  · have hnd : ((restored L order amount).map Prod.fst).Nodup := by
      refine draw_keys_nodup ?_ amount
      rw [outstandingCaps_keys]
      exact earnRows_nodup
    exact (mem_restored (mem_of_amountAt hnd h0)).2

/-- No row gets back more than the order has on record for it. -/
theorem restored_le (h : Covered owner L) (order : OrderId) (amount : Int) (k : Nat) :
    amountAt k (restored L order amount) ≤ outstanding L order k :=
  restored_le_outstanding (h.out_nonneg order k)

/-- The rows in the entries belong to the order's user. -/
theorem restored_user (h : Covered owner L) {d : Nat × Int}
    (hd : d ∈ restored L order amount) :
    ∃ r, L.histories.get? d.1 = some r ∧ r.user = owner order := by
  obtain ⟨hpos, hle⟩ := mem_restored hd
  obtain ⟨r, hr, _, hu⟩ := h.out_row order d.1 (lt_of_lt_of_le hpos hle)
  exact ⟨r, hr, hu⟩

/-- What expires at once is part of what is given back. -/
theorem dueAmount_le_total (L : Ledger) (now : Time) (order : OrderId) (amount : Int) :
    L.dueAmount now (restored L order amount) ≤ Entries.total (restored L order amount) := by
  rw [← sum_amountAt L.histories _ fun d hd => (restored_row hd).imp fun _ hr => hr.1]
  refine Table.sum_le_sum fun k r _ => ?_
  split
  · exact le_refl _
  · exact restored_nonneg k

theorem dueAmount_nonneg : 0 ≤ L.dueAmount now (restored L order amount) := by
  refine Table.sum_nonneg fun k r _ => ?_
  split
  · exact restored_nonneg k
  · exact le_refl 0

/-- What expires at once is within the amount of the refund. -/
theorem dueAmount_le (hamount : 0 ≤ amount) (L : Ledger) (now : Time) (order : OrderId) :
    L.dueAmount now (restored L order amount) ≤ amount := by
  have hdue := dueAmount_le_total L now order amount
  have htot := restored_add_unbacked L order amount
  have hleft : 0 ≤ unbacked L order amount := draw_left_nonneg hamount _
  omega

/-- The use a row records after the give-back: the clamp is the identity. -/
theorem restoredBy_usedAmount (h : Covered owner L) {k : Nat} {r : PointHistory}
    (hr : L.histories.get? k = some r) (ht : r.type = .earn) (now : Time) (order : OrderId)
    (amount : Int) :
    (PointHistory.restoredBy now order (restored L order amount) k r).metadata.usedAmount
      = r.metadata.usedAmount
          - if now < r.expiry then amountAt k (restored L order amount) else 0 := by
  have hle := le_trans (restored_le h order amount k) (h.out_le hr ht order)
  have h0 : 0 ≤ amountAt k (restored L order amount) := restored_nonneg k
  unfold PointHistory.restoredBy
  by_cases hpos : 0 < amountAt k (restored L order amount)
  · by_cases hdue : now < r.expiry
    · rw [if_pos ⟨hpos, hdue⟩, if_pos hdue]
      exact max_eq_right (by omega)
    · rw [if_neg fun hc => hdue hc.2, if_neg hdue, sub_zero]
  · rw [if_neg fun hc => hpos hc.1]
    split <;> omega

/-- A row has at most the amount more left that it got back. -/
theorem restoredBy_remainingPoints (h : Covered owner L) {k : Nat} {r : PointHistory}
    (hr : L.histories.get? k = some r) (now : Time) (order : OrderId) (amount : Int) :
    (PointHistory.restoredBy now order (restored L order amount) k r).remainingPoints
      ≤ r.remainingPoints + if now < r.expiry then amountAt k (restored L order amount)
          else 0 := by
  have h0 : 0 ≤ amountAt k (restored L order amount) := restored_nonneg k
  by_cases ht : r.type = .earn
  · have hused := restoredBy_usedAmount h hr ht now order amount
    have hty := (keepsEntry_restoredBy now order (restored L order amount)).type k r
    have hpt := (keepsEntry_restoredBy now order (restored L order amount)).points k r
    have hx : (PointHistory.restoredBy now order (restored L order amount) k r).metadata.expired
        = r.metadata.expired := by
      unfold PointHistory.restoredBy
      split <;> rfl
    have hle := h.used_le k r hr ht
    unfold PointHistory.remainingPoints
    rw [hty, if_neg (not_not.mpr ht), if_neg (not_not.mpr ht), hx, hpt, hused]
    by_cases hexp : r.metadata.expired = true
    · rw [if_pos hexp, if_pos hexp]
      split <;> omega
    · rw [if_neg hexp, if_neg hexp]
      split <;> omega
  · have hty := (keepsEntry_restoredBy now order (restored L order amount)).type k r
    rw [PointHistory.remainingPoints_of_ne (hty ▸ ht), PointHistory.remainingPoints_of_ne ht]
    split <;> omega

/-- The user's rows have at most the amount more left that did not expire at
once. -/
theorem restored_remainingSum (h : Covered owner L) (now : Time) (order : OrderId) (amount : Int)
    (v : UserId) :
    (L.touch (PointHistory.restoredBy now order (restored L order amount))).remainingSum v
      ≤ L.remainingSum v + if owner order = v then
          Entries.total (restored L order amount) - L.dueAmount now (restored L order amount)
          else 0 := by
  have hrows : (L.touch (PointHistory.restoredBy now order
        (restored L order amount))).remainingSum v
      ≤ L.histories.sum fun k r => (if r.user = v then r.remainingPoints else 0)
          + ((if r.user = v then amountAt k (restored L order amount) else 0)
            - if r.user = v then
                if r.expiry ≤ now then amountAt k (restored L order amount) else 0
              else 0) := by
    unfold Ledger.remainingSum
    rw [Table.sum_mapRows]
    refine Table.sum_le_sum fun k r hr => ?_
    rw [(keepsEntry_restoredBy _ _ _).user]
    have hrow := restoredBy_remainingPoints h hr now order amount
    by_cases hu : r.user = v
    · simp only [if_pos hu]
      by_cases hdue : now < r.expiry
      · rw [if_pos hdue] at hrow
        rw [if_neg (not_le.mpr hdue)]
        omega
      · rw [if_neg hdue] at hrow
        rw [if_pos (not_lt.mp hdue)]
        omega
    · simp only [if_neg hu]
      omega
  have hdue : (L.histories.sum fun k r => if r.user = v then
        if r.expiry ≤ now then amountAt k (restored L order amount) else 0 else 0)
      = if owner order = v then L.dueAmount now (restored L order amount) else 0 := by
    have husers := fun (d : Nat × Int) (hd : d ∈ restored L order amount) => restored_user h hd
    refine sum_of_user husers
      (fun k r h0 => ?_) v
    rw [h0, ite_self]
  rw [Table.sum_add, Table.sum_sub, sum_amountAt_user (fun d hd => restored_user h hd), hdue]
    at hrows
  unfold Ledger.remainingSum at hrows ⊢
  split at hrows
  · rename_i hv
    rw [if_pos hv]
    omega
  · rename_i hv
    rw [if_neg hv]
    omega

/-- The refund row takes back what the order had on record, as far as the
rows gave it back. -/
theorem Covered.restore_post (h : Covered owner L) {type : PointType}
    (htype : type.isUsedPointsRefund = true) (returnId : Option Nat) :
    Covered owner ((L.touch (PointHistory.restoredBy now order (restored L order amount))).post
      now (owner order) amount type (some order)
      { restoredDetails := restored L order amount,
        expiredOnRefund := L.dueAmount now (restored L order amount),
        unbacked := unbacked L order amount, returnId := returnId }) := by
  have hearn : type ≠ .earn := by
    intro hc
    rw [hc] at htype
    cases htype
  have hkeeps := keepsEntry_restoredBy now order (restored L order amount)
  have hle := restored_le h order amount
  have hrec : ∀ o k, recordedUse o k (postedRow
      (L.touch (PointHistory.restoredBy now order (restored L order amount))) now (owner order)
      amount type (some order)
      { restoredDetails := restored L order amount,
        expiredOnRefund := L.dueAmount now (restored L order amount),
        unbacked := unbacked L order amount, returnId := returnId })
        = if order = o then -amountAt k (restored L order amount) else 0 := by
    intro o k
    rw [recordedUse_refund htype]
    simp only [PointHistory.create, Option.some.injEq]
  have hget : ∀ k r, (L.touch (PointHistory.restoredBy now order
      (restored L order amount))).histories.get? k = some r → r.type = .earn →
        ∃ r', L.histories.get? k = some r' ∧ r'.type = .earn ∧
          PointHistory.restoredBy now order (restored L order amount) k r' = r := by
    intro k r hr ht
    rw [Table.get?_mapRows, Option.map_eq_some_iff] at hr
    obtain ⟨r', hr', rfl⟩ := hr
    exact ⟨r', hr', hkeeps.type k r' ▸ ht, rfl⟩
  refine Covered.of_post hearn hrec (fun k r hr ht => ?_) (fun o k => ?_)
    (fun k r hr ht os => ?_) (fun o k hpos => ?_)
  · obtain ⟨r', hr', ht', rfl⟩ := hget k r hr ht
    have hused := h.used_le k r' hr' ht'
    have h0 : 0 ≤ amountAt k (restored L order amount) := restored_nonneg k
    rw [restoredBy_usedAmount h hr' ht', hkeeps.points]
    split <;> omega
  · rw [touch_outstanding hkeeps]
    have hn := h.out_nonneg o k
    have hk := hle k
    by_cases ho : order = o
    · rw [if_pos ho, ← ho]
      omega
    · rw [if_neg ho]
      omega
  · obtain ⟨r', hr', ht', rfl⟩ := hget k r hr ht
    have h0 : 0 ≤ amountAt k (restored L order amount) := restored_nonneg k
    rw [restoredBy_usedAmount h hr' ht', Finset.sum_add_distrib, Finset.sum_ite_eq]
    simp only [touch_outstanding hkeeps]
    by_cases ho : order ∈ os
    · have hsum := h.out_sum k r' hr' ht' os
      rw [if_pos ho]
      split <;> omega
    · -- The order's own use stands beside the one of the listed orders.
      have hsum := h.out_sum k r' hr' ht' (insert order os)
      rw [Finset.sum_insert ho] at hsum
      have hk := hle k
      rw [if_neg ho]
      split <;> omega
  · rw [touch_outstanding hkeeps] at hpos
    have h0 : 0 ≤ amountAt k (restored L order amount) := restored_nonneg k
    have hout : 0 < outstanding L o k := by
      split at hpos <;> omega
    obtain ⟨r, hr, ht, hu⟩ := h.out_row o k hout
    refine ⟨PointHistory.restoredBy now order (restored L order amount) k r, ?_,
      (hkeeps.type k r).trans ht, (hkeeps.user k r).trans hu⟩
    rw [Table.get?_mapRows, hr]
    rfl

/-- Points that expire at once, on an account that holds them beside what its
rows have left. -/
theorem Sound.expire_now {C : Ledger} (hbooked : Booked now C) (hcov : Covered owner C)
    {u : UserId} {x : Int} (hx : 0 ≤ x) (hle : x ≤ C.points u)
    (hsolv : ∀ v, C.remainingSum v + (if u = v then x else 0) ≤ C.points v)
    (o : Option OrderId) {m : Metadata} (hm : m.usedAmount = 0) :
    Sound owner now (if 0 < x then
      (C.setPoints u (max (C.points u - x) 0)).createHistory now u (-x) .expire o m else C) := by
  by_cases hpos : 0 < x
  · have hne : PointType.expire ≠ .earn := by decide
    rw [if_pos hpos, Ledger.debit_eq_post hle]
    refine ⟨hbooked.post (by omega) _ _ _, hcov.post_plain (Or.inr hne) _ _ _ hm ?_, fun v => ?_⟩
    · intro o k
      exact recordedUse_eq_zero fun _ => ⟨fun hc => PointType.noConfusion hc, rfl⟩
    · rw [post_remainingSum _ _ _ _ _ _ _ hne, post_points]
      have hv := hsolv v
      by_cases hu : u = v
      · rw [if_pos hu] at hv ⊢
        omega
      · rw [if_neg hu] at hv ⊢
        omega
  · rw [if_neg hpos]
    refine ⟨hbooked, hcov, fun v => ?_⟩
    have hv := hsolv v
    split at hv <;> omega

theorem Sound.refundUsedPoints (h : Sound owner now L) {type : PointType}
    (htype : type.isUsedPointsRefund = true) (returnId : Option Nat) :
    Sound owner now (refundUsedPoints L now (owner order) amount order type returnId).2 := by
  unfold PointService.refundUsedPoints
  by_cases h0 : amount ≤ 0
  · rw [if_pos h0]
    exact h
  · rw [if_neg h0, restoreLoop_earnRows]
    have hearn : type ≠ .earn := by
      intro hc
      rw [hc] at htype
      cases htype
    have hpts := h.points_nonneg (owner order)
    have hdue := dueAmount_le (by omega : 0 ≤ amount) L now order
    have hleft : 0 ≤ unbacked L order amount := draw_left_nonneg (by omega) _
    have htot := restored_add_unbacked L order amount
    have hbal : 0 ≤ L.points (owner order) + amount := by omega
    have hbooked := (h.booked.touch (keepsEntry_restoredBy now order
      (restored L order amount))).post hbal type (some order)
        { restoredDetails := restored L order amount,
          expiredOnRefund := L.dueAmount now (restored L order amount),
          unbacked := unbacked L order amount, returnId := returnId }
    refine Sound.expire_now hbooked (h.covered.restore_post htype returnId) dueAmount_nonneg ?_
      (fun v => ?_) _ rfl
    · rw [post_points, if_pos rfl]
      show _ ≤ L.points (owner order) + amount
      omega
    · rw [post_remainingSum _ _ _ _ _ _ _ hearn, post_points]
      show _ ≤ L.points v + _
      have hv := h.solvent v
      have hr := restored_remainingSum h.covered now order amount v
      by_cases hu : owner order = v
      · rw [if_pos hu] at hr
        rw [if_pos hu, if_pos hu]
        omega
      · rw [if_neg hu] at hr
        rw [if_neg hu, if_neg hu]
        omega

end Refund

/-! ## Expiry -/

section Expiry

/-- What the expiry of one row leaves of the row. -/
theorem recordExpiry_remainingPoints (x : Int) (r : PointHistory) :
    (PointHistory.recordExpiry now x r).remainingPoints = 0 := by
  unfold PointHistory.remainingPoints PointHistory.recordExpiry
  simp

/-- What `_expire_one` writes: nothing, or the debit of what the row has left
and the flag on the row. -/
theorem expireOne_cases {k : Nat} {seen : PointHistory} {b : Bool} {L' : Ledger}
    (h : expireOne L now k seen = .ok (b, L')) :
    L' = L ∨ ∃ current, L.histories.get? k = some current ∧ 0 < current.remainingPoints ∧
      L' = ((L.setPoints seen.user (max (L.points seen.user - current.remainingPoints) 0)).createHistory
        now seen.user (-current.remainingPoints) .expire none
        { originalHistoryId := some k, expiredAmount := some current.remainingPoints }).saveRow k
          (PointHistory.recordExpiry now current.remainingPoints) := by
  unfold expireOne at h
  by_cases h0 : seen.remainingPoints ≤ 0
  · rw [if_pos h0] at h
    cases h
    exact Or.inl rfl
  · rw [if_neg h0] at h
    cases hr : L.histories.get? k with
    | none =>
      rw [hr] at h
      cases h
    | some current =>
      rw [hr] at h
      dsimp only at h
      by_cases hx : current.metadata.expired = true
      · rw [if_pos hx] at h
        cases h
        exact Or.inl rfl
      · rw [if_neg hx] at h
        by_cases h1 : current.remainingPoints ≤ 0
        · rw [if_pos h1] at h
          cases h
          exact Or.inl rfl
        · rw [if_neg h1] at h
          cases h
          exact Or.inr ⟨current, rfl, not_le.mp h1, rfl⟩

/-- The rows have left what they had, less what the flagged row had. -/
theorem saveRow_recordExpiry_remainingSum {C : Ledger} {k : Nat} {r : PointHistory}
    (hr : C.histories.get? k = some r) (x : Int) (v : UserId) :
    (C.saveRow k (PointHistory.recordExpiry now x)).remainingSum v
      = C.remainingSum v - if r.user = v then r.remainingPoints else 0 := by
  unfold Ledger.remainingSum
  show (C.histories.modify k _).sum _ = _
  rw [Table.sum_modify hr, recordExpiry_remainingPoints, ite_self, add_zero]

theorem Sound.expireOne (h : Sound owner now L) {k : Nat} {seen : PointHistory} {b : Bool}
    {L' : Ledger} (hseen : ∀ r, L.histories.get? k = some r → r.user = seen.user)
    (hexp : expireOne L now k seen = .ok (b, L')) : Sound owner now L' := by
  rcases expireOne_cases hexp with rfl | ⟨r, hr, hpos, rfl⟩
  · exact h
  · have hle := h.remaining_le_points hr
    have hne : PointType.expire ≠ .earn := by decide
    rw [← hseen r hr, Ledger.debit_eq_post hle]
    have hcov : Covered owner (L.post now r.user (-r.remainingPoints) .expire none
        { originalHistoryId := some k, expiredAmount := some r.remainingPoints }) :=
      h.covered.post_plain (Or.inr hne) now _ _ rfl fun o j =>
        recordedUse_eq_zero fun _ => ⟨fun hc => PointType.noConfusion hc, rfl⟩
    refine ⟨?_, ?_, fun v => ?_⟩
    · exact (h.booked.post (by omega) _ _ _).touch (keepsEntry_recordExpiry now _ k)
    · refine hcov.touch (keepsEntry_recordExpiry now _ k) fun j s hj ht => ?_
      have hused := hcov.used_le j s hj ht
      split
      · exact ⟨le_refl _, hused⟩
      · exact ⟨le_refl _, hused⟩
    · have hr' : (L.post now r.user (-r.remainingPoints) .expire none
          { originalHistoryId := some k,
            expiredAmount := some r.remainingPoints }).histories.get? k = some r := by
        rw [post_histories]
        exact Table.get?_insert_of_some hr _
      rw [saveRow_recordExpiry_remainingSum hr', post_remainingSum _ _ _ _ _ _ _ hne,
        Ledger.saveRow_points, post_points]
      have hv := h.solvent v
      by_cases hu : r.user = v
      · rw [if_pos hu, if_pos hu]
        omega
      · rw [if_neg hu, if_neg hu]
        omega

/-- The expiry of one row leaves every row with its user. -/
theorem expireOne_user {j k : Nat} {seen : PointHistory} {b : Bool} {L' : Ledger}
    {u : UserId} (hexp : PointService.expireOne L now k seen = .ok (b, L'))
    (hj : ∃ r, L.histories.get? j = some r ∧ r.user = u) :
    ∃ r, L'.histories.get? j = some r ∧ r.user = u := by
  obtain ⟨r, hr, hu⟩ := hj
  rcases expireOne_cases hexp with rfl | ⟨current, _, _, rfl⟩
  · exact ⟨r, hr, hu⟩
  · unfold Ledger.saveRow Ledger.createHistory
    dsimp only
    refine Table.modify_keeps (a := r) (Table.get?_insert_of_some (by exact hr) _) ?_ k ?_
    · exact hu
    · exact hu

/-- Each row of the batch finds the invariant as the row before it left it. -/
theorem Sound.expireLoop (fails : Nat → Bool) {rows : List (Nat × PointHistory)}
    (h : Sound owner now L)
    (hrows : ∀ p ∈ rows, ∃ r, L.histories.get? p.1 = some r ∧ r.user = p.2.user) :
    Sound owner now (expireLoop now fails L rows).1 := by
  induction rows generalizing L with
  | nil => exact h
  | cons p rest ih =>
    obtain ⟨k, seen⟩ := p
    have hrest : ∀ q ∈ rest, ∃ r, L.histories.get? q.1 = some r ∧ r.user = q.2.user :=
      fun q hq => hrows q (List.mem_cons_of_mem _ hq)
    unfold PointService.expireLoop
    split
    · exact ih h hrest
    · rename_i done L' heq
      split at heq
      · cases heq
      · obtain ⟨r, hr, hu⟩ := hrows (k, seen) List.mem_cons_self
        refine ih (h.expireOne (fun s hs => ?_) heq) fun q hq => expireOne_user heq (hrest q hq)
        obtain rfl : r = s := Option.some.inj (hr.symm.trans hs)
        exact hu

/-- The rows of the batch: due, and not flagged. -/
theorem mem_getExpiredPoints {p : Nat × PointHistory} :
    p ∈ getExpiredPoints L now ↔ L.histories.get? p.1 = some p.2 ∧ p.2.type = .earn ∧
      p.2.expiry ≤ now ∧ p.2.metadata.expired = false := by
  unfold getExpiredPoints
  rw [List.mem_insertionSort, ← Prod.mk.eta (p := p), Table.mem_select]
  simp only [Bool.and_eq_true, decide_eq_true_eq, Bool.not_eq_true', and_assoc]
  refine and_congr_right fun _ => and_congr_right fun ht => ?_
  obtain ⟨e, he⟩ := Option.isSome_iff_exists.mp (p.2.earn_expires ht)
  unfold PointHistory.expiry
  rw [he]
  simp

/-- The ledger that the batch leaves, whether it raises or not. -/
theorem expirePoints_ledger (L : Ledger) (now : Time) (fails : Nat → Bool) :
    (PointService.expirePoints L now fails).2
      = (PointService.expireLoop now fails L (getExpiredPoints L now)).1 := by
  unfold PointService.expirePoints
  dsimp only
  split
  · rfl
  · rfl

theorem Sound.expirePoints (h : Sound owner now L) (fails : Nat → Bool) :
    Sound owner now (expirePoints L now fails).2 := by
  rw [expirePoints_ledger]
  exact h.expireLoop fails fun p hp => ⟨p.2, (mem_getExpiredPoints.mp hp).1, rfl⟩

end Expiry

end Shopping
