import Mathlib.Algebra.BigOperators.Group.Finset.Piecewise
import Shopping.Points.Invariant

/-!
# Adding and using points keep the invariant

The invariant of `Shopping.Points.Invariant`, put together as `Sound`, is
kept by `add_points` and `use_points_fifo`.  A use is the consumption of the
earn rows (`Sound.consume`) and then the use row (`Sound.consume_post`); a
reclaim that comes up short stops between the two.

Orders belong to one user, which `owner` says.
-/

namespace Shopping

open PointService

/-- The whole invariant. -/
structure Sound (owner : OrderId → UserId) (now : Time) (L : Ledger) : Prop where
  booked : Booked now L
  covered : Covered owner L
  solvent : Solvent L

variable {owner : OrderId → UserId} {now : Time} {L : Ledger}

/-! ## What an account holds -/

theorem remainingSum_nonneg (L : Ledger) (u : UserId) : 0 ≤ L.remainingSum u := by
  refine Table.sum_nonneg fun k r _ => ?_
  split
  · exact r.remainingPoints_nonneg
  · exact le_refl 0

/-- One row has at most what all rows of its user have. -/
theorem remainingPoints_le_sum {k : Nat} {r : PointHistory}
    (hr : L.histories.get? k = some r) : r.remainingPoints ≤ L.remainingSum r.user := by
  rw [← Table.sum_single hr PointHistory.remainingPoints]
  refine Table.sum_le_sum fun j s hs => ?_
  by_cases hj : j = k
  · subst hj
    obtain rfl : r = s := Option.some.inj (hr.symm.trans hs)
    rw [if_pos rfl, if_pos rfl]
  · rw [if_neg hj]
    split
    · exact s.remainingPoints_nonneg
    · exact le_refl 0

namespace Sound

theorem points_nonneg (h : Sound owner now L) (u : UserId) : 0 ≤ L.points u :=
  le_trans (remainingSum_nonneg L u) (h.solvent u)

/-- What the expiry of a row takes is on the account. -/
theorem remaining_le_points (h : Sound owner now L) {k : Nat} {r : PointHistory}
    (hr : L.histories.get? k = some r) : r.remainingPoints ≤ L.points r.user :=
  le_trans (remainingPoints_le_sum hr) (h.solvent r.user)

/-- The clamp of `remaining_points` is the identity. -/
theorem remaining_eq (h : Sound owner now L) {k : Nat} {r : PointHistory}
    (hr : L.histories.get? k = some r) (ht : r.type = .earn) (hx : r.metadata.expired = false) :
    r.remainingPoints = r.points - r.metadata.usedAmount := by
  have hle := h.covered.used_le k r hr ht
  unfold PointHistory.remainingPoints
  rw [if_neg (not_not.mpr ht), hx, if_neg (by simp)]
  exact max_eq_right (by omega)

theorem empty (owner : OrderId → UserId) (now : Time) : Sound owner now Ledger.empty := by
  have hout : ∀ o k, outstanding Ledger.empty o k = 0 := fun _ _ => rfl
  refine ⟨⟨fun u => rfl, fun u => trivial, List.Pairwise.nil, ?_⟩, ⟨?_, ?_, ?_, ?_⟩, ?_⟩
  · intro k r hr
    cases hr
  · intro k r hr
    cases hr
  · intro o k
    exact le_of_eq (hout o k).symm
  · intro k r hr
    cases hr
  · intro o k hpos
    rw [hout] at hpos
    exact absurd hpos (lt_irrefl 0)
  · intro u
    exact le_refl 0

theorem mono {now' : Time} (h : Sound owner now L) (hle : now ≤ now') : Sound owner now' L :=
  ⟨h.booked.mono hle, h.covered, h.solvent⟩

end Sound

/-! ## Adding points -/

theorem Sound.addPoints (h : Sound owner now L) {user : UserId} {amount : Int}
    {type : PointType} {order : Option OrderId} {returnId : Option Nat} {b : Bool} {L' : Ledger}
    (htype : type.isPositive = true)
    (hadd : addPoints L now user amount type order returnId = .ok (b, L')) :
    Sound owner now L' := by
  unfold PointService.addPoints at hadd
  by_cases h0 : amount ≤ 0
  · rw [if_pos h0] at hadd
    cases hadd
    exact h
  · rw [if_neg h0] at hadd
    dsimp only at hadd
    split at hadd
    · cases hadd
    · cases hadd
      change Sound owner now (L.post now user amount type order { returnId := returnId })
      have hpos := h.points_nonneg user
      refine ⟨h.booked.post (by omega) _ _ _, ?_, fun v => ?_⟩
      · refine h.covered.post_plain (Or.inl (by omega)) now user order rfl fun o k => ?_
        unfold recordedUse
        simp only [PointHistory.create, amountAt_nil, neg_zero, ite_self]
      · rw [post_points]
        by_cases he : type = .earn
        · subst he
          rw [post_remainingSum_earn _ _ _ _ _ _ rfl rfl (by omega)]
          exact add_le_add (h.solvent v) (le_refl _)
        · rw [post_remainingSum _ _ _ _ _ _ _ he]
          have hv := h.solvent v
          split <;> omega

/-! ## Entries over the rows of one user -/

/-- A sum that only looks at rows with an entry, when all entries are about
rows of `u`. -/
theorem sum_of_user {u : UserId} {ds : Details}
    (hds : ∀ d ∈ ds, ∃ r, L.histories.get? d.1 = some r ∧ r.user = u)
    {g : Nat → PointHistory → Int} (hg : ∀ k r, amountAt k ds = 0 → g k r = 0) (v : UserId) :
    (L.histories.sum fun k r => if r.user = v then g k r else 0)
      = if u = v then L.histories.sum g else 0 := by
  have hrow : ∀ k r, L.histories.get? k = some r →
      (if r.user = v then g k r else 0) = if u = v then g k r else 0 := by
    intro k r hr
    by_cases h0 : amountAt k ds = 0
    · rw [hg k r h0, ite_self, ite_self]
    · obtain ⟨d, hd, rfl⟩ := List.mem_map.mp (mem_keys_of_amountAt h0)
      obtain ⟨r', hr', hu⟩ := hds d hd
      obtain rfl : r = r' := Option.some.inj (hr.symm.trans hr')
      rw [hu]
  rw [Table.sum_congr hrow]
  by_cases huv : u = v
  · simp only [if_pos huv]
  · simp only [if_neg huv, Table.sum_zero]

/-- The amounts of the rows of `v`, when all entries are about rows of `u`. -/
theorem sum_amountAt_user {u : UserId} {ds : Details}
    (hds : ∀ d ∈ ds, ∃ r, L.histories.get? d.1 = some r ∧ r.user = u) (v : UserId) :
    (L.histories.sum fun k r => if r.user = v then amountAt k ds else 0)
      = if u = v then Entries.total ds else 0 := by
  rw [sum_of_user hds (fun _ _ h0 => h0) v,
    sum_amountAt L.histories ds fun d hd => (hds d hd).imp fun _ hr => hr.1]

/-! ## Using points -/

section Use

/-- What `_consume_points_fifo` takes. -/
def consumed (L : Ledger) (now : Time) (user : UserId) (amount : Int) (type : PointType) :
    Details :=
  (draw amount (remainingCaps (availablePoints L now user type))).1

/-- What `_consume_points_fifo` could not take. -/
def missing (L : Ledger) (now : Time) (user : UserId) (amount : Int) (type : PointType) : Int :=
  (draw amount (remainingCaps (availablePoints L now user type))).2

variable (L : Ledger) (now : Time) (user : UserId) (amount : Int) (type : PointType)

theorem mem_availablePoints {p : Nat × PointHistory} :
    p ∈ availablePoints L now user type ↔
      L.histories.get? p.1 = some p.2 ∧ isUsable now user type p.2 = true := by
  unfold availablePoints
  rw [List.mem_insertionSort]
  exact Table.mem_select

theorem availablePoints_nodup :
    ((availablePoints L now user type).map Prod.fst).Nodup :=
  Table.select_insertionSort_nodup _ _ _

theorem consumePointsFifo_eq :
    consumePointsFifo L now user amount type
      = (L.touch (PointHistory.usedBy now (consumed L now user amount type)),
          consumed L now user amount type, missing L now user amount type) :=
  consumeLoop_eq now L _ amount (availablePoints_nodup L now user type)

/-- What `use_points_fifo` checks before it writes. -/
def Accepts (L : Ledger) (user : UserId) (amount : Int) (type : PointType) : Prop :=
  0 < amount ∧ (type = .use → minimumUseAmount ≤ amount) ∧ amount ≤ L.points user

theorem validatePointUsage_isNone :
    validatePointUsage amount type minimumUseAmount = none ↔
      0 < amount ∧ (type = .use → minimumUseAmount ≤ amount) := by
  unfold validatePointUsage
  by_cases hpos : amount ≤ 0
  · rw [if_pos hpos]
    simp only [reduceCtorEq, false_iff]
    omega
  · rw [if_neg hpos]
    by_cases hmin : type = .use ∧ amount < minimumUseAmount
    · rw [if_pos hmin]
      simp only [reduceCtorEq, false_iff]
      intro h
      exact absurd (h.2 hmin.1) (not_le.mpr hmin.2)
    · rw [if_neg hmin]
      simp only [true_iff]
      refine ⟨not_le.mp hpos, fun ht => ?_⟩
      by_contra hlt
      exact hmin ⟨ht, not_le.mp hlt⟩

theorem validatePointUsage_success {refusal : UseResult} {minimum : Int}
    (h : validatePointUsage amount type minimum = some refusal) : refusal.success = false := by
  unfold validatePointUsage at h
  split at h
  · cases h
    rfl
  · split at h
    · cases h
      rfl
    · cases h

/-- What `use_points_fifo` does: it refuses before it writes, or a reclaim
comes up short after the consumption, or the use is booked. -/
theorem usePointsFifo_cases (order : Option OrderId) (returnId : Option Nat) :
    (¬ Accepts L user amount type ∧
      (usePointsFifo L now user amount type order returnId).1.success = false ∧
      (usePointsFifo L now user amount type order returnId).2 = L) ∨
    (Accepts L user amount type ∧ (type = .cancelDeduct ∧ 0 < missing L now user amount type) ∧
      (usePointsFifo L now user amount type order returnId).1.success = false ∧
      (usePointsFifo L now user amount type order returnId).2
        = L.touch (PointHistory.usedBy now (consumed L now user amount type))) ∨
    (Accepts L user amount type ∧ ¬ (type = .cancelDeduct ∧ 0 < missing L now user amount type) ∧
      (usePointsFifo L now user amount type order returnId).1.success = true ∧
      (usePointsFifo L now user amount type order returnId).1.usedDetails
        = consumed L now user amount type ∧
      (usePointsFifo L now user amount type order returnId).2
        = (L.touch (PointHistory.usedBy now (consumed L now user amount type))).post now user
            (-amount) type order
            { usedDetails := consumed L now user amount type, returnId := returnId }) := by
  unfold usePointsFifo
  cases hval : validatePointUsage amount type minimumUseAmount with
  | some refusal =>
    refine Or.inl ⟨fun hacc => ?_, validatePointUsage_success _ _ hval, rfl⟩
    rw [(validatePointUsage_isNone amount type).mpr ⟨hacc.1, hacc.2.1⟩] at hval
    cases hval
  | none =>
    obtain ⟨hpos, hmin⟩ := (validatePointUsage_isNone amount type).mp hval
    dsimp only
    by_cases hpoints : L.points user < amount
    · rw [if_pos hpoints]
      exact Or.inl ⟨fun hacc => absurd hacc.2.2 (not_le.mpr hpoints), rfl, rfl⟩
    · rw [if_neg hpoints, consumePointsFifo_eq]
      have hacc : Accepts L user amount type := ⟨hpos, hmin, not_lt.mp hpoints⟩
      dsimp only
      by_cases hshort : type = .cancelDeduct ∧ 0 < missing L now user amount type
      · rw [if_pos hshort]
        exact Or.inr (Or.inl ⟨hacc, hshort, rfl, rfl⟩)
      · rw [if_neg hshort]
        exact Or.inr (Or.inr ⟨hacc, hshort, rfl, rfl, rfl⟩)

theorem consumed_add_missing :
    Entries.total (consumed L now user amount type) + missing L now user amount type = amount :=
  draw_total _ _

variable {L now user amount type}

/-- Each entry is about a usable row, within what the row has left. -/
theorem mem_consumed {d : Nat × Int} (hd : d ∈ consumed L now user amount type) :
    0 < d.2 ∧ ∃ r, L.histories.get? d.1 = some r ∧ isUsable now user type r = true ∧
      d.2 ≤ r.remainingPoints := by
  obtain ⟨hpos, cap, hcap, hle⟩ := draw_entry hd
  obtain ⟨p, hp, hpc⟩ := List.mem_map.mp hcap
  obtain ⟨hk, hr⟩ := Prod.mk.inj hpc
  obtain ⟨hget, hus⟩ := (mem_availablePoints L now user type).mp hp
  refine ⟨hpos, p.2, hk ▸ hget, hus, hr.symm ▸ hle⟩

theorem isUsable_user {r : PointHistory} (h : isUsable now user type r = true) :
    r.user = user ∧ r.type = .earn := by
  simp only [isUsable, Bool.and_eq_true, decide_eq_true_eq] at h
  exact ⟨h.1.1.1, h.1.1.2⟩

theorem consumed_user {d : Nat × Int} (hd : d ∈ consumed L now user amount type) :
    ∃ r, L.histories.get? d.1 = some r ∧ r.user = user := by
  obtain ⟨_, r, hr, hus, _⟩ := mem_consumed hd
  exact ⟨r, hr, (isUsable_user hus).1⟩

theorem consumed_nonneg (k : Nat) : 0 ≤ amountAt k (consumed L now user amount type) :=
  draw_amountAt_nonneg _ _ k

/-- What the entries take from a row is there. -/
theorem consumed_le {k : Nat} {r : PointHistory} (hr : L.histories.get? k = some r) :
    amountAt k (consumed L now user amount type) ≤ r.remainingPoints := by
  by_cases h0 : amountAt k (consumed L now user amount type) = 0
  · rw [h0]
    exact r.remainingPoints_nonneg
  · have hnd : ((consumed L now user amount type).map Prod.fst).Nodup := by
      refine draw_keys_nodup ?_ amount
      rw [remainingCaps_keys]
      exact availablePoints_nodup L now user type
    obtain ⟨_, r', hr', _, hle⟩ := mem_consumed (mem_of_amountAt hnd h0)
    obtain rfl : r = r' := Option.some.inj (hr.symm.trans hr')
    exact hle

/-- A shortfall of a use leaves nothing on the user's rows. -/
theorem consumed_exhausts (hmiss : 0 < missing L now user amount .use) {k : Nat}
    {r : PointHistory} (hr : L.histories.get? k = some r) (hu : r.user = user)
    (hpos : 0 < r.remainingPoints) :
    amountAt k (consumed L now user amount .use) = r.remainingPoints := by
  obtain ⟨ht, hx, _⟩ := PointHistory.live_of_remainingPoints_pos hpos
  have hus : isUsable now user .use r = true := by
    simp [isUsable, hu, ht, hx]
  have hcap : (k, r.remainingPoints) ∈ remainingCaps (availablePoints L now user .use) :=
    List.mem_map.mpr ⟨(k, r), (mem_availablePoints L now user .use).mpr ⟨hr, hus⟩, rfl⟩
  refine amountAt_of_mem (draw_keys_nodup ?_ amount) (draw_exhausts hmiss hcap hpos)
  rw [remainingCaps_keys]
  exact availablePoints_nodup L now user .use

/-- The use a row records after the entries. -/
theorem usedBy_usedAmount {ds : Details} {k : Nat} (h0 : 0 ≤ amountAt k ds) (r : PointHistory) :
    (PointHistory.usedBy now ds k r).metadata.usedAmount
      = r.metadata.usedAmount + amountAt k ds := by
  unfold PointHistory.usedBy
  split
  · rfl
  · omega

/-- What a row has left after the entries. -/
theorem usedBy_remainingPoints {ds : Details} {k : Nat} {r : PointHistory}
    (h0 : 0 ≤ amountAt k ds) (hle : amountAt k ds ≤ r.remainingPoints) :
    (PointHistory.usedBy now ds k r).remainingPoints = r.remainingPoints - amountAt k ds := by
  by_cases hpos : 0 < amountAt k ds
  · obtain ⟨ht, hx, hrem⟩ := PointHistory.live_of_remainingPoints_pos (lt_of_lt_of_le hpos hle)
    unfold PointHistory.usedBy
    rw [if_pos hpos]
    have hnew : (PointHistory.recordUse now (amountAt k ds) r).remainingPoints
        = max 0 (r.points - (r.metadata.usedAmount + amountAt k ds)) := by
      simp [PointHistory.remainingPoints, PointHistory.recordUse, ht, hx]
    rw [hnew, max_eq_right (by omega)]
    omega
  · unfold PointHistory.usedBy
    rw [if_neg hpos]
    omega

/-- The rows have left what they had, less what the user's entries took. -/
theorem consumed_remainingSum (v : UserId) :
    (L.touch (PointHistory.usedBy now (consumed L now user amount type))).remainingSum v
      = L.remainingSum v - if user = v then Entries.total (consumed L now user amount type)
          else 0 := by
  rw [← sum_amountAt_user (fun d hd => consumed_user hd) v]
  unfold Ledger.remainingSum
  rw [Table.sum_mapRows, ← Table.sum_sub]
  refine Table.sum_congr fun k r hr => ?_
  rw [(keepsEntry_usedBy now _).user,
    usedBy_remainingPoints (consumed_nonneg k) (consumed_le hr)]
  split
  · rfl
  · rfl

/-- A use that comes up short has used up every row of the user. -/
theorem consumed_remainingSum_short (hmiss : 0 < missing L now user amount .use) :
    (L.touch (PointHistory.usedBy now (consumed L now user amount .use))).remainingSum user
      = 0 := by
  unfold Ledger.remainingSum
  rw [Table.sum_mapRows]
  refine (Table.sum_congr fun k r hr => ?_).trans (Table.sum_zero L.histories)
  rw [(keepsEntry_usedBy now _).user,
    usedBy_remainingPoints (consumed_nonneg k) (consumed_le hr)]
  split
  · rename_i hu
    by_cases hpos : 0 < r.remainingPoints
    · rw [consumed_exhausts hmiss hr hu hpos]
      omega
    · have h0 := r.remainingPoints_nonneg
      have hle : amountAt k (consumed L now user amount .use) ≤ r.remainingPoints :=
        consumed_le hr
      have hge : 0 ≤ amountAt k (consumed L now user amount .use) := consumed_nonneg k
      omega
  · rfl

/-- The consumption alone keeps the invariant. -/
theorem Sound.consume (h : Sound owner now L) :
    Sound owner now (L.touch (PointHistory.usedBy now (consumed L now user amount type))) := by
  refine ⟨h.booked.touch (keepsEntry_usedBy _ _),
    h.covered.touch (keepsEntry_usedBy _ _) fun k r hr ht => ?_, fun v => ?_⟩
  · rw [usedBy_usedAmount (consumed_nonneg k)]
    have h0 : 0 ≤ amountAt k (consumed L now user amount type) := consumed_nonneg k
    have hle : amountAt k (consumed L now user amount type) ≤ r.remainingPoints := consumed_le hr
    have hused := h.covered.used_le k r hr ht
    refine ⟨by omega, ?_⟩
    by_cases hpos : 0 < r.remainingPoints
    · obtain ⟨_, _, hrem⟩ := PointHistory.live_of_remainingPoints_pos hpos
      omega
    · omega
  · rw [consumed_remainingSum]
    have hv := h.solvent v
    have htot : 0 ≤ Entries.total (consumed L now user amount type) :=
      List.sum_nonneg fun x hx => by
        obtain ⟨d, hd, rfl⟩ := List.mem_map.mp hx
        exact le_of_lt (mem_consumed hd).1
    show _ ≤ L.points v
    split <;> omega

/-- The use row records what the consumption took from the rows. -/
theorem Covered.consume_post (h : Covered owner L)
    (h₁ : Covered owner (L.touch (PointHistory.usedBy now (consumed L now user amount .use))))
    {order : Option OrderId} (howner : ∀ o, order = some o → owner o = user)
    (returnId : Option Nat) :
    Covered owner ((L.touch (PointHistory.usedBy now (consumed L now user amount .use))).post
      now user (-amount) .use order
      { usedDetails := consumed L now user amount .use, returnId := returnId }) := by
  have h0 : ∀ k, 0 ≤ amountAt k (consumed L now user amount .use) := consumed_nonneg
  have hrec : ∀ o k, recordedUse o k (postedRow
      (L.touch (PointHistory.usedBy now (consumed L now user amount .use))) now user (-amount)
      .use order { usedDetails := consumed L now user amount .use, returnId := returnId })
        = if order = some o then amountAt k (consumed L now user amount .use) else 0 :=
    fun o k => recordedUse_use rfl
  refine Covered.of_post (by decide) hrec h₁.used_le (fun o k => ?_)
    (fun k r hr ht os => ?_) (fun o k hpos => ?_)
  · have hn := h₁.out_nonneg o k
    have hk := h0 k
    split <;> omega
  · rw [Table.get?_mapRows, Option.map_eq_some_iff] at hr
    obtain ⟨r', hr', rfl⟩ := hr
    have hsum := h.out_sum k r' hr' ((keepsEntry_usedBy _ _).type k r' ▸ ht) os
    rw [usedBy_usedAmount (h0 k), Finset.sum_add_distrib]
    simp only [touch_outstanding (keepsEntry_usedBy _ _)]
    -- At most one of the orders is the one of the new row.
    have hone : ∑ o ∈ os, (if order = some o then
        amountAt k (consumed L now user amount .use) else 0)
          ≤ amountAt k (consumed L now user amount .use) := by
      cases order with
      | none => simpa using h0 k
      | some o' =>
        simp only [Option.some.injEq, Finset.sum_ite_eq]
        by_cases ho : o' ∈ os
        · rw [if_pos ho]
        · rw [if_neg ho]
          exact h0 k
    exact add_le_add hsum hone
  · by_cases hd : order = some o ∧ 0 < amountAt k (consumed L now user amount .use)
    · obtain ⟨d, hmem, rfl⟩ := List.mem_map.mp (mem_keys_of_amountAt (ne_of_gt hd.2))
      obtain ⟨_, r, hr, hus, _⟩ := mem_consumed hmem
      obtain ⟨hu, ht⟩ := isUsable_user hus
      refine ⟨PointHistory.usedBy now (consumed L now user amount .use) d.1 r, ?_,
        ((keepsEntry_usedBy _ _).type _ r).trans ht, ?_⟩
      · rw [Table.get?_mapRows, hr]
        rfl
      · rw [(keepsEntry_usedBy _ _).user, hu, howner o hd.1]
    · refine h₁.out_row o k ?_
      have hk := h0 k
      by_cases ho : order = some o
      · rw [if_pos ho] at hpos
        have hz : ¬ 0 < amountAt k (consumed L now user amount .use) := fun hc => hd ⟨ho, hc⟩
        omega
      · rw [if_neg ho] at hpos
        omega

/-- The use row after the consumption. -/
theorem Sound.consume_post (h : Sound owner now L) (hamount : amount ≤ L.points user)
    (htype : type = .use ∨ type = .cancelDeduct ∧ missing L now user amount type ≤ 0)
    {order : Option OrderId} (howner : ∀ o, order = some o → owner o = user)
    (returnId : Option Nat) :
    Sound owner now ((L.touch (PointHistory.usedBy now (consumed L now user amount type))).post
      now user (-amount) type order
      { usedDetails := consumed L now user amount type, returnId := returnId }) := by
  have h₁ : Sound owner now
      (L.touch (PointHistory.usedBy now (consumed L now user amount type))) := h.consume
  have hearn : type ≠ .earn := by
    rcases htype with rfl | ⟨rfl, _⟩ <;> decide
  have hbal : 0 ≤ L.points user + -amount := by omega
  refine ⟨h₁.booked.post hbal _ _ _, ?_, fun v => ?_⟩
  · rcases htype with rfl | ⟨rfl, _⟩
    · exact h.covered.consume_post h₁.covered howner returnId
    · refine h₁.covered.post_plain (Or.inr hearn) now user order rfl fun o k => ?_
      refine recordedUse_eq_zero fun _ => ⟨?_, rfl⟩
      intro hc
      cases hc
  · rw [post_remainingSum _ _ _ _ _ _ _ hearn, post_points]
    show _ ≤ L.points v + _
    by_cases huv : user = v
    · subst huv
      rw [if_pos rfl]
      have htot := consumed_add_missing L now user amount type
      by_cases hmiss : 0 < missing L now user amount type
      · rcases htype with rfl | ⟨rfl, hm⟩
        · rw [consumed_remainingSum_short hmiss]
          omega
        · omega
      · rw [consumed_remainingSum, if_pos rfl]
        have hv := h.solvent user
        omega
    · rw [if_neg huv, consumed_remainingSum, if_neg huv]
      have hv := h.solvent v
      omega

theorem Sound.usePointsFifo (h : Sound owner now L)
    (htype : type = .use ∨ type = .cancelDeduct) {order : Option OrderId}
    (howner : ∀ o, order = some o → owner o = user) (returnId : Option Nat) :
    Sound owner now (usePointsFifo L now user amount type order returnId).2 := by
  rcases usePointsFifo_cases L now user amount type order returnId with
    ⟨_, _, hL⟩ | ⟨_, _, _, hL⟩ | ⟨hacc, hshort, _, _, hL⟩
  · rw [hL]
    exact h
  · rw [hL]
    exact h.consume
  · rw [hL]
    refine h.consume_post hacc.2.2 ?_ howner returnId
    rcases htype with ht | ht
    · exact Or.inl ht
    · exact Or.inr ⟨ht, not_lt.mp fun hm => hshort ⟨ht, hm⟩⟩

end Use

end Shopping
