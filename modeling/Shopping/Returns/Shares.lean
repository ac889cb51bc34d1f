import Shopping.Returns.Service

/-!
# Shares of an order

The arithmetic of `refundSplit`.  For the amounts of the columns a share is a
rounded down quotient: `proportionalShare_eq`.  Shares grow with the part, a
share of the whole is the total, and two shares of a total within the whole
differ by at most the difference of their parts.

A difference of two shares telescopes over any sequence of returns, so these
facts about one return give the sums of all of them.
-/

namespace Shopping

namespace ReturnService

/-- An amount of `max_digits=10, decimal_places=0`; every point column is
within it. -/
def columnLimit : Int := 10 ^ 10

section

variable {total part whole : Int}

/-! ## One share -/

/-- The rounding of the decimals does not reach the integer digits. -/
theorem proportionalShare_eq (ht : 0 ≤ total) (htl : total < columnLimit) (hp : 0 ≤ part)
    (hpw : part ≤ whole) (hw : 0 < whole) (hwl : whole < columnLimit) :
    proportionalShare total part whole = total * part / whole := by
  have hprod : 0 ≤ total * part := mul_nonneg ht hp
  have hsmall : total * part < 10 ^ 27 := by
    calc total * part ≤ columnLimit * columnLimit :=
          mul_le_mul htl.le (hpw.trans hwl.le) hp (ht.trans htl.le)
      _ < 10 ^ 27 := by decide
  rw [proportionalShare, if_neg (not_le.mpr hw)]
  exact Decimal.truncate_mul_div hprod hw hsmall

theorem ediv_share_le (ht : 0 ≤ total) (hpw : part ≤ whole) (hw : 0 < whole) :
    total * part / whole ≤ total := by
  calc total * part / whole ≤ total * whole / whole :=
        Int.ediv_le_ediv hw (mul_le_mul_of_nonneg_left hpw ht)
    _ = total := Int.mul_ediv_cancel total hw.ne'

theorem ediv_share_mono {part' : Int} (ht : 0 ≤ total) (hpp : part ≤ part') (hw : 0 < whole) :
    total * part / whole ≤ total * part' / whole :=
  Int.ediv_le_ediv hw (mul_le_mul_of_nonneg_left hpp ht)

/-- A total within the whole has shares that grow no faster than the part. -/
theorem ediv_share_add_le (part : Int) {more : Int} (htw : total ≤ whole) (hm : 0 ≤ more)
    (hw : 0 < whole) : total * (part + more) / whole ≤ total * part / whole + more := by
  have hstep : total * (part + more) ≤ total * part + more * whole := by
    have hle : total * more ≤ whole * more := mul_le_mul_of_nonneg_right htw hm
    calc total * (part + more) = total * part + total * more := by ring
      _ ≤ total * part + whole * more := by omega
      _ = total * part + more * whole := by ring
  calc total * (part + more) / whole ≤ (total * part + more * whole) / whole :=
        Int.ediv_le_ediv hw hstep
    _ = total * part / whole + more := Int.add_mul_ediv_right _ _ hw.ne'

end

/-! ## The shares of an order -/

/-- The amounts of an order that can be returned. -/
structure Amounts (order : Order) : Prop where
  total_pos : 0 < order.totalAmount
  total_lt : order.totalAmount < columnLimit
  used_nonneg : 0 ≤ order.usedPoints
  earned_nonneg : 0 ≤ order.earnedPoints
  earned_lt : order.earnedPoints < columnLimit

/-- The used points that went to the goods. -/
def usedForGoods (order : Order) : Int := min order.usedPoints order.totalAmount

/-- The share of the used points in goods of the value `part`. -/
def usedShare (order : Order) (part : Int) : Int :=
  proportionalShare (usedForGoods order) part order.totalAmount

/-- The share of the earned points in goods of the value `part`. -/
def earnedUpTo (order : Order) (part : Int) : Int :=
  proportionalShare order.earnedPoints part order.totalAmount

section

variable {order : Order} {part part' : Int}

/-- The share of the used points: nothing of an order without goods. -/
theorem usedShare_ediv (hused : 0 ≤ order.usedPoints) (hlt : order.totalAmount < columnLimit)
    (hp : 0 ≤ part) (hpt : part ≤ order.totalAmount) : usedShare order part
      = if order.totalAmount ≤ 0 then 0 else usedForGoods order * part / order.totalAmount := by
  unfold usedShare
  by_cases hpos : order.totalAmount ≤ 0
  · rw [if_pos hpos]
    unfold proportionalShare
    rw [if_pos hpos]
  · rw [if_neg hpos]
    have hnn : 0 ≤ usedForGoods order := le_min hused (hp.trans hpt)
    have hle : usedForGoods order ≤ order.totalAmount := min_le_right _ _
    exact proportionalShare_eq hnn (lt_of_le_of_lt hle hlt) hp hpt (not_le.mp hpos) hlt

/-- The share grows with the goods. -/
theorem usedShare_le_usedShare (hused : 0 ≤ order.usedPoints)
    (hlt : order.totalAmount < columnLimit) (hp : 0 ≤ part) (hpp : part ≤ part')
    (hpt : part' ≤ order.totalAmount) : usedShare order part ≤ usedShare order part' := by
  rw [usedShare_ediv hused hlt hp (hpp.trans hpt), usedShare_ediv hused hlt (hp.trans hpp) hpt]
  by_cases hpos : order.totalAmount ≤ 0
  · rw [if_pos hpos, if_pos hpos]
  · rw [if_neg hpos, if_neg hpos]
    have hnn : 0 ≤ usedForGoods order := le_min hused (not_le.mp hpos).le
    exact ediv_share_mono hnn hpp (not_le.mp hpos)

/-- No share is more than what was used. -/
theorem usedShare_le_usedPoints (hused : 0 ≤ order.usedPoints)
    (hlt : order.totalAmount < columnLimit) (hp : 0 ≤ part) (hpt : part ≤ order.totalAmount) :
    usedShare order part ≤ order.usedPoints := by
  rw [usedShare_ediv hused hlt hp hpt]
  by_cases hpos : order.totalAmount ≤ 0
  · rw [if_pos hpos]
    exact hused
  · rw [if_neg hpos]
    have hnn : 0 ≤ usedForGoods order := le_min hused (not_le.mp hpos).le
    calc usedForGoods order * part / order.totalAmount ≤ usedForGoods order :=
          ediv_share_le hnn hpt (not_le.mp hpos)
      _ ≤ order.usedPoints := min_le_left _ _

end

namespace Amounts

variable {order : Order} {part more : Int}

theorem used_le (order : Order) : usedForGoods order ≤ order.totalAmount := min_le_right _ _

theorem used_zero_le (h : Amounts order) : 0 ≤ usedForGoods order :=
  le_min h.used_nonneg h.total_pos.le

theorem usedShare_eq (h : Amounts order) (hp : 0 ≤ part) (hpt : part ≤ order.totalAmount) :
    usedShare order part = usedForGoods order * part / order.totalAmount :=
  proportionalShare_eq h.used_zero_le (lt_of_le_of_lt (used_le order) h.total_lt) hp hpt
    h.total_pos h.total_lt

theorem earnedUpTo_eq (h : Amounts order) (hp : 0 ≤ part) (hpt : part ≤ order.totalAmount) :
    earnedUpTo order part = order.earnedPoints * part / order.totalAmount :=
  proportionalShare_eq h.earned_nonneg h.earned_lt hp hpt h.total_pos h.total_lt

theorem usedShare_zero (h : Amounts order) : usedShare order 0 = 0 := by
  rw [h.usedShare_eq (le_refl 0) h.total_pos.le, mul_zero, Int.zero_ediv]

theorem earnedUpTo_zero (h : Amounts order) : earnedUpTo order 0 = 0 := by
  rw [h.earnedUpTo_eq (le_refl 0) h.total_pos.le, mul_zero, Int.zero_ediv]

/-- Once everything came back, so did all used points and all earned ones. -/
theorem usedShare_total (h : Amounts order) :
    usedShare order order.totalAmount = usedForGoods order := by
  rw [h.usedShare_eq h.total_pos.le (le_refl _), Int.mul_ediv_cancel _ h.total_pos.ne']

theorem earnedUpTo_total (h : Amounts order) :
    earnedUpTo order order.totalAmount = order.earnedPoints := by
  rw [h.earnedUpTo_eq h.total_pos.le (le_refl _), Int.mul_ediv_cancel _ h.total_pos.ne']

theorem usedShare_le (h : Amounts order) (hp : 0 ≤ part) (hpt : part ≤ order.totalAmount) :
    usedShare order part ≤ usedForGoods order := by
  rw [h.usedShare_eq hp hpt]
  exact ediv_share_le h.used_zero_le hpt h.total_pos

theorem earnedUpTo_le (h : Amounts order) (hp : 0 ≤ part) (hpt : part ≤ order.totalAmount) :
    earnedUpTo order part ≤ order.earnedPoints := by
  rw [h.earnedUpTo_eq hp hpt]
  exact ediv_share_le h.earned_nonneg hpt h.total_pos

/-- The cash of the goods that came back is within the cash of all goods. -/
theorem sub_usedShare_le (h : Amounts order) (hp : 0 ≤ part) (hpt : part ≤ order.totalAmount) :
    part - usedShare order part ≤ order.totalAmount - usedForGoods order := by
  have hrest : 0 ≤ order.totalAmount - part := by omega
  have hall : usedForGoods order * (part + (order.totalAmount - part)) / order.totalAmount
      = usedForGoods order := by
    rw [add_sub_cancel, Int.mul_ediv_cancel _ h.total_pos.ne']
  have hstep := ediv_share_add_le part (used_le order) hrest h.total_pos
  rw [hall] at hstep
  rw [h.usedShare_eq hp hpt]
  omega

end Amounts

/-! ## How the rounding falls -/

/-- The parts of a point that rounding cuts off, from what came back before and
from this return, make up a whole point: this return gets it. -/
def carries (order : Order) (previous goods : Int) : Prop :=
  order.totalAmount ≤ usedForGoods order * previous % order.totalAmount
    + usedForGoods order * goods % order.totalAmount

instance (order : Order) (previous goods : Int) : Decidable (carries order previous goods) :=
  inferInstanceAs (Decidable (_ ≤ _))

/-- Amounts that the decimals of a share hold exactly. -/
structure Exact (order : Order) (previous goods : Int) : Prop where
  previous_nonneg : 0 ≤ previous
  goods_nonneg : 0 ≤ goods
  small : previous + goods < 10 ^ 17

theorem usedShare_eq_ediv {order : Order} {part : Int} (h : Amounts order) (hp : 0 ≤ part)
    (hsmall : part < 10 ^ 17) : usedShare order part
      = usedForGoods order * part / order.totalAmount := by
  have hused := h.used_zero_le
  have hprod : usedForGoods order * part < 10 ^ 27 := by
    have hle : usedForGoods order ≤ columnLimit := (Amounts.used_le order).trans h.total_lt.le
    calc usedForGoods order * part ≤ columnLimit * part := mul_le_mul_of_nonneg_right hle hp
      _ < 10 ^ 27 := by
        unfold columnLimit
        omega
  rw [usedShare, proportionalShare, if_neg (not_le.mpr h.total_pos)]
  exact Decimal.truncate_mul_div (mul_nonneg hused hp) h.total_pos hprod

/-- A sum of two parts is rounded down to one more than the parts, where it
carries. -/
theorem add_ediv_carry (a b : Int) {whole : Int} (hw : 0 < whole) :
    (a + b) / whole = a / whole + b / whole + if whole ≤ a % whole + b % whole then 1 else 0 := by
  have ha := Int.emod_nonneg a hw.ne'
  have hb := Int.emod_nonneg b hw.ne'
  have hal := Int.emod_lt_of_pos a hw
  have hbl := Int.emod_lt_of_pos b hw
  have hsum : a + b = a % whole + b % whole + whole * (a / whole + b / whole) := by
    have hda := Int.emod_add_mul_ediv a whole
    have hdb := Int.emod_add_mul_ediv b whole
    rw [mul_add]
    omega
  rw [hsum, Int.add_mul_ediv_left _ _ hw.ne', add_comm]
  congr 1
  split
  · rename_i hle
    rw [Int.ediv_eq_iff_of_pos hw]
    omega
  · rename_i hlt
    exact Int.ediv_eq_zero_of_lt (by omega) (by omega)

/-- The share of the used points in this return: its own, and the point that
the rounding held back. -/
theorem pointsShare_eq_carry {order : Order} {previous goods : Int} (h : Amounts order)
    (he : Exact order previous goods) : pointsShare order previous goods
      = usedForGoods order * goods / order.totalAmount
        + if carries order previous goods then 1 else 0 := by
  have hp := he.previous_nonneg
  have hg := he.goods_nonneg
  have hsmall := he.small
  show usedShare order (previous + goods) - usedShare order previous = _
  rw [usedShare_eq_ediv h (by omega) hsmall, usedShare_eq_ediv h hp (by omega), mul_add,
    add_ediv_carry _ _ h.total_pos]
  unfold carries
  omega

/-- Two returns before this one leave it the same share exactly where they
leave it the same rounding. -/
theorem pointsShare_eq_iff {order : Order} {previous previous' goods : Int} (h : Amounts order)
    (he : Exact order previous goods) (he' : Exact order previous' goods) :
    pointsShare order previous goods = pointsShare order previous' goods ↔
      (carries order previous goods ↔ carries order previous' goods) := by
  rw [pointsShare_eq_carry h he, pointsShare_eq_carry h he']
  by_cases hc : carries order previous goods
  · by_cases hc' : carries order previous' goods
    · simp [hc, hc']
    · simp [hc, hc']
  · by_cases hc' : carries order previous' goods
    · simp [hc, hc']
    · simp [hc, hc']

/-! ## One return -/

section Split

variable {db : Db} {order : Order} {r : Return}

/-- What one split adds to the sums: the shares move from the value that came
back before to the value with this return, and the fee only lowers what is
given back. -/
structure SplitBounds (db : Db) (order : Order) (r : Return) : Prop where
  cash_nonneg : 0 ≤ (refundSplit db order r).cashBack
  points_nonneg : 0 ≤ (refundSplit db order r).pointsBack
  earned_nonneg : 0 ≤ (refundSplit db order r).earnedBack
  points_le : (refundSplit db order r).pointsBack
    ≤ usedShare order (completedGoods db r.order + r.refundAmount)
      - usedShare order (completedGoods db r.order)
  cash_le : (refundSplit db order r).cashBack
    ≤ r.refundAmount - (usedShare order (completedGoods db r.order + r.refundAmount)
      - usedShare order (completedGoods db r.order))
  earned_eq : (refundSplit db order r).earnedBack
    = earnedUpTo order (completedGoods db r.order + r.refundAmount)
      - earnedUpTo order (completedGoods db r.order)
  points_eq : r.returnShippingFee = 0 → (refundSplit db order r).pointsBack
    = usedShare order (completedGoods db r.order + r.refundAmount)
      - usedShare order (completedGoods db r.order)
  cash_eq : r.returnShippingFee = 0 → (refundSplit db order r).cashBack
    = r.refundAmount - (usedShare order (completedGoods db r.order + r.refundAmount)
      - usedShare order (completedGoods db r.order))

/-- The fee is taken from the cash first, then from the points, and no further
than to zero. -/
theorem takeFee_bounds {goods points fee : Int} (hpoints : 0 ≤ points) (hgoods : points ≤ goods)
    (hfee : 0 ≤ fee) :
    0 ≤ (takeFee (goods - points - fee) points).1 ∧
      (takeFee (goods - points - fee) points).1 ≤ goods - points ∧
      0 ≤ (takeFee (goods - points - fee) points).2 ∧
      (takeFee (goods - points - fee) points).2 ≤ points ∧
      (fee = 0 → takeFee (goods - points - fee) points = (goods - points, points)) := by
  unfold takeFee
  split
  · rename_i hneg
    dsimp only
    refine ⟨le_refl 0, by omega, le_max_right _ _, by omega, fun h0 => ?_⟩
    omega
  · rename_i hpos
    dsimp only
    refine ⟨by omega, by omega, hpoints, le_refl _, fun h0 => ?_⟩
    rw [h0, sub_zero]

theorem refundSplit_bounds (h : Amounts order) (hprev : 0 ≤ completedGoods db r.order)
    (hgoods : 0 ≤ r.refundAmount)
    (hsum : completedGoods db r.order + r.refundAmount ≤ order.totalAmount)
    (hfee : 0 ≤ r.returnShippingFee)
    (huse : 0 < order.usedPoints → db.hasHistory r.order .use = true) :
    SplitBounds db order r := by
  have hprevT : completedGoods db r.order ≤ order.totalAmount := by omega
  have hsum0 : 0 ≤ completedGoods db r.order + r.refundAmount := by omega
  -- The two shares of this return.
  have hpoints : 0 ≤ usedShare order (completedGoods db r.order + r.refundAmount)
      - usedShare order (completedGoods db r.order) := by
    rw [h.usedShare_eq hprev hprevT, h.usedShare_eq hsum0 hsum, sub_nonneg]
    exact ediv_share_mono h.used_zero_le (by omega) h.total_pos
  have hpointsGoods : usedShare order (completedGoods db r.order + r.refundAmount)
      - usedShare order (completedGoods db r.order) ≤ r.refundAmount := by
    have hstep := ediv_share_add_le (completedGoods db r.order) (Amounts.used_le order) hgoods
      h.total_pos
    rw [h.usedShare_eq hprev hprevT, h.usedShare_eq hsum0 hsum]
    omega
  have hearned : 0 ≤ earnedUpTo order (completedGoods db r.order + r.refundAmount)
      - earnedUpTo order (completedGoods db r.order) := by
    rw [h.earnedUpTo_eq hprev hprevT, h.earnedUpTo_eq hsum0 hsum, sub_nonneg]
    exact ediv_share_mono h.earned_nonneg (by omega) h.total_pos
  -- Points that were taken have their history, so none is dropped.
  have hkept : ∀ x : Int, 0 ≤ x → x ≤ usedShare order (completedGoods db r.order + r.refundAmount)
      - usedShare order (completedGoods db r.order) →
        (if 0 < x ∧ db.hasHistory r.order .use = false then 0 else x) = x := by
    intro x hx hle
    by_cases hused : 0 < order.usedPoints
    · rw [if_neg]
      rintro ⟨_, hc⟩
      rw [huse hused] at hc
      cases hc
    · have hzero : usedForGoods order = 0 := by
        have h0 := h.used_nonneg
        have hle' : usedForGoods order ≤ order.usedPoints := min_le_left _ _
        have hge := h.used_zero_le
        omega
      rw [h.usedShare_eq hprev hprevT, h.usedShare_eq hsum0 hsum, hzero, zero_mul, zero_mul,
        Int.zero_ediv, sub_zero] at hle
      rw [if_neg (by omega)]
  obtain ⟨hc0, hcle, hp0, hple, heq⟩ := takeFee_bounds hpoints hpointsGoods hfee
  have hback := hkept _ hp0 hple
  refine ⟨hc0, ?_, hearned, ?_, hcle, rfl, fun hf => ?_, fun hf => ?_⟩
  · exact le_of_le_of_eq hp0 hback.symm
  · exact le_of_eq_of_le hback hple
  · exact hback.trans (congrArg Prod.snd (heq hf))
  · exact congrArg Prod.fst (heq hf)

end Split

end ReturnService

end Shopping
