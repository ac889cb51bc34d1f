import Mathlib.Data.Int.Log
import Mathlib.Data.Rat.Floor
import Mathlib.Tactic.FieldSimp
import Mathlib.Tactic.Linarith
import Mathlib.Tactic.Positivity
import Mathlib.Tactic.Ring

/-!
# Decimal arithmetic of a fixed precision

A decimal is a rational number here.  An operation computes the exact result
and rounds it to `p` significant digits, to the nearest decimal and on a tie
to the even one (`ROUND_HALF_EVEN`).  `truncate` cuts the digits after the
point (`ROUND_DOWN`).

* `roundTo_intCast`: an integer of at most `p` digits is not rounded.
* `abs_roundTo_sub_le`: the error is at most half a unit in the last place.
* `truncate_div`: a quotient of integers that is rounded and then cut is the
  quotient rounded down, as long as the numerator has less than `p` digits.
  The rounding alone could carry a quotient up to the next integer.
-/

namespace Shopping

namespace Decimal

/-! ## Operations -/

/-- The nearest integer, the even one on a tie. -/
def roundHalfEven (q : ℚ) : ℤ :=
  if q - ⌊q⌋ < 1 / 2 then ⌊q⌋
  else if 1 / 2 < q - ⌊q⌋ then ⌊q⌋ + 1
  else if ⌊q⌋ % 2 = 0 then ⌊q⌋ else ⌊q⌋ + 1

/-- The unit in the last of `p` significant digits. -/
def ulp (p : ℕ) (q : ℚ) : ℚ := 10 ^ (Int.log 10 |q| + 1 - p)

/-- Round to `p` significant digits. -/
def roundTo (p : ℕ) (q : ℚ) : ℚ := roundHalfEven (q / ulp p q) * ulp p q

/-- `x * y` at the precision `p`. -/
def mul (p : ℕ) (x y : ℚ) : ℚ := roundTo p (x * y)

/-- `x / y` at the precision `p`. -/
def div (p : ℕ) (x y : ℚ) : ℚ := roundTo p (x / y)

/-- `to_integral_value(rounding=ROUND_DOWN)`. -/
def truncate (q : ℚ) : ℤ := if 0 ≤ q then ⌊q⌋ else ⌈q⌉

/-! ## Rounding to an integer -/

@[simp] theorem roundHalfEven_intCast (n : ℤ) : roundHalfEven (n : ℚ) = n := by
  simp [roundHalfEven]

theorem abs_roundHalfEven_sub_le (q : ℚ) : |(roundHalfEven q : ℚ) - q| ≤ 1 / 2 := by
  have hlo : (⌊q⌋ : ℚ) ≤ q := Int.floor_le q
  have hhi : q < ⌊q⌋ + 1 := Int.lt_floor_add_one q
  unfold roundHalfEven
  rw [abs_le]
  split
  · constructor <;> linarith
  · rename_i hge
    split
    · push_cast
      constructor <;> linarith
    · rename_i hle
      have htie : q - ⌊q⌋ = 1 / 2 := le_antisymm (not_lt.mp hle) (not_lt.mp hge)
      split
      · constructor <;> linarith
      · push_cast
        constructor <;> linarith

/-! ## Rounding to significant digits -/

theorem ulp_pos (p : ℕ) (q : ℚ) : 0 < ulp p q := zpow_pos (by norm_num) _

/-- The unit in the last place is small against the number. -/
theorem ulp_le {p : ℕ} {q : ℚ} (hq : q ≠ 0) : ulp (p + 1) q ≤ |q| / 10 ^ p := by
  have hlog : ((10 : ℕ) : ℚ) ^ Int.log 10 |q| ≤ |q| :=
    Int.zpow_log_le_self (by omega) (abs_pos.mpr hq)
  have hsplit : ulp (p + 1) q = 10 ^ Int.log 10 |q| / 10 ^ p := by
    unfold ulp
    have hexp : Int.log 10 |q| + 1 - ((p + 1 : ℕ) : ℤ) = Int.log 10 |q| - p := by
      push_cast
      ring
    rw [hexp, zpow_sub₀ (by norm_num), zpow_natCast]
  rw [hsplit]
  push_cast at hlog
  gcongr

/-- The error is at most half a unit in the last place. -/
theorem abs_roundTo_sub_le (p : ℕ) (q : ℚ) : |roundTo p q - q| ≤ ulp p q / 2 := by
  have hpos := ulp_pos p q
  have herr := abs_roundHalfEven_sub_le (q / ulp p q)
  have hq : q / ulp p q * ulp p q = q := div_mul_cancel₀ q hpos.ne'
  calc |roundTo p q - q|
      = |((roundHalfEven (q / ulp p q) : ℚ) - q / ulp p q) * ulp p q| := by
        rw [sub_mul, hq, roundTo]
    _ = |(roundHalfEven (q / ulp p q) : ℚ) - q / ulp p q| * ulp p q := by
        rw [abs_mul, abs_of_pos hpos]
    _ ≤ 1 / 2 * ulp p q := by gcongr
    _ = ulp p q / 2 := by ring

/-- An integer of at most `p` digits is not rounded. -/
theorem roundTo_intCast {p : ℕ} {n : ℤ} (hn : |n| < 10 ^ p) : roundTo p (n : ℚ) = n := by
  by_cases h0 : n = 0
  · subst h0
    simp [roundTo, roundHalfEven]
  · -- The last place is a decimal place, so the number is a multiple of its unit.
    have hpos : 0 < |(n : ℚ)| := abs_pos.mpr (by exact_mod_cast h0)
    have hlt : Int.log 10 |(n : ℚ)| < p := by
      have hle : ((10 : ℕ) : ℚ) ^ Int.log 10 |(n : ℚ)| ≤ |(n : ℚ)| :=
        Int.zpow_log_le_self (by omega) hpos
      have hbound : |(n : ℚ)| < 10 ^ p := by exact_mod_cast hn
      push_cast at hle
      have hpow : (10 : ℚ) ^ Int.log 10 |(n : ℚ)| < 10 ^ (p : ℤ) := by
        rw [zpow_natCast]
        exact lt_of_le_of_lt hle hbound
      exact (zpow_lt_zpow_iff_right₀ (by norm_num)).mp hpow
    obtain ⟨m, hm⟩ : ∃ m : ℕ, Int.log 10 |(n : ℚ)| + 1 - p = -(m : ℤ) :=
      ⟨(p - (Int.log 10 |(n : ℚ)| + 1)).toNat, by omega⟩
    have hulp : ulp p (n : ℚ) = (10 ^ m)⁻¹ := by
      rw [ulp, hm, zpow_neg, zpow_natCast]
    have hscaled : (n : ℚ) / ulp p n = ((n * 10 ^ m : ℤ) : ℚ) := by
      rw [hulp, div_inv_eq_mul]
      push_cast
      ring
    rw [roundTo, hscaled, roundHalfEven_intCast, ← hscaled, div_mul_cancel₀ _ (ulp_pos p _).ne']

/-! ## Quotients -/

/-- A quotient that is rounded and then cut is the quotient rounded down. -/
theorem truncate_div {p : ℕ} {a c : ℤ} (ha : 0 ≤ a) (hc : 0 < c) (hap : a < 10 ^ p) :
    truncate (div (p + 1) (a : ℚ) (c : ℚ)) = a / c := by
  have hcq : (0 : ℚ) < c := by exact_mod_cast hc
  have hquot : 0 ≤ (a : ℚ) / c := by positivity
  by_cases hdvd : c ∣ a
  · -- An exact quotient has at most as many digits as `a`, so it is not rounded.
    obtain ⟨n, rfl⟩ := hdvd
    have hn : 0 ≤ n := nonneg_of_mul_nonneg_right ha hc
    have hexact : ((c * n : ℤ) : ℚ) / c = (n : ℚ) := by
      push_cast
      field_simp
    have hsmall : |n| < 10 ^ (p + 1) := by
      rw [abs_of_nonneg hn, pow_succ]
      nlinarith
    rw [div, hexact, roundTo_intCast hsmall, truncate, if_pos (by exact_mod_cast hn),
      Int.floor_intCast, Int.mul_ediv_cancel_left n hc.ne']
  · -- Otherwise the quotient is at least `1 / c` away from every integer, and the error is less.
    have ha0 : a ≠ 0 := by
      rintro rfl
      exact hdvd (dvd_zero c)
    have haq : (0 : ℚ) < a := by exact_mod_cast lt_of_le_of_ne ha ha0.symm
    have hne : (a : ℚ) / c ≠ 0 := by positivity
    have herr : |div (p + 1) (a : ℚ) c - a / c| < 1 / c := by
      calc |div (p + 1) (a : ℚ) c - a / c| ≤ ulp (p + 1) ((a : ℚ) / c) / 2 :=
            abs_roundTo_sub_le (p + 1) _
        _ ≤ (|(a : ℚ) / c| / 10 ^ p) / 2 := by
            have hulp : ulp (p + 1) ((a : ℚ) / c) ≤ |(a : ℚ) / c| / 10 ^ p := ulp_le hne
            gcongr
        _ = (a / 10 ^ p) / 2 / c := by
            rw [abs_of_nonneg hquot]
            field_simp
        _ < 1 / c := by
            have hlt : (a : ℚ) < 10 ^ p := by exact_mod_cast hap
            have hle : (a : ℚ) / 10 ^ p / 2 < 1 := by
              rw [div_div, div_lt_one (by positivity)]
              linarith
            gcongr
    have hdiv := Int.emod_add_mul_ediv a c
    have hmod0 : a % c ≠ 0 := fun h => hdvd (Int.dvd_of_emod_eq_zero h)
    have hmodlo : 1 ≤ a % c := by
      have := Int.emod_nonneg a hc.ne'
      omega
    have hmodhi : a % c + 1 ≤ c := Int.emod_lt_of_pos a hc
    have hq : (a : ℚ) / c = (a % c : ℤ) / c + (a / c : ℤ) := by
      rw [eq_comm, div_add' _ _ _ hcq.ne', div_left_inj' hcq.ne']
      exact_mod_cast (by linarith : a % c + a / c * c = a)
    have hlow : 1 / (c : ℚ) ≤ (a % c : ℤ) / c := by
      gcongr
      exact_mod_cast hmodlo
    have hhigh : ((a % c : ℤ) : ℚ) / c ≤ 1 - 1 / c := by
      rw [le_sub_iff_add_le, ← add_div, div_le_one hcq]
      exact_mod_cast hmodhi
    rw [abs_lt] at herr
    have hnn : 0 ≤ a / c := Int.ediv_nonneg ha hc.le
    have hnnq : (0 : ℚ) ≤ (a / c : ℤ) := by exact_mod_cast hnn
    have hpos : 0 ≤ div (p + 1) (a : ℚ) c := by linarith
    rw [truncate, if_pos hpos, Int.floor_eq_iff]
    constructor <;> linarith

/-- A product and a quotient of integers, rounded each, and then cut. -/
theorem truncate_mul_div {p : ℕ} {a b c : ℤ} (hab : 0 ≤ a * b) (hc : 0 < c)
    (hsmall : a * b < 10 ^ p) :
    truncate (div (p + 1) (mul (p + 1) (a : ℚ) (b : ℚ)) (c : ℚ)) = a * b / c := by
  have hfits : |a * b| < 10 ^ (p + 1) := by
    rw [abs_of_nonneg hab, pow_succ]
    nlinarith
  have hmul : mul (p + 1) (a : ℚ) (b : ℚ) = ((a * b : ℤ) : ℚ) := by
    rw [mul, ← Int.cast_mul, roundTo_intCast hfits]
  rw [hmul, truncate_div hab hc hsmall]

end Decimal

end Shopping
