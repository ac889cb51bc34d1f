import Mathlib.Data.List.Basic
import Mathlib.Tactic.Ring

/-!
# Numbers printed with leading zeros

`zeroPadded width n` has at least `width` digits and reads back as `n`.  Numbers
of one width are in the same order as what is printed
(`zeroPadded_lt_zeroPadded`); a number that does not fit in the width is
printed with more digits, and the order is lost.
-/

namespace Shopping

/-- `f"{n:0{width}d}"`. -/
def zeroPadded (width n : Nat) : String :=
  String.ofList (List.replicate (width - (Nat.toDigits 10 n).length) '0' ++ Nat.toDigits 10 n)

theorem zeroPadded_toList (width n : Nat) : (zeroPadded width n).toList
    = List.replicate (width - (Nat.toDigits 10 n).length) '0' ++ Nat.toDigits 10 n :=
  String.toList_ofList

/-- The digits read back as the number. -/
@[simp] theorem ofDigitChars_zeroPadded (width n : Nat) :
    Nat.ofDigitChars 10 (zeroPadded width n).toList 0 = n := by
  rw [zeroPadded_toList, Nat.ofDigitChars_append, Nat.ofDigitChars_replicate_zero, Nat.mul_zero,
    Nat.ofDigitChars_ten_toDigits]

theorem zeroPadded_injective (width : Nat) : Function.Injective (zeroPadded width) := by
  intro i j h
  rw [← ofDigitChars_zeroPadded width i, h, ofDigitChars_zeroPadded]

theorem isDigit_zeroPadded {width n : Nat} {c : Char} (h : c ∈ (zeroPadded width n).toList) :
    c.isDigit = true := by
  rw [zeroPadded_toList, List.mem_append] at h
  rcases h with h | h
  · rw [(List.mem_replicate.mp h).2]
    rfl
  · exact Nat.isDigit_of_mem_toDigits (by decide) (by decide) h

theorem length_zeroPadded {width n : Nat} (hwidth : 0 < width) (h : n < 10 ^ width) :
    (zeroPadded width n).toList.length = width := by
  have hle := (Nat.length_toDigits_le_iff (by decide) hwidth).mpr h
  rw [zeroPadded_toList, List.length_append, List.length_replicate]
  omega

/-! ## The order of digits -/

/-- The value of a digit. -/
theorem isDigit_toNat {c : Char} (h : c.isDigit = true) : 48 ≤ c.toNat ∧ c.toNat ≤ 57 :=
  Char.isDigit_iff_toNat.mp h

theorem ofDigitChars_digits (c : Char) (l : List Char) :
    Nat.ofDigitChars 10 (c :: l) 0 = 10 ^ l.length * (c.toNat - 48) + Nat.ofDigitChars 10 l 0 := by
  rw [Nat.ofDigitChars_cons, Nat.ofDigitChars_eq_ofDigitChars_zero, Nat.mul_zero, Nat.zero_add]
  rfl

/-- What a list of digits reads as is below the power of ten of its length. -/
theorem ofDigitChars_lt_pow {l : List Char} (h : ∀ c ∈ l, c.isDigit = true) :
    Nat.ofDigitChars 10 l 0 < 10 ^ l.length := by
  induction l with
  | nil => exact Nat.one_pos
  | cons c l ih =>
    have hc := isDigit_toNat (h c List.mem_cons_self)
    have hl := ih fun d hd => h d (List.mem_cons_of_mem _ hd)
    have hdigit : 10 ^ l.length * (c.toNat - 48) ≤ 10 ^ l.length * 9 :=
      Nat.mul_le_mul_left _ (by omega)
    rw [ofDigitChars_digits, List.length_cons, pow_succ]
    omega

/-- Digits of one length are in the order of the numbers that they read as. -/
theorem lt_of_ofDigitChars_lt {a b : List Char} (ha : ∀ c ∈ a, c.isDigit = true)
    (hb : ∀ c ∈ b, c.isDigit = true) (hlength : a.length = b.length)
    (h : Nat.ofDigitChars 10 a 0 < Nat.ofDigitChars 10 b 0) : a < b := by
  induction a generalizing b with
  | nil =>
    rw [List.eq_nil_of_length_eq_zero hlength.symm] at h
    exact absurd h (lt_irrefl _)
  | cons c l ih =>
    cases b with
    | nil => cases hlength
    | cons d m =>
      have hlm : l.length = m.length := Nat.succ.inj hlength
      have hl : ∀ x ∈ l, x.isDigit = true := fun x hx => ha x (List.mem_cons_of_mem _ hx)
      have hm : ∀ x ∈ m, x.isDigit = true := fun x hx => hb x (List.mem_cons_of_mem _ hx)
      have hc := isDigit_toNat (ha c List.mem_cons_self)
      have hd := isDigit_toNat (hb d List.mem_cons_self)
      rw [ofDigitChars_digits, ofDigitChars_digits, hlm] at h
      rw [List.cons_lt_cons_iff]
      rcases Nat.lt_trichotomy c.toNat d.toNat with hlt | heq | hgt
      · exact Or.inl (Char.lt_def.mpr hlt)
      · refine Or.inr ⟨Char.toNat_inj.mp heq, ih hl hm hlm ?_⟩
        rw [heq] at h
        exact Nat.lt_of_add_lt_add_left h
      · -- A greater first digit outweighs all the others.
        have hstep : 10 ^ m.length * (d.toNat - 48) + 10 ^ m.length
            ≤ 10 ^ m.length * (c.toNat - 48) := by
          rw [← Nat.mul_succ]
          exact Nat.mul_le_mul_left _ (by omega)
        have hlow := ofDigitChars_lt_pow hm
        omega

/-- Numbers of one width are in the order of what is printed. -/
theorem zeroPadded_lt_zeroPadded {width i j : Nat} (hwidth : 0 < width) (hij : i < j)
    (hj : j < 10 ^ width) : (zeroPadded width i).toList < (zeroPadded width j).toList := by
  refine lt_of_ofDigitChars_lt (fun c => isDigit_zeroPadded) (fun c => isDigit_zeroPadded) ?_ ?_
  · rw [length_zeroPadded hwidth hj, length_zeroPadded hwidth (hij.trans hj)]
  · rw [ofDigitChars_zeroPadded, ofDigitChars_zeroPadded]
    exact hij

end Shopping
