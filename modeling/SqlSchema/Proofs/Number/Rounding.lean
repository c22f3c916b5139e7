import SqlSchema.Number.Binary

/-! # Rounding of whole numbers

The word of a rounded number is its exponent, counted in binades, and a quotient of a few binades at
most. So a whole number far below the greatest number of a format is not rounded to infinity. -/

namespace SqlSchema.Number

theorem roundQuotient_le (num den : Nat) : roundQuotient num den ≤ num / den + 1 := by
  have hparity : num / den % 2 < 2 := Nat.mod_lt _ (by decide)
  simp only [roundQuotient]
  split
  · omega
  · split <;> omega

/-- A whole number that is scaled down by an exponent leaves a quotient of the other bits. -/
theorem scaleDown_quotient_lt {num bits : Nat} {exponent : Int}
    (h : (num.log2 : Int) + 1 ≤ exponent + bits) :
    (scaleDown num 1 exponent).1 / (scaleDown num 1 exponent).2 < powerOfTwo bits := by
  have hnum : num < powerOfTwo (num.log2 + 1) := Nat.lt_log2_self
  rw [scaleDown]
  split
  next hexponent =>
    rw [Nat.one_mul]
    refine Nat.div_lt_of_lt_mul (Nat.lt_of_lt_of_le hnum ?_)
    rw [← powerOfTwo_add]
    exact Nat.pow_le_pow_right (by decide) (by omega)
  next hexponent =>
    rw [Nat.div_one]
    refine Nat.lt_of_lt_of_le (Nat.mul_lt_mul_of_pos_right hnum (powerOfTwo_pos _)) ?_
    rw [← powerOfTwo_add]
    exact Nat.pow_le_pow_right (by decide) (by omega)

namespace BinaryFormat

variable {f : BinaryFormat}

theorem powerOfTwo_precision_add_one (hprecision : 0 < f.precision) :
    powerOfTwo (f.precision + 1) = 4 * f.binade := by
  have hsplit : f.precision + 1 = 2 + (f.precision - 1) := by omega
  rw [hsplit, powerOfTwo_add]
  rfl

/-- Whole numbers of fewer bits than half of the exponents are finite. -/
theorem round_lt_infinity (hprecision : 0 < f.precision) {num : Nat}
    (h : num.log2 + 2 < f.bias) : f.round num 1 < f.infinity := by
  have hbinade := f.binade_pos
  by_cases hzero : num = 0
  · rw [round, if_pos hzero]
    exact Nat.mul_pos (by omega) hbinade
  · rw [round, if_neg hzero]
    extract_lets guess near fitted exponent scaled
    have hguess : guess = (num.log2 : Int) - f.precision := by
      have hone : Nat.log2 1 = 0 := by decide
      simp [guess, hone]
    have hfitted : guess ≤ fitted ∧ fitted ≤ guess + 1 := by
      simp only [fitted]
      split <;> omega
    have hexponent : guess ≤ exponent ∧ exponent ≤ max (guess + 1) f.minExponent := by
      simp only [exponent]
      omega
    have hplaces : (exponent - f.minExponent).toNat ≤ num.log2 + f.bias - 1 := by
      simp only [minExponent] at hexponent ⊢
      omega
    have hquotient : scaled.1 / scaled.2 < 4 * f.binade := by
      rw [← powerOfTwo_precision_add_one hprecision]
      exact scaleDown_quotient_lt (by push_cast; omega)
    have hrounded := roundQuotient_le scaled.1 scaled.2
    refine Nat.lt_of_le_of_lt (Nat.min_le_left _ _) ?_
    calc (exponent - f.minExponent).toNat * f.binade + roundQuotient scaled.1 scaled.2
        ≤ (num.log2 + f.bias - 1) * f.binade + 4 * f.binade :=
          Nat.add_le_add (Nat.mul_le_mul_right _ hplaces) (by omega)
      _ = (num.log2 + f.bias - 1 + 4) * f.binade := (Nat.add_mul _ _ _).symm
      _ < (2 * f.bias + 1) * f.binade := Nat.mul_lt_mul_of_pos_right (by omega) hbinade

end BinaryFormat

/-- Integers of sixty-four bits are finite in the format of as many. -/
theorem Binary.isFinite_ofInt {n : Int} (h : n.natAbs < powerOfTwo 64) :
    (ofInt n : Double).isFinite = true := by
  have hbits : n.natAbs.log2 < 64 := by
    by_cases hzero : n.natAbs = 0
    · rw [hzero]
      decide
    · exact (Nat.log2_lt hzero).mpr h
  rw [isFinite, decide_eq_true_eq]
  exact BinaryFormat.round_lt_infinity (by decide)
    (Nat.lt_of_lt_of_le (Nat.add_lt_add_right hbits 2) (by decide))

end SqlSchema.Number
