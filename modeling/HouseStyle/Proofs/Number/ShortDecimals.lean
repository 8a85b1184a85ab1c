import HouseStyle.Proofs.Number.Quotients
import Mathlib.Tactic.Linarith
import Mathlib.Tactic.Qify

/-!
Decimals of at most fifteen digits. Reading a decimal as a binary number moves it by less than one
part in 2⁵³. Two such decimals that differ are further apart than that moves the two of them, so
they are read as different numbers: what a number is written as in so few digits is settled.
-/

namespace HouseStyle

namespace Decimal

def magnitude (decimal : Decimal) : ℚ := decimal.coefficient * 10 ^ decimal.exponent

def value (decimal : Decimal) : ℚ :=
  if decimal.negative then -decimal.magnitude else decimal.magnitude

-- At the smaller exponent both are whole numbers, and one of them has at most fifteen digits.
theorem magnitude_eq_of_close_of_le (first second : Decimal) (short : first.coefficient < 10 ^ 15)
    (order : first.exponent ≤ second.exponent)
    (close : 2 ^ 53 * |first.magnitude - second.magnitude| ≤ first.magnitude + second.magnitude) :
    first.magnitude = second.magnitude := by
  obtain ⟨zeros, shifted⟩ : ∃ zeros : Nat, second.exponent = zeros + first.exponent :=
    ⟨(second.exponent - first.exponent).toNat, by omega⟩
  set unit : ℚ := 10 ^ first.exponent with unit_eq
  have positive : 0 < unit := zpow_pos (by norm_num) _
  set large := second.coefficient * 10 ^ zeros with large_eq
  have firstUnits : first.magnitude = first.coefficient * unit := rfl
  have secondUnits : second.magnitude = large * unit := by
    rw [magnitude, shifted, zpow_add₀ (by norm_num), zpow_natCast, large_eq, unit_eq]
    push_cast
    ring
  rw [firstUnits, secondUnits, ← sub_mul, ← add_mul, abs_mul, abs_of_pos positive,
    ← mul_assoc] at close
  have units := le_of_mul_le_mul_right close positive
  have whole : (2 ^ 53 * |(first.coefficient : ℤ) - large| : ℤ) ≤ first.coefficient + large := by
    exact_mod_cast units
  have same : first.coefficient = large := by
    have sides := abs_le.mp (le_refl |(first.coefficient : ℤ) - large|)
    omega
  rw [firstUnits, secondUnits, same]

theorem magnitude_eq_of_close (first second : Decimal) (short : first.coefficient < 10 ^ 15)
    (shortToo : second.coefficient < 10 ^ 15)
    (close : 2 ^ 53 * |first.magnitude - second.magnitude| ≤ first.magnitude + second.magnitude) :
    first.magnitude = second.magnitude := by
  rcases le_total first.exponent second.exponent with order | order
  · exact magnitude_eq_of_close_of_le first second short order close
  · rw [abs_sub_comm, add_comm] at close
    exact (magnitude_eq_of_close_of_le second first shortToo order close).symm

end Decimal

namespace Binary64

theorem gap_of_near (numerator denominator scale : Nat) (positive : 0 < denominator)
    (near : Near numerator denominator scale) : gap (numerator / denominator) = 2 ^ scale :=
  gap_of_scale _ scale ((Nat.le_div_iff_mul_le positive).mpr near.low)
    ((Nat.div_lt_iff_lt_mul positive).mpr near.high)

/-- Below 2⁵² quanta the step does not get any smaller. -/
theorem large_of_rounded (numerator denominator : Nat) (positive : 0 < denominator)
    (normal : 2 ^ 52 < nearestEven numerator (denominator * gap (numerator / denominator)) *
      gap (numerator / denominator)) : 2 ^ 52 * denominator ≤ numerator := by
  by_contra less
  have digits : numerator / denominator < 2 ^ 52 := (Nat.div_lt_iff_lt_mul positive).mpr (by omega)
  have step : gap (numerator / denominator) = 1 := by
    have width : Nat.log2 (numerator / denominator) ≤ 52 := by
      by_cases zero : numerator / denominator = 0
      · rw [zero]
        decide
      · exact ((Nat.log2_lt zero).mpr digits).le
    rw [gap, Nat.sub_eq_zero_of_le width]
  rw [step, Nat.mul_one, Nat.mul_one] at normal
  have most := nearestEven_le numerator denominator (2 ^ 52) positive (by omega)
  omega

theorem round_near (negative sign : Bool) (numerator denominator quanta : Nat)
    (positive : 0 < denominator)
    (read : round negative numerator denominator = finite sign quanta) (normal : 2 ^ 52 < quanta) :
    negative = sign ∧
      2 ^ 53 * |(numerator / denominator : ℚ) - quanta| ≤ numerator / denominator := by
  rw [round] at read
  split at read
  swap
  · cases read
  injection read with same rounded
  refine ⟨same, ?_⟩
  have large := large_of_rounded numerator denominator positive (rounded ▸ normal)
  obtain ⟨scale, near⟩ := exists_near numerator denominator positive large
  rw [gap_of_near numerator denominator scale positive near] at rounded
  obtain ⟨atMost, atLeast⟩ := nearestEven_bounds numerator (denominator * 2 ^ scale) (by positivity)
  set nearby := nearestEven numerator (denominator * 2 ^ scale)
  set step := 2 ^ scale
  have below : (0 : ℚ) < denominator := Nat.cast_pos.mpr positive
  set quotient : ℚ := numerator / denominator with quotient_eq
  have moved : |quotient - quanta| ≤ step / 2 := by
    rw [← rounded, abs_le]
    qify at atMost atLeast ⊢
    constructor
    · rw [le_sub_iff_add_le, le_div_iff₀ below]
      linarith
    · rw [sub_le_iff_le_add, div_le_iff₀ below]
      linarith
  have fine : 2 ^ 52 * step ≤ quotient := by
    have scaled : 2 ^ 52 * step * denominator ≤ numerator :=
      calc 2 ^ 52 * step * denominator = 2 ^ (scale + 52) * denominator := by ring
        _ ≤ numerator := near.low
    rw [quotient_eq, le_div_iff₀ below]
    exact_mod_cast scaled
  linarith

theorem ofDecimal_fraction (negative : Bool) (coefficient places : Nat) (some_places : 0 < places)
    (few : places ≤ 400) : ofDecimal ⟨negative, coefficient, -places⟩ =
      round negative (coefficient * one) (10 ^ places) := by
  by_cases zero : coefficient = 0
  · rw [zero, Nat.zero_mul, round_zero]
    rfl
  · rw [ofDecimal]
    dsimp only
    rw [if_neg zero, if_neg (by omega), if_neg (by omega), if_pos (by omega), Int.natAbs_neg,
      Int.natAbs_natCast]
    rfl

/-- Reading a decimal moves it by less than one part in 2⁵³, unless it is next to zero. -/
theorem ofDecimal_near (decimal : Decimal) (sign : Bool) (quanta : Nat)
    (read : ofDecimal decimal = finite sign quanta) (normal : 2 ^ 52 < quanta) :
    decimal.negative = sign ∧
      2 ^ 53 * |decimal.magnitude * one - quanta| ≤ decimal.magnitude * one := by
  rw [ofDecimal] at read
  split at read
  · injection read with _ zero
    omega
  split at read
  · cases read
  split at read
  · injection read with _ zero
    omega
  have power : ∀ exponent : Nat, ((Nat.pow 10 exponent : Nat) : ℚ) = 10 ^ exponent := by
    intro exponent
    exact Nat.cast_pow 10 exponent
  split at read
  · have near := round_near _ sign _ _ quanta (Nat.pow_pos (by decide)) read normal
    have size : (decimal.exponent.natAbs : ℤ) = -decimal.exponent := by omega
    have tens : (10 : ℚ) ^ decimal.exponent = (10 ^ decimal.exponent.natAbs)⁻¹ := by
      rw [← zpow_natCast, size, ← zpow_neg, neg_neg]
    have scaled : decimal.magnitude * one = ((decimal.coefficient * one : Nat) : ℚ) /
        (Nat.pow 10 decimal.exponent.natAbs : Nat) := by
      rw [power, Decimal.magnitude, tens, Nat.cast_mul]
      ring
    rwa [scaled]
  · have near := round_near _ sign _ _ quanta (by decide) read normal
    have size : (decimal.exponent.natAbs : ℤ) = decimal.exponent := by omega
    have tens : (10 : ℚ) ^ decimal.exponent = 10 ^ decimal.exponent.natAbs := by
      rw [← zpow_natCast, size]
    have scaled : decimal.magnitude * one =
        ((decimal.coefficient * Nat.pow 10 decimal.exponent.natAbs * one : Nat) : ℚ) /
          (1 : Nat) := by
      rw [Nat.cast_mul, Nat.cast_mul, power, Decimal.magnitude, tens, Nat.cast_one, div_one]
    rwa [scaled]

theorem value_eq_of_read_alike (first second : Decimal) (short : first.coefficient < 10 ^ 15)
    (shortToo : second.coefficient < 10 ^ 15) (sign : Bool) (quanta : Nat)
    (read : ofDecimal first = finite sign quanta) (readToo : ofDecimal second = finite sign quanta)
    (normal : 2 ^ 52 < quanta) : first.value = second.value := by
  obtain ⟨same, near⟩ := ofDecimal_near first sign quanta read normal
  obtain ⟨sameToo, nearToo⟩ := ofDecimal_near second sign quanta readToo normal
  have unit : (0 : ℚ) < one := Nat.cast_pos.mpr one_pos
  have close : 2 ^ 53 * |first.magnitude - second.magnitude| ≤
      first.magnitude + second.magnitude := by
    apply le_of_mul_le_mul_right _ unit
    calc 2 ^ 53 * |first.magnitude - second.magnitude| * one =
          2 ^ 53 * |first.magnitude * one - second.magnitude * one| := by
          rw [← sub_mul, abs_mul, abs_of_pos unit, mul_assoc]
      _ ≤ 2 ^ 53 * (|first.magnitude * one - quanta| + |second.magnitude * one - quanta|) := by
          gcongr
          rw [abs_sub_comm (second.magnitude * one)]
          exact abs_sub_le _ _ _
      _ ≤ (first.magnitude + second.magnitude) * one := by linarith
  rw [Decimal.value, Decimal.value, same, sameToo,
    Decimal.magnitude_eq_of_close first second short shortToo close]

end Binary64

end HouseStyle
