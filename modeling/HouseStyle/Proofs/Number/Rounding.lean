import HouseStyle.Number.Binary64
import Mathlib.Tactic.Ring
import Mathlib.Tactic.Positivity

/-!
Rounding to 53 binary digits. What a fraction is rounded to depends on the power of two it lies
between, its scale; at a known scale rounding is one choice of the nearest whole number. Dividing a
whole number by an odd number times a power of two, and multiplying the result by the same again,
therefore comes down to whole numbers: to a multiple of the odd number next to a power of two times
the number one began with.
-/

namespace HouseStyle.Binary64

-- The exponents of these two powers stay behind a name: the powers are too large to be worked out.
theorem one_eq_pow (exponent : Nat) (whole : exponent = 1074) : one = 2 ^ exponent := by
  unfold one
  rw [← whole]
  rfl

theorem limit_eq_pow (exponent : Nat) (whole : exponent = 2098) : limit = 2 ^ exponent := by
  unfold limit
  rw [← whole]
  rfl

theorem one_eq_pow_mul (high low : Nat) (whole : high + low = 1074) :
    one = 2 ^ high * 2 ^ low := by
  rw [one_eq_pow _ whole, Nat.pow_add]

theorem one_pos : 0 < one := by
  rw [one_eq_pow_mul 1074 0 rfl]
  positivity

/-! The nearest whole number. -/

theorem nearestEven_bounds (numerator denominator : Nat) (positive : 0 < denominator) :
    2 * numerator ≤ (2 * nearestEven numerator denominator + 1) * denominator ∧
      2 * nearestEven numerator denominator * denominator ≤ 2 * numerator + denominator := by
  have whole := Nat.div_add_mod numerator denominator
  have small := Nat.mod_lt numerator positive
  unfold nearestEven
  set quotient := numerator / denominator
  set rest := numerator % denominator
  have below : (2 * quotient + 1) * denominator = 2 * (denominator * quotient) + denominator := by
    ring
  have above : (2 * (quotient + 1) + 1) * denominator =
      2 * (denominator * quotient) + 3 * denominator := by ring
  have twice : 2 * quotient * denominator = 2 * (denominator * quotient) := by ring
  have twiceNext : 2 * (quotient + 1) * denominator =
      2 * (denominator * quotient) + 2 * denominator := by ring
  simp only
  split_ifs
  · omega
  · omega
  · omega
  · omega

theorem nearestEven_mul_left (factor numerator denominator : Nat) (positive : 0 < factor) :
    nearestEven (factor * numerator) (factor * denominator) =
      nearestEven numerator denominator := by
  have below : ∀ left right, factor * left < factor * right ↔ left < right :=
    fun left right => Nat.mul_lt_mul_left positive
  unfold nearestEven
  simp only [Nat.mul_div_mul_left _ _ positive, Nat.mul_mod_mul_left, Nat.mul_left_comm 2 factor,
    below]

theorem nearestEven_le (numerator denominator bound : Nat) (positive : 0 < denominator)
    (high : numerator < bound * denominator) : nearestEven numerator denominator ≤ bound := by
  have bounds := (nearestEven_bounds numerator denominator positive).2
  by_contra larger
  have more : (2 * bound + 2) * denominator ≤
      2 * nearestEven numerator denominator * denominator :=
    Nat.mul_le_mul_right denominator (by omega)
  have spread : (2 * bound + 2) * denominator = 2 * (bound * denominator) + 2 * denominator := by
    ring
  omega

/-! Rounding at a known scale. -/

theorem gap_of_scale (quanta scale : Nat) (low : 2 ^ (scale + 52) ≤ quanta)
    (high : quanta < 2 ^ (scale + 53)) : gap quanta = 2 ^ scale := by
  have nonzero : quanta ≠ 0 := by
    have positive : 0 < 2 ^ (scale + 52) := by positivity
    omega
  have width : Nat.log2 quanta = scale + 52 := (Nat.log2_eq_iff nonzero).mpr ⟨low, high⟩
  rw [gap, width, Nat.add_sub_cancel]
  rfl

theorem lt_limit (significand scale : Nat) (small : significand ≤ 2 ^ 53)
    (finite_scale : scale + 53 < 2098) : significand * 2 ^ scale < limit := by
  obtain ⟨last, whole⟩ : ∃ last, last = 2098 := ⟨_, rfl⟩
  rw [limit_eq_pow last whole]
  calc significand * 2 ^ scale ≤ 2 ^ 53 * 2 ^ scale := Nat.mul_le_mul_right _ small
    _ = 2 ^ (53 + scale) := (Nat.pow_add 2 53 scale).symm
    _ < 2 ^ last := Nat.pow_lt_pow_right (by decide) (by omega)

theorem round_of_scale (negative : Bool) (numerator denominator scale : Nat)
    (low : 2 ^ (scale + 52) * denominator ≤ numerator)
    (high : numerator < 2 ^ (scale + 53) * denominator) (finite_scale : scale + 53 < 2098) :
    round negative numerator denominator =
      finite negative (nearestEven numerator (denominator * 2 ^ scale) * 2 ^ scale) := by
  have positive : 0 < denominator := by
    by_contra zero
    have none : denominator = 0 := by omega
    simp [none] at high
  have step : gap (numerator / denominator) = 2 ^ scale := by
    apply gap_of_scale
    · exact (Nat.le_div_iff_mul_le positive).mpr low
    · exact (Nat.div_lt_iff_lt_mul positive).mpr high
  have small : nearestEven numerator (denominator * 2 ^ scale) ≤ 2 ^ 53 := by
    apply nearestEven_le
    · positivity
    · calc numerator < 2 ^ (scale + 53) * denominator := high
        _ = 2 ^ 53 * (denominator * 2 ^ scale) := by ring
  rw [round]
  simp only [step]
  rw [if_pos (lt_limit _ scale small finite_scale)]

theorem round_zero (negative : Bool) (denominator : Nat) :
    round negative 0 denominator = finite negative 0 := by
  have none : nearestEven 0 (denominator * gap (0 / denominator)) = 0 := by
    simp [nearestEven]
  have fits : 0 < limit := lt_limit 0 0 (by decide) (by decide) |>.trans_le' (Nat.zero_le _)
  rw [round]
  simp only [none, Nat.zero_mul]
  rw [if_pos fits]

/-! Whole numbers below 2⁵³ are not rounded. -/

theorem nearestEven_mul_self (value factor : Nat) (positive : 0 < factor) :
    nearestEven (value * factor) factor = value := by
  simp [nearestEven, Nat.mul_div_cancel value positive, positive]

theorem round_significand (negative : Bool) (significand scale : Nat) (low : 2 ^ 52 ≤ significand)
    (high : significand < 2 ^ 53) (finite_scale : scale + 53 < 2098) :
    round negative (significand * 2 ^ scale) 1 = finite negative (significand * 2 ^ scale) := by
  have positive : 0 < 2 ^ scale := by positivity
  rw [round_of_scale negative _ 1 scale _ _ finite_scale, Nat.one_mul,
    nearestEven_mul_self significand _ positive]
  · calc 2 ^ (scale + 52) * 1 = 2 ^ 52 * 2 ^ scale := by ring
      _ ≤ significand * 2 ^ scale := Nat.mul_le_mul_right _ low
  · calc significand * 2 ^ scale < 2 ^ 53 * 2 ^ scale := Nat.mul_lt_mul_of_pos_right high positive
      _ = 2 ^ (scale + 53) * 1 := by ring

theorem scaled_significand (value : Nat) (nonzero : value ≠ 0) (small : value < 2 ^ 53) :
    2 ^ 52 ≤ value * 2 ^ (52 - Nat.log2 value) ∧ value * 2 ^ (52 - Nat.log2 value) < 2 ^ 53 := by
  have width : Nat.log2 value < 53 := (Nat.log2_lt nonzero).mpr small
  have positive : 0 < 2 ^ (52 - Nat.log2 value) := by positivity
  constructor
  · calc 2 ^ 52 = 2 ^ Nat.log2 value * 2 ^ (52 - Nat.log2 value) := by
          rw [← Nat.pow_add, Nat.add_sub_cancel' (by omega)]
      _ ≤ value * 2 ^ (52 - Nat.log2 value) := Nat.mul_le_mul_right _ (Nat.log2_self_le nonzero)
  · calc value * 2 ^ (52 - Nat.log2 value) <
          2 ^ (Nat.log2 value + 1) * 2 ^ (52 - Nat.log2 value) :=
          Nat.mul_lt_mul_of_pos_right Nat.lt_log2_self positive
      _ = 2 ^ 53 := by
          rw [← Nat.pow_add]
          congr 1
          omega

theorem round_natural (negative : Bool) (value : Nat) (small : value < 2 ^ 53) :
    round negative (value * one) 1 = finite negative (value * one) := by
  by_cases zero : value = 0
  · rw [zero, Nat.zero_mul, round_zero]
  · have width : Nat.log2 value < 53 := (Nat.log2_lt zero).mpr small
    obtain ⟨low, high⟩ := scaled_significand value zero small
    rw [one_eq_pow_mul (52 - Nat.log2 value) (Nat.log2 value + 1022) (by omega), ← Nat.mul_assoc]
    exact round_significand negative _ _ low high (by omega)

/-! A whole number divided by an odd number times a power of two, and multiplied by the same. -/

theorem div_scaled (negative : Bool) (value odd power exponent scale : Nat)
    (whole : exponent + (power + scale) = 1074) (low : 2 ^ 52 * odd ≤ value * 2 ^ exponent)
    (high : value * 2 ^ exponent < 2 ^ 53 * odd) :
    div (finite negative (value * one)) (finite false (odd * 2 ^ power * one)) =
      finite negative (nearestEven (value * 2 ^ exponent) odd * 2 ^ scale) := by
  have oddPositive : 0 < odd := Nat.pos_of_ne_zero (by rintro rfl; omega)
  have factor : 0 < 2 ^ (power + scale) * one := Nat.mul_pos (by positivity) one_pos
  have divisor : odd * 2 ^ power * one ≠ 0 :=
    Nat.ne_of_gt (Nat.mul_pos (Nat.mul_pos oddPositive (by positivity)) one_pos)
  have dividend : value * one * one =
      2 ^ (power + scale) * one * (value * 2 ^ exponent) := by
    calc value * one * one = value * (2 ^ exponent * 2 ^ (power + scale)) * one := by
          rw [← one_eq_pow_mul exponent (power + scale) whole]
      _ = 2 ^ (power + scale) * one * (value * 2 ^ exponent) := by ring
  have step : odd * 2 ^ power * one * 2 ^ scale = 2 ^ (power + scale) * one * odd := by ring
  rw [div, if_neg divisor, Bool.bne_false, round_of_scale negative _ _ scale _ _ (by omega),
    dividend, step, nearestEven_mul_left _ _ _ factor]
  · calc 2 ^ (scale + 52) * (odd * 2 ^ power * one) =
          2 ^ (power + scale) * one * (2 ^ 52 * odd) := by ring
      _ ≤ 2 ^ (power + scale) * one * (value * 2 ^ exponent) := Nat.mul_le_mul_left _ low
      _ = value * one * one := dividend.symm
  · calc value * one * one = 2 ^ (power + scale) * one * (value * 2 ^ exponent) := dividend
      _ < 2 ^ (power + scale) * one * (2 ^ 53 * odd) := Nat.mul_lt_mul_of_pos_left high factor
      _ = 2 ^ (scale + 53) * (odd * 2 ^ power * one) := by ring

theorem mul_scaled (negative : Bool) (significand odd power scale shift : Nat)
    (low : 2 ^ (shift + 52) ≤ odd * significand) (high : odd * significand < 2 ^ (shift + 53))
    (finite_scale : shift + (power + scale) + 53 < 2098) :
    mul (finite negative (significand * 2 ^ scale)) (finite false (odd * 2 ^ power * one)) =
      finite negative (nearestEven (odd * significand) (2 ^ shift) *
        2 ^ (shift + (power + scale))) := by
  have factor : 0 < 2 ^ (power + scale) * one := Nat.mul_pos (by positivity) one_pos
  have product : significand * 2 ^ scale * (odd * 2 ^ power * one) =
      2 ^ (power + scale) * one * (odd * significand) := by ring
  have step : one * 2 ^ (shift + (power + scale)) = 2 ^ (power + scale) * one * 2 ^ shift := by
    ring
  rw [mul, Bool.bne_false, round_of_scale negative _ _ (shift + (power + scale)) _ _ finite_scale,
    product, step, nearestEven_mul_left _ _ _ factor]
  · calc 2 ^ (shift + (power + scale) + 52) * one =
          2 ^ (power + scale) * one * 2 ^ (shift + 52) := by ring
      _ ≤ 2 ^ (power + scale) * one * (odd * significand) := Nat.mul_le_mul_left _ low
      _ = significand * 2 ^ scale * (odd * 2 ^ power * one) := product.symm
  · calc significand * 2 ^ scale * (odd * 2 ^ power * one) =
          2 ^ (power + scale) * one * (odd * significand) := product
      _ < 2 ^ (power + scale) * one * 2 ^ (shift + 53) := Nat.mul_lt_mul_of_pos_left high factor
      _ = 2 ^ (shift + (power + scale) + 53) * one := by ring

theorem truncate_scaled (negative : Bool) (quotient exponent scale : Nat)
    (whole : exponent + scale = 1074) :
    truncate (finite negative (quotient * 2 ^ scale)) =
      word negative (quotient / 2 ^ exponent) := by
  have positive : 0 < 2 ^ scale := by positivity
  rw [truncate, one_eq_pow_mul exponent scale whole, Nat.mul_div_mul_right _ _ positive]

theorem word_natural (negative : Bool) (value : Nat) (small : value < 2 ^ 53) :
    word negative value = if negative then -(value : Int) else value := by
  apply Range.clamp_of_contains
  rw [Range.contains, Bool.and_eq_true, decide_eq_true_eq, decide_eq_true_eq]
  simp only [Range.signed64]
  split_ifs
  · omega
  · omega

theorem word_natAbs (number : Int) (small : number.natAbs < 2 ^ 53) :
    word (number < 0) number.natAbs = number := by
  rw [word_natural _ _ small]
  by_cases negative : number < 0
  · rw [if_pos (decide_eq_true negative)]
    omega
  · rw [if_neg (by simpa using negative)]
    omega

theorem word_natAbs_sub_one (number : Int) (nonzero : number ≠ 0)
    (small : number.natAbs < 2 ^ 53) :
    word (number < 0) (number.natAbs - 1) = number - number.sign := by
  rw [word_natural _ _ (by omega)]
  by_cases negative : number < 0
  · rw [if_pos (decide_eq_true negative), Int.sign_eq_neg_one_of_neg negative]
    omega
  · rw [if_neg (by simpa using negative), Int.sign_eq_one_of_pos (by omega)]
    omega

theorem ofInt_eq (number : Int) (small : number.natAbs < 2 ^ 53) :
    ofInt number = finite (number < 0) (number.natAbs * one) :=
  round_natural _ _ small

theorem ofDecimal_whole (negative : Bool) (value : Nat) :
    ofDecimal ⟨negative, value, 0⟩ = round negative (value * one) 1 := by
  by_cases none : value = 0
  · rw [none, Nat.zero_mul, round_zero]
    rfl
  · rw [ofDecimal]
    simp only [if_neg none]
    rw [if_neg (by decide), if_neg (by omega), if_neg (by decide)]
    exact congrArg (fun size => round negative (size * one) 1) (Nat.mul_one value)

theorem ofInt_natCast (number : Nat) (small : number < 2 ^ 53) :
    ofInt number = finite false (number * one) := by
  rw [ofInt_eq number small, Int.natAbs_natCast, decide_eq_false (by omega)]

end HouseStyle.Binary64
