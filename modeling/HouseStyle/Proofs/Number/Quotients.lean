import HouseStyle.Proofs.Number.Rounding

/-!
Quotients of whole numbers. The quotient is rounded twice, to a number of 53 binary digits and then
to a whole number. The first rounding does not disturb the second: the middle between two whole
numbers is a binary number itself, so no quotient is moved past it, and one that is not in the
middle is too far from it to be moved there.
-/

namespace HouseStyle.Binary64

theorem round_mul_left (negative : Bool) (factor numerator denominator : Nat)
    (positive : 0 < factor) : round negative (factor * numerator) (factor * denominator) =
      round negative numerator denominator := by
  rw [round, round, Nat.mul_div_mul_left _ _ positive]
  simp only [Nat.mul_assoc factor, nearestEven_mul_left factor _ _ positive]

theorem mul_natural (negative : Bool) (value factor : Nat) :
    mul (finite negative (value * one)) (finite false (factor * one)) =
      round negative (value * factor * one) 1 := by
  have product : value * one * (factor * one) = one * (value * factor * one) := by ring
  rw [mul, Bool.bne_false, product, ← round_mul_left negative one _ 1 one_pos, Nat.mul_one]

theorem div_natural (negative : Bool) (value divisor : Nat) (nonzero : divisor ≠ 0) :
    div (finite negative (value * one)) (finite false (divisor * one)) =
      round negative (value * one) divisor := by
  rw [div, if_neg (Nat.mul_ne_zero nonzero one_pos.ne'), Bool.bne_false, Nat.mul_comm _ one,
    Nat.mul_comm divisor, round_mul_left negative one _ _ one_pos]

theorem pow_le_one (exponent : Nat) (fits : exponent ≤ 1074) : 2 ^ exponent ≤ one := by
  rw [one_eq_pow_mul exponent (1074 - exponent) (by omega)]
  exact Nat.le_mul_of_pos_right _ (by positivity)

theorem one_le_pow (exponent : Nat) (wide : 1074 ≤ exponent) : one ≤ 2 ^ exponent := by
  obtain ⟨width, whole⟩ : ∃ width, width = 1074 := ⟨_, rfl⟩
  rw [one_eq_pow width whole]
  exact Nat.pow_le_pow_right (by decide) (by omega)

/--
Halves go up all the same when the quotient is first rounded to a part of a whole number, if the
number of parts is even and more than the denominator.
-/
theorem nearestEven_half_up (value denominator middle : Nat) (positive : 0 < denominator)
    (fine : denominator < 2 * middle) :
    (nearestEven (2 * middle * value) denominator + middle) / (2 * middle) =
      (2 * value + denominator) / (2 * denominator) := by
  obtain ⟨atMost, atLeast⟩ := nearestEven_bounds (2 * middle * value) denominator positive
  set nearby := nearestEven (2 * middle * value) denominator
  set whole := (2 * value + denominator) / (2 * denominator)
  have below : 2 * denominator * whole ≤ 2 * value + denominator := Nat.mul_div_le _ _
  have above : 2 * value + denominator + 1 ≤ 2 * denominator * (whole + 1) :=
    Nat.lt_mul_div_succ _ (by omega)
  apply Nat.div_eq_of_lt_le
  · have twice : 2 * (whole * (2 * middle)) ≤ 2 * (nearby + middle) + 1 := by
      apply Nat.le_of_mul_le_mul_right _ positive
      calc 2 * (whole * (2 * middle)) * denominator = 2 * denominator * whole * (2 * middle) := by
            ring
        _ ≤ (2 * value + denominator) * (2 * middle) := Nat.mul_le_mul_right _ below
        _ = 2 * (2 * middle * value) + 2 * middle * denominator := by ring
        _ ≤ (2 * nearby + 1) * denominator + 2 * middle * denominator :=
          Nat.add_le_add_right atMost _
        _ = (2 * (nearby + middle) + 1) * denominator := by ring
    omega
  · apply Nat.lt_of_mul_lt_mul_right (a := 2 * denominator)
    calc (nearby + middle) * (2 * denominator) =
          2 * nearby * denominator + 2 * middle * denominator := by ring
      _ ≤ 2 * (2 * middle * value) + denominator + 2 * middle * denominator :=
        Nat.add_le_add_right atLeast _
      _ < 2 * (2 * middle * value) + 2 * middle + 2 * middle * denominator := by omega
      _ = 2 * middle * (2 * value + denominator + 1) := by ring
      _ ≤ 2 * middle * (2 * denominator * (whole + 1)) := Nat.mul_le_mul_left _ above
      _ = (whole + 1) * (2 * middle) * (2 * denominator) := by ring

/-- The scale of the numbers near a quotient. -/
structure Near (numerator denominator scale : Nat) : Prop where
  low : 2 ^ (scale + 52) * denominator ≤ numerator
  high : numerator < 2 ^ (scale + 53) * denominator

theorem exists_near (numerator denominator : Nat) (positive : 0 < denominator)
    (large : 2 ^ 52 * denominator ≤ numerator) : ∃ scale, Near numerator denominator scale := by
  set quanta := numerator / denominator with quotient
  have digits : 2 ^ 52 ≤ quanta := (Nat.le_div_iff_mul_le positive).mpr large
  have nonzero : quanta ≠ 0 := by omega
  have width : 52 ≤ Nat.log2 quanta := (Nat.le_log2 nonzero).mpr digits
  refine ⟨Nat.log2 quanta - 52, ?_, ?_⟩
  · rw [← Nat.le_div_iff_mul_le positive, Nat.sub_add_cancel width]
    exact Nat.log2_self_le nonzero
  · rw [← Nat.div_lt_iff_lt_mul positive]
    calc quanta < 2 ^ (Nat.log2 quanta + 1) := Nat.lt_log2_self
      _ = 2 ^ (Nat.log2 quanta - 52 + 53) := by congr 1; omega

theorem exists_near_natural (value denominator : Nat) (nonzero : value ≠ 0)
    (positive : 0 < denominator) (short : denominator < 2 ^ 52) :
    ∃ scale, Near (value * one) denominator scale := by
  apply exists_near _ _ positive
  calc 2 ^ 52 * denominator ≤ 2 ^ 52 * 2 ^ 52 := Nat.mul_le_mul_left _ short.le
    _ = 2 ^ 104 := by decide
    _ ≤ one := pow_le_one 104 (by decide)
    _ ≤ value * one := Nat.le_mul_of_pos_left _ (Nat.pos_of_ne_zero nonzero)

/-- The numbers near a quotient of short numbers cut one into more parts than the denominator. -/
theorem Near.parts {value denominator scale : Nat} (near : Near (value * one) denominator scale)
    (small : value < 2 ^ 52) (positive : 0 < denominator) :
    scale < 1074 ∧ ∃ middle, one = 2 ^ scale * (2 * middle) ∧ denominator < 2 * middle := by
  have fine : denominator * 2 ^ scale < one := by
    apply Nat.lt_of_mul_lt_mul_left (a := 2 ^ 52)
    calc 2 ^ 52 * (denominator * 2 ^ scale) = 2 ^ (scale + 52) * denominator := by ring
      _ ≤ value * one := near.low
      _ < 2 ^ 52 * one := Nat.mul_lt_mul_of_pos_right small one_pos
  have lower : scale < 1074 := by
    by_contra higher
    have coarse := one_le_pow scale (by omega)
    have repeated : 2 ^ scale ≤ denominator * 2 ^ scale := Nat.le_mul_of_pos_left _ positive
    omega
  have parts : one = 2 ^ scale * (2 * 2 ^ (1073 - scale)) := by
    rw [one_eq_pow_mul scale (1 + (1073 - scale)) (by omega), Nat.pow_add, Nat.pow_one]
  refine ⟨lower, 2 ^ (1073 - scale), parts, ?_⟩
  apply Nat.lt_of_mul_lt_mul_left (a := 2 ^ scale)
  calc 2 ^ scale * denominator = denominator * 2 ^ scale := Nat.mul_comm _ _
    _ < one := fine
    _ = 2 ^ scale * (2 * 2 ^ (1073 - scale)) := parts

theorem round_normal (negative : Bool) (value denominator : Nat) (nonzero : value ≠ 0)
    (small : value < 2 ^ 52) (positive : 0 < denominator) (short : denominator < 2 ^ 52) :
    ∃ quanta, round negative (value * one) denominator = finite negative quanta ∧
      2 ^ 52 < quanta := by
  obtain ⟨scale, near⟩ := exists_near_natural value denominator nonzero positive short
  obtain ⟨lower, -⟩ := near.parts small positive
  refine ⟨_, round_of_scale negative _ _ scale near.low near.high (by omega), ?_⟩
  have bounds := (nearestEven_bounds (value * one) (denominator * 2 ^ scale) (by positivity)).1
  set nearby := nearestEven (value * one) (denominator * 2 ^ scale)
  have digits : 2 ^ 52 ≤ nearby := by
    have twice : 2 * 2 ^ 52 ≤ 2 * nearby + 1 := by
      apply Nat.le_of_mul_le_mul_right _ (by positivity : 0 < denominator * 2 ^ scale)
      calc 2 * 2 ^ 52 * (denominator * 2 ^ scale) = 2 * (2 ^ (scale + 52) * denominator) := by ring
        _ ≤ 2 * (value * one) := Nat.mul_le_mul_left _ near.low
        _ ≤ (2 * nearby + 1) * (denominator * 2 ^ scale) := bounds
    omega
  have scaled : scale ≠ 0 := by
    rintro rfl
    have less : value * one < one :=
      calc value * one < 2 ^ 53 * denominator := near.high
        _ ≤ 2 ^ 53 * 2 ^ 52 := Nat.mul_le_mul_left _ short.le
        _ = 2 ^ 105 := by decide
        _ ≤ one := pow_le_one 105 (by decide)
    have more : one ≤ value * one := Nat.le_mul_of_pos_left _ (Nat.pos_of_ne_zero nonzero)
    omega
  calc 2 ^ 52 < 2 ^ 52 * 2 := by decide
    _ ≤ nearby * 2 ^ scale := Nat.mul_le_mul digits (Nat.le_self_pow scaled 2)

theorem round_half_up (negative : Bool) (value denominator : Nat) (small : value < 2 ^ 52)
    (positive : 0 < denominator) (short : denominator < 2 ^ 52) :
    ∃ quanta, round negative (value * one) denominator = finite negative quanta ∧
      (2 * quanta + one) / (2 * one) = (2 * value + denominator) / (2 * denominator) := by
  by_cases zero : value = 0
  · refine ⟨0, by rw [zero, Nat.zero_mul, round_zero], ?_⟩
    have half : one / (2 * one) = 0 := Nat.div_eq_of_lt (by have := one_pos; omega)
    have halfToo : denominator / (2 * denominator) = 0 := Nat.div_eq_of_lt (by omega)
    rw [zero, Nat.mul_zero, Nat.zero_add, Nat.zero_add, half, halfToo]
  · obtain ⟨scale, near⟩ := exists_near_natural value denominator zero positive short
    obtain ⟨lower, middle, parts, fine⟩ := near.parts small positive
    refine ⟨_, round_of_scale negative _ _ scale near.low near.high (by omega), ?_⟩
    have dividend : value * one = 2 ^ scale * (2 * middle * value) := by rw [parts]; ring
    rw [dividend, Nat.mul_comm denominator, nearestEven_mul_left _ _ _ (by positivity),
      ← nearestEven_half_up value denominator middle positive fine]
    set nearby := nearestEven (2 * middle * value) denominator
    have above : 2 * (nearby * 2 ^ scale) + one = 2 * 2 ^ scale * (nearby + middle) := by
      rw [parts]; ring
    have under : 2 * one = 2 * 2 ^ scale * (2 * middle) := by rw [parts]; ring
    rw [above, under, Nat.mul_div_mul_left _ _ (by positivity)]

end HouseStyle.Binary64
