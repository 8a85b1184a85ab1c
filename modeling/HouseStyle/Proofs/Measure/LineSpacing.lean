import HouseStyle.Measure
import HouseStyle.Proofs.Number.Rounding
import Mathlib.Tactic.SplitIfs

/-!
Line spacing there and back. A count of twentieths is divided when a style is read and multiplied by
the same number when the style is resolved; both operations round, and fractions are cut off at the
end. Under an exact rule the count always comes back. A multiple of a line comes back one nearer to
zero for the counts of `FallsShort`, and unchanged for all others.
-/

namespace HouseStyle

namespace Binary64

def thereAndBack (number divisor : Binary64) : Int := ((number.div divisor).mul divisor).truncate

/-! The two roundings, for a significand of 53 digits whose last one is zero. -/

theorem nearestEven_eighths_of_fifteenths (significand : Nat) (even : significand % 2 = 0) :
    nearestEven (15 * nearestEven (8 * significand) 15) 8 =
      if 5 ≤ 8 * significand % 15 ∧ 8 * significand % 15 ≤ 7 then significand - 1
      else if 8 ≤ 8 * significand % 15 ∧ 8 * significand % 15 ≤ 10 then significand + 1
      else significand := by
  simp only [nearestEven]
  split_ifs <;> omega

theorem nearestEven_sixteenths_of_fifteenths (significand : Nat) :
    nearestEven (15 * nearestEven (16 * significand) 15) 16 = significand := by
  simp only [nearestEven]
  split_ifs <;> omega

theorem nearestEven_quarters_of_fifths (significand : Nat) (even : significand % 2 = 0) :
    nearestEven (5 * nearestEven (4 * significand) 5) 4 = significand := by
  simp only [nearestEven]
  split_ifs <;> omega

theorem nearestEven_eighths_of_fifths (significand : Nat) :
    nearestEven (5 * nearestEven (8 * significand) 5) 8 = significand := by
  simp only [nearestEven]
  split_ifs <;> omega

theorem thereAndBack_scaled (negative : Bool) (value odd power exponent shift : Nat)
    (fits : power + exponent ≤ 1074) (shorter : shift ≤ exponent)
    (low : 2 ^ 52 * odd ≤ value * 2 ^ exponent) (high : value * 2 ^ exponent < 2 ^ 53 * odd)
    (lowBack : 2 ^ (shift + 52) ≤ odd * nearestEven (value * 2 ^ exponent) odd)
    (highBack : odd * nearestEven (value * 2 ^ exponent) odd < 2 ^ (shift + 53)) :
    thereAndBack (finite negative (value * one)) (finite false (odd * 2 ^ power * one)) =
      word negative (nearestEven (odd * nearestEven (value * 2 ^ exponent) odd) (2 ^ shift) /
        2 ^ (exponent - shift)) := by
  rw [thereAndBack,
    div_scaled negative value odd power exponent (1074 - power - exponent) (by omega) low high,
    mul_scaled negative _ odd power _ shift lowBack highBack (by omega),
    truncate_scaled negative _ (exponent - shift) _ (by omega)]

/-! The significand of a whole number, and the whole number of a significand. -/

/-- The whole number with as many zeros behind it as make 53 binary digits. -/
def significand (value : Nat) : Nat := value * 2 ^ (52 - Nat.log2 value)

theorem width_lt (value : Nat) (nonzero : value ≠ 0) (small : value < 2 ^ 52) :
    Nat.log2 value < 52 := (Nat.log2_lt nonzero).mpr small

theorem significand_even (value : Nat) (nonzero : value ≠ 0) (small : value < 2 ^ 52) :
    significand value % 2 = 0 := by
  obtain ⟨zeros, more⟩ : ∃ zeros, 52 - Nat.log2 value = zeros + 1 :=
    ⟨51 - Nat.log2 value, by have := width_lt value nonzero small; omega⟩
  rw [significand, more, Nat.pow_succ, ← Nat.mul_assoc, Nat.mul_mod_left]

theorem significand_widen (value wide : Nat) :
    value * 2 ^ (52 - Nat.log2 value + wide) = 2 ^ wide * significand value := by
  rw [significand, Nat.pow_add]
  ring

theorem significand_div (value : Nat) :
    significand value / 2 ^ (52 - Nat.log2 value) = value :=
  Nat.mul_div_cancel _ (by positivity)

theorem succ_significand_div (value : Nat) (nonzero : value ≠ 0) (small : value < 2 ^ 52) :
    (significand value + 1) / 2 ^ (52 - Nat.log2 value) = value := by
  have digits : 1 < 2 ^ (52 - Nat.log2 value) :=
    Nat.one_lt_two_pow (by have := width_lt value nonzero small; omega)
  rw [significand, Nat.mul_comm, Nat.mul_add_div (by omega), Nat.div_eq_of_lt digits,
    Nat.add_zero]

theorem pred_significand_div (value : Nat) (nonzero : value ≠ 0) :
    (significand value - 1) / 2 ^ (52 - Nat.log2 value) = value - 1 := by
  have digits : 0 < 2 ^ (52 - Nat.log2 value) := by positivity
  obtain ⟨fewer, rfl⟩ := Nat.exists_eq_succ_of_ne_zero nonzero
  set unit := 2 ^ (52 - Nat.log2 fewer.succ)
  have short : significand fewer.succ - 1 = unit * fewer + (unit - 1) := by
    have whole : fewer.succ * unit = unit * fewer + unit := by rw [Nat.succ_mul, Nat.mul_comm]
    rw [significand, whole]
    omega
  rw [short, Nat.mul_add_div digits, Nat.div_eq_of_lt (by omega)]
  rfl

/-- The counts that come back short by one when they are divided by 240 and multiplied again. -/
def FallsShort (value : Nat) : Prop :=
  15 * 2 ^ 52 ≤ 8 * significand value ∧
    5 ≤ 8 * significand value % 15 ∧ 8 * significand value % 15 ≤ 7

instance : DecidablePred FallsShort := fun _ => inferInstanceAs (Decidable (_ ∧ _ ∧ _))

/-! Division by an odd number times a power of two, multiplication by the same, and truncation. -/

theorem thereAndBack_zero (negative : Bool) (divisor : Nat) (nonzero : divisor ≠ 0) :
    thereAndBack (finite negative (0 * one)) (finite false divisor) = word negative 0 := by
  rw [thereAndBack, div, if_neg nonzero, Nat.zero_mul, Nat.zero_mul, round_zero, mul,
    Nat.zero_mul, round_zero, truncate, Nat.zero_div, Bool.bne_false, Bool.bne_false]

theorem divisor_ne_zero (odd power : Nat) (nonzero : odd ≠ 0) : odd * 2 ^ power * one ≠ 0 :=
  Nat.mul_ne_zero (Nat.mul_ne_zero nonzero (by positivity)) one_pos.ne'

/-- When the product needs as many binary digits again as the quotient was given more. -/
theorem thereAndBack_widened (negative : Bool) (value odd power wide unit : Nat)
    (size : 2 ^ wide = unit) (nonzero : value ≠ 0) (small : value < 2 ^ 52)
    (fits : power + wide ≤ 1022)
    (low : 2 ^ 52 * odd ≤ unit * significand value)
    (high : unit * significand value < 2 ^ 53 * odd)
    (lowBack : 2 ^ 52 * unit ≤ odd * nearestEven (unit * significand value) odd)
    (highBack : odd * nearestEven (unit * significand value) odd < 2 ^ 53 * unit) :
    thereAndBack (finite negative (value * one)) (finite false (odd * 2 ^ power * one)) =
      word negative (nearestEven (odd * nearestEven (unit * significand value) odd) unit /
        2 ^ (52 - Nat.log2 value)) := by
  subst size
  have width := width_lt value nonzero small
  have widened := significand_widen value wide
  have step : ∀ digits, 2 ^ digits * 2 ^ wide = 2 ^ (wide + digits) := by
    intro digits
    rw [Nat.pow_add, Nat.mul_comm]
  rw [step, ← widened] at lowBack highBack
  rw [← widened] at low high
  rw [thereAndBack_scaled negative value odd power (52 - Nat.log2 value + wide) wide (by omega)
    (by omega) low high lowBack highBack, widened, Nat.add_sub_cancel]

theorem thereAndBack_240 (negative : Bool) (value : Nat) (small : value < 2 ^ 52) :
    thereAndBack (finite negative (value * one)) (finite false (15 * 2 ^ 4 * one)) =
      word negative (if FallsShort value then value - 1 else value) := by
  by_cases zero : value = 0
  · rw [zero, thereAndBack_zero negative _ (divisor_ne_zero 15 4 (by decide)), Nat.zero_sub,
      ite_self]
  obtain ⟨low, high⟩ : 2 ^ 52 ≤ significand value ∧ significand value < 2 ^ 53 :=
    scaled_significand value zero (by omega)
  have even := significand_even value zero small
  by_cases upper : 15 * 2 ^ 52 ≤ 8 * significand value
  · have bounds := nearestEven_bounds (8 * significand value) 15 (by decide)
    have back := nearestEven_eighths_of_fifteenths (significand value) even
    rw [thereAndBack_widened negative value 15 4 3 8 rfl zero small (by decide) (by omega)
      (by omega) (by omega) (by omega), back]
    apply congrArg (word negative)
    by_cases short : 5 ≤ 8 * significand value % 15 ∧ 8 * significand value % 15 ≤ 7
    · rw [if_pos short, if_pos ⟨upper, short⟩, pred_significand_div value zero]
    · rw [if_neg short, if_neg fun falls : FallsShort value => short falls.2]
      split_ifs
      · exact succ_significand_div value zero small
      · exact significand_div value
  · rw [if_neg fun falls : FallsShort value => upper falls.1]
    by_cases power : significand value = 2 ^ 52
    -- The product falls just below a power of two and keeps one binary digit more.
    · have width := width_lt value zero small
      have widened := significand_widen value 4
      have under : 15 * nearestEven (2 ^ 4 * 2 ^ 52) 15 = 2 ^ 56 - 1 := by decide
      have product : nearestEven (2 ^ 56 - 1) (2 ^ 3) = 2 * 2 ^ 52 := by decide
      have back : 2 * significand value / 2 ^ (52 - Nat.log2 value + 1) = value := by
        rw [Nat.pow_succ, Nat.mul_comm _ 2, Nat.mul_div_mul_left _ _ (by decide), significand_div]
      rw [power] at widened
      rw [thereAndBack_scaled negative value 15 4 (52 - Nat.log2 value + 4) 3 (by omega) (by omega)
        (by rw [widened]; decide) (by rw [widened]; decide) (by rw [widened, under]; decide)
        (by rw [widened, under]; decide), widened, under, product, ← power]
      exact congrArg (word negative) back
    · have bounds := nearestEven_bounds (16 * significand value) 15 (by decide)
      rw [thereAndBack_widened negative value 15 4 4 16 rfl zero small (by decide) (by omega)
        (by omega) (by omega) (by omega), nearestEven_sixteenths_of_fifteenths, significand_div]

theorem thereAndBack_20 (negative : Bool) (value : Nat) (small : value < 2 ^ 52) :
    thereAndBack (finite negative (value * one)) (finite false (5 * 2 ^ 2 * one)) =
      word negative value := by
  by_cases zero : value = 0
  · rw [zero, thereAndBack_zero negative _ (divisor_ne_zero 5 2 (by decide))]
  obtain ⟨low, high⟩ : 2 ^ 52 ≤ significand value ∧ significand value < 2 ^ 53 :=
    scaled_significand value zero (by omega)
  have even := significand_even value zero small
  by_cases upper : 5 * 2 ^ 52 ≤ 4 * significand value
  · have bounds := nearestEven_bounds (4 * significand value) 5 (by decide)
    rw [thereAndBack_widened negative value 5 2 2 4 rfl zero small (by decide) (by omega) (by omega)
      (by omega) (by omega), nearestEven_quarters_of_fifths _ even, significand_div]
  · have bounds := nearestEven_bounds (8 * significand value) 5 (by decide)
    rw [thereAndBack_widened negative value 5 2 3 8 rfl zero small (by decide) (by omega) (by omega)
      (by omega) (by omega), nearestEven_eighths_of_fifths, significand_div]

theorem ofNat_scaled (number odd power : Nat) (factors : odd * 2 ^ power = number)
    (small : number < 2 ^ 53) :
    (OfNat.ofNat number : Binary64) = finite false (odd * 2 ^ power * one) := by
  rw [factors]
  exact ofInt_natCast number small

end Binary64

namespace LineSpacing

open Binary64

theorem lines_divisor : (240 : Binary64) = finite false (15 * 2 ^ 4 * one) :=
  ofNat_scaled 240 15 4 rfl (by decide)

theorem points_divisor : (20 : Binary64) = finite false (5 * 2 ^ 2 * one) :=
  ofNat_scaled 20 5 2 rfl (by decide)

/-- A count of 240ths of a line, read as a multiple of a line. -/
theorem multiple_twentieths (count : Int) (small : count.natAbs < 2 ^ 52) :
    (multiple (ofInt count / 240)).twentieths =
      if FallsShort count.natAbs then count - count.sign else count := by
  have back : (multiple (ofInt count / 240)).twentieths = thereAndBack (ofInt count) 240 := rfl
  rw [back, lines_divisor, ofInt_eq count (by omega), thereAndBack_240 _ _ small]
  split
  · rename_i short
    have nonzero : count ≠ 0 := by
      rintro rfl
      revert short
      decide
    exact word_natAbs_sub_one count nonzero (by omega)
  · exact word_natAbs count (by omega)

/-- A count of twentieths of a point, read as an exact height. -/
theorem exact_twentieths (count : Int) (small : count.natAbs < 2 ^ 52) :
    (exact (ofInt count / 20)).twentieths = count := by
  have back : (exact (ofInt count / 20)).twentieths = thereAndBack (ofInt count) 20 := rfl
  rw [back, points_divisor, ofInt_eq count (by omega), thereAndBack_20 _ _ small]
  exact word_natAbs count (by omega)

end LineSpacing

end HouseStyle
