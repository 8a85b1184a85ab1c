import HouseStyle.Measure
import HouseStyle.Proofs.Number.ShortDecimals
import HouseStyle.Proofs.Number.Spelling

/-!
Lengths in centimetres. A length is multiplied, divided, rounded to a whole number of hundredths and
divided again, in binary; what is printed is the shortest decimal for the number that comes out.
Within 9 * 10¹³ none of the roundings shows: the text is that of the nearest hundredth. The sign
alone is that of the length, and not that of the text.
-/

namespace HouseStyle

namespace Numeral

theorem decimal?_pointed (exponentValue : List Char → Nat) (negative : Bool)
    (whole part : List Char) (counted : IsDigits whole) (countedPart : IsDigits part) :
    decimal? exponentValue negative (whole ++ '.' :: part) =
      some ⟨negative, ofDigits (whole ++ part), -part.length⟩ := by
  have stops : ∀ char, ('.' :: part).head? = some char → char.isDigit = false := by simp
  have ends : ∀ char, ([] : List Char).head? = some char → char.isDigit = false := by simp
  have front := Text.takeWhile_row Char.isDigit whole _ counted.all stops
  have back := Text.dropWhile_row Char.isDigit whole _ counted.all stops
  have behind := Text.takeWhile_row Char.isDigit part [] countedPart.all ends
  have after := Text.dropWhile_row Char.isDigit part [] countedPart.all ends
  rw [List.append_nil] at behind after
  simp [decimal?, front, back, fraction, behind, after, exponent?, counted.nonempty]

theorem real?_pointed (front whole part : List Char) (signed : IsSign front)
    (counted : IsDigits whole) (countedPart : IsDigits part) :
    real? (front ++ (whole ++ '.' :: part)) =
      some (.decimal ⟨front = ['-'], ofDigits (whole ++ part), -part.length⟩) := by
  have plain : ∀ char, (whole ++ '.' :: part).head? = some char → char ≠ '+' ∧ char ≠ '-' := by
    intro char leads
    rw [List.head?_append_of_ne_nil _ counted.nonempty] at leads
    exact counted.head_plain char leads
  rw [real?_eq, sign_append front _ signed plain, decimal?_pointed _ _ _ _ counted countedPart]
  rfl

end Numeral

namespace Binary64

/-- The nearest whole number, a half going away from zero; the sign stays, also that of zero. -/
def rounded : Binary64 → Binary64
  | finite negative quanta => finite negative ((2 * quanta + one) / (2 * one) * one)
  | other => other

end Binary64

/-- The whole number nearest to a quotient; of two that are as near, the one further from zero. -/
structure IsNearest (numerator denominator whole : Int) : Prop where
  close : 2 * (numerator - denominator * whole).natAbs ≤ denominator
  tie : 2 * (numerator - denominator * whole).natAbs = denominator →
    numerator.natAbs ≤ (denominator * whole).natAbs

namespace Length

def inCentimetres (length : Length) : Binary64 :=
  (Binary64.ofInt length.emu * 100 / 360000 : Binary64).rounded / 100

def size (length : Length) : Nat := (2 * length.emu.natAbs + 3600) / (2 * 3600)

def spelled (hundredths : Int) : List Char :=
  (if hundredths < 0 then ['-'] else []) ++ decimals hundredths.natAbs

/--
A count of hundredths is written as digits, a point and one more digit, or two if there are
hundredths beside the tenths. No needless zero leads, and a minus sign does if the count has one.
-/
inductive Spells (hundredths : Int) : List Char → Prop
  | pointed {whole part : List Char} (counted : Numeral.IsDigits whole)
      (proper : whole.head? = some '0' → whole = ['0']) (countedPart : Numeral.IsDigits part)
      (places : part.length = if hundredths % 10 = 0 then 1 else 2)
      (value : Nat.ofDigitChars 10 (whole ++ part) 0 * 10 ^ (2 - part.length) =
        hundredths.natAbs) :
      Spells hundredths ((if hundredths < 0 then ['-'] else []) ++ (whole ++ '.' :: part))

/-! The text of a count. -/

def places (count : Nat) : List Char :=
  Nat.toDigits 10 (count / 10 % 10) ++
    if count % 10 = 0 then [] else Nat.toDigits 10 (count % 10)

theorem decimals_eq (count : Nat) :
    decimals count = Nat.toDigits 10 (count / 10 / 10) ++ '.' :: places count := by
  simp [decimals, places]

theorem isDigits_toDigits (count : Nat) : Numeral.IsDigits (Nat.toDigits 10 count) :=
  ⟨Nat.toDigits_ne_nil, Numeral.isDigit_of_mem count⟩

theorem isDigits_places (count : Nat) : Numeral.IsDigits (places count) := by
  constructor
  · exact List.append_ne_nil_of_left_ne_nil Nat.toDigits_ne_nil _
  · intro char member
    rcases List.mem_append.mp member with tenths | last
    · exact Numeral.isDigit_of_mem _ char tenths
    · split at last
      · contradiction
      · exact Numeral.isDigit_of_mem _ char last

theorem length_places (count : Nat) :
    (places count).length = if count % 10 = 0 then 1 else 2 := by
  have single : ∀ digit, (Nat.toDigits 10 (digit % 10)).length = 1 := by
    intro digit
    rw [Nat.toDigits_of_lt_base (Nat.mod_lt _ (by decide)), List.length_singleton]
  rw [places, List.length_append, single]
  split
  · rfl
  · rw [single]

theorem value_places (count : Nat) :
    Nat.ofDigitChars 10 (Nat.toDigits 10 (count / 10 / 10) ++ places count) 0 *
      10 ^ (2 - (places count).length) = count := by
  have single : ∀ digit front, Nat.ofDigitChars 10 (Nat.toDigits 10 (digit % 10)) front =
      10 * front + digit % 10 := by
    intro digit front
    rw [Nat.toDigits_of_lt_base (Nat.mod_lt _ (by decide)),
      Nat.ofDigitChars_cons_digitChar_of_lt_ten (Nat.mod_lt _ (by decide)), Nat.ofDigitChars_nil]
  rw [length_places, places, Nat.ofDigitChars_append, Nat.ofDigitChars_append,
    Nat.ofDigitChars_ten_toDigits, single]
  split
  · rw [Nat.ofDigitChars_nil]
    omega
  · rw [single]
    omega

theorem spells_spelled (hundredths : Int) : Spells hundredths (spelled hundredths) := by
  rw [spelled, decimals_eq]
  refine .pointed (isDigits_toDigits _) ?_ (isDigits_places _) ?_ (value_places _)
  · intro leads
    rw [Numeral.eq_zero_of_head? _ leads]
    rfl
  · rw [length_places]
    congr 1
    exact propext (by omega)

/-- Written as hundredths or as tenths, the fraction is the same. -/
theorem read?_decimals (negative : Bool) (count : Nat) :
    Binary64.read? ((if negative then ['-'] else []) ++ decimals count) =
      some (Binary64.round negative (count * Binary64.one) 100) := by
  have signed : Numeral.IsSign (if negative then ['-'] else []) := by
    cases negative
    · exact .unsigned
    · exact .minus
  have front : decide ((if negative then ['-'] else []) = ['-']) = negative := by
    cases negative <;> rfl
  have value := value_places count
  have digits : (places count).length = 1 ∨ (places count).length = 2 := by
    rw [length_places]
    split
    · exact .inl rfl
    · exact .inr rfl
  rw [Binary64.read?, decimals_eq, Numeral.real?_pointed _ _ _ signed (isDigits_toDigits _)
    (isDigits_places _), front, Option.map_some, Binary64.ofNumeral, Numeral.ofDigits_eq]
  set coefficient := Nat.ofDigitChars 10 (Nat.toDigits 10 (count / 10 / 10) ++ places count) 0
  rcases digits with tenths | hundredths
  · rw [tenths] at value ⊢
    have scaled : count * Binary64.one = 10 * (coefficient * Binary64.one) := by
      rw [← value]
      ring
    rw [scaled, Binary64.round_mul_left negative 10 _ 10 (by decide)]
    exact congrArg some (Binary64.ofDecimal_fraction negative coefficient 1 (by decide) (by decide))
  · rw [hundredths] at value ⊢
    have scaled : count = coefficient := by
      rw [← value]
      ring
    rw [scaled]
    exact congrArg some (Binary64.ofDecimal_fraction negative coefficient 2 (by decide) (by decide))

/-! The numbers on the way. -/

theorem hundred_eq : (100 : Binary64) = .finite false (100 * Binary64.one) :=
  Binary64.ofInt_natCast 100 (by decide)

section

variable (length : Length) (near : length.emu.natAbs ≤ 90000000000000)

include near

theorem quotient_eq : (Binary64.ofInt length.emu * 100 / 360000 : Binary64) =
    Binary64.round (length.emu < 0) (length.emu.natAbs * Binary64.one) 3600 := by
  have perCentimetre : (360000 : Binary64) = .finite false (360000 * Binary64.one) :=
    Binary64.ofInt_natCast 360000 (by decide)
  have whole : length.emu.natAbs * 100 * Binary64.one =
      100 * (length.emu.natAbs * Binary64.one) := by ring
  rw [Binary64.ofInt_eq length.emu (by omega), hundred_eq, perCentimetre]
  change Binary64.div (Binary64.mul _ _) _ = _
  rw [Binary64.mul_natural, Binary64.round_natural _ _ (by omega),
    Binary64.div_natural _ _ _ (by decide), whole,
    Binary64.round_mul_left _ 100 _ 3600 (by decide)]

theorem exists_quotient : ∃ quanta,
    (Binary64.ofInt length.emu * 100 / 360000 : Binary64) = .finite (length.emu < 0) quanta ∧
      (2 * quanta + Binary64.one) / (2 * Binary64.one) = length.size := by
  rw [length.quotient_eq near]
  exact Binary64.round_half_up _ _ _ (by omega) (by decide) (by decide)

theorem size_small : length.size ≤ 25000000000 := by
  rw [size]
  omega

theorem hundredths_eq :
    length.hundredths = if length.emu < 0 then -(length.size : Int) else length.size := by
  obtain ⟨quanta, quotient, whole⟩ := length.exists_quotient near
  have small := length.size_small near
  rw [hundredths, quotient, Binary64.nearest, whole, Binary64.word_natural _ _ (by omega)]
  simp only [decide_eq_true_eq]

theorem inCentimetres_eq : length.inCentimetres =
    Binary64.round (length.emu < 0) (length.size * Binary64.one) 100 := by
  obtain ⟨quanta, quotient, whole⟩ := length.exists_quotient near
  rw [inCentimetres, quotient, Binary64.rounded, whole, hundred_eq]
  exact Binary64.div_natural _ _ _ (by decide)

theorem hundredths_nearest : IsNearest length.emu 3600 length.hundredths := by
  rw [length.hundredths_eq near, size]
  constructor
  · omega
  · omega

theorem natAbs_hundredths : length.hundredths.natAbs = length.size := by
  rw [length.hundredths_eq near]
  omega

/-- The text before the unit, with the sign of the length. -/
theorem centimetres_eq : length.centimetres = String.ofList
    ((if length.emu < 0 then ['-'] else []) ++ decimals length.size ++ ['c', 'm']) := by
  rw [centimetres, length.natAbs_hundredths near]

theorem centimetres_eq_spelled_iff : length.centimetres =
    String.ofList (spelled length.hundredths ++ ['c', 'm']) ↔
      (length.emu < 0 ↔ length.hundredths < 0) := by
  rw [length.centimetres_eq near, spelled, length.natAbs_hundredths near, String.ofList_inj,
    List.append_cancel_right_eq, List.append_cancel_right_eq]
  by_cases below : length.emu < 0 <;> by_cases negative : length.hundredths < 0 <;>
    simp [below, negative]

theorem sign_kept_iff : (length.emu < 0 ↔ length.hundredths < 0) ↔
    ¬(-1800 < length.emu ∧ length.emu < 0) := by
  rw [length.hundredths_eq near, size]
  omega

/-- The hundredths themselves are such a decimal, so every other one has their value. -/
theorem value_of_read_alike (decimal : Decimal) (short : decimal.coefficient < 10 ^ 15)
    (read : Binary64.ofDecimal decimal = length.inCentimetres) (nonzero : length.hundredths ≠ 0) :
    decimal.value = length.hundredths / 100 := by
  have small := length.size_small near
  have some_size : length.size ≠ 0 := by
    rw [← length.natAbs_hundredths near]
    omega
  obtain ⟨quanta, rounding, normal⟩ := Binary64.round_normal (length.emu < 0) length.size 100
    some_size (by omega) (by decide) (by decide)
  rw [length.inCentimetres_eq near, rounding] at read
  have own := Binary64.ofDecimal_fraction (length.emu < 0) length.size 2 (by decide) (by decide)
  have same := Binary64.value_eq_of_read_alike decimal ⟨length.emu < 0, length.size, -2⟩ short
    (by dsimp only; omega) _ quanta read (own.trans rounding) normal
  rw [same, Decimal.value, Decimal.magnitude, length.hundredths_eq near]
  have hundredth : (10 : ℚ) ^ (-2 : ℤ) = 1 / 100 := by norm_num
  by_cases below : length.emu < 0
  · simp only [below, decide_true, if_true, hundredth, Int.cast_neg, Int.cast_natCast]
    ring
  · simp only [below, decide_false, if_false, Bool.false_eq_true, hundredth, Int.cast_natCast]
    ring

end

/--
Up to 9 * 10¹³ a length is written as its nearest hundredth of a centimetre, a half going away from
zero; only a length below zero that comes to no hundredth has a minus sign too many. The text is read
as the number that the binary operations come to, and no decimal of at most fifteen digits that is
read so has another value: it is the shortest one.
-/
theorem centimetres_written (length : Length) (near : length.emu.natAbs ≤ 90000000000000) :
    IsNearest length.emu 3600 length.hundredths ∧
    Spells length.hundredths (spelled length.hundredths) ∧
    (length.centimetres = String.ofList (spelled length.hundredths ++ ['c', 'm']) ↔
      ¬(-1800 < length.emu ∧ length.emu < 0)) ∧
    (-1800 < length.emu → length.emu < 0 → length.centimetres = "-0.0cm") ∧
    ∃ shown, length.centimetres = String.ofList (shown ++ ['c', 'm']) ∧
      Binary64.read? shown = some length.inCentimetres ∧
      ∀ decimal : Decimal, decimal.coefficient < 10 ^ 15 →
        Binary64.ofDecimal decimal = length.inCentimetres → length.hundredths ≠ 0 →
        decimal.value = length.hundredths / 100 := by
  refine ⟨length.hundredths_nearest near, spells_spelled _, ?_, ?_, ?_⟩
  · rw [length.centimetres_eq_spelled_iff near, length.sign_kept_iff near]
  · intro close below
    have none : length.size = 0 := by
      rw [size]
      omega
    rw [length.centimetres_eq near, if_pos below, none]
    rfl
  · refine ⟨_, length.centimetres_eq near, ?_, length.value_of_read_alike near⟩
    have read := read?_decimals (length.emu < 0) length.size
    simp only [decide_eq_true_eq] at read
    rw [read, length.inCentimetres_eq near]

theorem half_a_hundredth_written : (⟨-5400⟩ : Length).emu.natAbs ≤ 90000000000000 ∧
    (⟨-5400⟩ : Length).hundredths = -2 ∧ (⟨-5400⟩ : Length).centimetres = "-0.02cm" := by
  have near : (⟨-5400⟩ : Length).emu.natAbs ≤ 90000000000000 := by decide
  obtain ⟨⟨close, tie⟩, -, written, -, -⟩ := centimetres_written ⟨-5400⟩ near
  have count : (⟨-5400⟩ : Length).hundredths = -2 := by
    simp only at close tie
    omega
  refine ⟨near, count, ?_⟩
  rw [written.mpr (by decide), count]
  rfl

theorem speck_below_zero_signed : IsNearest (-1) 3600 0 ∧
    (⟨-1⟩ : Length).centimetres ≠ String.ofList (spelled 0 ++ ['c', 'm']) :=
  ⟨⟨by decide, by decide⟩, by decide +kernel⟩

end Length

end HouseStyle
