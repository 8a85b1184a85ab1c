import HouseStyle.Number.Numeral
import HouseStyle.Proofs.Text.Characters

/-!
Whole numbers in decimal digits. Read back, the digits of a number come to the number itself, with a
sign and without one, as a whole number and as a real one.
-/

namespace HouseStyle

namespace Numeral

theorem isDigit_of_mem (number : Nat) (char : Char) (member : char ∈ Nat.toDigits 10 number) :
    char.isDigit = true :=
  Nat.isDigit_of_mem_toDigits (by decide) (by decide) member

/-- No needless zero leads. -/
theorem eq_zero_of_head? (number : Nat) (leads : (Nat.toDigits 10 number).head? = some '0') :
    number = 0 := by
  induction number using Nat.strongRecOn with
  | ind number ih =>
    rw [Nat.toDigits_eq_if (by decide)] at leads
    split at leads
    · rename_i single
      clear ih
      revert leads
      revert single
      revert number
      decide
    · cases digits : Nat.toDigits 10 (number / 10) with
      | nil => exact absurd digits Nat.toDigits_ne_nil
      | cons first others =>
        have before : (Nat.toDigits 10 (number / 10)).head? = some '0' := by
          rw [digits] at leads ⊢
          exact leads
        have none_before := ih (number / 10) (by omega) before
        omega

@[simp] theorem ofDigits_toDigits (number : Nat) : ofDigits (Nat.toDigits 10 number) = number := by
  calc ofDigits (Nat.toDigits 10 number) =
        Digits.byOne 10 ((Nat.toDigits 10 number).map digitValue) := Digits.value_eq_byOne 10 _
    _ = Nat.ofDigitChars 10 (Nat.toDigits 10 number) 0 := by
        rw [Digits.byOne, List.foldl_map]
        rfl
    _ = number := Nat.ofDigitChars_ten_toDigits

@[simp] theorem natural?_toDigits (number : Nat) :
    natural? (Nat.toDigits 10 number) = some number := by
  have some_digit : (Nat.toDigits 10 number).isEmpty = false :=
    List.isEmpty_eq_false_iff.mpr Nat.toDigits_ne_nil
  have all : (Nat.toDigits 10 number).all Char.isDigit = true :=
    List.all_eq_true.mpr (isDigit_of_mem number)
  rw [natural?, digits?, some_digit, all, ofDigits_toDigits]
  rfl

theorem takeWhile_isDigit (number : Nat) (rest : List Char)
    (stops : ∀ char, rest.head? = some char → char.isDigit = false) :
    (Nat.toDigits 10 number ++ rest).takeWhile Char.isDigit = Nat.toDigits 10 number :=
  Text.takeWhile_row _ _ _ (isDigit_of_mem number) stops

theorem dropWhile_isDigit (number : Nat) (rest : List Char)
    (stops : ∀ char, rest.head? = some char → char.isDigit = false) :
    (Nat.toDigits 10 number ++ rest).dropWhile Char.isDigit = rest :=
  Text.dropWhile_row _ _ _ (isDigit_of_mem number) stops

/-! With a sign. -/

theorem toList_toString (number : Int) :
    (toString number).toList =
      if number < 0 then '-' :: Nat.toDigits 10 number.natAbs
      else Nat.toDigits 10 number.natAbs := by
  cases number with
  | ofNat size =>
    have positive : ¬Int.ofNat size < 0 := Int.not_lt.mpr (Int.natCast_nonneg size)
    rw [if_neg positive]
    exact Nat.toList_repr
  | negSucc size =>
    have written : toString (Int.negSucc size) = "-" ++ Nat.repr (size + 1) := rfl
    rw [if_pos (Int.negSucc_lt_zero size), written, String.toList_append, Nat.toList_repr]
    rfl

theorem sign_of_isDigit (first : Char) (rest : List Char) (digit : first.isDigit = true) :
    sign (first :: rest) = (false, first :: rest) := by
  unfold sign
  split
  · simp_all
  · simp_all
  · rfl

theorem sign_toString (number : Int) :
    sign (toString number).toList = (decide (number < 0), Nat.toDigits 10 number.natAbs) := by
  rw [toList_toString]
  by_cases negative : number < 0
  · rw [if_pos negative, decide_eq_true negative]
    rfl
  · rw [if_neg negative, decide_eq_false negative]
    cases digits : Nat.toDigits 10 number.natAbs with
    | nil => exact absurd digits Nat.toDigits_ne_nil
    | cons first rest =>
      apply sign_of_isDigit
      exact isDigit_of_mem number.natAbs first (digits ▸ List.mem_cons_self)

@[simp] theorem integer?_toString (number : Int) :
    integer? (toString number).toList = some number := by
  have read : digits? ofDigits (Nat.toDigits 10 number.natAbs) = some number.natAbs :=
    natural?_toDigits number.natAbs
  have signed : (if number < 0 then -(number.natAbs : Int) else number.natAbs) = number := by
    split
    · omega
    · omega
  rw [integer?, signed?, sign_toString]
  simp only [read, Option.pure_def, Option.bind_eq_bind, Option.bind_some, Option.map_some,
    decide_eq_true_eq, signed]

theorem decimal?_toDigits (exponentValue : List Char → Nat) (negative : Bool) (number : Nat) :
    decimal? exponentValue negative (Nat.toDigits 10 number) = some ⟨negative, number, 0⟩ := by
  have none_after : ∀ char, ([] : List Char).head? = some char → char.isDigit = false := by simp
  have whole := takeWhile_isDigit number [] none_after
  have rest := dropWhile_isDigit number [] none_after
  rw [List.append_nil] at whole rest
  simp [decimal?, whole, rest, fraction, exponent?, Nat.toDigits_ne_nil]

theorem real?_toString (number : Int) :
    real? (toString number).toList = some (.decimal ⟨number < 0, number.natAbs, 0⟩) := by
  rw [real?, sign_toString]
  simp only [decimal?_toDigits]

theorem mem_toString (number : Int) (char : Char) (member : char ∈ (toString number).toList) :
    char = '-' ∨ char.isDigit = true := by
  rw [toList_toString] at member
  split at member
  · rcases List.mem_cons.mp member with sign | digit
    · exact .inl sign
    · exact .inr (isDigit_of_mem _ char digit)
  · exact .inr (isDigit_of_mem _ char member)

theorem solid_toString (number : Int) (char : Char) (member : char ∈ (toString number).toList) :
    Text.isBlank char = false := by
  rcases mem_toString number char member with rfl | digit
  · decide
  · exact Text.isBlank_of_isDigit char digit

end Numeral

end HouseStyle
