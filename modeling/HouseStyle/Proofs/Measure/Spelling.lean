import HouseStyle.Measure
import HouseStyle.Proofs.Number.Spelling

/-!
How measures are spelled: a sign, an amount and the name of a unit, with nothing between them. The
unit begins at the first letter, so no letter is left for the number, and what the number could be
besides an amount, an exponent or a word, needs one.
-/

namespace HouseStyle.Twips

open Numeral (IsAmount IsDigits IsSign Writes)

def unitNames : List String := ["", "mm", "cm", "in", "pt", "pc", "pi"]

/-- A sign, an amount and a unit, one immediately behind the other. -/
inductive IsMeasure : List Char → Prop
  | spelled {sign amount : List Char} {unit : String} (signed : IsSign sign)
      (counted : IsAmount amount) (named : unit ∈ unitNames) :
      IsMeasure (sign ++ amount ++ unit.toList)

theorem convert?_isSome_iff (number : Binary64) (unit : String) :
    (convert? number unit).isSome = true ↔ unit ∈ unitNames := by
  unfold convert?
  split
  all_goals simp_all [unitNames]

def measureMarks : List Char := ['+', '-', '.', 'c', 'i', 'm', 'n', 'p', 't']

theorem unit_chars (unit : String) (named : unit ∈ unitNames) (char : Char)
    (member : char ∈ unit.toList) : char.isAlpha = true ∧ char ∈ measureMarks := by
  have all : unitNames.all (fun unit => unit.toList.all fun char =>
      char.isAlpha && measureMarks.contains char) = true := rfl
  have each := List.all_eq_true.mp (List.all_eq_true.mp all unit named) char member
  simpa using each

theorem number_letterless {sign amount : List Char} (signed : IsSign sign)
    (counted : IsAmount amount) (char : Char) (member : char ∈ sign ++ amount) :
    char.isAlpha = false := by
  rcases List.mem_append.mp member with before | behind
  · rcases signed.chars char before with rfl | rfl <;> rfl
  · rcases counted.chars char behind with digit | rfl
    · exact Text.isAlpha_of_isDigit char digit
    · rfl

-- The number and the unit are refused or accepted each by itself.
theorem measure?_isSome_iff_parts (text : List Char) :
    (measure? text).isSome = true ↔
      (Numeral.real? (text.takeWhile fun char => !char.isAlpha)).isSome = true ∧
        String.ofList (text.dropWhile fun char => !char.isAlpha) ∈ unitNames := by
  rw [measure?, Binary64.read?]
  cases Numeral.real? (text.takeWhile fun char => !char.isAlpha) with
  | none => simp
  | some numeral =>
    rw [← convert?_isSome_iff (Binary64.ofNumeral numeral)]
    simp only [Option.map_some, Option.bind_eq_bind, Option.bind_some, Option.isSome_some, true_and]
    cases convert? (Binary64.ofNumeral numeral)
        (String.ofList (text.dropWhile fun char => !char.isAlpha)) with
    | none => rfl
    | some twips => exact iff_of_true rfl rfl

theorem measure?_isSome_iff (text : List Char) :
    (measure? text).isSome = true ↔ IsMeasure text := by
  rw [measure?_isSome_iff_parts]
  constructor
  · rintro ⟨number, named⟩
    have letterless : ∀ char ∈ text.takeWhile fun char => !char.isAlpha,
        char.isAlpha = false := by
      intro char member
      simpa using List.mem_takeWhile_imp member
    obtain ⟨sign, amount, signed, counted, front⟩ :=
      (Numeral.real?_isSome_iff _ letterless).mp number
    have measure := IsMeasure.spelled signed counted named
    rw [← front, String.toList_ofList, List.takeWhile_append_dropWhile] at measure
    exact measure
  · intro measure
    cases measure with
    | @spelled sign amount unit signed counted named =>
      have letterless := number_letterless signed counted
      have front : ∀ char ∈ sign ++ amount, (!char.isAlpha) = true := by
        intro char member
        rw [letterless char member]
        rfl
      have stops : ∀ char, unit.toList.head? = some char → (!char.isAlpha) = false := by
        intro char leads
        rw [(unit_chars unit named char (List.mem_of_mem_head? leads)).1]
        rfl
      rw [Text.takeWhile_row _ _ _ front stops, Text.dropWhile_row _ _ _ front stops,
        String.ofList_toList, Numeral.real?_isSome_iff _ letterless]
      exact ⟨⟨sign, amount, signed, counted, rfl⟩, named⟩

theorem isMeasure_of_writes (text : List Char) (number : Int) (writes : Writes text number) :
    IsMeasure text := by
  have named : "" ∈ unitNames := by decide
  cases writes with
  | @positive sign digits unsigned counted =>
    have signed := Numeral.isSign_of_positive unsigned
    simpa using IsMeasure.spelled signed (.whole counted) named
  | @negative digits counted =>
    simpa using IsMeasure.spelled .minus (.whole counted) named

theorem IsMeasure.chars {text : List Char} (measure : IsMeasure text) (char : Char)
    (member : char ∈ text) : char.isDigit = true ∨ char ∈ measureMarks := by
  obtain ⟨signed, counted, named⟩ := measure
  rcases List.mem_append.mp member with number | letter
  · rcases List.mem_append.mp number with before | behind
    · rcases signed.chars char before with rfl | rfl
      · exact .inr (by decide)
      · exact .inr (by decide)
    · rcases counted.chars char behind with digit | rfl
      · exact .inl digit
      · exact .inr (by decide)
  · exact .inr (unit_chars _ named char letter).2

theorem IsMeasure.solid {text : List Char} (measure : IsMeasure text) (char : Char)
    (member : char ∈ text) : Text.isBlank char = false := by
  have marks : measureMarks.all (fun char => !Text.isBlank char) = true := rfl
  rcases measure.chars char member with digit | mark
  · exact Text.isBlank_of_isDigit char digit
  · simpa using List.all_eq_true.mp marks char mark

theorem parse?_isSome_iff (text : String) :
    (parse? text).isSome = true ↔ IsMeasure (Text.trim text.toList) := by
  rw [parse?]
  split
  · rename_i twips whole
    obtain ⟨number, read, _⟩ := Option.bind_eq_some_iff.mp whole
    have writes := (Numeral.integer?_eq_some_iff _ number).mp read
    exact iff_of_true rfl (isMeasure_of_writes _ number writes)
  · exact measure?_isSome_iff _

/--
Which texts are measures, and what a whole number comes to. A text is read as a measure exactly if
it is a sign, an amount and a unit with nothing but blanks around them; so it has no characters there
but digits, signs, points and the letters of the units. A whole number that fits a word of 64 bits
is read as itself.
-/
theorem measure_spelled_iff (text : String) :
    ((parse? text).isSome = true ↔ ∃ core, Text.Padded text.toList core ∧ IsMeasure core) ∧
    ((parse? text).isSome = true → ∀ char ∈ Text.trim text.toList,
      char.isDigit = true ∨ char ∈ measureMarks) ∧
    ∀ core number, Text.Padded text.toList core → Writes core number →
      -0x8000000000000000 ≤ number → number ≤ 0x7FFFFFFFFFFFFFFF → parse? text = some number := by
  refine ⟨?_, ?_, ?_⟩
  · rw [parse?_isSome_iff]
    exact Text.trim_iff_padded text.toList IsMeasure fun core measure => measure.solid
  · intro read
    exact ((parse?_isSome_iff text).mp read).chars
  · intro core number padded writes low high
    have solid := (isMeasure_of_writes core number writes).solid
    have trimmed := Text.trim_of_padded text.toList core padded solid
    have fits : Range.signed64.contains number = true := by
      rw [Range.contains_iff]
      exact ⟨low, high⟩
    have read : (Numeral.integer? core).bind Range.signed64.only? = some number := by
      rw [(Numeral.integer?_eq_some_iff core number).mpr writes, Option.bind_some, Range.only?,
        if_pos fits]
    rw [parse?, trimmed]
    simp only [read]

/-- Half a centimetre to the left without a digit before the point, and a needless sign and zero. -/
theorem padded_measures_read :
    (Text.Padded "\u3000-.5cm\t".toList "-.5cm".toList ∧ IsMeasure "-.5cm".toList ∧
      (parse? "\u3000-.5cm\t").isSome = true) ∧
    (∀ char ∈ Text.trim "\u3000-.5cm\t".toList, char.isDigit = true ∨ char ∈ measureMarks) ∧
    Text.Padded " +0720\u2003".toList "+0720".toList ∧ Writes "+0720".toList 720 ∧
      parse? " +0720\u2003" = some 720 := by
  have padded : Text.Padded "\u3000-.5cm\t".toList "-.5cm".toList :=
    ⟨['\u3000'], ['\t'], rfl, List.all_eq_true.mp rfl⟩
  have amount : IsAmount ([] ++ '.' :: ['5']) :=
    .pointed ⟨List.cons_ne_nil _ _, List.all_eq_true.mp rfl⟩
  have measure : IsMeasure (['-'] ++ ([] ++ '.' :: ['5']) ++ "cm".toList) :=
    .spelled .minus amount (by decide)
  have around : Text.Padded " +0720\u2003".toList "+0720".toList :=
    ⟨[' '], ['\u2003'], rfl, List.all_eq_true.mp rfl⟩
  have digits : IsDigits ['0', '7', '2', '0'] :=
    ⟨List.cons_ne_nil _ _, List.all_eq_true.mp rfl⟩
  have writes : Writes (['+'] ++ ['0', '7', '2', '0']) 720 := .positive (.inr rfl) digits
  obtain ⟨accepted, marks, _⟩ := measure_spelled_iff "\u3000-.5cm\t"
  obtain ⟨_, _, whole⟩ := measure_spelled_iff " +0720\u2003"
  have read := accepted.mpr ⟨_, padded, measure⟩
  exact ⟨⟨padded, measure, read⟩, marks read, around, writes,
    whole _ 720 around writes (by decide) (by decide)⟩

end HouseStyle.Twips
