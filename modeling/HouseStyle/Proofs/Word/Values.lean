import HouseStyle.Proofs.Number.Decimal
import HouseStyle.Word

/-!
The values of attributes, written and read again. A colour is its own text, a whole measure and a
size of a border are the digits of their number, a kind of style is its name, and a name that is not
stored in another spelling is shown as it is stored.
-/

namespace HouseStyle

namespace Color

theorem isCapitalHex_iff (char : Char) :
    isCapitalHex char = true ↔
      (48 ≤ char.toNat ∧ char.toNat ≤ 57) ∨ (65 ≤ char.toNat ∧ char.toNat ≤ 70) := by
  simp [isCapitalHex, Char.isDigit, UInt32.le_iff_toNat_le, Char.le_def]

theorem toUpper_of_isCapitalHex (char : Char) (digit : isCapitalHex char = true) :
    char.toUpper = char := by
  have bounds := (isCapitalHex_iff char).mp digit
  refine dif_neg fun lower => ?_
  have small : 97 ≤ char.toNat := by simpa [UInt32.le_iff_toNat_le] using lower.1
  omega

theorem map_toUpper_of_isCapitalHex (digits : List Char)
    (capital : ∀ char ∈ digits, isCapitalHex char = true) : digits.map Char.toUpper = digits := by
  conv => rhs; rw [← List.map_id digits]
  exact List.map_congr_left fun char member => toUpper_of_isCapitalHex char (capital char member)

theorem isHex_of_isCapitalHex (char : Char) (digit : isCapitalHex char = true) :
    isHex char = true := by
  rw [isHex, toUpper_of_isCapitalHex char digit, digit]

theorem isBlank_of_isCapitalHex (char : Char) (digit : isCapitalHex char = true) :
    Text.isBlank char = false := by
  have bounds := (isCapitalHex_iff char).mp digit
  exact Text.isBlank_of_printed char (by omega) (by omega)

-- Six capital digits are read as they are: there is nothing to trim, to strip or to capitalise.
theorem parse?_text (color : Color) (formed : color.WellFormed) :
    parse? color.text = some color := by
  obtain ⟨six, all⟩ := formed
  have digits : ∀ char ∈ color.text.toList, isCapitalHex char = true := List.all_eq_true.mp all
  have trimmed : Text.trim color.text.toList = color.text.toList :=
    Text.trim_of_solid _ fun char member => isBlank_of_isCapitalHex char (digits char member)
  have unmarked : color.text.toList.dropWhile (· == '#') = color.text.toList := by
    cases text : color.text.toList with
    | nil => rfl
    | cons first rest =>
      apply List.dropWhile_cons_of_neg
      have digit := digits first (text ▸ List.mem_cons_self)
      intro marked
      rw [beq_iff_eq.mp marked] at digit
      contradiction
  have hex : color.text.toList.all isHex = true :=
    List.all_eq_true.mpr fun char member => isHex_of_isCapitalHex char (digits char member)
  have upper := map_toUpper_of_isCapitalHex color.text.toList digits
  rw [parse?, trimmed, unmarked]
  simp only [six, hex, upper, and_self, if_true, String.ofList_toList]

theorem bind_parse?_text (color : Option Color)
    (formed : ∀ declared, color = some declared → declared.WellFormed) :
    (color.map text).bind parse? = color := by
  cases color with
  | none => rfl
  | some declared => exact parse?_text declared (formed declared rfl)

end Color

namespace Range

/-- The lowest word is the only one without an opposite. -/
theorem signed64_contains_neg (number : Int) (fits : signed64.contains number = true)
    (opposed : number ≠ signed64.lowest) : signed64.contains (-number) = true := by
  rw [contains_iff] at fits ⊢
  simp only [signed64] at fits opposed ⊢
  omega

/--
A word is the opposite of its opposite; the lowest one is come back to from outside the range.
-/
theorem opposite_neg (word : Int) (fits : signed64.contains word = true) :
    opposite (-word) = word := by
  rw [contains_iff] at fits
  simp only [signed64] at fits
  rw [opposite, Int.neg_neg]
  exact Int.bmod_eq_of_le (by omega) (by omega)

end Range

theorem Twips.parse?_toString (count : Int) (fits : Range.signed64.contains count = true) :
    parse? (toString count) = some count := by
  have trimmed := Text.trim_of_solid _ (Numeral.solid_toString count)
  have read : (Numeral.integer? (toString count).toList).bind Range.signed64.only? =
      some count := by
    rw [Numeral.integer?_toString, Option.bind_some, Range.only?, if_pos fits]
  rw [parse?, trimmed]
  simp only [read]

theorem StyleKind.ofName_name (kind : StyleKind) : ofName kind.name = kind := by
  cases kind with
  | paragraph => rfl
  | character => rfl
  | table => rfl
  | numbering => rfl

theorem Canonical.shownName_of_not_stored (name : String)
    (shown : name ∉ shownNames.map Prod.fst) : shownName name = name := by
  have unlisted : shownNames.lookup name = none := by
    rw [List.lookup_eq_none_iff]
    intro entry member
    exact bne_iff_ne.mpr fun same => shown (same ▸ List.mem_map_of_mem member)
  rw [shownName, unlisted, Option.getD_none]

theorem Numeral.unsigned?_toDigits (number : Nat) :
    unsigned? (Nat.toDigits 10 number) = some number := by
  unfold unsigned?
  split
  · rename_i digits plus
    have digit := isDigit_of_mem number '+' (plus ▸ List.mem_cons_self)
    contradiction
  · exact natural?_toDigits number

namespace Word

theorem borderSize?_toString (size : Nat) (fits : Range.unsigned32.contains size = true) :
    borderSize? (toString size) = some size := by
  have digits : (toString size).toList = Nat.toDigits 10 size := Nat.toList_repr
  have solid : ∀ char ∈ Nat.toDigits 10 size, Text.isBlank char = false :=
    fun char member => Text.isBlank_of_isDigit char (Numeral.isDigit_of_mem size char member)
  rw [borderSize?, digits, Text.trim_of_solid _ solid, Numeral.unsigned?_toDigits]
  simp only [Option.filter_some, fits, if_true]

theorem nonEmpty?_of_ne (value : Option String) (told : value ≠ some "") :
    nonEmpty? value = value := by
  cases value with
  | none => rfl
  | some text =>
    have nonempty : text ≠ "" := fun empty => told (by rw [empty])
    simp [nonEmpty?, Option.filter_some, nonempty]

end Word

end HouseStyle
