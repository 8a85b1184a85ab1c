import HouseStyle.Text
import Mathlib.Data.List.TakeWhile

/-!
Characters, and texts that have the same ones up to blanks or the case of letters. The letters and
digits of ASCII are told by their codes, and none of them is a blank. What is left of a text by
trimming it has only blanks around it there, so it is the same to ask something of a trimmed text,
or of a text with blanks around it, if no text with a blank in it meets what is asked. Only the
letters from A to Z have two cases, and it is the same to compare texts in small letters or in
capitals.
-/

namespace HouseStyle.Text

section Rows

variable (kind : Char → Bool) (row rest : List Char)

theorem takeWhile_row (all : ∀ char ∈ row, kind char = true)
    (stops : ∀ char, rest.head? = some char → kind char = false) :
    (row ++ rest).takeWhile kind = row := by
  rw [List.takeWhile_append_of_pos all]
  cases rest with
  | nil => simp
  | cons char later => simp [stops char rfl]

theorem dropWhile_row (all : ∀ char ∈ row, kind char = true)
    (stops : ∀ char, rest.head? = some char → kind char = false) :
    (row ++ rest).dropWhile kind = rest := by
  rw [List.dropWhile_append_of_pos all]
  cases rest with
  | nil => simp
  | cons char later => simp [stops char rfl]

end Rows

/-! Classes of characters. -/

theorem isUpper_iff (char : Char) :
    char.isUpper = true ↔ 65 ≤ char.toNat ∧ char.toNat ≤ 90 := by
  have codes : char.isUpper = decide (char.val ≥ 'A'.val ∧ char.val ≤ 'Z'.val) := rfl
  rw [codes, decide_eq_true_iff, ge_iff_le, UInt32.le_iff_toNat_le, UInt32.le_iff_toNat_le]
  rfl

theorem isLower_iff (char : Char) :
    char.isLower = true ↔ 97 ≤ char.toNat ∧ char.toNat ≤ 122 := by
  have codes : char.isLower = (decide (char.val ≥ 'a'.val) && decide (char.val ≤ 'z'.val)) := rfl
  rw [codes, Bool.and_eq_true, decide_eq_true_iff, decide_eq_true_iff, ge_iff_le,
    UInt32.le_iff_toNat_le, UInt32.le_iff_toNat_le]
  rfl

theorem isAlpha_iff (char : Char) : char.isAlpha = true ↔
    (65 ≤ char.toNat ∧ char.toNat ≤ 90) ∨ (97 ≤ char.toNat ∧ char.toNat ≤ 122) := by
  have either : char.isAlpha = (char.isUpper || char.isLower) := rfl
  rw [either, Bool.or_eq_true, isUpper_iff, isLower_iff]

theorem isAlpha_of_isDigit (char : Char) (digit : char.isDigit = true) : char.isAlpha = false := by
  have bounds : 48 ≤ char.toNat ∧ char.toNat ≤ 57 := Char.isDigit_iff_toNat.mp digit
  rw [Bool.eq_false_iff, ne_eq, isAlpha_iff]
  omega

/-- The printed characters of ASCII lie between the space and the first blank beyond them. -/
theorem isBlank_of_printed (char : Char) (low : 33 ≤ char.toNat) (high : char.toNat ≤ 126) :
    isBlank char = false := by
  rw [isBlank, List.any_eq_false]
  intro range member
  simp only [blankRanges, List.mem_cons, List.not_mem_nil, or_false] at member
  rcases member with rfl | rfl | rfl | rfl | rfl | rfl | rfl | rfl | rfl | rfl <;>
    simp only [Bool.and_eq_true, decide_eq_true_eq] <;> omega

theorem isBlank_of_isDigit (char : Char) (digit : char.isDigit = true) :
    isBlank char = false := by
  have bounds : 48 ≤ char.toNat ∧ char.toNat ≤ 57 := Char.isDigit_iff_toNat.mp digit
  exact isBlank_of_printed char (by omega) (by omega)

theorem isBlank_of_isAlpha (char : Char) (letter : char.isAlpha = true) :
    isBlank char = false := by
  rw [isAlpha_iff] at letter
  exact isBlank_of_printed char (by omega) (by omega)

/-! Trimming. -/

theorem dropWhile_isBlank (text : List Char) (solid : ∀ char ∈ text, isBlank char = false) :
    text.dropWhile isBlank = text := by
  cases text with
  | nil => rfl
  | cons char later => exact List.dropWhile_cons_of_neg (by simp [solid char])

theorem trim_of_solid (text : List Char) (solid : ∀ char ∈ text, isBlank char = false) :
    trim text = text := by
  rw [trim, dropWhile_isBlank text solid, dropWhile_isBlank, List.reverse_reverse]
  intro char member
  exact solid char (List.mem_reverse.mp member)

def Padded (text core : List Char) : Prop :=
  ∃ front back, text = front ++ core ++ back ∧ ∀ char ∈ front ++ back, isBlank char = true

theorem padded_trim (text : List Char) : Padded text (trim text) := by
  refine ⟨text.takeWhile isBlank,
    ((text.dropWhile isBlank).reverse.takeWhile isBlank).reverse, ?_, ?_⟩
  · rw [trim, List.append_assoc, ← List.reverse_append, List.takeWhile_append_dropWhile,
      List.reverse_reverse, List.takeWhile_append_dropWhile]
  · intro char member
    rcases List.mem_append.mp member with before | behind
    · exact List.mem_takeWhile_imp before
    · exact List.mem_takeWhile_imp (List.mem_reverse.mp behind)

theorem mem_of_mem_trim (text : List Char) (char : Char) (member : char ∈ trim text) :
    char ∈ text := by
  obtain ⟨front, back, whole, _⟩ := padded_trim text
  rw [whole]
  exact List.mem_append_left back (List.mem_append_right front member)

theorem trim_of_padded (text core : List Char) (padded : Padded text core)
    (solid : ∀ char ∈ core, isBlank char = false) : trim text = core := by
  obtain ⟨front, back, rfl, blank⟩ := padded
  have before : ∀ char ∈ front, isBlank char = true :=
    fun char member => blank char (List.mem_append_left back member)
  have behind : ∀ char ∈ back.reverse, isBlank char = true :=
    fun char member => blank char (List.mem_append_right front (List.mem_reverse.mp member))
  have backwards : ∀ char ∈ core.reverse, isBlank char = false :=
    fun char member => solid char (List.mem_reverse.mp member)
  cases core with
  | nil =>
    have all : ∀ char ∈ front ++ [] ++ back, isBlank char = true := by simpa using blank
    rw [trim, List.dropWhile_eq_nil_iff.mpr all]
    rfl
  | cons first rest =>
    rw [trim, List.append_assoc, List.dropWhile_append_of_pos before, List.cons_append,
      List.dropWhile_cons_of_neg (by simp [solid first]), ← List.cons_append, List.reverse_append,
      List.dropWhile_append_of_pos behind, dropWhile_isBlank _ backwards, List.reverse_reverse]

theorem trim_iff_padded (text : List Char) (form : List Char → Prop)
    (solid : ∀ core, form core → ∀ char ∈ core, isBlank char = false) :
    form (trim text) ↔ ∃ core, Padded text core ∧ form core := by
  constructor
  · intro formed
    exact ⟨trim text, padded_trim text, formed⟩
  · rintro ⟨core, padded, formed⟩
    rw [trim_of_padded text core padded (solid core formed)]
    exact formed

/-! The case of letters. -/

theorem toNat_toUpper (char : Char) :
    char.toUpper.toNat =
      if 97 ≤ char.toNat ∧ char.toNat ≤ 122 then char.toNat - 32 else char.toNat := by
  have lower : 'a'.val ≤ char.val ∧ char.val ≤ 'z'.val ↔
      97 ≤ char.toNat ∧ char.toNat ≤ 122 := by
    rw [UInt32.le_iff_toNat_le, UInt32.le_iff_toNat_le]
    rfl
  by_cases small : 97 ≤ char.toNat ∧ char.toNat ≤ 122
  · have moved : char.toUpper = _ := dif_pos (lower.mpr small)
    have back : ('A'.val - 'a'.val).toNat = 2 ^ 32 - 32 := rfl
    rw [if_pos small, moved, Char.toNat_mk, UInt32.toNat_add, back, Char.toNat_val]
    omega
  · rw [if_neg small]
    exact congrArg Char.toNat (dif_neg (mt lower.mp small))

theorem toNat_toLower (char : Char) :
    char.toLower.toNat =
      if 65 ≤ char.toNat ∧ char.toNat ≤ 90 then char.toNat + 32 else char.toNat := by
  have upper : 'A'.val ≤ char.val ∧ char.val ≤ 'Z'.val ↔
      65 ≤ char.toNat ∧ char.toNat ≤ 90 := by
    rw [UInt32.le_iff_toNat_le, UInt32.le_iff_toNat_le]
    rfl
  by_cases capital : 65 ≤ char.toNat ∧ char.toNat ≤ 90
  · have moved : char.toLower = _ := dif_pos (upper.mpr capital)
    have on : ('a'.val - 'A'.val).toNat = 32 := rfl
    rw [if_pos capital, moved, Char.toNat_mk, UInt32.toNat_add, on, Char.toNat_val]
    omega
  · rw [if_neg capital]
    exact congrArg Char.toNat (dif_neg (mt upper.mp capital))

theorem toLower_toUpper (char : Char) : char.toUpper.toLower = char.toLower := by
  rw [← Char.toNat_inj, toNat_toLower, toNat_toLower, toNat_toUpper]
  grind

theorem toUpper_toLower (char : Char) : char.toLower.toUpper = char.toUpper := by
  rw [← Char.toNat_inj, toNat_toUpper, toNat_toUpper, toNat_toLower]
  grind

theorem toUpper_toUpper (char : Char) : char.toUpper.toUpper = char.toUpper := by
  rw [← Char.toNat_inj, toNat_toUpper char.toUpper, toNat_toUpper]
  grind

/-- A character that is no letter is not changed, and a small letter is still a letter. -/
theorem toUpper_cases (char : Char) :
    char.toUpper = char ∨ char.isAlpha = true ∧ char.toUpper.isAlpha = true := by
  rw [isAlpha_iff, isAlpha_iff, ← Char.toNat_inj, toNat_toUpper]
  split <;> omega

/-- The texts are one and the same in small letters. -/
def SameLetters (left right : List Char) : Prop :=
  left.map Char.toLower = right.map Char.toLower

instance (left right : List Char) : Decidable (SameLetters left right) :=
  inferInstanceAs (Decidable (_ = _))

theorem sameLetters_iff_capitals (left right : List Char) :
    SameLetters left right ↔ left.map Char.toUpper = right.map Char.toUpper := by
  have small (text : List Char) :
      (text.map Char.toUpper).map Char.toLower = text.map Char.toLower := by
    simp only [List.map_map, Function.comp_def, toLower_toUpper]
  have capital (text : List Char) :
      (text.map Char.toLower).map Char.toUpper = text.map Char.toUpper := by
    simp only [List.map_map, Function.comp_def, toUpper_toLower]
  constructor
  · intro same
    rw [← capital left, same, capital right]
  · intro same
    rw [SameLetters, ← small left, same, small right]

theorem sameLetters_capitals (text : List Char) : SameLetters text (text.map Char.toUpper) := by
  rw [sameLetters_iff_capitals, List.map_map]
  simp only [Function.comp_def, toUpper_toUpper]

theorem isBlank_toUpper (char : Char) : isBlank char.toUpper = isBlank char := by
  rcases toUpper_cases char with same | ⟨letter, capital⟩
  · rw [same]
  · rw [isBlank_of_isAlpha _ letter, isBlank_of_isAlpha _ capital]

theorem trim_map (text : List Char) (change : Char → Char)
    (blank : ∀ char, isBlank (change char) = isBlank char) :
    trim (text.map change) = (trim text).map change := by
  have unseen : isBlank ∘ change = isBlank := funext blank
  simp only [trim, List.dropWhile_map, ← List.map_reverse, unseen]

end HouseStyle.Text
