import HouseStyle.Proofs.Package.Colors
import HouseStyle.Proofs.Text.Characters
import HouseStyle.Proofs.Word.Values

/-!
How colours are spelled, and which of them begin with one of some given starts. A text spells a
colour when it is six hexadecimal digits behind any number of marks and between blanks. The case of
the digits makes no difference to what is read, because a colour is kept in capitals, and no
difference to how a colour is matched, because a start is put into capitals too.
-/

namespace HouseStyle.Color

open Text (SameLetters)

def IsHexDigit (char : Char) : Prop :=
  ('0' ≤ char ∧ char ≤ '9') ∨ ('a' ≤ char ∧ char ≤ 'f') ∨ ('A' ≤ char ∧ char ≤ 'F')

instance (char : Char) : Decidable (IsHexDigit char) := inferInstanceAs (Decidable (_ ∨ _))

/-- The text is six digits behind any number of marks, with nothing but blanks around them. -/
structure Spells (text digits : List Char) : Prop where
  padded : ∃ marks, Text.Padded text (List.replicate marks '#' ++ digits)
  six : digits.length = 6
  hex : ∀ char ∈ digits, IsHexDigit char

/-- Each start has the letters of one on the other side, in whatever order and however often. -/
structure SameStarts (starts others : List String) : Prop where
  left : ∀ start ∈ starts, ∃ other ∈ others, SameLetters start.toList other.toList
  right : ∀ other ∈ others, ∃ start ∈ starts, SameLetters other.toList start.toList

/-! Digits. -/

theorem isHexDigit_iff (char : Char) :
    IsHexDigit char ↔ (48 ≤ char.toNat ∧ char.toNat ≤ 57) ∨
      (97 ≤ char.toNat ∧ char.toNat ≤ 102) ∨ (65 ≤ char.toNat ∧ char.toNat ≤ 70) := by
  simp only [IsHexDigit, Char.le_def, UInt32.le_iff_toNat_le]
  rfl

theorem isHex_iff (char : Char) : isHex char = true ↔ IsHexDigit char := by
  rw [isHex, isCapitalHex_iff, isHexDigit_iff, Text.toNat_toUpper]
  split <;> omega

theorem IsHexDigit.isBlank {char : Char} (digit : IsHexDigit char) :
    Text.isBlank char = false := by
  rw [isHexDigit_iff] at digit
  exact Text.isBlank_of_printed char (by omega) (by omega)

theorem IsHexDigit.ne_mark {char : Char} (digit : IsHexDigit char) : char ≠ '#' := by
  rintro rfl
  revert digit
  decide

/-! Reading. -/

theorem dropWhile_marks (marks : Nat) (digits : List Char)
    (hex : ∀ char ∈ digits, IsHexDigit char) :
    (List.replicate marks '#' ++ digits).dropWhile (· == '#') = digits := by
  apply Text.dropWhile_row
  · intro char member
    exact beq_iff_eq.mpr (List.eq_of_mem_replicate member)
  · intro char first
    exact beq_false_of_ne (hex char (List.mem_of_mem_head? first)).ne_mark

theorem takeWhile_mark (text : List Char) :
    text.takeWhile (· == '#') = List.replicate (text.takeWhile (· == '#')).length '#' := by
  refine List.eq_replicate_of_mem fun char member => ?_
  exact beq_iff_eq.mp (List.mem_takeWhile_imp (p := (· == '#')) member)

theorem spells_of_parse? (text : String) (color : Color) (read : parse? text = some color) :
    ∃ digits, Spells text.toList digits ∧ color.text.toList = digits.map Char.toUpper := by
  rw [parse?] at read
  split at read
  · rename_i held
    obtain ⟨six, hex⟩ := held
    obtain rfl := Option.some.inj read
    have padded : Text.Padded text.toList (Text.trim text.toList) := Text.padded_trim text.toList
    rw [← List.takeWhile_append_dropWhile (p := (· == '#')) (l := Text.trim text.toList),
      takeWhile_mark] at padded
    have digits := fun char member => (isHex_iff char).mp (List.all_eq_true.mp hex char member)
    exact ⟨_, ⟨⟨_, padded⟩, six, digits⟩, String.toList_ofList⟩
  · contradiction

theorem parse?_of_spells (text : String) (digits : List Char) (spells : Spells text.toList digits) :
    parse? text = some ⟨String.ofList (digits.map Char.toUpper)⟩ := by
  obtain ⟨⟨marks, padded⟩, six, hex⟩ := spells
  have solid : ∀ char ∈ List.replicate marks '#' ++ digits, Text.isBlank char = false := by
    intro char member
    rcases List.mem_append.mp member with mark | digit
    · rw [List.eq_of_mem_replicate mark]
      rfl
    · exact (hex char digit).isBlank
  have all : digits.all isHex = true :=
    List.all_eq_true.mpr fun char member => (isHex_iff char).mpr (hex char member)
  rw [parse?, Text.trim_of_padded _ _ padded solid, dropWhile_marks marks digits hex]
  exact if_pos ⟨six, all⟩

theorem parse?_eq_some_iff (text : String) (color : Color) :
    parse? text = some color ↔
      ∃ digits, Spells text.toList digits ∧ color.text.toList = digits.map Char.toUpper := by
  constructor
  · exact spells_of_parse? text color
  · rintro ⟨digits, spells, capitals⟩
    rw [parse?_of_spells text digits spells, ← capitals, String.ofList_toList]

theorem beq_mark_toUpper (char : Char) : (char.toUpper == '#') = (char == '#') := by
  rcases Text.toUpper_cases char with same | ⟨letter, capital⟩
  · rw [same]
  · have unmarked (other : Char) (alpha : other.isAlpha = true) : (other == '#') = false := by
      refine beq_false_of_ne ?_
      rintro rfl
      contradiction
    rw [unmarked char letter, unmarked _ capital]

theorem isHex_toUpper (char : Char) : isHex char.toUpper = isHex char := by
  rw [isHex, isHex, Text.toUpper_toUpper]

theorem parse?_capitals (text : String) :
    parse? (String.ofList (text.toList.map Char.toUpper)) = parse? text := by
  have mark : (fun char : Char => char == '#') ∘ Char.toUpper = fun char => char == '#' :=
    funext beq_mark_toUpper
  have hex : isHex ∘ Char.toUpper = isHex := funext isHex_toUpper
  have upper : Char.toUpper ∘ Char.toUpper = Char.toUpper :=
    funext Text.toUpper_toUpper
  simp only [parse?, String.toList_ofList, Text.trim_map _ _ Text.isBlank_toUpper,
    List.dropWhile_map, mark, List.length_map, List.all_map, hex, List.map_map, upper]

theorem parse?_sameLetters (text other : String)
    (same : SameLetters text.toList other.toList) : parse? other = parse? text := by
  rw [← parse?_capitals other, ← (Text.sameLetters_iff_capitals _ _).mp same, parse?_capitals]

/-! Matching. -/

section Starts

variable (color : Color) (start : String)

theorem startsWith_iff (formed : color.WellFormed) :
    color.startsWith start = true ↔
      ∃ segment, segment <+: color.text.toList ∧ SameLetters start.toList segment := by
  have capital : ∀ char ∈ color.text.toList, isCapitalHex char = true :=
    List.all_eq_true.mp formed.2
  rw [startsWith, List.isPrefixOf_iff_prefix]
  constructor
  · intro leading
    exact ⟨_, leading, Text.sameLetters_capitals start.toList⟩
  · rintro ⟨segment, leading, same⟩
    have unchanged : segment.map Char.toUpper = segment :=
      map_toUpper_of_isCapitalHex segment fun char member => capital char (leading.subset member)
    rw [(Text.sameLetters_iff_capitals _ _).mp same, unchanged]
    exact leading

theorem startsWith_sameLetters (other : String) (same : SameLetters start.toList other.toList) :
    color.startsWith start = color.startsWith other := by
  rw [startsWith, startsWith, (Text.sameLetters_iff_capitals _ _).mp same]

theorem startsWithAny_of_listed {starts others : List String}
    (listed : ∀ start ∈ starts, ∃ other ∈ others, SameLetters start.toList other.toList)
    (begins : color.startsWithAny starts = true) : color.startsWithAny others = true := by
  obtain ⟨start, member, leading⟩ := List.any_eq_true.mp begins
  obtain ⟨other, memberToo, same⟩ := listed start member
  rw [color.startsWith_sameLetters start other same] at leading
  exact List.any_eq_true.mpr ⟨other, memberToo, leading⟩

theorem startsWithAny_sameStarts {starts others : List String} (same : SameStarts starts others) :
    color.startsWithAny starts = color.startsWithAny others :=
  Bool.eq_iff_iff.mpr
    ⟨color.startsWithAny_of_listed same.left, color.startsWithAny_of_listed same.right⟩

end Starts

/--
A text is read as a colour exactly when it spells one, and the colour is its digits in capitals.
Texts with the same letters are read alike. What was read is read from its own text again, and it
begins with one of the given starts exactly when one of them has the letters of its first digits, so
neither the case of the starts nor their order and number make a difference.
-/
theorem read_and_matched (text : String) :
    (∀ color, parse? text = some color ↔
      ∃ digits, Spells text.toList digits ∧ color.text.toList = digits.map Char.toUpper) ∧
    (∀ other : String, SameLetters text.toList other.toList → parse? other = parse? text) ∧
    ∀ color, parse? text = some color →
      parse? color.text = some color ∧
      (∀ starts, color.startsWithAny starts = true ↔
        ∃ start ∈ starts, ∃ segment,
          segment <+: color.text.toList ∧ SameLetters start.toList segment) ∧
      ∀ starts others, SameStarts starts others →
        color.startsWithAny starts = color.startsWithAny others := by
  refine ⟨parse?_eq_some_iff text, parse?_sameLetters text, ?_⟩
  intro color read
  have formed := wellFormed_of_isRead color ⟨text, read⟩
  refine ⟨parse?_text color formed, ?_, fun _ _ same => color.startsWithAny_sameStarts same⟩
  intro starts
  rw [startsWithAny, List.any_eq_true]
  simp only [startsWith_iff color _ formed]

/-- Two marks and digits of either case, between a blank without a break and an ideographic one. -/
theorem mixed_letters_read_and_matched :
    parse? "\u00a0##c0FfeE\u3000" = some ⟨"C0FFEE"⟩ ∧
    parse? "\u00a0##C0fFEe\u3000" = some ⟨"C0FFEE"⟩ ∧
    parse? "C0FFEE" = some ⟨"C0FFEE"⟩ ∧
    startsWithAny ⟨"C0FFEE"⟩ ["E0", "c0F"] = true ∧
    startsWithAny ⟨"C0FFEE"⟩ ["C0f", "e0", "c0F"] = true := by
  obtain ⟨reads, alike, matched⟩ := read_and_matched "\u00a0##c0FfeE\u3000"
  have hex : ∀ char ∈ "c0FfeE".toList, IsHexDigit char :=
    fun char member => (isHex_iff char).mp (List.all_eq_true.mp rfl char member)
  have spells : Spells "\u00a0##c0FfeE\u3000".toList "c0FfeE".toList :=
    ⟨⟨2, ['\u00a0'], ['\u3000'], rfl, List.all_eq_true.mp rfl⟩, rfl, hex⟩
  have read := (reads ⟨"C0FFEE"⟩).mpr ⟨_, spells, rfl⟩
  obtain ⟨again, begins, same⟩ := matched _ read
  have begun : startsWithAny ⟨"C0FFEE"⟩ ["E0", "c0F"] = true :=
    (begins _).mpr ⟨"c0F", by decide, "C0F".toList, ⟨"FEE".toList, rfl⟩, by decide⟩
  have starts : SameStarts ["E0", "c0F"] ["C0f", "e0", "c0F"] :=
    ⟨by decide +kernel, by decide +kernel⟩
  exact ⟨read, (alike _ (by decide)).trans read, again, begun, (same _ _ starts).symm.trans begun⟩

end HouseStyle.Color
