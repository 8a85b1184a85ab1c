import HouseStyle.Proofs.Number.Decimal

/-!
How numbers are spelled: a whole number is an optional sign and digits, an amount may have one point
among its digits, and the words for infinity and for what is no number are the only real numbers
without a digit. A text without a letter is a real number only if it is a sign and an amount: there
is no exponent without a letter and no word without one.
-/

namespace HouseStyle.Numeral

inductive IsSign : List Char → Prop
  | unsigned : IsSign []
  | plus : IsSign ['+']
  | minus : IsSign ['-']

structure IsDigits (digits : List Char) : Prop where
  nonempty : digits ≠ []
  all : ∀ char ∈ digits, char.isDigit = true

/-- Digits with at most one point among, before or after them. -/
inductive IsAmount : List Char → Prop
  | whole {digits : List Char} (counted : IsDigits digits) : IsAmount digits
  | pointed {before behind : List Char} (counted : IsDigits (before ++ behind)) :
      IsAmount (before ++ '.' :: behind)

inductive Writes : List Char → Int → Prop
  | positive {sign digits : List Char} (unsigned : sign = [] ∨ sign = ['+'])
      (counted : IsDigits digits) : Writes (sign ++ digits) (Nat.ofDigitChars 10 digits 0)
  | negative {digits : List Char} (counted : IsDigits digits) :
      Writes ('-' :: digits) (-(Nat.ofDigitChars 10 digits 0 : Nat))

def IsWord (text : List Char) : Prop :=
  String.ofList (text.map Char.toLower) ∈ ["inf", "infinity", "nan"]

inductive IsSignedWord : List Char → Prop
  | spelled {sign word : List Char} (signed : IsSign sign) (named : IsWord word) :
      IsSignedWord (sign ++ word)

theorem ofDigits_eq (digits : List Char) : ofDigits digits = Nat.ofDigitChars 10 digits 0 := by
  rw [ofDigits, Digits.value_eq_byOne, Digits.byOne, List.foldl_map]
  rfl

/-! The sign. -/

theorem sign_append (front rest : List Char) (signed : IsSign front)
    (plain : ∀ char, rest.head? = some char → char ≠ '+' ∧ char ≠ '-') :
    sign (front ++ rest) = (decide (front = ['-']), rest) := by
  cases signed with
  | unsigned =>
    rw [List.nil_append]
    unfold sign
    split
    · exact absurd rfl (plain '-' rfl).2
    · exact absurd rfl (plain '+' rfl).1
    · rfl
  | plus => rfl
  | minus => rfl

theorem exists_sign (text : List Char) :
    ∃ front, IsSign front ∧ text = front ++ (sign text).2 ∧
      (sign text).1 = decide (front = ['-']) := by
  unfold sign
  split
  · exact ⟨['-'], .minus, rfl, rfl⟩
  · exact ⟨['+'], .plus, rfl, rfl⟩
  · exact ⟨[], .unsigned, rfl, rfl⟩

/-- No kind of character that a number or a word begins with has a sign in it. -/
theorem plain_of_kind (kind : Char → Bool) (plus : kind '+' = false) (minus : kind '-' = false)
    (char : Char) (inside : kind char = true) : char ≠ '+' ∧ char ≠ '-' := by
  constructor
  · rintro rfl
    rw [plus] at inside
    contradiction
  · rintro rfl
    rw [minus] at inside
    contradiction

theorem IsDigits.head_plain {digits : List Char} (counted : IsDigits digits) (char : Char)
    (leads : digits.head? = some char) : char ≠ '+' ∧ char ≠ '-' :=
  plain_of_kind Char.isDigit rfl rfl char (counted.all char (List.mem_of_mem_head? leads))

theorem IsAmount.chars {amount : List Char} (counted : IsAmount amount) (char : Char)
    (member : char ∈ amount) : char.isDigit = true ∨ char = '.' := by
  cases counted with
  | whole counted => exact .inl (counted.all char member)
  | pointed counted =>
    rcases List.mem_append.mp member with before | behind
    · exact .inl (counted.all char (List.mem_append_left _ before))
    · rcases List.mem_cons.mp behind with point | after
      · exact .inr point
      · exact .inl (counted.all char (List.mem_append_right _ after))

theorem IsAmount.head_plain {amount : List Char} (counted : IsAmount amount) (char : Char)
    (leads : amount.head? = some char) : char ≠ '+' ∧ char ≠ '-' := by
  rcases counted.chars char (List.mem_of_mem_head? leads) with digit | rfl
  · exact plain_of_kind Char.isDigit rfl rfl char digit
  · decide

theorem isSign_of_positive {sign : List Char} (unsigned : sign = [] ∨ sign = ['+']) :
    IsSign sign := by
  rcases unsigned with rfl | rfl
  · exact .unsigned
  · exact .plus

theorem IsSign.chars {sign : List Char} (signed : IsSign sign) (char : Char)
    (member : char ∈ sign) : char = '+' ∨ char = '-' := by
  cases signed with
  | unsigned => contradiction
  | plus => exact .inl (List.mem_singleton.mp member)
  | minus => exact .inr (List.mem_singleton.mp member)

/-! Whole numbers. -/

theorem natural?_eq_some_iff (text : List Char) (number : Nat) :
    natural? text = some number ↔ IsDigits text ∧ number = Nat.ofDigitChars 10 text 0 := by
  rw [natural?, digits?, ofDigits_eq]
  constructor
  · intro read
    split at read
    · contradiction
    · rename_i nonempty
      split at read
      · rename_i all
        exact ⟨⟨by simpa using nonempty, List.all_eq_true.mp all⟩, (Option.some.inj read).symm⟩
      · contradiction
  · rintro ⟨⟨nonempty, all⟩, rfl⟩
    rw [if_neg (by simpa using nonempty), if_pos (List.all_eq_true.mpr all)]

theorem integer?_eq (text : List Char) :
    integer? text = (natural? (sign text).2).map fun value : Nat =>
      if (sign text).1 then -(value : Int) else value := by
  rw [integer?, signed?, natural?]
  obtain ⟨negative, digits⟩ := sign text
  cases read : digits? ofDigits digits with
  | none => simp only [read, Option.bind_eq_bind, Option.bind_none, Option.map_none]
  | some value =>
    simp only [read, Option.bind_eq_bind, Option.bind_some, Option.pure_def, Option.map_some]

theorem integer?_eq_some_iff (text : List Char) (number : Int) :
    integer? text = some number ↔ Writes text number := by
  rw [integer?_eq]
  constructor
  · intro read
    obtain ⟨value, digits, rfl⟩ := Option.map_eq_some_iff.mp read
    obtain ⟨counted, rfl⟩ := (natural?_eq_some_iff _ value).mp digits
    obtain ⟨front, signed, whole, negative⟩ := exists_sign text
    rw [negative]
    conv => lhs; rw [whole]
    cases signed with
    | unsigned => exact .positive (.inl rfl) counted
    | plus => exact .positive (.inr rfl) counted
    | minus => exact .negative counted
  · intro writes
    cases writes with
    | @positive front digits unsigned counted =>
      have positive : decide (front = ['-']) = false := by
        rcases unsigned with rfl | rfl <;> rfl
      rw [sign_append front digits (isSign_of_positive unsigned) counted.head_plain, positive,
        (natural?_eq_some_iff digits _).mpr ⟨counted, rfl⟩]
      rfl
    | @negative digits counted =>
      have read : natural? digits = some (Nat.ofDigitChars 10 digits 0) :=
        (natural?_eq_some_iff digits _).mpr ⟨counted, rfl⟩
      rw [sign, read]
      rfl

/-! Amounts. -/

section Amounts

variable (exponentValue : List Char → Nat) (negative : Bool)

theorem decimal?_isSome_iff (text : List Char) :
    (decimal? exponentValue negative text).isSome = true ↔
      text.takeWhile Char.isDigit ++ (fraction (text.dropWhile Char.isDigit)).1 ≠ [] ∧
      (exponent? exponentValue (fraction (text.dropWhile Char.isDigit)).2).isSome = true := by
  rw [decimal?]
  obtain ⟨part, rest⟩ := fraction (text.dropWhile Char.isDigit)
  dsimp only
  split
  · rename_i none
    simp [List.isEmpty_iff.mp none]
  · rename_i some_digit
    rw [Option.isSome_map]
    exact (and_iff_right (by simpa using some_digit)).symm

theorem decimal?_isSome_of_isAmount (amount : List Char) (spelled : IsAmount amount) :
    (decimal? exponentValue negative amount).isSome = true := by
  rw [decimal?_isSome_iff]
  cases spelled with
  | whole counted =>
    have nothing : amount.dropWhile Char.isDigit = [] := List.dropWhile_eq_nil_iff.mpr counted.all
    have pointless : fraction [] = ([], []) := rfl
    rw [List.takeWhile_eq_self_iff.mpr counted.all, nothing, pointless, List.append_nil]
    exact ⟨counted.nonempty, rfl⟩
  | @pointed before behind counted =>
    have front : ∀ char ∈ before, char.isDigit = true :=
      fun char member => counted.all char (List.mem_append_left behind member)
    have back : ∀ char ∈ behind, char.isDigit = true :=
      fun char member => counted.all char (List.mem_append_right before member)
    have point : ∀ char, ('.' :: behind).head? = some char → char.isDigit = false := by
      rintro char ⟨⟩
      rfl
    have part : behind.takeWhile Char.isDigit = behind := List.takeWhile_eq_self_iff.mpr back
    have nothing : behind.dropWhile Char.isDigit = [] := List.dropWhile_eq_nil_iff.mpr back
    rw [Text.takeWhile_row Char.isDigit before ('.' :: behind) front point,
      Text.dropWhile_row Char.isDigit before ('.' :: behind) front point, fraction, part, nothing]
    exact ⟨counted.nonempty, rfl⟩

/-- What follows the digits would have to be an exponent, which begins with a letter. -/
theorem exponent?_of_letterless (text : List Char)
    (letterless : ∀ char ∈ text, char.isAlpha = false)
    (read : (exponent? exponentValue text).isSome = true) : text = [] := by
  cases text with
  | nil => rfl
  | cons mark rest =>
    have other := letterless mark List.mem_cons_self
    have lower : mark ≠ 'e' := by
      rintro rfl
      contradiction
    have upper : mark ≠ 'E' := by
      rintro rfl
      contradiction
    rw [exponent?, if_neg (not_or.mpr ⟨lower, upper⟩)] at read
    contradiction

theorem exists_fraction (text : List Char) :
    ((∃ part, fraction text = (part.takeWhile Char.isDigit, part.dropWhile Char.isDigit) ∧
      text = '.' :: part) ∨ fraction text = ([], text)) := by
  unfold fraction
  split
  · exact .inl ⟨_, rfl, rfl⟩
  · exact .inr rfl

theorem isAmount_of_decimal? (text : List Char)
    (letterless : ∀ char ∈ text, char.isAlpha = false)
    (read : (decimal? exponentValue negative text).isSome = true) : IsAmount text := by
  have parts : text.takeWhile Char.isDigit ++ text.dropWhile Char.isDigit = text :=
    List.takeWhile_append_dropWhile
  have front : ∀ char ∈ text.takeWhile Char.isDigit, char.isDigit = true :=
    fun _ member => List.mem_takeWhile_imp member
  have inside : ∀ char ∈ text.dropWhile Char.isDigit, char.isAlpha = false :=
    fun char member => letterless char ((List.dropWhile_suffix _).subset member)
  obtain ⟨some_digit, exponent⟩ := (decimal?_isSome_iff exponentValue negative text).mp read
  rcases exists_fraction (text.dropWhile Char.isDigit) with ⟨part, split, pointed⟩ | split
  · rw [split] at some_digit exponent
    have behind : ∀ char ∈ part.dropWhile Char.isDigit, char.isAlpha = false := by
      intro char member
      apply inside
      rw [pointed]
      exact List.mem_cons_of_mem '.' ((List.dropWhile_suffix _).subset member)
    have nothing := exponent?_of_letterless exponentValue _ behind exponent
    have back : ∀ char ∈ part, char.isDigit = true := List.dropWhile_eq_nil_iff.mp nothing
    rw [List.takeWhile_eq_self_iff.mpr back] at some_digit
    rw [← parts, pointed]
    refine .pointed ⟨some_digit, ?_⟩
    intro char member
    rcases List.mem_append.mp member with before | after
    · exact front char before
    · exact back char after
  · rw [split] at some_digit exponent
    have nothing := exponent?_of_letterless exponentValue _ inside exponent
    rw [nothing, List.append_nil] at parts
    rw [List.append_nil] at some_digit
    rw [← parts]
    exact .whole ⟨some_digit, front⟩

end Amounts

/-! Words. -/

theorem toLower_of_not_isAlpha (char : Char) (other : char.isAlpha = false) :
    char.toLower = char := by
  have either : char.isAlpha = (char.isUpper || char.isLower) := rfl
  rw [either, Bool.or_eq_false_iff] at other
  exact dif_neg (of_decide_eq_false other.1)

theorem word?_cases (negative : Bool) (text : List Char) :
    (IsWord text ∧ (word? negative text = some (.infinity negative) ∨
      word? negative text = some .notANumber)) ∨
    (¬IsWord text ∧ word? negative text = none) := by
  simp only [IsWord, List.mem_cons, List.not_mem_nil, or_false]
  unfold word?
  dsimp only
  split
  · rename_i infinite
    exact .inl ⟨or_assoc.mp (.inl infinite), .inl rfl⟩
  · rename_i finite
    split
    · rename_i neither
      exact .inl ⟨or_assoc.mp (.inr neither), .inr rfl⟩
    · rename_i other
      exact .inr ⟨fun listed => (or_assoc.mpr listed).elim finite other, rfl⟩

theorem word?_eq_none_iff (negative : Bool) (text : List Char) :
    word? negative text = none ↔ ¬IsWord text := by
  rcases word?_cases negative text with ⟨word, read | read⟩ | ⟨other, read⟩
  · simp [word, read]
  · simp [word, read]
  · simp [other, read]

theorem IsWord.isAlpha {text : List Char} (word : IsWord text) (char : Char)
    (member : char ∈ text) : char.isAlpha = true := by
  have letters : ["inf", "infinity", "nan"].all
      (fun listed => listed.toList.all Char.isAlpha) = true := rfl
  have lower := List.all_eq_true.mp letters _ word
  rw [String.toList_ofList, List.all_map] at lower
  by_contra other
  have unchanged := toLower_of_not_isAlpha char (Bool.eq_false_iff.mpr other)
  have letter := List.all_eq_true.mp lower char member
  rw [Function.comp_apply, unchanged] at letter
  exact other letter

theorem IsWord.head_plain {word : List Char} (named : IsWord word) (char : Char)
    (leads : word.head? = some char) : char ≠ '+' ∧ char ≠ '-' :=
  plain_of_kind Char.isAlpha rfl rfl char (named.isAlpha char (List.mem_of_mem_head? leads))

theorem IsSignedWord.solid {text : List Char} (word : IsSignedWord text) (char : Char)
    (member : char ∈ text) : Text.isBlank char = false := by
  obtain ⟨signed, named⟩ := word
  rcases List.mem_append.mp member with before | behind
  · rcases signed.chars char before with rfl | rfl <;> rfl
  · exact Text.isBlank_of_isAlpha char (named.isAlpha char behind)

theorem not_isWord_of_letterless (text : List Char)
    (letterless : ∀ char ∈ text, char.isAlpha = false) : ¬IsWord text := by
  intro word
  cases text with
  | nil =>
    have listed : String.ofList [] ∉ ["inf", "infinity", "nan"] := by decide
    exact listed word
  | cons first rest =>
    have letter := word.isAlpha first List.mem_cons_self
    rw [letterless first List.mem_cons_self] at letter
    contradiction

/-! Real numbers. -/

theorem real?_eq (text : List Char) :
    real? text = ((decimal? ofLeadingDigits (sign text).1 (sign text).2).map .decimal).or
      (word? (sign text).1 (sign text).2) := by
  rw [real?]
  obtain ⟨negative, rest⟩ := sign text
  dsimp only
  cases decimal? ofLeadingDigits negative rest with
  | none => rfl
  | some value => rfl

theorem real?_isSome_iff (text : List Char) (letterless : ∀ char ∈ text, char.isAlpha = false) :
    (real? text).isSome = true ↔
      ∃ front amount, IsSign front ∧ IsAmount amount ∧ text = front ++ amount := by
  constructor
  · intro read
    obtain ⟨front, signed, whole, _⟩ := exists_sign text
    have behind : ∀ char ∈ (sign text).2, char.isAlpha = false := by
      intro char member
      rw [whole] at letterless
      exact letterless char (List.mem_append_right front member)
    have wordless := (word?_eq_none_iff (sign text).1 _).mpr (not_isWord_of_letterless _ behind)
    rw [real?_eq, wordless, Option.or_none, Option.isSome_map] at read
    exact ⟨front, _, signed, isAmount_of_decimal? _ _ _ behind read, whole⟩
  · rintro ⟨front, amount, signed, spelled, rfl⟩
    have read := decimal?_isSome_of_isAmount ofLeadingDigits (decide (front = ['-'])) amount spelled
    rw [real?_eq, sign_append front amount signed spelled.head_plain, Option.isSome_or,
      Option.isSome_map, read, Bool.true_or]

theorem takeWhile_of_digitless (text : List Char)
    (digitless : ∀ char ∈ text, char.isDigit = false) : text.takeWhile Char.isDigit = [] := by
  cases text with
  | nil => rfl
  | cons first rest => exact List.takeWhile_cons_of_neg (by simp [digitless first])

theorem decimal?_of_digitless (exponentValue : List Char → Nat) (negative : Bool)
    (text : List Char) (digitless : ∀ char ∈ text, char.isDigit = false) :
    decimal? exponentValue negative text = none := by
  have behind : ∀ char ∈ text.dropWhile Char.isDigit, char.isDigit = false :=
    fun char member => digitless char ((List.dropWhile_suffix _).subset member)
  rw [← Option.not_isSome_iff_eq_none, decimal?_isSome_iff, takeWhile_of_digitless text digitless,
    List.nil_append]
  rintro ⟨some_digit, _⟩
  rcases exists_fraction (text.dropWhile Char.isDigit) with ⟨part, split, pointed⟩ | split
  · have after : ∀ char ∈ part, char.isDigit = false := by
      intro char member
      apply behind
      rw [pointed]
      exact List.mem_cons_of_mem '.' member
    rw [split, takeWhile_of_digitless part after] at some_digit
    exact some_digit rfl
  · rw [split] at some_digit
    exact some_digit rfl

theorem real?_of_digitless (text : List Char) (digitless : ∀ char ∈ text, char.isDigit = false) :
    real? text = word? (sign text).1 (sign text).2 := by
  obtain ⟨front, _, whole, _⟩ := exists_sign text
  have behind : ∀ char ∈ (sign text).2, char.isDigit = false := by
    intro char member
    rw [whole] at digitless
    exact digitless char (List.mem_append_right front member)
  rw [real?_eq, decimal?_of_digitless _ _ _ behind, Option.map_none, Option.none_or]

theorem real?_cases_of_digitless (text : List Char)
    (digitless : ∀ char ∈ text, char.isDigit = false) :
    (IsSignedWord text ∧
      ((∃ negative, real? text = some (.infinity negative)) ∨ real? text = some .notANumber)) ∨
    (¬IsSignedWord text ∧ real? text = none) := by
  rw [real?_of_digitless text digitless]
  rcases word?_cases (sign text).1 (sign text).2 with ⟨word, read⟩ | ⟨other, read⟩
  · obtain ⟨front, signed, whole, _⟩ := exists_sign text
    refine .inl ⟨?_, read.imp_left fun infinite => ⟨_, infinite⟩⟩
    rw [whole]
    exact .spelled signed word
  · refine .inr ⟨?_, read⟩
    rintro ⟨signed, word⟩
    rw [sign_append _ _ signed word.head_plain] at other
    exact other word

end HouseStyle.Numeral
