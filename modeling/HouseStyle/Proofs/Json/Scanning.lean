import HouseStyle.Json.Basic
import HouseStyle.Json.Reader
import HouseStyle.Proofs.Number.Decimal
import Mathlib.Tactic.SplitIfs

/-!
From JSON text to tokens. Each way to write a token is read back as that token, whatever is written
after it, as long as a number or a word ends where it is followed by something else.
-/

namespace HouseStyle.Json

/-!
Strings. A character is written in one of three ways, and each way is read back as the character. A
control character is written with a code, and two codes in a row could be one character past the
first plane; the codes written are too small for that.
-/

/-- The three ways in which a character is written, and what reading relies on in each. -/
inductive Escaped (char : Char) : List Char → Prop where
  | letter (letter : Char) (known : Token.unescape? letter = some char) (short : letter ≠ 'u') :
      Escaped char ['\\', letter]
  | code (control : char.toNat < 32) :
      Escaped char
        ['\\', 'u', '0', '0', hexDigit (char.toNat / 16), hexDigit (char.toNat % 16)]
  | plain (noQuote : char ≠ '"') (noEscape : char ≠ '\\') (visible : ¬char.toNat < 32) :
      Escaped char [char]

theorem escaped_escape (char : Char) : Escaped char (escape char) := by
  unfold escape
  split_ifs with quote backslash line return_ tab backspace feed control
  · exact .letter '"' (by rw [quote]; rfl) (by decide)
  · exact .letter '\\' (by rw [backslash]; rfl) (by decide)
  · exact .letter 'n' (by rw [line]; rfl) (by decide)
  · exact .letter 'r' (by rw [return_]; rfl) (by decide)
  · exact .letter 't' (by rw [tab]; rfl) (by decide)
  · exact .letter 'b' (by rw [← Char.ofNat_toNat char, backspace]; rfl) (by decide)
  · exact .letter 'f' (by rw [← Char.ofNat_toNat char, feed]; rfl) (by decide)
  · exact .code control
  · exact .plain quote backslash control

namespace Token

theorem hex4?_control (code : Nat) (control : code < 32) :
    hex4? '0' '0' (hexDigit (code / 16)) (hexDigit (code % 16)) = some code := by
  revert control code
  decide

/-! What reading a string does at each kind of character. -/

theorem string?_letter (read rest : List Char) (letter char : Char)
    (known : unescape? letter = some char) (short : letter ≠ 'u') :
    string? read ('\\' :: letter :: rest) = string? (char :: read) rest := by
  rw [string?.eq_4, known]
  · rfl
  · intro _ _ _ _ _ _ _ _ _ long _
    exact short long
  · intro _ _ _ _ _ long _
    exact short long

theorem string?_plain (read rest : List Char) (char : Char) (noQuote : char ≠ '"')
    (noEscape : char ≠ '\\') (visible : ¬char.toNat < 32) :
    string? read (char :: rest) = string? (char :: read) rest := by
  rw [string?.eq_5 read char rest noQuote, if_neg visible]
  · intro _ _ _ _ _ _ _ _ _ escape _
    exact noEscape escape
  · intro _ _ _ _ _ escape _
    exact noEscape escape
  · intro _ _ escape _
    exact noEscape escape

theorem string?_code (read rest : List Char) (a b c d char : Char)
    (code : hex4? a b c d = some char.toNat) (control : char.toNat < 32)
    (readable : ∀ e f g h later, rest = '\\' :: 'u' :: e :: f :: g :: h :: later →
      (hex4? e f g h).isSome = true) :
    string? read ('\\' :: 'u' :: a :: b :: c :: d :: rest) = string? (char :: read) rest := by
  have single : single? char.toNat = some char := by
    rw [single?, if_pos (Or.inl (by omega)), Char.ofNat_toNat]
  by_cases another : ∃ e f g h later, rest = '\\' :: 'u' :: e :: f :: g :: h :: later
  -- Two codes in a row: the first one is too small to be half of a character.
  · obtain ⟨e, f, g, h, later, rfl⟩ := another
    obtain ⟨low, second⟩ := Option.isSome_iff_exists.mp (readable e f g h later rfl)
    have apart : joined? char.toNat low = none := if_neg (by omega)
    rw [string?.eq_2, code, second]
    simp only [Option.bind_eq_bind, Option.bind_some, apart, single]
  · rw [string?.eq_3 read a b c d rest, code]
    · simp only [Option.bind_eq_bind, Option.bind_some, single]
    · intro e f g h later same
      exact another ⟨e, f, g, h, later, same⟩

/-- A code that what is left of a string begins with is one that was written for a character. -/
theorem hex4?_of_escaped (text rest : List Char) (e f g h : Char) (later : List Char)
    (begins : text.flatMap escape ++ '"' :: rest = '\\' :: 'u' :: e :: f :: g :: h :: later) :
    (hex4? e f g h).isSome = true := by
  cases text with
  | nil => simp at begins
  | cons char more =>
    rw [List.flatMap_cons, List.append_assoc] at begins
    generalize escape char = written, escaped_escape char = way at begins
    cases way with
    | letter letter known short =>
      simp only [List.cons_append, List.cons.injEq] at begins
      exact absurd begins.2.1 short
    | code control =>
      simp only [List.cons_append, List.cons.injEq] at begins
      obtain ⟨_, _, rfl, rfl, rfl, rfl, _⟩ := begins
      rw [hex4?_control _ control]
      rfl
    | plain noQuote noEscape visible =>
      simp only [List.cons_append, List.cons.injEq] at begins
      exact absurd begins.1 noEscape

theorem string?_escaped (text rest read : List Char) :
    string? read (text.flatMap escape ++ '"' :: rest) =
      some (String.ofList (read.reverse ++ text), rest) := by
  induction text generalizing read with
  | nil => rw [List.flatMap_nil, List.nil_append, string?.eq_1, List.append_nil]
  | cons char more ih =>
    have next : string? (char :: read) (more.flatMap escape ++ '"' :: rest) =
        some (String.ofList (read.reverse ++ char :: more), rest) := by
      rw [ih, List.reverse_cons, List.append_assoc, List.singleton_append]
    rw [List.flatMap_cons, List.append_assoc]
    generalize escape char = written, escaped_escape char = way
    cases way with
    | letter letter known short => exact (string?_letter read _ letter char known short).trans next
    | code control =>
      have readable := hex4?_of_escaped more rest
      exact (string?_code read _ _ _ _ _ char (hex4?_control _ control) control readable).trans next
    | plain noQuote noEscape visible =>
      exact (string?_plain read _ char noQuote noEscape visible).trans next

end Token

/-! Tokens. -/

theorem integerText_eq (number : Int) : integerText number = (toString number).toList :=
  (Numeral.toList_toString number).symm

namespace Token

variable {rest : List Char} {tokens : List Token}

/-! Numbers. -/

theorem isNumberChar_of_isDigit (char : Char) (digit : char.isDigit = true) :
    isNumberChar char = true := by
  simp [isNumberChar, digit]

theorem isNumberChar_of_integerText (number : Int) (char : Char)
    (member : char ∈ integerText number) : isNumberChar char = true := by
  rw [integerText_eq] at member
  rcases Numeral.mem_toString number char member with rfl | digit
  · decide
  · exact isNumberChar_of_isDigit char digit

theorem isNumberChar_of_decimalText (value : Decimal) (char : Char)
    (member : char ∈ decimalText value) : isNumberChar char = true := by
  have unsigned : char ∈ Nat.toDigits 10 value.coefficient ++ 'e' :: integerText value.exponent →
      isNumberChar char = true := by
    intro inside
    rcases List.mem_append.mp inside with digit | after
    · exact isNumberChar_of_isDigit char (Numeral.isDigit_of_mem _ char digit)
    · rcases List.mem_cons.mp after with rfl | exponent
      · decide
      · exact isNumberChar_of_integerText _ char exponent
  unfold decimalText at member
  simp only at member
  split at member
  · rcases List.mem_cons.mp member with rfl | inside
    · decide
    · exact unsigned inside
  · exact unsigned member

theorem integerText_ne_nil (number : Int) : integerText number ≠ [] := by
  unfold integerText
  split
  · exact List.cons_ne_nil _ _
  · exact Nat.toDigits_ne_nil

theorem decimalText_ne_nil (value : Decimal) : decimalText value ≠ [] := by
  unfold decimalText
  simp only
  split
  · exact List.cons_ne_nil _ _
  · simp

/-- Digits as they are written pass the check on a leading zero. -/
theorem no_needless_zero (number : Nat) :
    ((Nat.toDigits 10 number).isEmpty || ((Nat.toDigits 10 number).head? = some '0' &&
      (Nat.toDigits 10 number).length ≠ 1)) = false := by
  have some_digit : (Nat.toDigits 10 number).isEmpty = false :=
    List.isEmpty_eq_false_iff.mpr Nat.toDigits_ne_nil
  by_cases zero : (Nat.toDigits 10 number).head? = some '0'
  · rw [Numeral.eq_zero_of_head? number zero]
    decide
  · simp [some_digit, zero]

theorem unsignedNumber?_digits (negative : Bool) (number : Nat)
    (signed : negative = true → number ≠ 0) :
    unsignedNumber? negative (Nat.toDigits 10 number) =
      some (integer (if negative then -(number : Int) else number)) := by
  have whole := Numeral.takeWhile_isDigit number [] (by simp)
  have none_left := Numeral.dropWhile_isDigit number [] (by simp)
  rw [List.append_nil] at whole none_left
  have sign : (negative && decide (number = 0)) = false := by
    cases negative <;> simp_all
  rw [unsignedNumber?]
  simp only [whole, none_left, Numeral.ofDigits_toDigits, sign, no_needless_zero,
    Bool.false_eq_true, if_false, List.isEmpty_nil, if_true]

theorem unsignedNumber?_exponent (negative : Bool) (coefficient : Nat) (exponent : Int)
    (written : List Char) (power : Numeral.integer? written = some exponent) :
    unsignedNumber? negative (Nat.toDigits 10 coefficient ++ 'e' :: written) =
      some (decimal ⟨negative, coefficient, exponent⟩) := by
  have stops : ∀ char, ('e' :: written).head? = some char → char.isDigit = false := by
    intro char first
    rw [← Option.some.inj first]
    decide
  have whole := Numeral.takeWhile_isDigit coefficient _ stops
  have left := Numeral.dropWhile_isDigit coefficient _ stops
  rw [Numeral.integer?] at power
  have read : Numeral.decimal? Numeral.ofDigits negative
      (Nat.toDigits 10 coefficient ++ 'e' :: written) =
      some ⟨negative, coefficient, exponent⟩ := by
    simpa [Numeral.decimal?, whole, left, Numeral.fraction, Numeral.exponent?,
      Nat.toDigits_ne_nil] using power
  rw [unsignedNumber?]
  simp only [whole, left, no_needless_zero, read]
  rfl

theorem number?_of_isDigit (first : Char) (others : List Char) (digit : first.isDigit = true) :
    number? (first :: others) = unsignedNumber? false (first :: others) := by
  unfold number?
  split
  · simp_all
  · rfl

theorem number?_unsigned (number : Nat) (others : List Char) :
    number? (Nat.toDigits 10 number ++ others) =
      unsignedNumber? false (Nat.toDigits 10 number ++ others) := by
  cases digits : Nat.toDigits 10 number with
  | nil => exact absurd digits Nat.toDigits_ne_nil
  | cons first more =>
    apply number?_of_isDigit
    exact Numeral.isDigit_of_mem number first (digits ▸ List.mem_cons_self)

theorem number?_integerText (number : Int) :
    number? (integerText number) = some (integer number) := by
  unfold integerText
  split
  · rw [number?, unsignedNumber?_digits true _ (by omega)]
    simp only [if_true, Option.some.injEq, integer.injEq]
    omega
  · have unsigned := number?_unsigned number.natAbs []
    rw [List.append_nil] at unsigned
    rw [unsigned, unsignedNumber?_digits false _ (by simp)]
    simp only [Bool.false_eq_true, if_false, Option.some.injEq, integer.injEq]
    omega

theorem number?_decimalText (value : Decimal) :
    number? (decimalText value) = some (decimal value) := by
  obtain ⟨negative, coefficient, exponent⟩ := value
  have power : Numeral.integer? (integerText exponent) = some exponent := by
    rw [integerText_eq, Numeral.integer?_toString]
  cases negative with
  | true => exact unsignedNumber?_exponent true coefficient exponent _ power
  | false =>
    have unsigned := number?_unsigned coefficient ('e' :: integerText exponent)
    exact unsigned.trans (unsignedNumber?_exponent false coefficient exponent _ power)

/-! Steps are enough when there is one for each character that is left. -/

/-- However many steps the scan may take, as long as the text is not longer. -/
def Scans (text : List Char) (tokens : List Token) : Prop :=
  ∀ steps, text.length ≤ steps → scan steps text = some tokens

/-- A number or a word ends before this text. -/
def Ends (text : List Char) : Prop :=
  ∀ char, text.head? = some char → isNumberChar char = false ∧ char.isAlpha = false

theorem scans_nil : Scans [] [] := by
  intro steps _
  cases steps <;> rfl

theorem scans_blank (char : Char) (blank : isBlank char = true) (later : Scans rest tokens) :
    Scans (char :: rest) tokens := by
  intro steps enough
  cases steps with
  | zero => simp at enough
  | succ steps =>
    rw [scan, if_pos blank]
    exact later steps (by simpa using enough)

theorem scans_blanks (gap : List Char) (blank : ∀ char ∈ gap, isBlank char = true)
    (later : Scans rest tokens) : Scans (gap ++ rest) tokens := by
  induction gap with
  | nil => exact later
  | cons char more ih =>
    refine scans_blank char (blank char List.mem_cons_self) (ih ?_)
    intro other member
    exact blank other (List.mem_cons_of_mem char member)

theorem isBlank_of_isMark (char : Char) (known : isMark char = true) : isBlank char = false := by
  simp only [isMark, Bool.or_eq_true, decide_eq_true_eq] at known
  rcases known with ((((rfl | rfl) | rfl) | rfl) | rfl) | rfl <;> decide

theorem scans_mark (char : Char) (known : isMark char = true) (later : Scans rest tokens) :
    Scans (char :: rest) (mark char :: tokens) := by
  intro steps enough
  cases steps with
  | zero => simp at enough
  | succ steps =>
    rw [scan, if_neg (by simp [isBlank_of_isMark char known]), if_pos known,
      later steps (by simpa using enough), Option.map_some]

theorem scans_quoted (content : String) (later : Scans rest tokens) :
    Scans (quoted content ++ rest) (value (text content) :: tokens) := by
  intro steps enough
  cases steps with
  | zero => simp [quoted] at enough
  | succ steps =>
    have spelled : quoted content ++ rest =
        '"' :: (content.toList.flatMap escape ++ '"' :: rest) := by
      simp [quoted]
    rw [spelled] at enough ⊢
    simp only [List.length_cons, List.length_append] at enough
    rw [scan, if_neg (by decide), if_neg (by decide), if_pos rfl, string?_escaped]
    simp only [Option.bind_eq_bind, Option.bind_some, List.reverse_nil, List.nil_append,
      String.ofList_toList]
    rw [later steps (by omega), Option.map_some]

theorem isNumberChar_apart (char : Char) (known : isNumberChar char = true) :
    isBlank char = false ∧ isMark char = false ∧ char ≠ '"' := by
  by_cases digit : char.isDigit = true
  · have apart : ∀ other : Char, other.isDigit = false → char ≠ other := by
      rintro other noDigit rfl
      rw [digit] at noDigit
      contradiction
    simp [isBlank, isMark, apart]
  · simp only [isNumberChar, digit, Bool.false_or, Bool.or_eq_true, decide_eq_true_eq] at known
    rcases known with (((rfl | rfl) | rfl) | rfl) | rfl <;> decide

theorem scans_number (written : List Char) (number : Json) (some_char : written ≠ [])
    (known : ∀ char ∈ written, isNumberChar char = true) (read : number? written = some number)
    (ends : Ends rest) (later : Scans rest tokens) :
    Scans (written ++ rest) (value number :: tokens) := by
  have kept : (written ++ rest).takeWhile isNumberChar = written :=
    Text.takeWhile_row _ _ _ known fun char first => (ends char first).1
  have left : (written ++ rest).dropWhile isNumberChar = rest :=
    Text.dropWhile_row _ _ _ known fun char first => (ends char first).1
  intro steps enough
  cases written with
  | nil => exact absurd rfl some_char
  | cons first others =>
    cases steps with
    | zero => simp at enough
    | succ steps =>
      have digit := known first List.mem_cons_self
      obtain ⟨noBlank, noMark, noQuote⟩ := isNumberChar_apart first digit
      rw [List.cons_append] at kept left enough ⊢
      simp only [List.length_cons, List.length_append] at enough
      rw [scan, noBlank, noMark, if_neg Bool.false_ne_true, if_neg Bool.false_ne_true,
        if_neg noQuote, if_pos digit, kept, read, left]
      simp only [Option.bind_eq_bind, Option.bind_some]
      rw [later steps (by omega), Option.map_some]

theorem scans_word (first : Char) (others : List Char) (word : Json)
    (known : ∀ char ∈ first :: others, char.isAlpha = true)
    (apart : isBlank first = false ∧ isMark first = false ∧ isNumberChar first = false ∧
      first ≠ '"')
    (read : word? (first :: others) = some word) (ends : Ends rest) (later : Scans rest tokens) :
    Scans (first :: others ++ rest) (value word :: tokens) := by
  have kept : (first :: others ++ rest).takeWhile Char.isAlpha = first :: others :=
    Text.takeWhile_row _ _ _ known fun char stop => (ends char stop).2
  have left : (first :: others ++ rest).dropWhile Char.isAlpha = rest :=
    Text.dropWhile_row _ _ _ known fun char stop => (ends char stop).2
  obtain ⟨noBlank, noMark, noNumber, noQuote⟩ := apart
  intro steps enough
  cases steps with
  | zero => simp at enough
  | succ steps =>
    rw [List.cons_append] at kept left enough ⊢
    simp only [List.length_cons, List.length_append] at enough
    rw [scan, noBlank, noMark, noNumber, if_neg Bool.false_ne_true, if_neg Bool.false_ne_true,
      if_neg noQuote, if_neg Bool.false_ne_true, kept, read, left]
    simp only [Option.bind_eq_bind, Option.bind_some]
    rw [later steps (by omega), Option.map_some]

end Token

end HouseStyle.Json
