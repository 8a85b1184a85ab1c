/-!
Numbers as they are written: whole numbers with an optional sign, and decimal numbers with an
optional point and exponent. Only the ten ASCII digits count, and nothing may stand around a
number: who wants blanks forgiven trims first. Values are plain integers; a range says which of them
fit a machine word.
-/

namespace HouseStyle

structure Range where
  lowest : Int
  highest : Int

namespace Range

def signed64 : Range := ⟨-0x8000000000000000, 0x7FFFFFFFFFFFFFFF⟩

def unsigned32 : Range := ⟨0, 0xFFFFFFFF⟩

def contains (range : Range) (number : Int) : Bool :=
  range.lowest ≤ number && number ≤ range.highest

def only? (range : Range) (number : Int) : Option Int :=
  if range.contains number then some number else none

def clamp (range : Range) (number : Int) : Int :=
  max range.lowest (min range.highest number)

/--
The opposite of a signed word of 64 bits, itself such a word: the lowest one, whose opposite does not
fit, is left as it is.
-/
def opposite (word : Int) : Int := Int.bmod (-word) 0x10000000000000000

theorem contains_iff (range : Range) (number : Int) :
    range.contains number = true ↔ range.lowest ≤ number ∧ number ≤ range.highest := by
  simp only [contains, Bool.and_eq_true, decide_eq_true_eq]

theorem clamp_of_contains (range : Range) (number : Int) (fits : range.contains number = true) :
    range.clamp number = number := by
  rw [contains_iff] at fits
  unfold clamp
  omega

end Range

end HouseStyle

/-!
The value of a row of digits in a base, the first digit counting most. Long rows are taken in
halves, so that most of the work is done on few large numbers; the main statement, `value_eq_byOne`,
says that this comes to the same as taking one digit after the other.
-/

namespace HouseStyle.Digits

def byOne (base : Nat) (digits : List Nat) : Nat :=
  digits.foldl (fun value digit => base * value + digit) 0

def byHalves (base : Nat) : (halvings : Nat) → List Nat → Nat
  | 0, digits => byOne base digits
  | halvings + 1, digits =>
    let low := digits.length / 2
    let high := digits.length - low
    byHalves base halvings (digits.take high) * Nat.pow base low +
      byHalves base halvings (digits.drop high)

def shortRow : Nat := 128

def value (base : Nat) (digits : List Nat) : Nat :=
  byHalves base (Nat.log2 (digits.length / shortRow)) digits

theorem foldl_eq_byOne (base first : Nat) (digits : List Nat) :
    digits.foldl (fun value digit => base * value + digit) first =
      first * Nat.pow base digits.length + byOne base digits := by
  induction digits generalizing first with
  | nil => simp [byOne]
  | cons digit rest ih =>
    have longer : Nat.pow base (rest.length + 1) = Nat.pow base rest.length * base := rfl
    rw [byOne, List.foldl_cons, List.foldl_cons, ih, ih (base * 0 + digit), List.length_cons,
      longer, Nat.mul_zero, Nat.zero_add, Nat.add_mul, Nat.add_assoc, Nat.mul_comm base first,
      Nat.mul_assoc, Nat.mul_comm base]

theorem byOne_append (base : Nat) (high low : List Nat) :
    byOne base (high ++ low) =
      byOne base high * Nat.pow base low.length + byOne base low := by
  rw [byOne, List.foldl_append, foldl_eq_byOne, byOne, byOne]

theorem byHalves_eq_byOne (base halvings : Nat) (digits : List Nat) :
    byHalves base halvings digits = byOne base digits := by
  induction halvings generalizing digits with
  | zero => rfl
  | succ halvings ih =>
    have low : (digits.drop (digits.length - digits.length / 2)).length = digits.length / 2 := by
      rw [List.length_drop]
      omega
    have whole := byOne_append base (digits.take (digits.length - digits.length / 2))
      (digits.drop (digits.length - digits.length / 2))
    rw [List.take_append_drop, low] at whole
    rw [byHalves, ih, ih, whole]

theorem value_eq_byOne (base : Nat) (digits : List Nat) :
    value base digits = byOne base digits := byHalves_eq_byOne base _ digits

end HouseStyle.Digits

namespace HouseStyle

/-- The number `± coefficient · 10 ^ exponent`. -/
structure Decimal where
  negative : Bool
  coefficient : Nat
  exponent : Int
deriving DecidableEq

inductive Numeral where
  | decimal (value : Decimal)
  | infinity (negative : Bool)
  | notANumber
deriving DecidableEq

namespace Numeral

def digitValue (digit : Char) : Nat := digit.toNat - 48

def ofDigits (digits : List Char) : Nat := Digits.value 10 (digits.map digitValue)

def longExponent : Nat := 0x10000

/-- The value of a row of digits of which those past a long exponent do not count. -/
def ofLeadingDigits (digits : List Char) : Nat :=
  digits.foldl (fun value digit =>
    if value < longExponent then 10 * value + digitValue digit else value) 0

def digits? (value : List Char → Nat) (text : List Char) : Option Nat :=
  if text.isEmpty then none
  else if text.all Char.isDigit then some (value text)
  else none

def natural? (text : List Char) : Option Nat := digits? ofDigits text

def sign : List Char → Bool × List Char
  | '-' :: rest => (true, rest)
  | '+' :: rest => (false, rest)
  | text => (false, text)

def signed? (value : List Char → Nat) (text : List Char) : Option Int :=
  let (negative, digits) := sign text
  (digits? value digits).map fun value => if negative then -(value : Int) else value

def integer? (text : List Char) : Option Int := signed? ofDigits text

/-- A whole number with an optional plus sign; a minus sign is refused, also before zero. -/
def unsigned? (text : List Char) : Option Nat :=
  match text with
  | '+' :: digits => natural? digits
  | digits => natural? digits

def exponent? (value : List Char → Nat) : List Char → Option Int
  | [] => some 0
  | mark :: rest => if mark = 'e' ∨ mark = 'E' then signed? value rest else none

def fraction : List Char → List Char × List Char
  | '.' :: rest => (rest.takeWhile Char.isDigit, rest.dropWhile Char.isDigit)
  | text => ([], text)

/--
Digits with at most one point among, before or after them, then an optional exponent, whose digits
come to `exponentValue`.
-/
def decimal? (exponentValue : List Char → Nat) (negative : Bool) (text : List Char) :
    Option Decimal :=
  let whole := text.takeWhile Char.isDigit
  let (part, rest) := fraction (text.dropWhile Char.isDigit)
  let digits := whole ++ part
  if digits.isEmpty then none
  else (exponent? exponentValue rest).map fun exponent =>
    ⟨negative, ofDigits digits, exponent - part.length⟩

def word? (negative : Bool) (text : List Char) : Option Numeral :=
  let lower := String.ofList (text.map Char.toLower)
  if lower = "inf" ∨ lower = "infinity" then some (.infinity negative)
  else if lower = "nan" then some .notANumber
  else none

/--
A real number: an optional sign, then a decimal number or one of the words. The exponent takes in
digits only until it is a long one, also where a longer coefficient would make up for it.
-/
def real? (text : List Char) : Option Numeral :=
  let (negative, rest) := sign text
  match decimal? ofLeadingDigits negative rest with
  | some value => some (.decimal value)
  | none => word? negative rest

end Numeral

end HouseStyle
