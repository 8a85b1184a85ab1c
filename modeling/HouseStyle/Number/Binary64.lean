import HouseStyle.Number.Numeral

/-!
Binary floating-point numbers of 64 bits in exact arithmetic. A finite number is a whole multiple
of the quantum 2⁻¹⁰⁷⁴, so its magnitude is a natural number of quanta, and every operation is one
exact fraction of naturals followed by `round`.
-/

namespace HouseStyle

inductive Binary64 where
  | nan
  | infinity (negative : Bool)
  | finite (negative : Bool) (quanta : Nat)
deriving DecidableEq

namespace Binary64

def one : Nat := Nat.pow 2 1074

def limit : Nat := Nat.pow 2 2098

/-- The whole number nearest to `numerator / denominator`; a tie goes to the even one. -/
def nearestEven (numerator denominator : Nat) : Nat :=
  let below := numerator / denominator
  let twice := 2 * (numerator % denominator)
  if twice < denominator then below
  else if denominator < twice then below + 1
  else if below % 2 = 0 then below
  else below + 1

/-- The distance between neighbouring numbers at a magnitude: 53 binary digits are kept. -/
def gap (quanta : Nat) : Nat := Nat.pow 2 (Nat.log2 quanta - 52)

def round (negative : Bool) (numerator denominator : Nat) : Binary64 :=
  let step := gap (numerator / denominator)
  let quanta := nearestEven numerator (denominator * step) * step
  if quanta < limit then finite negative quanta else infinity negative

def ofInt (number : Int) : Binary64 := round (number < 0) (number.natAbs * one) 1

/--
The number nearest to a decimal. Exponents far outside the range are settled first, so that no
power of ten that is written out is longer than the coefficient calls for.
-/
def ofDecimal (decimal : Decimal) : Binary64 :=
  let size := Nat.log2 decimal.coefficient
  if decimal.coefficient = 0 then finite decimal.negative 0
  else if 400 < decimal.exponent then infinity decimal.negative
  else if decimal.exponent < -(400 + (size : Int)) then finite decimal.negative 0
  else if decimal.exponent < 0 then
    round decimal.negative (decimal.coefficient * one) (Nat.pow 10 decimal.exponent.natAbs)
  else
    round decimal.negative (decimal.coefficient * Nat.pow 10 decimal.exponent.natAbs * one) 1

def ofNumeral : Numeral → Binary64
  | .decimal value => ofDecimal value
  | .infinity negative => infinity negative
  | .notANumber => nan

def read? (text : List Char) : Option Binary64 := (Numeral.real? text).map ofNumeral

def mul : Binary64 → Binary64 → Binary64
  | nan, _ => nan
  | _, nan => nan
  | infinity left, infinity right => infinity (left != right)
  | infinity left, finite right quanta => if quanta = 0 then nan else infinity (left != right)
  | finite left quanta, infinity right => if quanta = 0 then nan else infinity (left != right)
  | finite left first, finite right second => round (left != right) (first * second) one

def div : Binary64 → Binary64 → Binary64
  | nan, _ => nan
  | _, nan => nan
  | infinity _, infinity _ => nan
  | infinity left, finite right _ => infinity (left != right)
  | finite left _, infinity right => finite (left != right) 0
  | finite left first, finite right second =>
    if second = 0 then
      if first = 0 then nan else infinity (left != right)
    else round (left != right) (first * one) second

instance : Mul Binary64 := ⟨mul⟩
instance : Div Binary64 := ⟨div⟩
instance (n : Nat) : OfNat Binary64 n := ⟨ofInt n⟩

/-- A signed magnitude as a word; what does not fit goes to the nearest word that does. -/
def word (negative : Bool) (magnitude : Nat) : Int :=
  Range.signed64.clamp (if negative then -(magnitude : Int) else magnitude)

def lastWord (negative : Bool) : Int :=
  if negative then Range.signed64.lowest else Range.signed64.highest

def truncate : Binary64 → Int
  | nan => 0
  | infinity negative => lastWord negative
  | finite negative quanta => word negative (quanta / one)

/-- The nearest whole number as a word, a half going away from zero. -/
def nearest : Binary64 → Int
  | nan => 0
  | infinity negative => lastWord negative
  | finite negative quanta => word negative ((2 * quanta + one) / (2 * one))

def fractions : Nat := Nat.pow 2 52

def magnitudes : Nat := Nat.pow 2 63

def signBit (negative : Bool) : Nat := if negative then magnitudes else 0

/-- The 64 bits, as a natural number: sign, then 11 bits of exponent, then 52 of fraction. -/
def toBits : Binary64 → Nat
  | nan => 0x7FF8000000000000
  | infinity negative => signBit negative + 0x7FF0000000000000
  | finite negative quanta =>
    signBit negative +
      if quanta < fractions then quanta
      else (Nat.log2 quanta - 51) * fractions + (quanta / gap quanta - fractions)

def ofBits (bits : Nat) : Binary64 :=
  let negative := magnitudes ≤ bits
  let exponent := bits % magnitudes / fractions
  let fraction := bits % fractions
  if exponent = 0x7FF then
    if fraction = 0 then infinity negative else nan
  else if exponent = 0 then finite negative fraction
  else finite negative ((fractions + fraction) * Nat.pow 2 (exponent - 1))

end Binary64

end HouseStyle
