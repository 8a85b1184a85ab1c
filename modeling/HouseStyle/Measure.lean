import HouseStyle.Number.Binary64
import HouseStyle.Text

/-!
Measures of a page. Margins are lengths in English Metric Units, indents are twentieths of a point,
font sizes are points and line spacing is either a multiple of a line or an exact height in points.
A profile writes lengths in centimetres, font sizes in half-points and everything else in twentieths.
-/

namespace HouseStyle

structure Length where
  emu : Int
deriving DecidableEq

namespace Length

def emuPerTwip : Int := 635

def ofTwips? (twips : Int) : Option Length :=
  (Range.signed64.only? (twips * emuPerTwip)).map Length.mk

/-- Hundredths of a centimetre, to the nearest one: the quotient is taken in binary. -/
def hundredths (length : Length) : Int :=
  (Binary64.ofInt length.emu * 100 / 360000 : Binary64).nearest

/-- A count of hundredths with a point, and with as few decimals as say it, but at least one. -/
def decimals (hundredths : Nat) : List Char :=
  let tenths := hundredths / 10
  let last := if hundredths % 10 = 0 then [] else Nat.toDigits 10 (hundredths % 10)
  Nat.toDigits 10 (tenths / 10) ++ '.' :: Nat.toDigits 10 (tenths % 10) ++ last

/--
The length in centimetres. The sign is the length's own, so it also stands before a length that
rounds to zero from below.
-/
def centimetres (length : Length) : String :=
  let sign := if length.emu < 0 then ['-'] else []
  String.ofList (sign ++ decimals length.hundredths.natAbs ++ ['c', 'm'])

end Length

inductive LineSpacing where
  | multiple (lines : Binary64)
  | exact (points : Binary64)
deriving DecidableEq

/-- The spacing in twentieths of a point, one line counting 240 of them; fractions are cut off. -/
def LineSpacing.twentieths : LineSpacing → Int
  | multiple lines => (lines * 240).truncate
  | exact points => (points * 20).truncate

namespace Points

def halfPoints (points : Binary64) : Int := (points * 2).truncate

def ofHalfPoints (count : Binary64) : Binary64 := count / 2

end Points

namespace Twips

def convert? (number : Binary64) (unit : String) : Option Binary64 :=
  match unit with
  | "" => some number
  | "mm" => some (number * 1440 / Binary64.ofDecimal ⟨false, 254, -1⟩)
  | "cm" => some (number * 1440 / Binary64.ofDecimal ⟨false, 254, -2⟩)
  | "in" => some (number * 1440)
  | "pt" => some (number * 20)
  | "pc" => some (number * 240)
  | "pi" => some (number * 240)
  | _ => none

def measure? (text : List Char) : Option Int := do
  let number ← Binary64.read? (text.takeWhile fun char => !char.isAlpha)
  let twips ← convert? number (String.ofList (text.dropWhile fun char => !char.isAlpha))
  some twips.nearest

/--
A measure in twentieths of a point: a whole number as it stands, or a decimal number with an
optional unit, rounded to the nearest twentieth.
-/
def parse? (text : String) : Option Int :=
  let trimmed := Text.trim text.toList
  match (Numeral.integer? trimmed).bind Range.signed64.only? with
  | some twips => some twips
  | none => measure? trimmed

end Twips

end HouseStyle
