import HouseStyle.Text

/-!
Colours as six hexadecimal digits, red, green and blue. Text is read leniently: blanks around it,
any number of `#` marks in front and either case of the letters.
-/

namespace HouseStyle

/-- A colour by its text. One that was read from text is `WellFormed`. -/
structure Color where
  text : String
deriving DecidableEq

namespace Color

def black : Color := ⟨"000000"⟩

def isCapitalHex (char : Char) : Bool := char.isDigit || ('A' ≤ char && char ≤ 'F')

def isHex (char : Char) : Bool := isCapitalHex char.toUpper

def WellFormed (color : Color) : Prop :=
  color.text.toList.length = 6 ∧ color.text.toList.all isCapitalHex = true

instance (color : Color) : Decidable color.WellFormed := inferInstanceAs (Decidable (_ ∧ _))

def parse? (text : String) : Option Color :=
  let digits := (Text.trim text.toList).dropWhile (· == '#')
  if digits.length = 6 ∧ digits.all isHex = true then
    some ⟨String.ofList (digits.map Char.toUpper)⟩
  else none

/-- The colour's text begins with `start`, whose letters may be of either case. -/
def startsWith (color : Color) (start : String) : Bool :=
  (start.toList.map Char.toUpper).isPrefixOf color.text.toList

def startsWithAny (color : Color) (starts : List String) : Bool :=
  starts.any color.startsWith

def redStarts : List String := ["FF00", "E000", "E020", "D000", "D010", "C000"]

end Color

end HouseStyle
