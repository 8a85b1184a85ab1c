import HouseStyle.Number.Numeral

/-!
JSON values and their text. An object is a list of members, so that their order and repeated keys
are kept. A whole number is an integer; a number with a point or an exponent keeps its decimal form.
There are two layouts: compact without any blanks, and pretty with a line for every item and two
spaces of indent for every level. Strings are written alike in both: a quote, a backslash and the
control characters are escaped, and everything else stands for itself.
-/

namespace HouseStyle

inductive Json where
  | null
  | bool (value : Bool)
  | integer (value : Int)
  | decimal (value : Decimal)
  | text (value : String)
  | list (items : List Json)
  | object (members : List (String × Json))

namespace Json

def get? (value : Json) (key : String) : Option Json :=
  match value with
  | object members => members.lookup key
  | _ => none

def member (key : String) (value : Option Json) : List (String × Json) :=
  match value with
  | some present => [(key, present)]
  | none => []

end Json

end HouseStyle

namespace HouseStyle.Json

def hexDigit (value : Nat) : Char := Nat.digitChar value

def escape (char : Char) : List Char :=
  if char = '"' then ['\\', '"']
  else if char = '\\' then ['\\', '\\']
  else if char = '\n' then ['\\', 'n']
  else if char = '\r' then ['\\', 'r']
  else if char = '\t' then ['\\', 't']
  else if char.toNat = 8 then ['\\', 'b']
  else if char.toNat = 12 then ['\\', 'f']
  else if char.toNat < 32 then
    ['\\', 'u', '0', '0', hexDigit (char.toNat / 16), hexDigit (char.toNat % 16)]
  else [char]

def quoted (text : String) : List Char := '"' :: text.toList.flatMap escape ++ ['"']

def integerText (value : Int) : List Char :=
  if value < 0 then '-' :: Nat.toDigits 10 value.natAbs else Nat.toDigits 10 value.natAbs

/-- A decimal is written with its exponent, which sets it apart from an integer. -/
def decimalText (value : Decimal) : List Char :=
  let digits := Nat.toDigits 10 value.coefficient ++ 'e' :: integerText value.exponent
  if value.negative then '-' :: digits else digits

/-- A value that holds no other value, or only a list or an object without items. -/
def atom : Json → List Char
  | null => ['n', 'u', 'l', 'l']
  | bool true => ['t', 'r', 'u', 'e']
  | bool false => ['f', 'a', 'l', 's', 'e']
  | integer value => integerText value
  | decimal value => decimalText value
  | text value => quoted value
  | list _ => ['[', ']']
  | object _ => ['\x7b', '\x7d']

mutual

def compact : Json → List Char
  | list (first :: rest) => '[' :: compact first ++ compactItems rest
  | object ((key, value) :: rest) =>
    '\x7b' :: quoted key ++ ':' :: compact value ++ compactMembers rest
  | value => atom value

def compactItems : List Json → List Char
  | [] => [']']
  | item :: rest => ',' :: compact item ++ compactItems rest

def compactMembers : List (String × Json) → List Char
  | [] => ['\x7d']
  | (key, value) :: rest => ',' :: quoted key ++ ':' :: compact value ++ compactMembers rest

end

def newLine (level : Nat) : List Char := '\n' :: List.replicate (2 * level) ' '

mutual

def pretty (level : Nat) : Json → List Char
  | list (first :: rest) =>
    '[' :: newLine (level + 1) ++ pretty (level + 1) first ++ prettyItems level rest
  | object ((key, value) :: rest) =>
    '\x7b' :: newLine (level + 1) ++ quoted key ++ ':' :: ' ' :: pretty (level + 1) value ++
      prettyMembers level rest
  | value => atom value

def prettyItems (level : Nat) : List Json → List Char
  | [] => newLine level ++ [']']
  | item :: rest =>
    ',' :: newLine (level + 1) ++ pretty (level + 1) item ++ prettyItems level rest

def prettyMembers (level : Nat) : List (String × Json) → List Char
  | [] => newLine level ++ ['\x7d']
  | (key, value) :: rest =>
    ',' :: newLine (level + 1) ++ quoted key ++ ':' :: ' ' :: pretty (level + 1) value ++
      prettyMembers level rest

end

inductive Layout where
  | pretty
  | compact
deriving DecidableEq

def render (layout : Layout) (value : Json) : String :=
  match layout with
  | .pretty => String.ofList (value.pretty 0)
  | .compact => String.ofList value.compact

end HouseStyle.Json
