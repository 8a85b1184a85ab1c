import HouseStyle.Json.Basic

/-!
JSON text as a value. It is taken apart into tokens, the six punctuation marks and the values that
hold no other value; blanks stand between tokens and are dropped, so two layouts of one value have
the same tokens. A list or an object is read item by item; the number of tokens bounds how deep the
reading can go.
-/

namespace HouseStyle.Json

inductive Token where
  | mark (char : Char)
  | value (atom : Json)

namespace Token

def isBlank (char : Char) : Bool := char = ' ' || char = '\n' || char = '\r' || char = '\t'

def isMark (char : Char) : Bool :=
  char = '[' || char = ']' || char = '\x7b' || char = '\x7d' || char = ',' || char = ':'

def hexValue? (char : Char) : Option Nat :=
  if char.isDigit then some (char.toNat - 48)
  else if 'a' ≤ char ∧ char ≤ 'f' then some (char.toNat - 87)
  else if 'A' ≤ char ∧ char ≤ 'F' then some (char.toNat - 55)
  else none

def hex4? (a b c d : Char) : Option Nat := do
  let high ← hexValue? a
  let upper ← hexValue? b
  let lower ← hexValue? c
  let low ← hexValue? d
  some (4096 * high + 256 * upper + 16 * lower + low)

def unescape? (char : Char) : Option Char :=
  match char with
  | '"' => some '"'
  | '\\' => some '\\'
  | '/' => some '/'
  | 'b' => some (Char.ofNat 8)
  | 'f' => some (Char.ofNat 12)
  | 'n' => some '\n'
  | 'r' => some '\r'
  | 't' => some '\t'
  | _ => none

/-- A character past the first plane, from the two halves it is escaped in. -/
def joined? (high low : Nat) : Option Char :=
  if 0xD800 ≤ high ∧ high < 0xDC00 ∧ 0xDC00 ≤ low ∧ low < 0xE000 then
    some (Char.ofNat (0x10000 + 1024 * (high - 0xD800) + (low - 0xDC00)))
  else none

/-- A character of the first plane; half of a pair is none. -/
def single? (code : Nat) : Option Char :=
  if code < 0xD800 ∨ 0xE000 ≤ code then some (Char.ofNat code) else none

def string? (read : List Char) : List Char → Option (String × List Char)
  | '"' :: rest => some (String.ofList read.reverse, rest)
  | '\\' :: 'u' :: a :: b :: c :: d :: '\\' :: 'u' :: e :: f :: g :: h :: rest => do
    let code ← hex4? a b c d
    let other ← hex4? e f g h
    match joined? code other with
    | some char => string? (char :: read) rest
    | none => do
      let char ← single? code
      string? (char :: read) ('\\' :: 'u' :: e :: f :: g :: h :: rest)
  | '\\' :: 'u' :: a :: b :: c :: d :: rest => do
    let char ← single? (← hex4? a b c d)
    string? (char :: read) rest
  | '\\' :: letter :: rest => do
    let char ← unescape? letter
    string? (char :: read) rest
  | char :: rest => if char.toNat < 32 then none else string? (char :: read) rest
  | [] => none

def isNumberChar (char : Char) : Bool :=
  char.isDigit || char = '-' || char = '+' || char = '.' || char = 'e' || char = 'E'

/-- A number without its sign: no needless zero leads, and digits follow a point. -/
def unsignedNumber? (negative : Bool) (text : List Char) : Option Json :=
  let whole := text.takeWhile Char.isDigit
  let rest := text.dropWhile Char.isDigit
  let value := Numeral.ofDigits whole
  if whole.isEmpty || (whole.head? = some '0' && whole.length ≠ 1) then none
  else if rest.isEmpty then
    -- Zero below zero is no integer.
    if negative && value = 0 then some (decimal ⟨true, 0, 0⟩)
    else some (integer (if negative then -(value : Int) else value))
  else if rest.head? = some '.' && (Numeral.fraction rest).1.isEmpty then none
  else (Numeral.decimal? Numeral.ofDigits negative text).map decimal

def number? (text : List Char) : Option Json :=
  match text with
  | '-' :: rest => unsignedNumber? true rest
  | rest => unsignedNumber? false rest

def word? (text : List Char) : Option Json :=
  if text = ['n', 'u', 'l', 'l'] then some null
  else if text = ['t', 'r', 'u', 'e'] then some (bool true)
  else if text = ['f', 'a', 'l', 's', 'e'] then some (bool false)
  else none

/-- The tokens of a text, each of which takes at least one character. -/
def scan : Nat → List Char → Option (List Token)
  | _, [] => some []
  | 0, _ :: _ => none
  | steps + 1, char :: rest =>
    if isBlank char then scan steps rest
    else if isMark char then (scan steps rest).map (mark char :: ·)
    else if char = '"' then do
      let (content, further) ← string? [] rest
      (scan steps further).map (value (text content) :: ·)
    else if isNumberChar char then do
      let number ← number? ((char :: rest).takeWhile isNumberChar)
      (scan steps ((char :: rest).dropWhile isNumberChar)).map (value number :: ·)
    else do
      let word ← word? ((char :: rest).takeWhile Char.isAlpha)
      (scan steps ((char :: rest).dropWhile Char.isAlpha)).map (value word :: ·)

def ofText? (text : List Char) : Option (List Token) := scan text.length text

end Token

/-! Values. -/

open Token (mark value)

mutual

def ofTokens : Nat → List Token → Option (Json × List Token)
  | _, value atom :: rest => some (atom, rest)
  | _ + 1, mark '[' :: mark ']' :: rest => some (list [], rest)
  | steps + 1, mark '[' :: rest => (items steps rest).map fun found => (list found.1, found.2)
  | _ + 1, mark '\x7b' :: mark '\x7d' :: rest => some (object [], rest)
  | steps + 1, mark '\x7b' :: rest =>
    (members steps rest).map fun found => (object found.1, found.2)
  | _, _ => none

def items : Nat → List Token → Option (List Json × List Token)
  | 0, _ => none
  | steps + 1, tokens =>
    match ofTokens steps tokens with
    | some (first, mark ',' :: rest) =>
      (items steps rest).map fun found => (first :: found.1, found.2)
    | some (last, mark ']' :: rest) => some ([last], rest)
    | _ => none

def members : Nat → List Token → Option (List (String × Json) × List Token)
  | steps + 1, value (text key) :: mark ':' :: tokens =>
    match ofTokens steps tokens with
    | some (first, mark ',' :: rest) =>
      (members steps rest).map fun found => ((key, first) :: found.1, found.2)
    | some (last, mark '\x7d' :: rest) => some ([(key, last)], rest)
    | _ => none
  | _, _ => none

end

def read? (text : String) : Option Json := do
  let tokens ← Token.ofText? text.toList
  match ofTokens tokens.length tokens with
  | some (found, []) => some found
  | _ => none

end HouseStyle.Json
