import HouseStyle.Number.Numeral
import HouseStyle.Xml.Error

/-!
The tokens of XML text. A token is taken off the front of the text; which tokens are possible
depends on where the text is: before the root element, inside a start tag, inside an element or
after the root. Values and character data are taken as they stand, with what follows them, so that
a fault found in them later still has a place.
-/

namespace HouseStyle.Xml

/-!
Classes of characters: white space, the characters that may appear at all, and those that may begin
or continue a name. Outside ASCII the classes are ranges of code points.
-/

def isSpace (char : Char) : Bool :=
  char = ' ' || char = '\t' || char = '\n' || char = '\r'

/-- Control characters other than white space, and two code points, are no XML characters. -/
def isXmlChar (char : Char) : Bool :=
  if char.toNat < 0x20 then isSpace char
  else char.toNat ≠ 0xFFFE && char.toNat ≠ 0xFFFF

def nameStartRanges : List (Nat × Nat) :=
  [(0xC0, 0xD6), (0xD8, 0xF6), (0xF8, 0x2FF), (0x370, 0x37D), (0x37F, 0x1FFF),
   (0x200C, 0x200D), (0x2070, 0x218F), (0x2C00, 0x2FEF), (0x3001, 0xD7FF),
   (0xF900, 0xFDCF), (0xFDF0, 0xFFFD), (0x10000, 0xEFFFF)]

def nameRestRanges : List (Nat × Nat) := [(0xB7, 0xB7), (0x300, 0x36F), (0x203F, 0x2040)]

def within (ranges : List (Nat × Nat)) (char : Char) : Bool :=
  ranges.any fun range => range.1 ≤ char.toNat && char.toNat ≤ range.2

def isNameStart (char : Char) : Bool :=
  char.isAlpha || char = ':' || char = '_' || within nameStartRanges char

def isNameChar (char : Char) : Bool :=
  isNameStart char || char.isDigit || char = '-' || char = '.' || within nameRestRanges char

/-! Tokens. -/

/-- A name with the qualifier before its colon, which is empty when there is none. -/
structure QualifiedName where
  qualifier : String
  localName : String
deriving DecidableEq

def QualifiedName.text (name : QualifiedName) : String :=
  if name.qualifier = "" then name.localName else name.qualifier ++ ":" ++ name.localName

structure Passage where
  text : List Char
  after : List Char

inductive Token where
  | startTag (name : QualifiedName) (place : List Char)
  | pair (name : QualifiedName) (value : Passage) (place : List Char)
  | tagEnd (empty : Bool)
  | endTag (name : QualifiedName) (place : List Char)
  | text (passage : Passage)
  | literal (content : List Char)
  | comment (content : List Char)
  | instruction (target content : List Char)
  | space

inductive Region where
  | prolog
  | tag
  | content
  | epilog

namespace Lexer

def skipSpace (text : List Char) : List Char := text.dropWhile isSpace

def startsWith (start : String) (text : List Char) : Bool := start.toList.isPrefixOf text

def expect (word : String) (text : List Char) : Except Fault (List Char) :=
  if startsWith word text then .ok (text.drop word.length)
  else .error ⟨.missing word, text⟩

/-- The first byte of a character in UTF-8, which is how a surprising character is reported. -/
def leadByte (char : Char) : Char :=
  let code := char.toNat
  if code < 0x80 then char
  else if code < 0x800 then Char.ofNat (0xC0 + code / 0x40)
  else if code < 0x10000 then Char.ofNat (0xE0 + code / 0x1000)
  else Char.ofNat (0xF0 + code / 0x40000)

def unexpected (expected : String) (text : List Char) : Fault :=
  match text with
  | [] => ⟨.endOfText, []⟩
  | found :: _ => ⟨.unexpectedChar expected (leadByte found), text⟩

def expectChar (char : Char) (text : List Char) : Except Fault (List Char) :=
  if text.head? = some char then .ok text.tail
  else .error (unexpected (String.ofList ['\x27', char, '\x27']) text)

def takeUntil (stop : List Char → Bool) (passed : List Char) :
    List Char → Except Fault (List Char × List Char)
  | [] => .ok (passed.reverse, [])
  | char :: rest =>
    if isXmlChar char = false then .error ⟨.forbiddenChar char, char :: rest⟩
    else if stop (char :: rest) then .ok (passed.reverse, char :: rest)
    else takeUntil stop (char :: passed) rest

def takeUpTo (stop text : List Char) : Except Fault (List Char × List Char) :=
  takeUntil stop.isPrefixOf [] text

def mentions (word : List Char) : List Char → Bool
  | [] => word.isEmpty
  | char :: rest => word.isPrefixOf (char :: rest) || mentions word rest

/-- A name that may have one colon, and whose parts both begin like a name. -/
def qualifiedName (text : List Char) : Except Fault (QualifiedName × List Char) :=
  let isPlain := fun char => isNameChar char && char ≠ ':'
  let first := text.takeWhile isPlain
  let named := fun (qualifier name rest : List Char) =>
    if qualifier.head?.all isNameStart && name.head?.any isNameStart && rest.head? ≠ some ':' then
      .ok (⟨String.ofList qualifier, String.ofList name⟩, rest)
    else .error ⟨.invalidName, text⟩
  match text.dropWhile isPlain with
  | ':' :: rest => named first (rest.takeWhile isPlain) (rest.dropWhile isPlain)
  | rest => named [] first rest

/-- A name in which colons are letters like others. -/
def plainName (text : List Char) : Except Fault (List Char × List Char) :=
  if text.head?.any isNameStart then
    .ok (text.takeWhile isNameChar, text.dropWhile isNameChar)
  else .error ⟨.invalidName, text⟩

def comment (text : List Char) : Except Fault (Token × List Char) := do
  let (content, rest) ← takeUpTo ['-', '-', '>'] (text.drop 4)
  let rest ← expect "-->" rest
  if content.getLast? = some '-' || mentions ['-', '-'] content then
    .error ⟨.hyphensInComment, text⟩
  else .ok (.comment content, rest)

def instruction (text : List Char) : Except Fault (Token × List Char) := do
  if startsWith "<?xml " text then .error ⟨.misplacedDeclaration, text⟩
  else
    let (target, rest) ← plainName (text.drop 2)
    let (content, rest) ← takeUpTo ['?', '>'] (skipSpace rest)
    let rest ← expect "?>" rest
    .ok (.instruction target content, rest)

def literal (text : List Char) : Except Fault (Token × List Char) := do
  let (content, rest) ← takeUpTo [']', ']', '>'] (text.drop 9)
  let rest ← expect "]]>" rest
  .ok (.literal content, rest)

def charData (text : List Char) : Except Fault (Token × List Char) := do
  let (content, rest) ← takeUpTo ['<'] text
  if mentions [']', ']', '>'] content then .error ⟨.sectionEndInText, rest⟩
  else .ok (.text ⟨content, rest⟩, rest)

def pair (text : List Char) : Except Fault (Token × List Char) := do
  let (name, rest) ← qualifiedName text
  let rest ← expectChar '=' (skipSpace rest)
  let opening := skipSpace rest
  match opening with
  | quote :: rest =>
    if quote = '"' ∨ quote = '\x27' then
      let (value, rest) ← takeUntil (fun left => left.head? = some quote || left.head? = some '<')
        [] rest
      let after ← expectChar quote rest
      .ok (.pair name ⟨value, rest⟩ text, after)
    else .error (unexpected "a quote" opening)
  | [] => .error (unexpected "a quote" [])

def startTag (text : List Char) : Except Fault (Token × List Char) := do
  let (name, rest) ← qualifiedName (text.drop 1)
  .ok (.startTag name text, rest)

def endTag (text : List Char) : Except Fault (Token × List Char) := do
  let (name, rest) ← qualifiedName (text.drop 2)
  let rest ← expectChar '>' (skipSpace rest)
  .ok (.endTag name text, rest)

def inTag (text : List Char) : Except Fault (Token × List Char) :=
  match skipSpace text with
  | [] => .error ⟨.endOfText, []⟩
  | '/' :: rest => (expectChar '>' rest).map fun rest => (.tagEnd true, rest)
  | '>' :: rest => .ok (.tagEnd false, rest)
  | other =>
    if text.head?.any isSpace then pair other
    else .error (unexpected "a whitespace" other)

def inContent (text : List Char) : Except Fault (Token × List Char) :=
  match text with
  | '<' :: '!' :: _ =>
    if startsWith "<!--" text then comment text
    else if startsWith "<![CDATA[" text then literal text
    else .error ⟨.unknownToken, text⟩
  | '<' :: '?' :: _ => instruction text
  | '<' :: '/' :: _ => endTag text
  | ['<'] => .error ⟨.unknownToken, text⟩
  | '<' :: _ => startTag text
  | _ => charData text

/-- Around the root element, where the root itself may stand at most in one place. -/
def outside (rootMayFollow : Bool) (text : List Char) : Except Fault (Token × List Char) :=
  let text := skipSpace text
  if text.isEmpty then .ok (.space, [])
  else if startsWith "<!--" text then comment text
  else if startsWith "<?" text then instruction text
  else if rootMayFollow && startsWith "<!DOCTYPE" text then .error ⟨.documentType, text⟩
  else if rootMayFollow && startsWith "<" text then startTag text
  else .error ⟨.unknownToken, text⟩

def next (region : Region) (text : List Char) : Except Fault (Token × List Char) :=
  match region with
  | .prolog => outside true text
  | .tag => inTag text
  | .content => inContent text
  | .epilog => outside false text

/-- White space, which may only be missing before the end of a declaration or of the text. -/
def declarationSpace (text : List Char) : Except Fault (List Char) :=
  if text.head?.any isSpace then .ok (skipSpace text)
  else if startsWith "?>" text || text.isEmpty then .ok text
  else .error (unexpected "a whitespace" text)

def declaration (text : List Char) : Except Fault (List Char) := do
  let rest ← declarationSpace (text.drop 5)
  if startsWith "version" rest then
    let (_, rest) ← pair rest
    let rest ← declarationSpace rest
    let rest ← if startsWith "encoding" rest then do
        let (_, rest) ← pair rest
        declarationSpace rest
      else .ok rest
    let rest ← if startsWith "standalone" rest then (pair rest).map Prod.snd else .ok rest
    expect "?>" (skipSpace rest)
  else .error ⟨.missing "version", rest⟩

def body (text : List Char) : Except Fault (List Char) :=
  let text := if text.head? = some '\uFEFF' then text.tail else text
  if startsWith "<?xml " text then declaration text else .ok text

end Lexer

end HouseStyle.Xml

/-!
References in values and character data, and the one form that line ends are brought to. A
character that a reference stands for is taken as it is; what is written out is normalised: in a
value every kind of white space becomes a space, in character data every line end a line feed.
-/

namespace HouseStyle.Xml.Reference

inductive Piece where
  | written (char : Char)
  | referred (char : Char)

def entities : List (String × Char) :=
  [("quot", '"'), ("amp", '&'), ("apos", '\x27'), ("lt", '<'), ("gt", '>')]

def hexValue (char : Char) : Nat :=
  if char.isDigit then char.toNat - 48 else char.toUpper.toNat - 55

def isHex (char : Char) : Bool :=
  char.isDigit || ('A' ≤ char.toUpper && char.toUpper ≤ 'F')

def code? (base : Nat) (isDigit : Char → Bool) (text : List Char) : Option Nat :=
  let digits := text.takeWhile isDigit
  let value := Digits.value base (digits.map hexValue)
  if !digits.isEmpty && Range.unsigned32.contains value then some value else none

/-- The character of a code point, or the replacement character where there is none. -/
def charOfCode (code : Nat) : Char :=
  if code < 0xD800 ∨ (0xE000 ≤ code ∧ code < 0x110000) then Char.ofNat code else '\uFFFD'

def number? (text : List Char) : Option (Nat × List Char) :=
  match text with
  | 'x' :: rest => (code? 16 isHex rest).map fun code => (code, rest.dropWhile isHex)
  | _ => (code? 10 Char.isDigit text).map fun code => (code, text.dropWhile Char.isDigit)

/--
The character of the reference at a text, given by what follows its `&`, and the text after its
semicolon. A reference that is no reference and one to an unknown entity are different faults.
-/
def resolve (text : List Char) : Except Cause (Char × List Char) :=
  match text with
  | '#' :: rest =>
    match number? rest with
    | some (code, ';' :: after) =>
      let char := charOfCode code
      if isXmlChar char then .ok (char, after) else .error .malformedReference
    | _ => .error .malformedReference
  | _ =>
    let name := String.ofList (text.takeWhile isNameChar)
    match text.head?.any isNameStart, text.dropWhile isNameChar with
    | true, ';' :: after =>
      match entities.lookup name with
      | some char => .ok (char, after)
      | none => .error (.unknownEntity name)
    | _, _ => .error .malformedReference

def split (after : List Char) : Nat → List Char → List Piece → Except Fault (List Piece)
  | steps + 1, '&' :: rest, found =>
    match resolve rest with
    | .ok (char, further) => split after steps further (.referred char :: found)
    | .error cause => .error ⟨cause, '&' :: rest ++ after⟩
  | steps + 1, char :: rest, found => split after steps rest (.written char :: found)
  | _, _, found => .ok found.reverse

def pieces (passage : Passage) : Except Fault (List Piece) :=
  split passage.after passage.text.length passage.text []

/-- White space that is written out in a value, a carriage return and a line feed being one. -/
def valueChars : List Piece → List Char
  | .written '\r' :: .written '\n' :: rest => ' ' :: valueChars rest
  | .written char :: rest => (if isSpace char then ' ' else char) :: valueChars rest
  | .referred char :: rest => char :: valueChars rest
  | [] => []

def value (passage : Passage) : Except Fault String :=
  (pieces passage).map fun found => String.ofList (valueChars found)

/--
Adds a written character to character data, given newest first: a carriage return waits for the
character after it to become a line feed, and for none at the end.
-/
def addWritten (data : List Char) (char : Char) (last : Bool) : List Char :=
  let settled := if last && char = '\r' then '\n' else char
  match data with
  | '\r' :: earlier => if char = '\n' then '\n' :: earlier else settled :: '\n' :: earlier
  | _ => settled :: data

/--
Character data, given newest first, with more pieces. The character that is written right after a
reference is taken as it is, like the reference.
-/
def dataChars (afterReference : Bool) (data : List Char) : List Piece → List Char
  | [] => data.reverse
  | .referred char :: rest => dataChars true (char :: data) rest
  | .written char :: rest =>
    dataChars false (if afterReference then char :: data else addWritten data char rest.isEmpty) rest

def charData (passage : Passage) : Except Fault String :=
  (pieces passage).map fun found => String.ofList (dataChars false [] found)

def literal (content : List Char) : String :=
  String.ofList (dataChars false [] (content.map .written))

end HouseStyle.Xml.Reference
