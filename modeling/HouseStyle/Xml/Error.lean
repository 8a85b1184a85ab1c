/-!
What can be wrong with XML text, where, and in which words it is reported. While a text is read a
fault keeps what was left of the text from its place on; the place becomes a line and a column only
when the fault is reported.
-/

namespace HouseStyle.Xml

inductive Cause where
  | noRoot
  | unclosedRoot
  | unknownToken
  | invalidName
  | wrongClosingTag (expected found : String)
  | unknownNamespace (qualifier : String)
  | repeatedAttribute (name : String)
  | repeatedNamespace (qualifier : String)
  | xmlBoundElsewhere
  | xmlNamespaceMisused
  | xmlnsNamespaceDeclared
  | xmlnsQualifiesElement
  | manyNamespaces
  | unexpectedChar (expected : String) (found : Char)
  | endOfText
  | unknownEntity (name : String)
  | malformedReference
  | sectionEndInText
  | hyphensInComment
  | missing (expected : String)
  | forbiddenChar (char : Char)
  | misplacedDeclaration
  | documentType
deriving DecidableEq

structure Fault where
  cause : Cause
  rest : List Char

structure Position where
  line : Nat
  column : Nat
deriving DecidableEq

structure Error where
  cause : Cause
  position : Position
deriving DecidableEq

/-- The position after the given characters: only line feeds end a line. -/
def Position.after (passed : List Char) : Position where
  line := passed.count '\n' + 1
  column := (passed.reverse.takeWhile (· ≠ '\n')).length + 1

def Fault.locate (fault : Fault) (source : List Char) : Error :=
  ⟨fault.cause, .after (source.take (source.length - fault.rest.length))⟩

def codeText (char : Char) : String :=
  if char.toNat = 0 then "\\0"
  else String.ofList ("\\u\x7b".toList ++ Nat.toDigits 16 char.toNat ++ ['\x7d'])

def Position.text (position : Position) : String :=
  String.ofList (Nat.toDigits 10 position.line ++ ':' :: Nat.toDigits 10 position.column)

def Error.message (error : Error) : String :=
  let place := error.position.text
  match error.cause with
  | .noRoot => "the document does not have a root node"
  | .unclosedRoot => "the root node was opened but never closed"
  | .unknownToken => "unknown token at " ++ place
  | .invalidName => "invalid name token at " ++ place
  | .wrongClosingTag expected found =>
    "expected '" ++ expected ++ "' tag, not '" ++ found ++ "' at " ++ place
  | .unknownNamespace qualifier =>
    "an unknown namespace prefix '" ++ qualifier ++ "' at " ++ place
  | .repeatedAttribute name => "attribute '" ++ name ++ "' at " ++ place ++ " is already defined"
  | .repeatedNamespace qualifier =>
    "namespace '" ++ qualifier ++ "' at " ++ place ++ " is already defined"
  | .xmlBoundElsewhere => "'xml' namespace prefix mapped to wrong URI at " ++ place
  | .xmlNamespaceMisused => "the 'xml' namespace URI is used for not 'xml' prefix at " ++ place
  | .xmlnsNamespaceDeclared =>
    "the 'xmlns' URI is used at " ++ place ++ ", but it must not be declared"
  | .xmlnsQualifiesElement => "the 'xmlns' prefix is used at " ++ place ++ ", but it must not be"
  | .manyNamespaces => "more than 2^16 unique namespaces were parsed"
  | .unexpectedChar expected found =>
    "expected " ++ expected ++ " not '" ++ String.singleton found ++ "' at " ++ place
  | .endOfText => "unexpected end of stream"
  | .unknownEntity name => "unknown entity reference '" ++ name ++ "' at " ++ place
  | .malformedReference => "malformed entity reference at " ++ place
  | .sectionEndInText => "']]>' at " ++ place ++ " is not allowed inside a character data"
  | .hyphensInComment => "comment at " ++ place ++ " contains '--'"
  | .missing expected => "expected '" ++ expected ++ "' at " ++ place
  | .forbiddenChar char => "a non-XML character '" ++ codeText char ++ "' found at " ++ place
  | .misplacedDeclaration => "unexpected XML declaration at " ++ place
  | .documentType => "XML with DTD detected"

end HouseStyle.Xml
