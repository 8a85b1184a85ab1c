import HouseStyle.Xml.Lexer
import HouseStyle.Xml.Tree

/-!
XML text as a tree. The tokens are taken in one after the other while the elements that are still
open wait for their end tags, so the first fault in the order of the text is the one reported.
-/

namespace HouseStyle.Xml

structure RawAttribute where
  name : QualifiedName
  value : String
  place : List Char

structure StartTag where
  name : QualifiedName
  place : List Char
  attributes : List RawAttribute
  own : Bindings

structure OpenElement where
  name : QualifiedName
  tag : Tag
  scope : Scope
  children : List Node

/-- What has been read: the innermost open element comes first, and no binding is forgotten. -/
structure Reading where
  start : Option StartTag
  opened : List OpenElement
  root : Option Element
  bindings : Std.TreeSet Binding

namespace Reading

def empty : Reading := ⟨none, [], none, ∅⟩

def region (reading : Reading) : Region :=
  if reading.start.isSome then .tag
  else if !reading.opened.isEmpty then .content
  else if reading.root.isSome then .epilog
  else .prolog

/-- Adds a child to the innermost element. Around the root only the root itself is kept. -/
def addNode (reading : Reading) (node : Node) : Reading :=
  match reading.opened with
  | [] => { reading with root := reading.root.or node.asElement? }
  | inner :: outer =>
    { reading with opened := { inner with children := node :: inner.children } :: outer }

/-- Adds character data, which is one with the character data right before it. -/
def addText (reading : Reading) (content : String) : Reading :=
  match reading.opened with
  | [] => reading
  | inner :: outer =>
    match inner.children with
    | .text before :: earlier =>
      let children := .text (before ++ content) :: earlier
      { reading with opened := { inner with children := children } :: outer }
    | _ => reading.addNode (.text content)

def scope (reading : Reading) : Scope :=
  match reading.opened with
  | [] => []
  | inner :: _ => inner.scope

/-- Binds a qualifier for a start tag; the first binding of a qualifier counts. -/
def bind (reading : Reading) (start : StartTag) (binding : Binding) : Except Cause Reading :=
  let bindings := reading.bindings.insert binding
  if Binding.most < bindings.size then .error .manyNamespaces
  else
    let own := start.own.insertIfNew binding.qualifier binding.space
    .ok { reading with start := some { start with own }, bindings }

def declare (reading : Reading) (start : StartTag) (binding : Binding) : Except Cause Reading :=
  match binding.fault? with
  | some cause => .error cause
  | none =>
    if start.own.contains binding.qualifier then .error (.repeatedNamespace binding.qualifier)
    else if binding.space = Binding.xmlSpace then .ok reading
    else reading.bind start binding

def declareDefault (reading : Reading) (start : StartTag) (space : String) :
    Except Cause Reading :=
  match Binding.defaultFault? space with
  | some cause => .error cause
  | none => reading.bind start ⟨"", space⟩

def addAttribute (reading : Reading) (start : StartTag) (name : QualifiedName) (value : Passage)
    (place : List Char) : Except Fault Reading := do
  let content ← Reference.value value
  if name.qualifier = "xmlns" then
    (reading.declare start ⟨name.localName, content⟩).mapError (⟨·, place⟩)
  else if name.localName = "xmlns" then
    (reading.declareDefault start content).mapError (⟨·, place⟩)
  else
    let attributes := ⟨name, content, place⟩ :: start.attributes
    .ok { reading with start := some { start with attributes } }

def expand (scope : Scope) (known : Std.TreeSet Name) :
    List RawAttribute → List Attribute → Except Fault (List Attribute)
  | [], expanded => .ok expanded.reverse
  | raw :: rest, expanded =>
    match scope.attributeSpace raw.name.qualifier with
    | .error cause => .error ⟨cause, raw.place⟩
    | .ok space =>
      let name : Name := ⟨space, raw.name.localName⟩
      if known.contains name then
        .error ⟨.repeatedAttribute raw.name.localName, raw.place⟩
      else expand scope (known.insert name) rest (⟨name, raw.value⟩ :: expanded)

def endStart (reading : Reading) (start : StartTag) (isEmpty : Bool) : Except Fault Reading := do
  let scope := Scope.inside start.own reading.scope
  let attributes ← expand scope ∅ start.attributes.reverse []
  match scope.elementSpace start.name.qualifier with
  | .error cause => .error ⟨cause, start.place.tail⟩
  | .ok space =>
    let tag : Tag := ⟨⟨space, start.name.localName⟩, attributes⟩
    let reading := { reading with start := none }
    if isEmpty then .ok (reading.addNode (.element tag []))
    else .ok { reading with opened := ⟨start.name, tag, scope, []⟩ :: reading.opened }

def close (reading : Reading) (name : QualifiedName) (place : List Char) : Except Fault Reading :=
  match reading.opened with
  | [] => .error ⟨.unknownToken, place⟩
  | inner :: outer =>
    if name = inner.name then
      .ok ({ reading with opened := outer }.addNode (.element inner.tag inner.children.reverse))
    else .error ⟨.wrongClosingTag inner.name.text name.text, place⟩

def take (reading : Reading) (token : Token) : Except Fault Reading :=
  match token, reading.start with
  | .startTag name place, _ =>
    if name.qualifier = "xmlns" then .error ⟨.xmlnsQualifiesElement, place.tail⟩
    else .ok { reading with start := some ⟨name, place, [], ∅⟩ }
  | .pair name value place, some start => reading.addAttribute start name value place
  | .tagEnd isEmpty, some start => reading.endStart start isEmpty
  | .pair .., none => .ok reading
  | .tagEnd _, none => .ok reading
  | .endTag name place, _ => reading.close name place
  | .text passage, _ => (Reference.charData passage).map reading.addText
  | .literal content, _ => .ok (reading.addText (Reference.literal content))
  | .comment content, _ => .ok (reading.addNode (.comment (String.ofList content)))
  | .instruction target content, _ =>
    .ok (reading.addNode (.instruction (String.ofList target) (String.ofList content)))
  | .space, _ => .ok reading

/-- Takes in the tokens of a text; each token takes at least one character off it. -/
def takeAll : Nat → Reading → List Char → Except Fault Reading
  | steps + 1, reading, char :: rest => do
    let (token, rest) ← Lexer.next reading.region (char :: rest)
    takeAll steps (← reading.take token) rest
  | _, reading, _ => .ok reading

def finish (reading : Reading) : Except Fault Element :=
  match reading.opened, reading.root with
  | [], some root => .ok root
  | [], none => .error ⟨.noRoot, []⟩
  | _ :: _, _ => .error ⟨.unclosedRoot, []⟩

end Reading

def parse (source : String) : Except Error Element :=
  let text := source.toList
  let result := do
    let body ← Lexer.body text
    let reading ← Reading.takeAll body.length .empty body
    reading.finish
  match result with
  | .ok root => .ok root
  | .error fault => .error (fault.locate text)

end HouseStyle.Xml
