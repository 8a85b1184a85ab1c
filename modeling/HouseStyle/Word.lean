import HouseStyle.Document
import HouseStyle.Number.Numeral
import HouseStyle.Style.Sheet
import HouseStyle.Xml.Tree

/-!
Word processing markup, the sheet of styles in it and the body of a document. Only elements and
attributes of the word processing namespace are seen; where several elements of a name could be
meant, the first one is. A style without an id is passed over; an attribute that is missing or
cannot be read is left undeclared. Only the children of the body are looked at: a section is
described in a paragraph or by itself, a table stands by itself, and what tables and other elements
hold describes no section.
-/

namespace HouseStyle.Xml

def wordSpace : String := "http://schemas.openxmlformats.org/wordprocessingml/2006/main"

def wordName (label : String) : Name := ⟨some wordSpace, label⟩

def Node.asWord? (label : String) (node : Node) : Option Element :=
  node.asElement?.filter fun element => element.tag.name = wordName label

namespace Element

def words (element : Element) (label : String) : List Element :=
  element.children.filterMap (Node.asWord? label)

def word? (element : Element) (label : String) : Option Element :=
  element.children.findSome? (Node.asWord? label)

def value? (element : Element) (label : String) : Option String :=
  (element.tag.attributes.find? fun held => held.name = wordName label).map Attribute.value

def childValue? (element : Element) (label : String) : Option String :=
  (element.word? label).bind fun child => child.value? "val"

/-- A switch is on when it is there, unless its value turns it off. -/
def switch? (element : Element) (label : String) : Option Bool :=
  (element.word? label).map fun child =>
    match child.value? "val" with
    | some value => !(value = "0" || value = "false" || value = "off")
    | none => true

/-- The text that an element begins with, before any other kind of node. -/
def leadingText? (element : Element) : Option String :=
  match element.children with
  | .text content :: _ => some content
  | _ => none

end Element

end HouseStyle.Xml

namespace HouseStyle.Word

open Xml (Element Node)

def number? (value : String) : Option Binary64 := Binary64.read? (Text.trim value.toList)

def nonEmpty? (value : Option String) : Option String := value.filter fun text => text ≠ ""

def runFonts (properties : Element) : RunFonts :=
  let fonts := properties.word? "rFonts"
  ⟨fonts.bind (·.value? "eastAsia"), fonts.bind (·.value? "ascii")⟩

/-- The font's own name: the one for text beyond ASCII, or the complex script one if that is missing. -/
def fontName? (properties : Element) : Option String :=
  nonEmpty? ((properties.word? "rFonts").bind fun fonts =>
    (fonts.value? "hAnsi").or (fonts.value? "cs"))

def font (properties : Element) : Font where
  name := fontName? properties
  size := ((properties.childValue? "sz").bind number?).map Points.ofHalfPoints
  color := (properties.childValue? "color").bind Color.parse?
  bold := properties.switch? "b"

/-- Spacing is in twentieths of a point under an exact rule, and in 240ths of a line otherwise. -/
def lineSpacing? (spacing : Element) : Option LineSpacing :=
  ((spacing.value? "line").bind number?).map fun line =>
    let rule := spacing.value? "lineRule"
    if rule = some "exact" ∨ rule = some "atLeast" then .exact (line / 20)
    else .multiple (line / 240)

/-- A hanging indent goes before the indent of the first line, whose opposite it is. -/
def firstLineIndent? (indents : Element) : Option Int :=
  match (indents.value? "hanging").bind Twips.parse? with
  | some hanging => some (Range.opposite hanging)
  | none => (indents.value? "firstLine").bind Twips.parse?

def paragraphFormat (properties : Element) : ParagraphFormat where
  lineSpacing := (properties.word? "spacing").bind lineSpacing?
  firstLineIndent := (properties.word? "ind").bind firstLineIndent?

def style? (element : Element) : Option Style :=
  (element.value? "styleId").map fun id =>
    let runs := element.word? "rPr"
    { id := id
      name := ((element.childValue? "name").map Canonical.shownName).getD id
      kind := ((element.value? "type").map StyleKind.ofName).getD .paragraph
      basedOn := nonEmpty? (element.childValue? "basedOn")
      runFonts := (runs.map runFonts).getD ⟨none, none⟩
      font := (runs.map font).getD ⟨none, none, none, none⟩
      paragraph := ((element.word? "pPr").map paragraphFormat).getD ⟨none, none⟩ }

def sheet (root : Element) : Sheet := .ofList ((root.words "style").filterMap style?)

/-! Tables. Their sides also go by the names of a line's ends, behind left and right. -/

def borderSize? (value : String) : Option Nat :=
  (Numeral.unsigned? (Text.trim value.toList)).filter fun size =>
    Range.unsigned32.contains size

def border (element : Element) : Border where
  style := element.value? "val"
  color := element.value? "color"
  size := (element.value? "sz").bind borderSize?

def borders (element : Element) : TableBorders where
  top := (element.word? "top").map border
  bottom := (element.word? "bottom").map border
  left := ((element.word? "left").or (element.word? "start")).map border
  right := ((element.word? "right").or (element.word? "end")).map border
  insideH := (element.word? "insideH").map border
  insideV := (element.word? "insideV").map border

def run (element : Element) : Run :=
  let properties := element.word? "rPr"
  { text := String.join ((element.words "t").filterMap Element.leadingText?)
    bold := properties.bind (·.switch? "b")
    color := (properties.bind (·.childValue? "color")).bind Color.parse? }

def paragraph (element : Element) : Paragraph where
  styleId := (element.word? "pPr").bind (·.childValue? "pStyle")
  runs := (element.words "r").map run

def cell (element : Element) : Cell := ⟨(element.words "p").map paragraph⟩

def row (element : Element) : Row := ⟨(element.words "tc").map cell⟩

def table (element : Element) : Table where
  borders :=
    (((element.word? "tblPr").bind (·.word? "tblBorders")).map borders).getD TableBorders.none
  rows := (element.words "tr").map row

/-! The children of the body. -/

def side? (margins : Element) (label : String) : Option Length :=
  ((margins.value? label).bind Twips.parse?).bind Length.ofTwips?

/-- The sides also go by the names of a line's ends, which count where the usual name gives nothing. -/
def margins (element : Element) : Margins where
  top := side? element "top"
  bottom := side? element "bottom"
  left := (side? element "left").or (side? element "start")
  right := (side? element "right").or (side? element "end")

def pageSection (properties : Element) : Section :=
  ⟨((properties.word? "pgMar").map margins).getD Margins.unset⟩

def section? (child : Node) : Option Section :=
  match child.asWord? "p" with
  | some paragraph => ((paragraph.word? "pPr").bind (·.word? "sectPr")).map pageSection
  | none => (child.asWord? "sectPr").map pageSection

def table? (child : Node) : Option Table := (child.asWord? "tbl").map table

def document (sheet : Sheet) (withTables : Bool) (root : Element) : Document :=
  match root.word? "body" with
  | none => ⟨[], sheet, []⟩
  | some body =>
    { sections := body.children.filterMap section?
      sheet := sheet
      tables := if withTables then body.children.filterMap table? else [] }

end HouseStyle.Word
