import HouseStyle.Document
import HouseStyle.Style.Sheet

/-!
A style profile: the conventions of a document, flattened to what a renderer needs. Nothing is
listed that the document does not declare, but for the convention of a table: what the table leaves
open is filled in from the plain one. That convention is read off two places, the bottom border and
the first paragraph of the first cell of the first row, which stands for the header.
-/

namespace HouseStyle

inductive BorderStyle where
  | none
  | single
  | dotted
  | dashed
  | double
deriving DecidableEq

namespace BorderStyle

def name : BorderStyle → String
  | none => "none"
  | single => "single"
  | dotted => "dotted"
  | dashed => "dashed"
  | double => "double"

/-- The style of a border's tag; tags of other line patterns count as a single line. -/
def ofTag (tag : String) : BorderStyle :=
  match tag with
  | "none" => none
  | "nil" => none
  | "dotted" => dotted
  | "dashed" => dashed
  | "double" => double
  | _ => single

end BorderStyle

inductive CellAlign where
  | left
  | center
  | right
deriving DecidableEq

def CellAlign.name : CellAlign → String
  | left => "left"
  | center => "center"
  | right => "right"

structure TableConvention where
  borderStyle : BorderStyle
  borderColor : Color
  borderSize : Nat
  headerBold : Bool
  headerColor : Color
  cellAlign : CellAlign
deriving DecidableEq

namespace TableConvention

def plain : TableConvention := ⟨.single, .black, 4, false, .black, .left⟩

/--
A header is bold when one of its runs is, and otherwise when its style declares so itself: the
styles that this one is based on are not asked.
-/
def headerIsBold (sheet : Sheet) (header : Paragraph) : Bool :=
  header.runs.any Run.isBold ||
    ((header.styleId.bind sheet.byId?).bind fun style => style.font.bold).getD false

def ofTable (sheet : Sheet) (table : Table) : TableConvention :=
  let bottom := table.borders.bottom
  let header := table.headerParagraph?
  { borderStyle := ((bottom.bind Border.style).map BorderStyle.ofTag).getD plain.borderStyle
    borderColor := ((bottom.bind Border.color).bind Color.parse?).getD plain.borderColor
    borderSize := (bottom.bind Border.size).getD plain.borderSize
    headerBold := (header.map (headerIsBold sheet)).getD plain.headerBold
    headerColor :=
      (header.bind fun paragraph => paragraph.runs.findSome? Run.color).getD plain.headerColor
    cellAlign := plain.cellAlign }

end TableConvention

/-! The profile. -/

structure MarginTexts where
  top : Option String
  bottom : Option String
  left : Option String
  right : Option String
deriving DecidableEq

/-- The font listed under a label: its face, and its size in half-points. -/
structure TargetFont where
  label : String
  name : Option String
  size : Option Int
deriving DecidableEq

/-- A font with neither face nor size says nothing. -/
def TargetFont.saysSomething (font : TargetFont) : Bool := font.name.isSome || font.size.isSome

structure TargetFonts where
  entries : List TargetFont
  telling : ∀ font ∈ entries, font.saysSomething = true
deriving DecidableEq

namespace TargetFonts

def empty : TargetFonts := ⟨[], by simp⟩

def push (fonts : TargetFonts) (font : TargetFont) : TargetFonts :=
  if told : font.saysSomething = true then
    { entries := fonts.entries ++ [font]
      telling := by
        intro other member
        rcases List.mem_append.mp member with earlier | last
        · exact fonts.telling other earlier
        · rw [List.mem_singleton.mp last]
          exact told }
  else fonts

def ofList (fonts : List TargetFont) : TargetFonts where
  entries := fonts.filter TargetFont.saysSomething
  telling := fun _ member => (List.mem_filter.mp member).2

def get? (fonts : TargetFonts) (label : String) : Option TargetFont :=
  fonts.entries.find? fun font => font.label = label

end TargetFonts

structure StyleDetail where
  id : String
  name : String
  fontName : Option String
  fontSize : Option Int
  lineSpacing : Option Int
  firstLineIndent : Option Int
  baseStyle : Option String
deriving DecidableEq

structure Profile where
  margin : Option MarginTexts
  fonts : TargetFonts
  redHeader : Bool
  firstLineIndent : Option Int
  lineSpacing : Option Int
  colorMain : Option Color
  table : Option TableConvention
  details : Option (List StyleDetail)
deriving DecidableEq

namespace Profile

def empty : Profile := ⟨none, .empty, false, none, none, none, none, none⟩

def fontName? (profile : Profile) (label : String) : Option String :=
  (profile.fonts.get? label).bind TargetFont.name

def fontSize? (profile : Profile) (label : String) : Option Int :=
  (profile.fonts.get? label).bind TargetFont.size

end Profile

end HouseStyle
