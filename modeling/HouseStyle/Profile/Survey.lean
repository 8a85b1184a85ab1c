import HouseStyle.Color
import HouseStyle.Document
import HouseStyle.Profile.Basic
import HouseStyle.Style.Lineage
import HouseStyle.Style.Sheet

/-!
The survey of a document that makes its profile. It is asked for the styles whose fonts it lists,
each under a label, for the colours that count as red, and whether it looks at tables and lists
every style in detail. Margins are those of the first section, the table convention is that of the
first table, and every attribute of a style is what its lineage comes to.
-/

namespace HouseStyle

/-- A style to list the font of, by its canonical name, and the label it is listed under. -/
structure Target where
  styleName : String
  label : String
deriving DecidableEq

structure ProfileOptions where
  targets : List Target
  redStarts : List String
  tables : Bool
  detailed : Bool
deriving DecidableEq

namespace ProfileOptions

def standardTargets : List Target :=
  [⟨Canonical.body, "Main"⟩, ⟨Canonical.heading, "H1"⟩, ⟨"Heading 2", "H2"⟩, ⟨"Heading 3", "H3"⟩]

def standard : ProfileOptions := ⟨standardTargets, Color.redStarts, true, false⟩

def withTarget (options : ProfileOptions) (styleName label : String) : ProfileOptions :=
  { options with targets := options.targets ++ [⟨styleName, label⟩] }

end ProfileOptions

def Margins.texts (margins : Margins) : MarginTexts where
  top := margins.top.map Length.centimetres
  bottom := margins.bottom.map Length.centimetres
  left := margins.left.map Length.centimetres
  right := margins.right.map Length.centimetres

def Sheet.targetFont? (sheet : Sheet) (target : Target) : Option TargetFont :=
  (Canonical.find? sheet target.styleName).map fun style =>
    ⟨target.label, sheet.fontName? style, sheet.fontSize? style⟩

def Sheet.targetFonts (sheet : Sheet) (targets : List Target) : TargetFonts :=
  .ofList (targets.filterMap sheet.targetFont?)

def Sheet.headingIsRed (sheet : Sheet) (redStarts : List String) : Bool :=
  match (Canonical.find? sheet Canonical.heading).bind sheet.fontColor? with
  | some color => color.startsWithAny redStarts
  | none => false

def Sheet.detail (sheet : Sheet) (style : Style) : StyleDetail :=
  let found := sheet.attributes style
  { id := style.id
    name := style.name
    fontName := found.fontName
    fontSize := found.fontSize
    lineSpacing := found.lineSpacing
    firstLineIndent := found.firstLineIndent
    baseStyle := (sheet.base? style).map Style.name }

def Sheet.details (sheet : Sheet) : List StyleDetail :=
  (sheet.toList.filter Style.isParagraph).map sheet.detail

def Document.profile (document : Document) (options : ProfileOptions) : Profile :=
  let sheet := document.sheet
  let body := Canonical.find? sheet Canonical.body
  { margin := document.sections.head?.map fun first => first.margins.texts
    fonts := sheet.targetFonts options.targets
    redHeader := sheet.headingIsRed options.redStarts
    firstLineIndent := body.bind sheet.firstLineIndent?
    lineSpacing := body.bind sheet.lineSpacing?
    colorMain := body.bind sheet.fontColor?
    table := if options.tables then document.tables.head?.map (.ofTable sheet) else none
    details := if options.detailed then some sheet.details else none }

end HouseStyle
