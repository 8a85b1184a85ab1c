import HouseStyle.Color
import HouseStyle.Measure

/-!
Named styles. A style declares some attributes of its own and leaves the others to the style that
it is based on, which it names by an id.
-/

namespace HouseStyle

inductive StyleKind where
  | paragraph
  | character
  | table
  | numbering
deriving DecidableEq

namespace StyleKind

def name : StyleKind → String
  | paragraph => "paragraph"
  | character => "character"
  | table => "table"
  | numbering => "numbering"

/-- The kind of a name; a name that no other kind has stands for a paragraph style. -/
def ofName (text : String) : StyleKind :=
  match text with
  | "character" => character
  | "table" => table
  | "numbering" => numbering
  | _ => paragraph

end StyleKind

structure RunFonts where
  eastAsia : Option String
  ascii : Option String
deriving DecidableEq

structure Font where
  name : Option String
  size : Option Binary64
  color : Option Color
  bold : Option Bool
deriving DecidableEq

/-- The indent of the first line is in twentieths of a point, negative when it hangs. -/
structure ParagraphFormat where
  lineSpacing : Option LineSpacing
  firstLineIndent : Option Int
deriving DecidableEq

structure Style where
  id : String
  name : String
  kind : StyleKind
  basedOn : Option String
  runFonts : RunFonts
  font : Font
  paragraph : ParagraphFormat
deriving DecidableEq

def visible? (name : Option String) : Option String :=
  name.filter fun text => !Text.allBlank text.toList

def RunFonts.preferred? (fonts : RunFonts) : Option String :=
  (visible? fonts.eastAsia).or (visible? fonts.ascii)

namespace Style

def plain (id : String) : Style where
  id := id
  name := id
  kind := .paragraph
  basedOn := none
  runFonts := ⟨none, none⟩
  font := ⟨none, none, none, none⟩
  paragraph := ⟨none, none⟩

def isParagraph (style : Style) : Bool := style.kind = .paragraph

/-- The face that the style itself declares: a run font goes before the font's own name. -/
def fontName? (style : Style) : Option String :=
  style.runFonts.preferred?.or (visible? style.font.name)

def fontSize? (style : Style) : Option Int := style.font.size.map Points.halfPoints

def lineSpacing? (style : Style) : Option Int :=
  style.paragraph.lineSpacing.map LineSpacing.twentieths

end Style

end HouseStyle
