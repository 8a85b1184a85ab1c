import HouseStyle.Json.Basic
import HouseStyle.Profile.Basic

/-!
A profile as a JSON object. A member is written only when there is something to write, so no value
is ever null; fonts appear at the top level under keys that end in their label.
-/

namespace HouseStyle

open Json (member)

def MarginTexts.toJson (margins : MarginTexts) : Json :=
  .object (member "top" (margins.top.map .text) ++ member "bottom" (margins.bottom.map .text) ++
    member "left" (margins.left.map .text) ++ member "right" (margins.right.map .text))

namespace TargetFont

def nameKey (label : String) : String := "font" ++ label

def sizeKey (label : String) : String := "fontSize" ++ label

def members (font : TargetFont) : List (String × Json) :=
  member (nameKey font.label) (font.name.map .text) ++
    member (sizeKey font.label) (font.size.map .integer)

end TargetFont

def TargetFonts.members (fonts : TargetFonts) : List (String × Json) :=
  fonts.entries.flatMap TargetFont.members

def TableConvention.toJson (convention : TableConvention) : Json :=
  .object
    [("borderStyle", .text convention.borderStyle.name),
     ("borderColor", .text convention.borderColor.text),
     ("borderSize", .integer convention.borderSize),
     ("headerBold", .bool convention.headerBold),
     ("headerColor", .text convention.headerColor.text),
     ("cellAlign", .text convention.cellAlign.name)]

def StyleDetail.toJson (detail : StyleDetail) : Json :=
  .object ([("id", .text detail.id), ("name", .text detail.name)] ++
    member "fontName" (detail.fontName.map .text) ++
    member "fontSize" (detail.fontSize.map .integer) ++
    member "lineSpacing" (detail.lineSpacing.map .integer) ++
    member "firstLineIndent" (detail.firstLineIndent.map .integer) ++
    member "baseStyle" (detail.baseStyle.map .text))

namespace Profile

def members (profile : Profile) : List (String × Json) :=
  member "margin" (profile.margin.map MarginTexts.toJson) ++
    profile.fonts.members ++
    member "redHeader" (if profile.redHeader then some (.bool true) else none) ++
    member "firstLineIndent" (profile.firstLineIndent.map .integer) ++
    member "lineSpacing" (profile.lineSpacing.map .integer) ++
    member "colorMain" (profile.colorMain.map fun color => .text color.text) ++
    member "table" (profile.table.map TableConvention.toJson) ++
    member "detailedStylesInfo"
      (profile.details.map fun details => .list (details.map StyleDetail.toJson))

def toJson (profile : Profile) : Json := .object profile.members

end Profile

end HouseStyle
