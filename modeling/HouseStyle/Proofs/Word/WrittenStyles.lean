import HouseStyle.Proofs.Style.Declaration
import HouseStyle.Proofs.Word.Values
import HouseStyle.Proofs.Word.Writing

/-!
Styles written in word processing markup and read again. An attribute of a style stands where it is
looked for, in its own element or among the attributes of an element that several of them share, and
an indent of the first line is written as hanging when it is negative. A sheet that is read from the
elements of its styles has all of them, in their order and as they were.
-/

namespace HouseStyle

open Word (Content nodes)
open Xml (Element wordName)

/-! The markup of a style. Hollow elements are kept or left out. -/

namespace Style

def fontsContent (style : Style) : Content where
  attributes :=
    [("eastAsia", style.runFonts.eastAsia), ("ascii", style.runFonts.ascii),
     ("hAnsi", style.font.name)]
  children := []

def runContent (hollow : Bool) (style : Style) : Content :=
  .holding
    [("rFonts", style.fontsContent.kept hollow),
     ("color", style.font.color.map fun color => .mark color.text),
     ("b", style.font.bold.map .switch)]

def indentContent (style : Style) : Content where
  attributes :=
    [("firstLine", (style.paragraph.firstLineIndent.filter (0 ≤ ·)).map fun indent =>
       toString indent),
     ("hanging", (style.paragraph.firstLineIndent.filter (· < 0)).map fun indent =>
       toString (-indent))]
  children := []

def paragraphContent (hollow : Bool) (style : Style) : Content :=
  .holding [("ind", style.indentContent.kept hollow)]

def content (hollow : Bool) (style : Style) : Content where
  attributes := [("styleId", some style.id), ("type", some style.kind.name)]
  children :=
    nodes
      [("name", some (.mark style.name)), ("basedOn", style.basedOn.map .mark),
       ("rPr", (style.runContent hollow).kept hollow),
       ("pPr", (style.paragraphContent hollow).kept hollow)]

/-- What the markup of a style can tell: no size and no spacing, and nothing that is read as
something else. -/
structure Writable (style : Style) : Prop where
  unsized : style.font.size = none
  unspaced : style.paragraph.lineSpacing = none
  color : ∀ color, style.font.color = some color → color.WellFormed
  base : style.basedOn ≠ some ""
  face : style.font.name ≠ some ""
  name : style.name ∉ Canonical.shownNames.map Prod.fst
  indent : ∀ indent, style.paragraph.firstLineIndent = some indent →
    Range.signed64.contains indent = true ∧ indent ≠ Range.signed64.lowest

end Style

def Sheet.element (hollow : Bool) (styles : List Style) : Element :=
  (Content.holding
    (styles.map fun style => ("style", some (style.content hollow)))).element "styles"

namespace Word

variable (hollow : Bool) (style : Style)

theorem runFonts_written :
    runFonts ((style.runContent hollow).element "rPr") = style.runFonts := by
  have fonts := word?_of_item (style.runContent hollow) _ "rPr" "rFonts"
    (style.fontsContent.kept hollow) rfl (by simp)
  have eastAsia : (style.fontsContent.element "rFonts").value? "eastAsia" =
      style.runFonts.eastAsia :=
    value?_of_item _ _ _ _ (by simp [Style.fontsContent])
  have ascii : (style.fontsContent.element "rFonts").value? "ascii" = style.runFonts.ascii :=
    value?_of_item _ _ _ _ (by simp [Style.fontsContent])
  rw [runFonts, fonts]
  simp only [bind_kept hollow _ _ (fun fonts => fonts.value? "eastAsia") rfl,
    bind_kept hollow _ _ (fun fonts => fonts.value? "ascii") rfl, eastAsia, ascii]

theorem fontName?_written (writable : style.Writable) :
    fontName? ((style.runContent hollow).element "rPr") = style.font.name := by
  have fonts := word?_of_item (style.runContent hollow) _ "rPr" "rFonts"
    (style.fontsContent.kept hollow) rfl (by simp)
  have named : ((style.fontsContent.element "rFonts").value? "hAnsi").or
      ((style.fontsContent.element "rFonts").value? "cs") = style.font.name := by
    rw [value?_element, value?_element]
    simp [Style.fontsContent]
  rw [fontName?, fonts, bind_kept hollow _ _ _ rfl, named, nonEmpty?_of_ne _ writable.face]

theorem color_written (writable : style.Writable) :
    (((style.runContent hollow).element "rPr").childValue? "color").bind Color.parse? =
      style.font.color := by
  have written : ((style.runContent hollow).element "rPr").childValue? "color" =
      style.font.color.map Color.text :=
    childValue?_mark _ _ "rPr" "color" _ rfl (by simp [Function.comp_def])
  rw [written, Color.bind_parse?_text _ writable.color]

theorem font_written (writable : style.Writable) :
    font ((style.runContent hollow).element "rPr") = style.font := by
  have size : ((style.runContent hollow).element "rPr").childValue? "sz" = none :=
    childValue?_mark _ _ "rPr" "sz" none rfl (by simp)
  have bold : ((style.runContent hollow).element "rPr").switch? "b" = style.font.bold :=
    switch?_switch _ _ "rPr" "b" _ rfl (by simp)
  rw [font, fontName?_written hollow style writable, size, color_written hollow style writable,
    bold]
  exact congrArg (Font.mk style.font.name · style.font.color style.font.bold) writable.unsized.symm

/--
A negative indent is written with the opposite sign, under the name that turns it round again.
-/
theorem firstLineIndent?_written (writable : style.Writable) :
    firstLineIndent? (style.indentContent.element "ind") = style.paragraph.firstLineIndent := by
  have hanging : (style.indentContent.element "ind").value? "hanging" =
      (style.paragraph.firstLineIndent.filter (· < 0)).map fun indent => toString (-indent) :=
    value?_of_item _ _ _ _ (by simp [Style.indentContent])
  have firstLine : (style.indentContent.element "ind").value? "firstLine" =
      (style.paragraph.firstLineIndent.filter (0 ≤ ·)).map fun indent => toString indent :=
    value?_of_item _ _ _ _ (by simp [Style.indentContent])
  rw [firstLineIndent?, hanging, firstLine]
  cases declared : style.paragraph.firstLineIndent with
  | none => rfl
  | some indent =>
    obtain ⟨fits, opposed⟩ := writable.indent indent declared
    by_cases negative : indent < 0
    · have read := Twips.parse?_toString (-indent)
        (Range.signed64_contains_neg indent fits opposed)
      simp only [Option.filter_some, negative, decide_true, if_true, Option.map_some,
        Option.bind_some, read, Range.opposite_neg indent fits]
    · have read := Twips.parse?_toString indent fits
      have positive : 0 ≤ indent := Int.not_lt.mp negative
      simp only [Option.filter_some, negative, decide_false, Bool.false_eq_true, if_false,
        Option.map_none, Option.bind_none, positive, decide_true, if_true, Option.map_some,
        Option.bind_some, read]

theorem paragraphFormat_written (writable : style.Writable) :
    paragraphFormat ((style.paragraphContent hollow).element "pPr") = style.paragraph := by
  have spacing : ((style.paragraphContent hollow).element "pPr").word? "spacing" = none :=
    word?_of_item _ _ "pPr" "spacing" none rfl (by simp)
  have indents := word?_of_item (style.paragraphContent hollow) _ "pPr" "ind"
    (style.indentContent.kept hollow) rfl (by simp)
  rw [paragraphFormat, spacing, indents, bind_kept hollow _ _ _ rfl,
    firstLineIndent?_written style writable]
  exact congrArg (ParagraphFormat.mk · style.paragraph.firstLineIndent) writable.unspaced.symm

theorem style?_written (writable : style.Writable) :
    style? ((style.content hollow).element "style") = some style := by
  have id : ((style.content hollow).element "style").value? "styleId" = some style.id :=
    value?_of_item _ _ _ _ (by simp [Style.content])
  have kind : ((style.content hollow).element "style").value? "type" = some style.kind.name :=
    value?_of_item _ _ _ _ (by simp [Style.content])
  have name : ((style.content hollow).element "style").childValue? "name" = some style.name :=
    childValue?_mark _ _ "style" "name" _ rfl (by simp)
  have base : ((style.content hollow).element "style").childValue? "basedOn" = style.basedOn :=
    childValue?_mark _ _ "style" "basedOn" _ rfl (by simp)
  have runs := word?_of_item (style.content hollow) _ "style" "rPr"
    ((style.runContent hollow).kept hollow) rfl (by simp)
  have paragraph := word?_of_item (style.content hollow) _ "style" "pPr"
    ((style.paragraphContent hollow).kept hollow) rfl (by simp)
  have fonts : ((((style.runContent hollow).kept hollow).map (·.element "rPr")).map
      runFonts).getD ⟨none, none⟩ = style.runFonts :=
    (map_kept hollow _ "rPr" runFonts).trans (runFonts_written hollow style)
  have face : ((((style.runContent hollow).kept hollow).map (·.element "rPr")).map
      font).getD ⟨none, none, none, none⟩ = style.font :=
    (map_kept hollow _ "rPr" font).trans (font_written hollow style writable)
  have format : ((((style.paragraphContent hollow).kept hollow).map (·.element "pPr")).map
      paragraphFormat).getD ⟨none, none⟩ = style.paragraph :=
    (map_kept hollow _ "pPr" paragraphFormat).trans (paragraphFormat_written hollow style writable)
  rw [style?, id, kind, name, base, runs, paragraph]
  simp only [Option.map_some, Option.getD_some, StyleKind.ofName_name,
    Canonical.shownName_of_not_stored _ writable.name, nonEmpty?_of_ne _ writable.base, fonts,
    face, format]

/--
The elements of any row of styles, ids and names coming up again or not: the sheet that is read from
them has these styles and no others, in their order, with everything that they declare. Elements in
which nothing stands may be among them or not.
-/
theorem sheet_read_back (hollow : Bool) (styles : List Style)
    (writable : ∀ style ∈ styles, style.Writable) :
    (sheet (Sheet.element hollow styles)).toList = styles := by
  have elements : (Sheet.element hollow styles).words "style" =
      styles.map fun style => (style.content hollow).element "style" := by
    rw [Sheet.element, words_of_nodes _ _ _ _ rfl, held_map_same, List.map_map]
    rfl
  rw [sheet, Sheet.toList_ofList, elements, List.filterMap_map]
  have each : ∀ style ∈ styles,
      (style? ∘ fun style => (style.content hollow).element "style") style = some style :=
    fun style member => style?_written hollow style (writable style member)
  rw [List.filterMap_congr each, List.filterMap_some]

def twins : List Style :=
  [{ id := "a", name := "Quote", kind := .paragraph, basedOn := some "b"
     runFonts := ⟨some "", some "Arial"⟩
     font := ⟨some "Georgia", none, some ⟨"0FC9A1"⟩, some false⟩
     paragraph := ⟨none, some (-240)⟩ },
   { Style.plain "a" with name := "Quote", kind := .table, font := ⟨none, none, none, some true⟩ }]

theorem twins_read_back :
    (∀ style ∈ twins, style.Writable) ∧ (sheet (Sheet.element false twins)).toList = twins := by
  have writable : ∀ style ∈ twins, style.Writable := by
    intro style member
    simp only [twins, List.mem_cons, List.not_mem_nil, or_false] at member
    rcases member with rfl | rfl
    · refine ⟨rfl, rfl, ?_, by decide, by decide, by decide, ?_⟩
      · rintro color ⟨⟩
        decide
      · rintro indent ⟨⟩
        decide
    · exact ⟨rfl, rfl, by rintro _ ⟨⟩, by decide, by decide, by decide, by rintro _ ⟨⟩⟩
  exact ⟨writable, sheet_read_back false twins writable⟩

-- A switch that is on is written without a value, and what the style does not declare is left out.
example : (Style.content false
    { Style.plain "a" with font := ⟨none, none, none, some true⟩ }).element "style" =
      ⟨⟨wordName "style", [⟨wordName "styleId", "a"⟩, ⟨wordName "type", "paragraph"⟩]⟩,
        [.element ⟨wordName "name", [⟨wordName "val", "a"⟩]⟩ [],
         .element ⟨wordName "rPr", []⟩ [.element ⟨wordName "b", []⟩ []]]⟩ := rfl

end Word

end HouseStyle
