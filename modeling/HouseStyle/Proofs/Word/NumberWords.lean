import HouseStyle.Proofs.Number.Spelling
import HouseStyle.Proofs.Style.Bases
import HouseStyle.Proofs.Word.BodyChildren
import HouseStyle.Proofs.Word.Spacing
import HouseStyle.Word

/-!
Sizes and spacings whose text has no digit. Nearly all of them are no numbers, and a style that has
one is read as if it had none: it leaves the attribute to the style it is based on. The words for
infinity and for what is no number are read as numbers, though, and a style that has one of them
comes to zero or to an end of the range of words, whatever it is based on.
-/

namespace HouseStyle

/-!
A style element from which something is left out. What is left out of an element is not found in it
any more, and everything else is found as before; so a style that is read without the size of its
font, or without the spacing of its paragraphs, is the style that was read with them, but for that
attribute.
-/

namespace Xml

/-- An element has one name, so what is found under one is not found under another. -/
theorem asWord?_apart (node : Node) (label other : String) (apart : other ≠ label)
    (element : Element) (found : node.asWord? label = some element) :
    node.asWord? other = none := by
  obtain ⟨rfl, named⟩ := (asWord?_eq_some_iff node label element).mp found
  rw [asWord?_node, named, if_neg]
  rw [wordName_inj]
  exact apart.symm

def Node.changing (label : String) (change : Element → Element) (node : Node) : Node :=
  match node.asWord? label with
  | some held => (change held).node
  | none => node

namespace Element

def without (element : Element) (label : String) : Element :=
  ⟨element.tag, element.children.filter fun node => (node.asWord? label).isNone⟩

def changing (element : Element) (label : String) (change : Element → Element) : Element :=
  ⟨element.tag, element.children.map (Node.changing label change)⟩

variable (element : Element) (label other : String)

@[simp] theorem word?_without_self : (element.without label).word? label = none := by
  rw [word?, List.findSome?_eq_none_iff]
  intro node member
  have left : (node.asWord? label).isNone = true := (List.mem_filter.mp member).2
  exact Option.isNone_iff_eq_none.mp left

@[simp] theorem word?_without_other (apart : other ≠ label) :
    (element.without label).word? other = element.word? other := by
  rw [word?_eq_head?, word?_eq_head?, words, words, without, List.filterMap_filter]
  congr 2
  funext node
  cases found : node.asWord? label with
  | none => rfl
  | some child => rw [asWord?_apart node label other apart child found, ite_self]

@[simp] theorem value?_changing (change : Element → Element) (name : String) :
    (element.changing label change).value? name = element.value? name := rfl

section Changing

variable (change : Element → Element) (keeps : ∀ child, (change child).tag = child.tag)
include keeps

theorem asWord?_changing (node : Node) :
    (node.changing label change).asWord? label = (node.asWord? label).map change := by
  rw [Node.changing]
  cases found : node.asWord? label with
  | none => exact found
  | some child =>
    obtain ⟨_, named⟩ := (asWord?_eq_some_iff node label child).mp found
    exact (asWord?_eq_some_iff _ label _).mpr ⟨rfl, (keeps child).symm ▸ named⟩

theorem asWord?_changing_other (node : Node) (apart : other ≠ label) :
    (node.changing label change).asWord? other = node.asWord? other := by
  have changed := asWord?_changing label change keeps node
  cases found : node.asWord? label with
  | none => rw [Node.changing, found]
  | some child =>
    rw [found, Option.map_some] at changed
    rw [asWord?_apart node label other apart child found,
      asWord?_apart _ label other apart _ changed]

theorem word?_changing :
    (element.changing label change).word? label = (element.word? label).map change := by
  rw [word?, word?, changing, List.findSome?_map, List.map_findSome?]
  congr 1
  funext node
  exact asWord?_changing label change keeps node

theorem word?_changing_other (apart : other ≠ label) :
    (element.changing label change).word? other = element.word? other := by
  rw [word?, word?, changing, List.findSome?_map]
  congr 1
  funext node
  exact asWord?_changing_other label other change keeps node apart

end Changing

end Element

end Xml

namespace Word

open Xml (Element)

def withoutSize (element : Element) : Element :=
  element.changing "rPr" fun runs => runs.without "sz"

def withoutSpacing (element : Element) : Element :=
  element.changing "pPr" fun paragraphs => paragraphs.without "spacing"

theorem style?_withoutSize (element : Element) :
    style? (withoutSize element) =
      (style? element).map fun style =>
        { style with font := { style.font with size := none } } := by
  have keeps : ∀ runs : Element, (runs.without "sz").tag = runs.tag := fun _ => rfl
  have held := element.word?_changing "rPr" _ keeps
  have name := element.word?_changing_other "rPr" "name" _ keeps (by decide)
  have base := element.word?_changing_other "rPr" "basedOn" _ keeps (by decide)
  have paragraphs := element.word?_changing_other "rPr" "pPr" _ keeps (by decide)
  have fonts : ∀ runs : Element, font (runs.without "sz") = { font runs with size := none } := by
    intro runs
    simp [font, fontName?, Element.childValue?, Element.switch?]
  have byScript : ∀ runs : Element, runFonts (runs.without "sz") = runFonts runs := by
    intro runs
    simp [runFonts]
  simp only [style?, withoutSize, Element.value?_changing, Element.childValue?, held, name, base,
    paragraphs, Option.map_map]
  congr 1
  funext id
  cases element.word? "rPr" with
  | none => rfl
  | some runs => simp [fonts, byScript]

theorem style?_withoutSpacing (element : Element) :
    style? (withoutSpacing element) =
      (style? element).map fun style =>
        { style with paragraph := { style.paragraph with lineSpacing := none } } := by
  have keeps : ∀ format : Element, (format.without "spacing").tag = format.tag := fun _ => rfl
  have held := element.word?_changing "pPr" _ keeps
  have name := element.word?_changing_other "pPr" "name" _ keeps (by decide)
  have base := element.word?_changing_other "pPr" "basedOn" _ keeps (by decide)
  have runs := element.word?_changing_other "pPr" "rPr" _ keeps (by decide)
  have formats : ∀ format : Element,
      paragraphFormat (format.without "spacing") =
        { paragraphFormat format with lineSpacing := none } := by
    intro format
    simp [paragraphFormat]
  simp only [style?, withoutSpacing, Element.value?_changing, Element.childValue?, held, name, base,
    runs, Option.map_map]
  congr 1
  funext id
  cases element.word? "pPr" with
  | none => rfl
  | some format => simp [formats]

end Word

/-! Texts without a digit. -/

namespace Binary64

inductive NotFinite : Binary64 → Prop
  | infinity (negative : Bool) : NotFinite (.infinity negative)
  | nan : NotFinite .nan

def extremes : List Int := [0, Range.signed64.lowest, Range.signed64.highest]

theorem two_eq : (2 : Binary64) = finite false (1 * 2 ^ 1 * one) :=
  ofNat_scaled 2 1 1 rfl (by decide)

/--
Division and multiplication leave infinity infinite, and nothing makes a number of what is none.
-/
theorem thereAndBack_mem (number : Binary64) (divisor : Nat) (nonzero : divisor ≠ 0)
    (endless : NotFinite number) : thereAndBack number (finite false divisor) ∈ extremes := by
  cases endless with
  | infinity negative =>
    have last : lastWord negative ∈ extremes := by cases negative <;> decide
    rw [thereAndBack, div, mul, if_neg nonzero, truncate, Bool.bne_false, Bool.bne_false]
    exact last
  | nan => exact List.mem_cons_self

end Binary64

namespace Word

open Xml (Element Node Tag wordName)

def IsNumberWord (text : String) : Prop :=
  ∃ core, Text.Padded text.toList core ∧ Numeral.IsSignedWord core

theorem number?_cases (text : String) (digitless : ∀ char ∈ text.toList, char.isDigit = false) :
    (IsNumberWord text ∧ ∃ number, number? text = some number ∧ number.NotFinite) ∨
    (¬IsNumberWord text ∧ number? text = none) := by
  have inside : ∀ char ∈ Text.trim text.toList, char.isDigit = false :=
    fun char member => digitless char (Text.mem_of_mem_trim _ char member)
  have named : Numeral.IsSignedWord (Text.trim text.toList) ↔ IsNumberWord text :=
    Text.trim_iff_padded text.toList Numeral.IsSignedWord fun _ word => word.solid
  rw [← named, number?, Binary64.read?]
  rcases Numeral.real?_cases_of_digitless _ inside with ⟨word, read⟩ | ⟨other, read⟩
  · refine .inl ⟨word, ?_⟩
    rcases read with ⟨negative, infinite⟩ | undefined
    · exact ⟨.infinity negative, by rw [infinite]; rfl, .infinity negative⟩
    · exact ⟨.nan, by rw [undefined]; rfl, .nan⟩
  · exact .inr ⟨other, by rw [read]; rfl⟩

/--
A style leaves an attribute to the style it is based on: it declares none, it is the same style in
the same sheet if a plainer element stands in the place of its own, and a search for the attribute
goes on behind it.
-/
structure LeftToBase {Value : Type} (declared : Style → Option Value) (style : Style)
    (element plainer : Element) : Prop where
  undeclared : declared style = none
  same_style : style? plainer = some style
  same_sheet : ∀ tag before behind,
    sheet ⟨tag, before ++ element.node :: behind⟩ = sheet ⟨tag, before ++ plainer.node :: behind⟩
  goes_on : ∀ sheet : Sheet,
    sheet.resolve? style declared = (sheet.lineage style).tail.findSome? declared
  from_base : ∀ sheet : Sheet, sheet.Registered style →
    sheet.resolve? style declared =
      (sheet.base? style).bind fun base => sheet.resolve? base declared

theorem sheet_replaced (element plainer : Element) (tags : plainer.tag = element.tag)
    (read : style? plainer = style? element) (tag : Tag) (before behind : List Node) :
    sheet ⟨tag, before ++ element.node :: behind⟩ =
      sheet ⟨tag, before ++ plainer.node :: behind⟩ := by
  have same : ((element.node.asWord? "style").bind style?) =
      (plainer.node.asWord? "style").bind style? := by
    rw [Xml.asWord?_node, Xml.asWord?_node, tags]
    split
    · exact read.symm
    · rfl
  have read_at_once : ∀ children : List Node, sheet ⟨tag, children⟩ =
      .ofList (children.filterMap fun node => (node.asWord? "style").bind style?) := by
    intro children
    rw [sheet, Element.words, List.filterMap_filterMap]
  rw [read_at_once, read_at_once, List.filterMap_append, List.filterMap_append,
    List.filterMap_cons, List.filterMap_cons, same]

theorem leftToBase_of_undeclared {Value : Type} (declared : Style → Option Value) (style : Style)
    (element plainer : Element) (read : style? element = some style)
    (tags : plainer.tag = element.tag) (same : style? plainer = some style)
    (undeclared : declared style = none) : LeftToBase declared style element plainer where
  undeclared := undeclared
  same_style := same
  same_sheet := sheet_replaced element plainer tags (same.trans read.symm)
  goes_on := Sheet.resolve?_of_undeclared declared undeclared
  from_base _ := Sheet.resolve?_from_base declared undeclared

/--
What comes of a text: if it is a word the attribute comes to an extreme in every sheet, and
otherwise it is left to the base.
-/
structure LeftUnlessWord (declared : Style → Option Int) (style : Style)
    (element plainer : Element) (text : String) : Prop where
  left_iff : LeftToBase declared style element plainer ↔ ¬IsNumberWord text
  taken : IsNumberWord text → ∃ value ∈ Binary64.extremes, ∀ sheet : Sheet,
    sheet.resolve? style declared = some value

theorem leftUnlessWord (declared : Style → Option Int) (style : Style)
    (element plainer : Element) (text : String) (value : Binary64 → Int)
    (read : style? element = some style) (tags : plainer.tag = element.tag)
    (digitless : ∀ char ∈ text.toList, char.isDigit = false)
    (declares : declared style = (number? text).map value)
    (same : number? text = none → style? plainer = some style)
    (extreme : ∀ number : Binary64, number.NotFinite → value number ∈ Binary64.extremes) :
    LeftUnlessWord declared style element plainer text := by
  rcases number?_cases text digitless with ⟨word, number, found, endless⟩ | ⟨other, nothing⟩
  · rw [found, Option.map_some] at declares
    refine ⟨?_, ?_⟩
    · refine iff_of_false ?_ (not_not_intro word)
      intro left
      rw [left.undeclared] at declares
      contradiction
    · intro _
      exact ⟨value number, extreme number endless,
        fun sheet => sheet.resolve?_self declared style _ declares⟩
  · rw [nothing, Option.map_none] at declares
    refine ⟨?_, fun word => absurd word other⟩
    exact iff_of_true
      (leftToBase_of_undeclared declared style element plainer read tags (same nothing) declares)
      other

def sizeText? (element : Element) : Option String :=
  (element.word? "rPr").bind fun runs => runs.childValue? "sz"

def spacing? (element : Element) : Option Element :=
  (element.word? "pPr").bind fun format => format.word? "spacing"

theorem declared_size (element : Element) (style : Style) (text : String)
    (read : style? element = some style) (written : sizeText? element = some text) :
    style.fontSize? = (number? text).map fun number => Binary64.thereAndBack number 2 := by
  obtain ⟨runs, found, sized⟩ := Option.bind_eq_some_iff.mp written
  have held : style.font = font runs := by
    obtain ⟨id, _, rfl⟩ := Option.map_eq_some_iff.mp read
    simp only [found, Option.map_some, Option.getD_some]
  rw [Style.fontSize?, held, font, sized, Option.bind_some, Option.map_map]
  rfl

theorem declared_spacing_of_text (element spacing : Element) (style : Style) (text : String)
    (read : style? element = some style) (spaced : spacing? element = some spacing)
    (written : spacing.value? "line" = some text) :
    style.lineSpacing? = (number? text).map fun number =>
      Binary64.thereAndBack number (if Exact spacing then 20 else 240) := by
  obtain ⟨format, found, inside⟩ := Option.bind_eq_some_iff.mp spaced
  have held : style.paragraph = paragraphFormat format := by
    obtain ⟨id, _, rfl⟩ := Option.map_eq_some_iff.mp read
    simp only [found, Option.map_some, Option.getD_some]
  rw [Style.lineSpacing?, held, paragraphFormat, inside, Option.bind_some, lineSpacing?, written,
    Option.bind_some, Option.map_map]
  congr 1
  funext number
  by_cases rule : Exact spacing
  · rw [if_pos rule]
    exact congrArg LineSpacing.twentieths (if_pos rule)
  · rw [if_neg rule]
    exact congrArg LineSpacing.twentieths (if_neg rule)

theorem read_withoutSize (element : Element) (style : Style)
    (read : style? element = some style) (undeclared : style.fontSize? = none) :
    style? (withoutSize element) = some style := by
  have sizeless : style.font.size = none := Option.map_eq_none_iff.mp undeclared
  rw [style?_withoutSize, read, Option.map_some, ← sizeless]

theorem read_withoutSpacing (element : Element) (style : Style)
    (read : style? element = some style) (undeclared : style.lineSpacing? = none) :
    style? (withoutSpacing element) = some style := by
  have unspaced : style.paragraph.lineSpacing = none := Option.map_eq_none_iff.mp undeclared
  rw [style?_withoutSpacing, read, Option.map_some, ← unspaced]

/--
A style whose size, or whose spacing, is written as a text without a digit. The style leaves the
attribute to its base, as it does without that element, exactly if the text is not a word for
infinity or for what is no number. If it is one, the attribute comes to an extreme in every sheet.
-/
theorem digitless_left_to_base (element : Element) (style : Style) (text : String)
    (read : style? element = some style)
    (digitless : ∀ char ∈ text.toList, char.isDigit = false) :
    (sizeText? element = some text →
      LeftUnlessWord Style.fontSize? style element (withoutSize element) text) ∧
    ∀ spacing, spacing? element = some spacing → spacing.value? "line" = some text →
      LeftUnlessWord Style.lineSpacing? style element (withoutSpacing element) text := by
  constructor
  · intro written
    have declares := declared_size element style text read written
    apply leftUnlessWord Style.fontSize? style element (withoutSize element) text _ read rfl
      digitless declares
    · intro nothing
      apply read_withoutSize element style read
      rw [declares, nothing, Option.map_none]
    · rw [Binary64.two_eq]
      exact fun number => Binary64.thereAndBack_mem number _
        (Binary64.divisor_ne_zero 1 1 (by decide))
  · intro spacing spaced written
    have declares := declared_spacing_of_text element spacing style text read spaced written
    apply leftUnlessWord Style.lineSpacing? style element (withoutSpacing element) text _ read rfl
      digitless declares
    · intro nothing
      apply read_withoutSpacing element style read
      rw [declares, nothing, Option.map_none]
    · intro number
      split
      · rw [LineSpacing.points_divisor]
        exact Binary64.thereAndBack_mem number _ (Binary64.divisor_ne_zero 5 2 (by decide))
      · rw [LineSpacing.lines_divisor]
        exact Binary64.thereAndBack_mem number _ (Binary64.divisor_ne_zero 15 4 (by decide))

def heirElement (text : String) : Element :=
  ⟨⟨wordName "style", [⟨wordName "styleId", "s"⟩]⟩,
    [.element ⟨wordName "basedOn", [⟨wordName "val", "b"⟩]⟩ [],
      .element ⟨wordName "pPr", []⟩ [.element ⟨wordName "spacing", [⟨wordName "line", text⟩]⟩ []],
      .element ⟨wordName "rPr", []⟩ [.element ⟨wordName "sz", [⟨wordName "val", text⟩]⟩ []]]⟩

def heir (text : String) : Style :=
  { Style.plain "s" with
    basedOn := some "b"
    font := ⟨none, (number? text).map Points.ofHalfPoints, none, none⟩
    paragraph := paragraphFormat (formatElement [⟨wordName "line", text⟩]) }

theorem style?_heirElement (text : String) : style? (heirElement text) = some (heir text) := by
  have based : (heirElement text).childValue? "basedOn" = some "b" := rfl
  have named : nonEmpty? (some "b") = some "b" := by decide
  rw [style?, based, named]
  rfl

def heirBase : Style :=
  { Style.plain "b" with
    font := ⟨none, some (Points.ofHalfPoints 24), none, none⟩
    paragraph := ⟨some (.multiple 2), none⟩ }

def heirSheet (text : String) : Sheet := .ofList [heir text, heirBase]

theorem heirBase_declares : heirBase.fontSize? = some 24 ∧ heirBase.lineSpacing? = some 480 := by
  decide +kernel

/-- A text that stands for no size. -/
theorem auto_left_to_base :
    ((∀ char ∈ "auto".toList, char.isDigit = false) ∧ ¬IsNumberWord "auto") ∧
    LeftToBase Style.fontSize? (heir "auto") (heirElement "auto")
      (withoutSize (heirElement "auto")) ∧
    LeftToBase Style.lineSpacing? (heir "auto") (heirElement "auto")
      (withoutSpacing (heirElement "auto")) ∧
    (heirSheet "auto").fontSize? (heir "auto") = some 24 ∧
      (heirSheet "auto").lineSpacing? (heir "auto") = some 480 := by
  have digitless : ∀ char ∈ "auto".toList, char.isDigit = false := by simp
  have unread : number? "auto" = none := by decide +kernel
  have other : ¬IsNumberWord "auto" := by
    rcases number?_cases "auto" digitless with ⟨_, number, read, _⟩ | ⟨other, _⟩
    · rw [unread] at read
      cases read
    · exact other
  obtain ⟨sized, spaced⟩ := digitless_left_to_base (heirElement "auto") (heir "auto") "auto"
    (style?_heirElement "auto") digitless
  have size := (sized rfl).left_iff.mpr other
  have spacing := (spaced _ rfl rfl).left_iff.mpr other
  have registered : (heirSheet "auto").byId? "s" = some (heir "auto") := by decide +kernel
  have based : (heirSheet "auto").base? (heir "auto") = some heirBase := by decide +kernel
  refine ⟨⟨digitless, other⟩, size, spacing, ?_, ?_⟩
  · rw [Sheet.fontSize?, size.from_base _ registered, based, Option.bind_some]
    exact Sheet.resolve?_self _ _ _ _ heirBase_declares.1
  · rw [Sheet.lineSpacing?, spacing.from_base _ registered, based, Option.bind_some]
    exact Sheet.resolve?_self _ _ _ _ heirBase_declares.2

/-- Twelve points are not inherited where the size is not a number. -/
theorem nan_not_left_to_base :
    (∀ char ∈ "nan".toList, char.isDigit = false) ∧
    style? (heirElement "nan") = some (heir "nan") ∧ sizeText? (heirElement "nan") = some "nan" ∧
    (heir "nan").fontSize? = some 0 ∧ (heirSheet "nan").base? (heir "nan") = some heirBase ∧
    (heirSheet "nan").fontSize? (heir "nan") = some 0 ∧
      (heirSheet "nan").fontSize? heirBase = some 24 := by
  have declares : (heir "nan").fontSize? = some 0 := by decide +kernel
  exact ⟨by simp, style?_heirElement "nan", rfl, declares, by decide +kernel,
    Sheet.resolve?_self _ _ _ _ declares, Sheet.resolve?_self _ _ _ _ heirBase_declares.1⟩

end Word

end HouseStyle
