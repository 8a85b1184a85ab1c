import HouseStyle.Proofs.Measure.LineSpacing
import HouseStyle.Proofs.Number.Decimal
import HouseStyle.Proofs.Style.Ancestry
import HouseStyle.Word

/-!
Line spacing from markup to what a style comes to. The markup gives a whole number as the text of an
attribute. A style comes to the number written in the nearest style that gives any: to the number
itself when it is an exact height, and to one less in size for some numbers that count 240ths of a
line.
-/

namespace HouseStyle

theorem Binary64.read?_toString (count : Int) :
    read? (toString count).toList = some (ofInt count) := by
  rw [read?, Numeral.real?_toString, Option.map_some, ofNumeral, ofDecimal_whole]
  rfl

open Xml (Element)

namespace Word

theorem number?_toString (count : Int) :
    number? (toString count) = some (Binary64.ofInt count) := by
  rw [number?, Text.trim_of_solid _ (Numeral.solid_toString count), Binary64.read?_toString]

def Exact (spacing : Element) : Prop :=
  spacing.value? "lineRule" = some "exact" ∨ spacing.value? "lineRule" = some "atLeast"

instance : DecidablePred Exact := fun _ => inferInstanceAs (Decidable (_ ∨ _))

def counted (spacing : Element) (count : Int) : Int :=
  if Exact spacing ∨ ¬Binary64.FallsShort count.natAbs then count else count - count.sign

theorem lineSpacing?_of_count (spacing : Element) (count : Int)
    (written : spacing.value? "line" = some (toString count)) (small : count.natAbs < 2 ^ 52) :
    (lineSpacing? spacing).map LineSpacing.twentieths = some (counted spacing count) := by
  have read : (spacing.value? "line").bind number? = some (Binary64.ofInt count) := by
    rw [written, Option.bind_some, number?_toString]
  rw [lineSpacing?, read, counted]
  by_cases exact_rule : Exact spacing
  · have rule : spacing.value? "lineRule" = some "exact" ∨
        spacing.value? "lineRule" = some "atLeast" := exact_rule
    rw [if_pos (Or.inl exact_rule)]
    simp only [Option.map_some, if_pos rule, LineSpacing.exact_twentieths count small]
  · have rule : ¬(spacing.value? "lineRule" = some "exact" ∨
        spacing.value? "lineRule" = some "atLeast") := exact_rule
    simp only [Option.map_some, if_neg rule, LineSpacing.multiple_twentieths count small,
      exact_rule, false_or, ite_not]

theorem counted_eq_self_iff (spacing : Element) (count : Int) :
    counted spacing count = count ↔ Exact spacing ∨ ¬Binary64.FallsShort count.natAbs := by
  rw [counted]
  split
  · simp_all
  · rename_i short
    have nonzero : count ≠ 0 := by
      rintro rfl
      exact short (Or.inr (by decide))
    have moved : count.sign ≠ 0 := fun none => nonzero (Int.sign_eq_zero_iff_zero.mp none)
    simp only [short, iff_false]
    omega

theorem declared_spacing (element properties spacing : Element) (declaring : Style) (count : Int)
    (read : style? element = some declaring) (formatted : element.word? "pPr" = some properties)
    (spaced : properties.word? "spacing" = some spacing)
    (written : spacing.value? "line" = some (toString count)) (small : count.natAbs < 2 ^ 52) :
    declaring.lineSpacing? = some (counted spacing count) := by
  obtain ⟨id, _, rfl⟩ := Option.map_eq_some_iff.mp read
  rw [Style.lineSpacing?, formatted, Option.map_some, Option.getD_some, paragraphFormat, spaced,
    Option.bind_some, lineSpacing?_of_count spacing count written small]

end Word

namespace Sheet

variable {Value : Type} (sheet : Sheet) (declared : Style → Option Value)

theorem resolve?_of_nearest (style declaring : Style)
    (nearest : (sheet.lineage style).find? (fun other => (declared other).isSome) =
      some declaring) :
    sheet.resolve? style declared = declared declaring := by
  obtain ⟨declares, nearer, farther, line, silent⟩ := List.find?_eq_some_iff_append.mp nearest
  have undeclared : nearer.findSome? declared = none := by
    rw [List.findSome?_eq_none_iff]
    intro other member
    simpa using silent other member
  obtain ⟨value, found⟩ := Option.isSome_iff_exists.mp declares
  rw [resolve?_eq_lineage, line, List.findSome?_append, undeclared, Option.none_or,
    List.findSome?_cons, found]

theorem resolve?_self (style : Style) (value : Value) (declares : declared style = some value) :
    sheet.resolve? style declared = some value := by
  have head := sheet.lineage_head? style
  rw [resolve?_eq_lineage]
  cases line : sheet.lineage style with
  | nil => simp [line] at head
  | cons first rest =>
    rw [line, List.head?_cons, Option.some.injEq] at head
    rw [head, List.findSome?_cons, declares]

end Sheet

namespace Word

/--
A style whose spacing is written as a whole number below 2⁵², and a style that has it from there:
both come to the same number, which is the one written, or one less in size where the division and
the multiplication lose that much.
-/
theorem written_spacing_resolved (sheet : Sheet) (element properties spacing : Element)
    (declaring : Style) (count : Int) (read : style? element = some declaring)
    (formatted : element.word? "pPr" = some properties)
    (spaced : properties.word? "spacing" = some spacing)
    (written : spacing.value? "line" = some (toString count)) (small : count.natAbs < 2 ^ 52) :
    sheet.lineSpacing? declaring = some (counted spacing count) ∧
    (∀ heir, (sheet.lineage heir).find? (fun other => other.lineSpacing?.isSome) = some declaring →
      sheet.lineSpacing? heir = some (counted spacing count)) ∧
    (counted spacing count = count ↔ Exact spacing ∨ ¬Binary64.FallsShort count.natAbs) := by
  have declared := declared_spacing element properties spacing declaring count read formatted
    spaced written small
  refine ⟨?_, ?_, counted_eq_self_iff spacing count⟩
  · exact sheet.resolve?_self Style.lineSpacing? declaring _ declared
  · intro heir nearest
    rw [Sheet.lineSpacing?, sheet.resolve?_of_nearest Style.lineSpacing? heir declaring nearest,
      declared]

open Xml (Attribute wordName)

def line (count : Int) : Attribute := ⟨wordName "line", toString count⟩

def rule (name : String) : Attribute := ⟨wordName "lineRule", name⟩

def spacingElement (attributes : List Attribute) : Element := ⟨⟨wordName "spacing", attributes⟩, []⟩

def formatElement (attributes : List Attribute) : Element :=
  ⟨⟨wordName "pPr", []⟩, [.element ⟨wordName "spacing", attributes⟩ []]⟩

def styleElement (attributes : List Attribute) : Element :=
  ⟨⟨wordName "style", [⟨wordName "styleId", "s"⟩]⟩,
    [.element ⟨wordName "pPr", []⟩ [.element ⟨wordName "spacing", attributes⟩ []]]⟩

def spacedStyle (attributes : List Attribute) : Style :=
  { Style.plain "s" with paragraph := ⟨lineSpacing? (spacingElement attributes), none⟩ }

theorem style?_styleElement (attributes : List Attribute) :
    style? (styleElement attributes) = some (spacedStyle attributes) := rfl

theorem exact_123_resolved :
    style? (styleElement [line 123, rule "exact"]) = some (spacedStyle [line 123, rule "exact"]) ∧
    (Sheet.ofList [spacedStyle [line 123, rule "exact"]]).lineSpacing?
      (spacedStyle [line 123, rule "exact"]) = some 123 := by
  refine ⟨style?_styleElement _, ?_⟩
  exact (written_spacing_resolved _ (styleElement [line 123, rule "exact"])
    (formatElement [line 123, rule "exact"]) (spacingElement [line 123, rule "exact"]) _ 123
    (style?_styleElement _) rfl rfl rfl (by decide)).1

/-- 123 / 240 is rounded down, and so is 240 times that. -/
theorem multiple_123_falls_short :
    style? (styleElement [line 123]) = some (spacedStyle [line 123]) ∧
    (Sheet.ofList [spacedStyle [line 123]]).lineSpacing? (spacedStyle [line 123]) = some 122 := by
  refine ⟨style?_styleElement _, ?_⟩
  exact Sheet.resolve?_self _ _ _ 122
    (declared_spacing (styleElement [line 123]) (formatElement [line 123])
      (spacingElement [line 123]) _ 123 (style?_styleElement _) rfl rfl rfl (by decide))

end Word

end HouseStyle
