import HouseStyle.Proofs.Style.Lineage
import HouseStyle.Style.Lineage
import Mathlib.Data.List.Forall2

/-!
Traits apart from each other. Two sheets may declare quite different things: where they agree place
by place on ids, on bases and on one trait, a walk through the one goes beside the walk through the
other, step by step, and comes to an end with it. So the trait comes to the same in both, and what
is declared of another trait neither ends a walk nor prolongs it.
-/

namespace HouseStyle

section Lists

variable {Akin : Style → Style → Prop} {firsts seconds : List Style}

theorem find?_alike (placed : List.Forall₂ Akin firsts seconds) (test : Style → Bool)
    (same : ∀ style other, Akin style other → test style = test other) :
    Option.Rel Akin (firsts.find? test) (seconds.find? test) := by
  induction placed with
  | nil => exact .none
  | @cons first second _ _ akin _ ih =>
    rw [List.find?_cons, List.find?_cons, ← same first second akin]
    cases test first with
    | true => exact .some akin
    | false => exact ih

theorem findSome?_alike {Value : Type} (placed : List.Forall₂ Akin firsts seconds)
    (value? : Style → Option Value)
    (same : ∀ style other, Akin style other → value? style = value? other) :
    firsts.findSome? value? = seconds.findSome? value? := by
  induction placed with
  | nil => rfl
  | @cons first second _ _ akin _ ih =>
    rw [List.findSome?_cons, List.findSome?_cons, same first second akin, ih]

end Lists

namespace Sheet

/-- Two sheets whose styles are akin place by place, where akin styles have one id and one base. -/
structure Parallel (Akin : Style → Style → Prop) (left right : Sheet) : Prop where
  placed : List.Forall₂ Akin left.toList right.toList
  id : ∀ style other, Akin style other → style.id = other.id
  basedOn : ∀ style other, Akin style other → style.basedOn = other.basedOn

namespace Parallel

variable {Akin : Style → Style → Prop} {left right : Sheet} {style other : Style}

-- A look-up stops at the same place of both lists, for it asks for ids only.
theorem byId? (parallel : Parallel Akin left right) (key : String) :
    Option.Rel Akin (left.byId? key) (right.byId? key) := by
  rw [byId?_eq_find?, byId?_eq_find?]
  apply find?_alike parallel.placed
  intro style other akin
  rw [parallel.id style other akin]

theorem base? (parallel : Parallel Akin left right) (akin : Akin style other) :
    Option.Rel Akin (left.base? style) (right.base? other) := by
  rw [Sheet.base?, Sheet.base?, ← parallel.basedOn style other akin]
  cases style.basedOn with
  | none => exact .none
  | some id => exact parallel.byId? id

-- The two walks have the same ids behind them, so both go on or both end.
theorem toList (parallel : Parallel Akin left right) (walk beside : Walk)
    (ahead : Option.Rel Akin walk.ahead beside.ahead) (visited : beside.visited = walk.visited) :
    List.Forall₂ Akin (walk.toList left) (beside.toList right) := by
  fun_induction Walk.toList left walk generalizing beside with
  | case1 walk later step =>
    obtain ⟨seen, _⟩ := (Walk.next_none_iff left walk later).mp step
    have ends : beside.next right = (none, ⟨none, beside.visited⟩) := by
      refine (Walk.next_none_iff right _ _).mpr ⟨?_, rfl⟩
      intro second next
      rw [next] at ahead
      cases there : walk.ahead with
      | none => rw [there] at ahead; cases ahead
      | some first =>
        rw [there] at ahead
        cases ahead with
        | some akin =>
          rw [visited, ← parallel.id first second akin]
          exact seen first there
    rw [Walk.toList_of_next_none right beside _ ends]
    exact .nil
  | case2 walk first later step ih =>
    obtain ⟨there, fresh, moved⟩ := (Walk.next_some_iff left walk later first).mp step
    cases next : beside.ahead with
    | none => rw [there, next] at ahead; cases ahead
    | some second =>
      rw [there, next] at ahead
      cases ahead with
      | some akin =>
        have same := parallel.id first second akin
        have goesOn := (Walk.next_some_iff right beside _ second).mpr
          ⟨next, by rw [visited, ← same]; exact fresh, rfl⟩
        rw [Walk.toList_of_next_some right beside _ second goesOn]
        refine .cons akin (ih _ ?_ ?_)
        · rw [moved]
          exact parallel.base? akin
        · rw [moved, visited, same]

theorem lineage (parallel : Parallel Akin left right) (akin : Akin style other) :
    List.Forall₂ Akin (left.lineage style) (right.lineage other) :=
  parallel.toList (.start style) (.start other) (.some akin) rfl

theorem resolve? {Value : Type} (parallel : Parallel Akin left right) (akin : Akin style other)
    (declared : Style → Option Value)
    (same : ∀ style other, Akin style other → declared style = declared other) :
    left.resolve? style declared = right.resolve? other declared := by
  rw [resolve?_eq_lineage, resolve?_eq_lineage]
  exact findSome?_alike (parallel.lineage akin) declared same

end Parallel

end Sheet

inductive Trait where
  | fontName
  | fontSize
  | fontColor
  | lineSpacing
  | firstLineIndent

namespace Trait

def Value : Trait → Type
  | fontName => String
  | fontColor => Color
  | fontSize | lineSpacing | firstLineIndent => Int

def declared? : (trait : Trait) → Style → Option trait.Value
  | fontName => Style.fontName?
  | fontSize => Style.fontSize?
  | fontColor => fun style => style.font.color
  | lineSpacing => Style.lineSpacing?
  | firstLineIndent => fun style => style.paragraph.firstLineIndent

/-- Two styles have the same in all places that a trait is declared in; a font's name has three. -/
def Agree : Trait → Style → Style → Prop
  | fontName, style, other =>
    style.runFonts.eastAsia = other.runFonts.eastAsia ∧
      style.runFonts.ascii = other.runFonts.ascii ∧ style.font.name = other.font.name
  | fontSize, style, other => style.font.size = other.font.size
  | fontColor, style, other => style.font.color = other.font.color
  | lineSpacing, style, other => style.paragraph.lineSpacing = other.paragraph.lineSpacing
  | firstLineIndent, style, other =>
    style.paragraph.firstLineIndent = other.paragraph.firstLineIndent

structure Akin (trait : Trait) (style other : Style) : Prop where
  id : style.id = other.id
  basedOn : style.basedOn = other.basedOn
  agree : trait.Agree style other

def shown? : (trait : Trait) → Attributes → Option trait.Value
  | fontName => Attributes.fontName
  | fontSize => Attributes.fontSize
  | fontColor => fun _ => none
  | lineSpacing => Attributes.lineSpacing
  | firstLineIndent => Attributes.firstLineIndent

end Trait

def Sheet.trait? (sheet : Sheet) (style : Style) : (trait : Trait) → Option trait.Value
  | .fontName => sheet.fontName? style
  | .fontSize => sheet.fontSize? style
  | .fontColor => sheet.fontColor? style
  | .lineSpacing => sheet.lineSpacing? style
  | .firstLineIndent => sheet.firstLineIndent? style

namespace Trait

variable (trait : Trait)

theorem declared?_eq (style other : Style) (agree : trait.Agree style other) :
    trait.declared? style = trait.declared? other := by
  cases trait with
  | fontName =>
    obtain ⟨eastAsia, ascii, named⟩ := agree
    change style.fontName? = other.fontName?
    rw [Style.fontName?, Style.fontName?, RunFonts.preferred?, RunFonts.preferred?, eastAsia,
      ascii, named]
  | fontSize => exact congrArg (Option.map Points.halfPoints) agree
  | fontColor => exact agree
  | lineSpacing => exact congrArg (Option.map LineSpacing.twentieths) agree
  | firstLineIndent => exact agree

theorem trait?_eq_resolve? (sheet : Sheet) (style : Style) :
    sheet.trait? style trait = sheet.resolve? style trait.declared? := by
  cases trait <;> rfl

-- A row is gathered in one walk, which goes on until no trait of the row is missing.
theorem shown?_eq {left right : Sheet} {style other : Style}
    (same : left.trait? style trait = right.trait? other trait) :
    trait.shown? (left.attributes style) = trait.shown? (right.attributes other) := by
  cases trait with
  | fontName => rwa [shown?, Sheet.attributes_fontName, Sheet.attributes_fontName]
  | fontSize => rwa [shown?, Sheet.attributes_fontSize, Sheet.attributes_fontSize]
  | fontColor => rfl
  | lineSpacing => rwa [shown?, Sheet.attributes_lineSpacing, Sheet.attributes_lineSpacing]
  | firstLineIndent =>
    rwa [shown?, Sheet.attributes_firstLineIndent, Sheet.attributes_firstLineIndent]

theorem parallel {lefts rights : List Style} (alike : List.Forall₂ trait.Akin lefts rights) :
    Sheet.Parallel trait.Akin (.ofList lefts) (.ofList rights) where
  placed := by
    rw [Sheet.toList_ofList, Sheet.toList_ofList]
    exact alike
  id _ _ akin := akin.id
  basedOn _ _ akin := akin.basedOn

end Trait

namespace Sheet

/--
Two lists of styles that agree place by place on ids, on bases and on a trait, and styles that stand
at one place in them. The trait comes to the same for both, by itself and in a row of a listing, and
the lineages are as long as each other and hold, one after the other, styles that agree again.
-/
theorem traits_apart (trait : Trait) (lefts rights : List Style)
    (alike : List.Forall₂ trait.Akin lefts rights) (place : Nat) (style other : Style)
    (here : lefts[place]? = some style) (there : rights[place]? = some other) :
    (ofList lefts).trait? style trait = (ofList rights).trait? other trait ∧
    trait.shown? ((ofList lefts).attributes style) =
      trait.shown? ((ofList rights).attributes other) ∧
    List.Forall₂ trait.Akin ((ofList lefts).lineage style) ((ofList rights).lineage other) := by
  have akin : trait.Akin style other := by
    obtain ⟨inside, rfl⟩ := List.getElem?_eq_some_iff.mp here
    obtain ⟨insideToo, rfl⟩ := List.getElem?_eq_some_iff.mp there
    exact alike.get inside insideToo
  have parallel := trait.parallel alike
  have same : (ofList lefts).trait? style trait = (ofList rights).trait? other trait := by
    rw [trait.trait?_eq_resolve?, trait.trait?_eq_resolve?]
    exact parallel.resolve? akin trait.declared? fun _ _ akin => trait.declared?_eq _ _ akin.agree
  exact ⟨same, trait.shown?_eq same, parallel.lineage akin⟩

/-- A style on the way into a circle of two, the second of which declares a size and no more. -/
def sparse : List Style :=
  [linked "a" "A" "b", linked "b" "B" "c",
    { linked "c" "C" "b" with font := ⟨none, some 12, none, none⟩ }]

def lavish : List Style :=
  [{ linked "a" "Caption" "b" with
      kind := .table
      runFonts := ⟨some "SimSun", none⟩
      font := ⟨some "Arial", none, some .black, some true⟩
      paragraph := ⟨some (.multiple 2), some 420⟩ },
    { linked "b" "Caption" "c" with paragraph := ⟨some (.exact 15), none⟩ },
    { linked "c" "Normal" "b" with font := ⟨none, some 12, some .black, none⟩ }]

/-- The size is inherited from the circle past styles that declare everything but a size. -/
theorem size_apart :
    List.Forall₂ Trait.fontSize.Akin sparse lavish ∧
    (sparse[0]?).bind (ofList sparse).fontSize? = some 24 ∧
    (lavish[0]?).bind (ofList lavish).fontSize? = some 24 := by
  have alike : List.Forall₂ Trait.fontSize.Akin sparse lavish :=
    .cons ⟨rfl, rfl, rfl⟩ (.cons ⟨rfl, rfl, rfl⟩ (.cons ⟨rfl, rfl, rfl⟩ .nil))
  have sized : (ofList sparse).fontSize? (linked "a" "A" "b") = some 24 := by decide +kernel
  obtain ⟨same, _, _⟩ := traits_apart .fontSize sparse lavish alike 0 _ _ rfl rfl
  exact ⟨alike, sized, same.symm.trans sized⟩

end Sheet

end HouseStyle
