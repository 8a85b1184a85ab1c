import HouseStyle.Proofs.Style.Declaration
import HouseStyle.Word

/-!
Canonical names in the markup of a sheet. An element of a style is shown under the name that is
stored in it, in the spelling that is shown, or under its id where no name is stored. A canonical
name selects among the elements by what they are shown as: the first that is shown under the name
itself, and the first under its alias only where no element is shown under the name.
-/

namespace HouseStyle.Word

open Xml (Attribute Element Node wordName)

/-- The name that the element of a style is shown under; an element without an id is no style. -/
inductive ShownAs (element : Element) : String → Prop
  | named {id stored : String} (identified : element.value? "styleId" = some id)
      (stores : element.childValue? "name" = some stored) :
      ShownAs element (Canonical.shownName stored)
  | unnamed {id : String} (identified : element.value? "styleId" = some id)
      (nameless : element.childValue? "name" = none) : ShownAs element id

def FirstShown (root : Element) (name : String) (element : Element) : Prop :=
  ∃ before behind, root.words "style" = before ++ element :: behind ∧ ShownAs element name ∧
    ∀ other ∈ before, ¬ShownAs other name

theorem shownAs_iff (element : Element) (name : String) :
    ShownAs element name ↔ ∃ style, style? element = some style ∧ style.name = name := by
  constructor
  · intro shown
    cases shown with
    | named identified stores =>
      refine ⟨_, Option.map_eq_some_iff.mpr ⟨_, identified, rfl⟩, ?_⟩
      simp only [stores, Option.map_some, Option.getD_some]
    | unnamed identified nameless =>
      refine ⟨_, Option.map_eq_some_iff.mpr ⟨_, identified, rfl⟩, ?_⟩
      simp only [nameless, Option.map_none, Option.getD_none]
  · rintro ⟨style, read, rfl⟩
    obtain ⟨id, identified, rfl⟩ := Option.map_eq_some_iff.mp read
    cases stores : element.childValue? "name" with
    | some stored => exact .named identified stores
    | none => exact .unnamed identified stores

theorem any_named_iff (element : Element) (name : String) :
    ((style? element).any fun style => style.name == name) = true ↔ ShownAs element name := by
  rw [shownAs_iff, Option.any_eq_true]
  simp only [beq_iff_eq]

instance (element : Element) (name : String) : Decidable (ShownAs element name) :=
  decidable_of_iff _ (any_named_iff element name)

theorem ShownAs.eq_of_stores {element : Element} {name stored : String}
    (shown : ShownAs element name) (stores : element.childValue? "name" = some stored) :
    Canonical.shownName stored = name := by
  cases shown with
  | named identified storesToo =>
    rw [stores] at storesToo
    rw [Option.some.inj storesToo]
  | unnamed identified nameless =>
    rw [stores] at nameless
    contradiction

section Selection

variable (root : Element) (name : String)

theorem byName?_eq_some_iff (style : Style) :
    (sheet root).byName? name = some style ↔
      ∃ element, FirstShown root name element ∧ style? element = some style := by
  rw [Sheet.byName?_eq_find?, sheet, Sheet.toList_ofList, List.find?_filterMap,
    Option.bind_eq_some_iff]
  simp only [List.find?_eq_some_iff_append, any_named_iff, Bool.not_eq_true', FirstShown,
    ← Bool.not_eq_true]
  constructor
  · rintro ⟨element, ⟨shown, before, behind, parts, passed⟩, read⟩
    exact ⟨element, ⟨before, behind, parts, shown, passed⟩, read⟩
  · rintro ⟨element, ⟨before, behind, parts, shown, passed⟩, read⟩
    exact ⟨element, ⟨shown, before, behind, parts, passed⟩, read⟩

theorem byName?_eq_none_iff :
    (sheet root).byName? name = none ↔
      ∀ element ∈ root.words "style", ¬ShownAs element name := by
  rw [Sheet.byName?_eq_find?, sheet, Sheet.toList_ofList, List.find?_eq_none]
  simp only [List.mem_filterMap, beq_iff_eq, shownAs_iff]
  constructor
  · rintro missing element member ⟨style, read, named⟩
    exact missing style ⟨element, member, read⟩ named
  · rintro missing style ⟨element, member, read⟩ named
    exact missing element member ⟨style, read, named⟩

/-- The element of a canonical name: the first shown under it, or else the first under its alias. -/
inductive Selects (root : Element) (name : String) (element : Element) : Prop
  | named (first : FirstShown root name element)
  | aliased {other : String} (known : (name, other) ∈ Canonical.aliases)
      (unshown : ∀ held ∈ root.words "style", ¬ShownAs held name)
      (first : FirstShown root other element)

theorem find?_eq_some_iff (style : Style) :
    Canonical.find? (sheet root) name = some style ↔
      ∃ element, Selects root name element ∧ style? element = some style := by
  rw [Canonical.find?_eq_some_iff]
  simp only [byName?_eq_some_iff, byName?_eq_none_iff]
  constructor
  · rintro (⟨element, first, read⟩ | ⟨other, known, unshown, element, first, read⟩)
    · exact ⟨element, .named first, read⟩
    · exact ⟨element, .aliased known unshown first, read⟩
  · rintro ⟨element, first | ⟨known, unshown, first⟩, read⟩
    · exact .inl ⟨element, first, read⟩
    · exact .inr ⟨_, known, unshown, element, first, read⟩

theorem find?_eq_none_iff :
    Canonical.find? (sheet root) name = none ↔
      (∀ element ∈ root.words "style", ¬ShownAs element name) ∧
      ∀ other, (name, other) ∈ Canonical.aliases →
        ∀ element ∈ root.words "style", ¬ShownAs element other := by
  rw [Canonical.find?_eq_none_iff]
  simp only [byName?_eq_none_iff]

end Selection

/--
The style of any canonical name in the sheet of any root. It is the first that is shown under the
name, or else the first that is shown under the alias of the name, or else none. So a style under
the name is found wherever one under the alias stands, and a style with a stored name is never found
for its id.
-/
theorem selected_by_shown_name (root : Element) (name : String) :
    (∀ style, Canonical.find? (sheet root) name = some style ↔
      ∃ element, Selects root name element ∧ style? element = some style) ∧
    (Canonical.find? (sheet root) name = none ↔
      (∀ element ∈ root.words "style", ¬ShownAs element name) ∧
      ∀ other, (name, other) ∈ Canonical.aliases →
        ∀ element ∈ root.words "style", ¬ShownAs element other) ∧
    (∀ element ∈ root.words "style", ShownAs element name →
      ∃ style, Canonical.find? (sheet root) name = some style ∧ style.name = name) ∧
    ∀ element stored, Selects root name element → element.childValue? "name" = some stored →
      Canonical.shownName stored = name ∨
      (name, Canonical.shownName stored) ∈ Canonical.aliases := by
  refine ⟨find?_eq_some_iff root name, find?_eq_none_iff root name, ?_, ?_⟩
  · intro element member shown
    cases found : (sheet root).byName? name with
    | none => exact absurd shown ((byName?_eq_none_iff root name).mp found element member)
    | some style =>
      obtain ⟨first, ⟨_, _, _, named, _⟩, read⟩ := (byName?_eq_some_iff root name style).mp found
      obtain ⟨other, readToo, same⟩ := (shownAs_iff first name).mp named
      obtain rfl : style = other := Option.some.inj (read.symm.trans readToo)
      exact ⟨style, (Canonical.find?_eq_some_iff _ name style).mpr (.inl found), same⟩
  · intro element stored selects stores
    cases selects with
    | named first =>
      obtain ⟨_, _, _, shown, _⟩ := first
      exact .inl (shown.eq_of_stores stores)
    | @aliased other known unshown first =>
      obtain ⟨_, _, _, shown, _⟩ := first
      rw [shown.eq_of_stores stores]
      exact .inr known

def nameElement (id : String) (stored : Option String) : Element :=
  ⟨⟨wordName "style", [⟨wordName "styleId", id⟩]⟩,
    stored.toList.map fun name => .element ⟨wordName "name", [⟨wordName "val", name⟩]⟩ []⟩

/-- The other name of a heading, its name for an id, and the stored name twice, in this order. -/
def crossed : Element :=
  ⟨⟨wordName "styles", []⟩,
    [(nameElement "a" (some "Heading1")), (nameElement "Heading 1" (some "Note")),
      (nameElement "b" (some "heading 1")), (nameElement "c" (some "heading 1"))].map
      fun style => .element style.tag style.children⟩

/--
The alias stands first and an id is the very name, but the stored name is found, the first time.
-/
theorem crossed_names_selected :
    nameElement "b" (some "heading 1") ∈ crossed.words "style" ∧
    ShownAs (nameElement "b" (some "heading 1")) "Heading 1" ∧
    (∃ style, Canonical.find? (sheet crossed) "Heading 1" = some style ∧
      style.name = "Heading 1") ∧
    Canonical.find? (sheet crossed) "Heading 1" =
      some { Style.plain "b" with name := "Heading 1" } := by
  have listed : crossed.words "style" =
      [nameElement "a" (some "Heading1"), nameElement "Heading 1" (some "Note"),
        nameElement "b" (some "heading 1"), nameElement "c" (some "heading 1")] := rfl
  have member : nameElement "b" (some "heading 1") ∈ crossed.words "style" := by
    rw [listed]
    simp
  have shown : ShownAs (nameElement "b" (some "heading 1")) "Heading 1" :=
    @ShownAs.named _ "b" "heading 1" rfl rfl
  obtain ⟨selected, _, found, _⟩ := selected_by_shown_name crossed "Heading 1"
  refine ⟨member, shown, found _ member shown, (selected _).mpr ?_⟩
  exact ⟨nameElement "b" (some "heading 1"),
    .named ⟨[nameElement "a" (some "Heading1"), nameElement "Heading 1" (some "Note")],
      [nameElement "c" (some "heading 1")], listed, shown, by decide⟩, rfl⟩

end HouseStyle.Word
