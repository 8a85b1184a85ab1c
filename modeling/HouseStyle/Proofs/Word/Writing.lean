import HouseStyle.Word
import Mathlib.Data.List.Basic

/-!
Word processing markup to be read again. The attributes of an element and its children are written
from rows: each item of a row has a label, and is written if there is something under it. A question
asked of the element is then a question asked of the row. An element in which nothing would stand
may be left out, and whoever reads it takes that for the same.
-/

namespace HouseStyle

namespace Xml

def Element.node (element : Element) : Node := .element element.tag element.children

def Element.bare (label : String) : Element := ⟨⟨wordName label, []⟩, []⟩

theorem wordName_inj (label other : String) : wordName label = wordName other ↔ label = other := by
  simp [wordName]

theorem asWord?_node (element : Element) (label : String) :
    element.node.asWord? label =
      if element.tag.name = wordName label then some element else none := by
  simp [Element.node, Node.asWord?, Node.asElement?, Option.filter_some]

theorem word?_eq_head? (element : Element) (label : String) :
    element.word? label = (element.words label).head? := by
  rw [Element.word?, Element.words, List.head?_filterMap]

end Xml

namespace Word

open Xml

section Rows

variable {Value : Type}

def held (label : String) (row : List (String × Option Value)) : List Value :=
  row.flatMap fun item => if item.1 = label then item.2.toList else []

def first? (label : String) (row : List (String × Option Value)) : Option Value :=
  (held label row).head?

theorem held_nil (label : String) : held label ([] : List (String × Option Value)) = [] := rfl

theorem held_cons (label : String) (item : String × Option Value)
    (rest : List (String × Option Value)) :
    held label (item :: rest) =
      (if item.1 = label then item.2.toList else []) ++ held label rest := List.flatMap_cons

@[simp] theorem first?_nil (label : String) :
    first? label ([] : List (String × Option Value)) = none := rfl

@[simp] theorem first?_cons (label : String) (item : String × Option Value)
    (rest : List (String × Option Value)) :
    first? label (item :: rest) =
      if item.1 = label then item.2.or (first? label rest) else first? label rest := by
  rw [first?, held_cons]
  split
  · cases item.2 with
    | none => rfl
    | some value => rfl
  · rfl

theorem held_map_same {Item : Type} (label : String) (items : List Item) (value : Item → Value) :
    held label (items.map fun item => (label, some (value item))) = items.map value := by
  induction items with
  | nil => rfl
  | cons item rest ih => rw [List.map_cons, held_cons, ih]; simp

@[simp] theorem first?_map_other {Item : Type} (label other : String) (items : List Item)
    (value : Item → Option Value) (apart : other ≠ label) :
    first? label (items.map fun item => (other, value item)) = none := by
  induction items with
  | nil => rfl
  | cons item rest ih => rw [List.map_cons, first?_cons, if_neg apart, ih]

theorem first?_map {Other : Type} (label : String) (row : List (String × Option Value))
    (change : Value → Other) :
    first? label (row.map fun item => (item.1, item.2.map change)) =
      (first? label row).map change := by
  induction row with
  | nil => rfl
  | cons item rest ih =>
    rw [List.map_cons, first?_cons, first?_cons, ih]
    split
    · rw [Option.map_or]
    · rfl

theorem held_length_le (label : String) (row : List (String × Option Value))
    (distinct : (row.map Prod.fst).Nodup) : (held label row).length ≤ 1 := by
  induction row with
  | nil => exact Nat.zero_le 1
  | cons item rest ih =>
    obtain ⟨fresh, later⟩ := List.nodup_cons.mp distinct
    rw [held_cons]
    by_cases same : item.1 = label
    · have behind : held label rest = [] := by
        rw [held, List.flatMap_eq_nil_iff]
        intro other member
        have apart : other.1 ≠ label := by
          rintro rfl
          exact fresh (same ▸ List.mem_map_of_mem member)
        rw [if_neg apart]
      rw [if_pos same, behind, List.append_nil]
      cases item.2 with
      | none => exact Nat.zero_le 1
      | some value => exact Nat.le_refl 1
    · rw [if_neg same, List.nil_append]
      exact ih later

/-- With distinct labels it does not matter in which order a row is written. -/
theorem first?_perm (label : String) (left right : List (String × Option Value))
    (order : left.Perm right) (distinct : (right.map Prod.fst).Nodup) :
    first? label left = first? label right := by
  have reordered : (held label left).Perm (held label right) := order.flatMap_right _
  have short := held_length_le label right distinct
  rw [first?, first?]
  cases listed : held label right with
  | nil => rw [listed] at reordered; rw [reordered.eq_nil]
  | cons value rest =>
    rw [listed, List.length_cons] at short
    have single : rest = [] := List.eq_nil_of_length_eq_zero (by omega)
    rw [listed, single] at reordered
    rw [reordered.eq_singleton, single]

end Rows

/-- What stands in an element: its attributes, as far as they are there, and its children. -/
structure Content where
  attributes : List (String × Option String)
  children : List Node

namespace Content

def tagAttributes (content : Content) : List Attribute :=
  content.attributes.flatMap fun item => item.2.toList.map fun value => ⟨wordName item.1, value⟩

def element (content : Content) (label : String) : Element :=
  ⟨⟨wordName label, content.tagAttributes⟩, content.children⟩

end Content

def nodes (row : List (String × Option Content)) : List Node :=
  row.flatMap fun item => item.2.toList.map fun content => (content.element item.1).node

namespace Content

def holding (row : List (String × Option Content)) : Content := ⟨[], nodes row⟩

def mark (value : String) : Content := ⟨[("val", some value)], []⟩

/-- A switch that is on says nothing of it. -/
def switch (on : Bool) : Content := ⟨[("val", if on then none else some "0")], []⟩

def isHollow (content : Content) : Bool :=
  content.tagAttributes.isEmpty && content.children.isEmpty

/-- The content of an element, which is left out when it is hollow, unless hollow ones are kept. -/
def kept (hollow : Bool) (content : Content) : Option Content :=
  if hollow || !content.isHollow then some content else none

theorem element_of_isHollow (content : Content) (label : String)
    (nothing : content.isHollow = true) : content.element label = .bare label := by
  obtain ⟨attributes, children⟩ := Bool.and_eq_true_iff.mp nothing
  rw [element, List.isEmpty_iff.mp attributes, List.isEmpty_iff.mp children, Element.bare]

end Content

/-! What is asked of an element is asked of the rows it was written from. -/

theorem value?_element (content : Content) (label name : String) :
    (content.element label).value? name = first? name content.attributes := by
  rw [Content.element, Element.value?, Content.tagAttributes]
  simp only
  induction content.attributes with
  | nil => rfl
  | cons item rest ih =>
    rw [List.flatMap_cons, first?_cons, ← ih]
    cases item.2 with
    | none => simp
    | some value =>
      by_cases same : item.1 = name
      · simp [same]
      · simp [same, wordName_inj]

theorem value?_of_item (content : Content) (label name : String) (value : Option String)
    (item : first? name content.attributes = value) :
    (content.element label).value? name = value := by
  rw [value?_element, item]

theorem filterMap_nodes (row : List (String × Option Content)) (name : String) :
    (nodes row).filterMap (Node.asWord? name) = (held name row).map (·.element name) := by
  induction row with
  | nil => rfl
  | cons item rest ih =>
    rw [nodes, List.flatMap_cons, ← nodes, List.filterMap_append, held_cons, List.map_append, ih]
    congr 1
    cases item.2 with
    | none => simp
    | some content =>
      by_cases same : item.1 = name
      · subst same
        simp [asWord?_node, Content.element]
      · simp [asWord?_node, Content.element, wordName_inj, same]

theorem words_of_nodes (content : Content) (row : List (String × Option Content))
    (label name : String) (children : content.children = nodes row) :
    (content.element label).words name = (held name row).map (·.element name) := by
  rw [Element.words, Content.element, children, filterMap_nodes]

theorem word?_of_item (content : Content) (row : List (String × Option Content))
    (label name : String) (value : Option Content) (children : content.children = nodes row)
    (item : first? name row = value) :
    (content.element label).word? name = value.map (·.element name) := by
  rw [word?_eq_head?, words_of_nodes content row label name children, List.head?_map, ← first?,
    item]

/-- Items that are read one by one as they were written are all there, in their order. -/
theorem map_read_written {Item : Type} (items : List Item) (content : Item → Content)
    (label : String) (read : Element → Item)
    (each : ∀ item ∈ items, read ((content item).element label) = item) :
    ((items.map content).map (·.element label)).map read = items := by
  rw [List.map_map, List.map_map]
  conv => rhs; rw [← List.map_id items]
  exact List.map_congr_left each

/-! A hollow element that is left out is read as one that is there. -/

section Kept

variable {Value : Type} (hollow : Bool) (content : Content) (label : String)

theorem bind_kept (read : Element → Option Value) (nothing : read (.bare label) = none) :
    ((content.kept hollow).map (·.element label)).bind read = read (content.element label) := by
  rw [Content.kept]
  split
  · rfl
  · rename_i left_out
    have empty : content.isHollow = true := by simp_all
    rw [content.element_of_isHollow label empty, nothing]
    rfl

theorem map_kept (read : Element → Value) :
    (((content.kept hollow).map (·.element label)).map read).getD (read (.bare label)) =
      read (content.element label) := by
  rw [Content.kept]
  split
  · rfl
  · rename_i left_out
    have empty : content.isHollow = true := by simp_all
    rw [content.element_of_isHollow label empty]
    rfl

end Kept

/-! Marks and switches among the children of an element. -/

theorem childValue?_mark (content : Content) (row : List (String × Option Content))
    (label name : String) (value : Option String) (children : content.children = nodes row)
    (marked : first? name row = value.map .mark) :
    (content.element label).childValue? name = value := by
  rw [Element.childValue?, word?_of_item content row label name _ children marked]
  cases value with
  | none => rfl
  | some text => exact value?_element (.mark text) name "val"

theorem switch?_switch (content : Content) (row : List (String × Option Content))
    (label name : String) (value : Option Bool) (children : content.children = nodes row)
    (switched : first? name row = value.map .switch) :
    (content.element label).switch? name = value := by
  rw [Element.switch?, word?_of_item content row label name _ children switched]
  rcases value with _ | on | off
  · rfl
  · rfl
  · rfl

end Word

end HouseStyle
