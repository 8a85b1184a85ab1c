import HouseStyle.Style.Basic
import Std.Data.TreeMap

/-!
A sheet of styles in order of declaration, with an index by id and an index by name. Ids and names
may repeat; a look-up finds the style that was declared first. Both indexes always belong to the
list of styles, so a look-up is a search of that list (`byId?_eq_find?`, `byName?_eq_find?`).
-/

namespace HouseStyle

/-!
An index of positions by key. A key may come up many times; the index keeps the first position.
-/

structure Index where
  places : Std.TreeMap String Nat

namespace Index

def empty : Index := ⟨∅⟩

def position? (index : Index) (key : String) : Option Nat := index.places[key]?

def register (index : Index) (key : String) (position : Nat) : Index :=
  ⟨index.places.insertIfNew key position⟩

def ofKeys (keys : List String) : Index :=
  keys.zipIdx.foldl (fun index entry => index.register entry.1 entry.2) empty

theorem ofKeys_concat (keys : List String) (key : String) :
    ofKeys (keys ++ [key]) = (ofKeys keys).register key keys.length := by
  simp [ofKeys, List.zipIdx_append]

theorem position?_register (index : Index) (key other : String) (position : Nat) :
    (index.register key position).position? other =
      (index.position? other).or (if other = key then some position else none) := by
  unfold register position?
  rw [Std.TreeMap.getElem?_insertIfNew]
  by_cases same : other = key
  · subst same
    cases known : index.places[other]? with
    | some place => simp [Std.TreeMap.mem_iff_isSome_getElem?, known]
    | none => simp [Std.TreeMap.mem_iff_isSome_getElem?, known]
  · simp [same, Ne.symm same]

theorem position?_foldl (keys : List String) (first : Nat) (index : Index) (key : String) :
    ((keys.zipIdx first).foldl (fun known entry => known.register entry.1 entry.2)
        index).position? key =
      (index.position? key).or ((keys.idxOf? key).map (· + first)) := by
  induction keys generalizing first index with
  | nil => simp
  | cons head rest ih =>
    rw [List.zipIdx_cons, List.foldl_cons, ih, position?_register, Option.or_assoc,
      List.idxOf?_cons]
    by_cases same : key = head
    · subst same
      simp
    · have differs : (head == key) = false := by simp [Ne.symm same]
      simp [same, differs, Function.comp_def, Nat.add_comm, Nat.add_left_comm]

/-- A key that comes up twice keeps the place of its first appearance. -/
theorem position?_ofKeys (keys : List String) (key : String) :
    (ofKeys keys).position? key = keys.idxOf? key := by
  rw [ofKeys, position?_foldl]
  simp [position?, empty]

end Index

/-! A sheet. -/

structure Sheet where
  styles : Array Style
  ids : Index
  names : Index
  ids_eq : ids = Index.ofKeys (styles.toList.map Style.id)
  names_eq : names = Index.ofKeys (styles.toList.map Style.name)

namespace Sheet

def empty : Sheet := ⟨#[], .empty, .empty, rfl, rfl⟩

def add (sheet : Sheet) (style : Style) : Sheet :=
  let place := sheet.styles.size
  { styles := sheet.styles.push style
    ids := sheet.ids.register style.id place
    names := sheet.names.register style.name place
    ids_eq := by
      rw [sheet.ids_eq, Array.toList_push, List.map_append, List.map_singleton,
        Index.ofKeys_concat, List.length_map, Array.length_toList]
    names_eq := by
      rw [sheet.names_eq, Array.toList_push, List.map_append, List.map_singleton,
        Index.ofKeys_concat, List.length_map, Array.length_toList] }

def ofList (styles : List Style) : Sheet := styles.foldl add empty

def toList (sheet : Sheet) : List Style := sheet.styles.toList

def size (sheet : Sheet) : Nat := sheet.styles.size

def isEmpty (sheet : Sheet) : Bool := sheet.styles.isEmpty

def byId? (sheet : Sheet) (id : String) : Option Style :=
  (sheet.ids.position? id).bind (sheet.styles[·]?)

def byName? (sheet : Sheet) (name : String) : Option Style :=
  (sheet.names.position? name).bind (sheet.styles[·]?)

def contains (sheet : Sheet) (name : String) : Bool := (sheet.names.position? name).isSome

theorem toList_empty : empty.toList = [] := rfl

theorem toList_add (sheet : Sheet) (style : Style) :
    (sheet.add style).toList = sheet.toList ++ [style] := Array.toList_push

theorem getElem?_idxOf?_map (styles : List Style) (field : Style → String) (key : String) :
    ((styles.map field).idxOf? key).bind (styles[·]?) =
      styles.find? fun style => field style == key := by
  induction styles with
  | nil => rfl
  | cons head rest ih =>
    rw [List.map_cons, List.idxOf?_cons, List.find?_cons]
    cases same : field head == key with
    | true => simp
    | false => simpa [Option.bind_map, Function.comp_def] using ih

theorem byId?_eq_find? (sheet : Sheet) (id : String) :
    sheet.byId? id = sheet.toList.find? fun style => style.id == id := by
  rw [byId?, sheet.ids_eq, Index.position?_ofKeys, ← getElem?_idxOf?_map]
  simp only [toList, Array.getElem?_toList]

theorem byName?_eq_find? (sheet : Sheet) (name : String) :
    sheet.byName? name = sheet.toList.find? fun style => style.name == name := by
  rw [byName?, sheet.names_eq, Index.position?_ofKeys, ← getElem?_idxOf?_map]
  simp only [toList, Array.getElem?_toList]

end Sheet

end HouseStyle

/-!
Canonical style names. Files store the names of built-in styles in lower case and sheets show them
capitalised; some programs store a name of their own instead, under which a canonical style is
found when no style has the canonical name itself.
-/

namespace HouseStyle.Canonical

def shownNames : List (String × String) :=
  [("caption", "Caption"), ("footer", "Footer"), ("header", "Header"),
   ("heading 1", "Heading 1"), ("heading 2", "Heading 2"), ("heading 3", "Heading 3"),
   ("heading 4", "Heading 4"), ("heading 5", "Heading 5"), ("heading 6", "Heading 6"),
   ("heading 7", "Heading 7"), ("heading 8", "Heading 8"), ("heading 9", "Heading 9"),
   ("normal", "Normal"), ("subtitle", "Subtitle"), ("title", "Title")]

def shownName (stored : String) : String := (shownNames.lookup stored).getD stored

def aliases : List (String × String) :=
  [("Heading 1", "Heading1"), ("Heading 2", "Heading2"), ("Heading 3", "Heading3"),
   ("Normal", "Normal (Web)")]

/-- The style of a canonical name: the one that has it, or else the one under its alias. -/
def find? (sheet : Sheet) (name : String) : Option Style :=
  (sheet.byName? name).or ((aliases.lookup name).bind sheet.byName?)

def body : String := "Normal"

def heading : String := "Heading 1"

end HouseStyle.Canonical
