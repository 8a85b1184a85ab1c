import HouseStyle.Style.Sheet
import Std.Data.TreeSet

/-!
The lineage of a style: the style itself, the style it is based on, and so on. Sheets come from
files, so a base may be missing and bases may run in a circle. A walk remembers the ids it has been
at and stops before it would come to one of them again; since every style it goes on to belongs to
the sheet, it cannot make more steps than the sheet has styles.
-/

namespace HouseStyle

namespace Sheet

def base? (sheet : Sheet) (style : Style) : Option Style := style.basedOn.bind sheet.byId?

theorem byId?_mem (sheet : Sheet) (id : String) (style : Style)
    (found : sheet.byId? id = some style) : style ∈ sheet.toList ∧ style.id = id := by
  rw [byId?_eq_find?] at found
  exact ⟨List.mem_of_find?_eq_some found, by simpa using List.find?_some found⟩

theorem base?_mem (sheet : Sheet) (style base : Style)
    (found : sheet.base? style = some base) : base ∈ sheet.toList := by
  obtain ⟨id, _, registered⟩ := Option.bind_eq_some_iff.mp found
  exact (sheet.byId?_mem id base registered).1

end Sheet

/-- A walk from a style to its bases: the style it would come to next and the ids behind it. -/
structure Walk where
  ahead : Option Style
  visited : Std.TreeSet String

namespace Walk

def start (style : Style) : Walk := ⟨some style, ∅⟩

def next (sheet : Sheet) (walk : Walk) : Option Style × Walk :=
  match walk with
  | ⟨none, visited⟩ => (none, ⟨none, visited⟩)
  | ⟨some style, visited⟩ =>
    if visited.contains style.id then (none, ⟨none, visited⟩)
    else (some style, ⟨sheet.base? style, visited.insert style.id⟩)

def unvisited (visited : Std.TreeSet String) (styles : List Style) : Nat :=
  styles.countP fun style => !visited.contains style.id

-- The style a walk sets out from need not belong to the sheet, and counts as one step more.
def stranger (sheet : Sheet) (walk : Walk) : Nat :=
  match walk.ahead with
  | some style => if style ∈ sheet.toList then 0 else 1
  | none => 0

def stepsLeft (sheet : Sheet) (walk : Walk) : Nat :=
  unvisited walk.visited sheet.toList + stranger sheet walk

theorem unvisited_insert_le (visited : Std.TreeSet String) (id : String) (styles : List Style) :
    unvisited (visited.insert id) styles ≤ unvisited visited styles := by
  apply List.countP_mono_left
  intro style _ fresh
  simp only [Std.TreeSet.contains_insert, Bool.not_or, Bool.and_eq_true] at fresh
  exact fresh.2

theorem unvisited_insert_lt (visited : Std.TreeSet String) (style : Style) (styles : List Style)
    (member : style ∈ styles) (fresh : visited.contains style.id = false) :
    unvisited (visited.insert style.id) styles < unvisited visited styles := by
  induction styles with
  | nil => cases member
  | cons head rest ih =>
    have shrinks := unvisited_insert_le visited style.id rest
    simp only [unvisited, List.countP_cons, Std.TreeSet.contains_insert] at ih shrinks ⊢
    rcases List.mem_cons.mp member with same | later
    · subst same
      simp only [Std.ReflCmp.compare_self, BEq.rfl, Bool.true_or, Bool.not_true, fresh,
        Bool.not_false, Bool.false_eq_true, if_true, if_false]
      omega
    · have smaller := ih later
      cases visited.contains head.id <;> cases compare style.id head.id == .eq <;>
        simp only [Bool.true_or, Bool.false_or, Bool.not_true, Bool.not_false,
          Bool.false_eq_true, if_true, if_false] <;>
        omega

theorem stepsLeft_next_lt (sheet : Sheet) (walk later : Walk) (style : Style)
    (step : walk.next sheet = (some style, later)) :
    later.stepsLeft sheet < walk.stepsLeft sheet := by
  unfold next at step
  split at step
  · simp at step
  · rename_i first visited
    split at step
    · simp at step
    · rename_i unseen
      have fresh : visited.contains first.id = false := Bool.not_eq_true _ ▸ unseen
      simp only [Prod.mk.injEq, Option.some.injEq] at step
      obtain ⟨same, rfl⟩ := step
      subst same
      have settled : stranger sheet ⟨sheet.base? first, visited.insert first.id⟩ = 0 := by
        unfold stranger
        cases base : sheet.base? first with
        | none => rfl
        | some other => simp [sheet.base?_mem first other base]
      unfold stepsLeft
      rw [settled]
      by_cases member : first ∈ sheet.toList
      · have fewer := unvisited_insert_lt visited first sheet.toList member fresh
        simp only
        omega
      · have fewer := unvisited_insert_le visited first.id sheet.toList
        have one : stranger sheet ⟨some first, visited⟩ = 1 := by simp [stranger, member]
        simp only
        omega

def toList (sheet : Sheet) (walk : Walk) : List Style :=
  match _step : walk.next sheet with
  | (none, _) => []
  | (some style, later) => style :: later.toList sheet
termination_by walk.stepsLeft sheet
decreasing_by exact stepsLeft_next_lt sheet walk later style _step

def findSome? {Value : Type} (sheet : Sheet) (value? : Style → Option Value) (walk : Walk) :
    Option Value :=
  match _step : walk.next sheet with
  | (none, _) => none
  | (some style, later) =>
    match value? style with
    | some value => some value
    | none => later.findSome? sheet value?
termination_by walk.stepsLeft sheet
decreasing_by exact stepsLeft_next_lt sheet walk later style _step

theorem findSome?_eq_toList {Value : Type} (sheet : Sheet) (value? : Style → Option Value)
    (walk : Walk) : walk.findSome? sheet value? = (walk.toList sheet).findSome? value? := by
  fun_induction findSome? sheet value? walk with
  | case1 walk later step =>
    rw [toList]
    split <;> simp_all
  | case2 walk style later step value declared =>
    rw [toList]
    split <;> simp_all
  | case3 walk style later step undeclared ih =>
    rw [ih]
    conv => rhs; rw [toList]
    split <;> simp_all

end Walk

def Sheet.lineage (sheet : Sheet) (style : Style) : List Style := (Walk.start style).toList sheet

end HouseStyle

/-!
What an attribute comes to: the nearest style of the lineage that declares it decides, and those
behind it are not looked at.
-/

namespace HouseStyle.Sheet

variable {Value : Type}

def resolve? (sheet : Sheet) (style : Style) (declared : Style → Option Value) : Option Value :=
  (Walk.start style).findSome? sheet declared

theorem resolve?_eq_lineage (sheet : Sheet) (style : Style) (declared : Style → Option Value) :
    sheet.resolve? style declared = (sheet.lineage style).findSome? declared :=
  Walk.findSome?_eq_toList sheet declared (.start style)

def fontName? (sheet : Sheet) (style : Style) : Option String :=
  sheet.resolve? style Style.fontName?

def fontSize? (sheet : Sheet) (style : Style) : Option Int :=
  sheet.resolve? style Style.fontSize?

def fontColor? (sheet : Sheet) (style : Style) : Option Color :=
  sheet.resolve? style fun declaring => declaring.font.color

def bold? (sheet : Sheet) (style : Style) : Option Bool :=
  sheet.resolve? style fun declaring => declaring.font.bold

def lineSpacing? (sheet : Sheet) (style : Style) : Option Int :=
  sheet.resolve? style Style.lineSpacing?

def firstLineIndent? (sheet : Sheet) (style : Style) : Option Int :=
  sheet.resolve? style fun declaring => declaring.paragraph.firstLineIndent

end HouseStyle.Sheet

/-!
Several attributes at once. One walk takes every attribute from the nearest style that declares it
and ends when none is missing; each of them comes to what it comes to by a walk of its own.
-/

namespace HouseStyle

structure Attributes where
  fontName : Option String
  fontSize : Option Int
  lineSpacing : Option Int
  firstLineIndent : Option Int
deriving DecidableEq

namespace Attributes

def unknown : Attributes := ⟨none, none, none, none⟩

def complete (known : Attributes) : Bool :=
  known.fontName.isSome && known.fontSize.isSome && known.lineSpacing.isSome &&
    known.firstLineIndent.isSome

def extend (known : Attributes) (style : Style) : Attributes where
  fontName := known.fontName.or style.fontName?
  fontSize := known.fontSize.or style.fontSize?
  lineSpacing := known.lineSpacing.or style.lineSpacing?
  firstLineIndent := known.firstLineIndent.or style.paragraph.firstLineIndent

end Attributes

/-- What is known at the end of a walk, or when nothing is missing any more. -/
def Walk.gather (sheet : Sheet) (known : Attributes) (walk : Walk) : Attributes :=
  if known.complete then known
  else
    match _step : walk.next sheet with
    | (none, _) => known
    | (some style, later) => later.gather sheet (known.extend style)
termination_by walk.stepsLeft sheet
decreasing_by exact stepsLeft_next_lt sheet walk later style _step

theorem Walk.gather_eq_findSome? {Value : Type} (sheet : Sheet)
    (field : Attributes → Option Value) (declared : Style → Option Value)
    (extends_or : ∀ known style, field (known.extend style) = (field known).or (declared style))
    (known_of_complete : ∀ known, known.complete = true → (field known).isSome = true)
    (known : Attributes) (walk : Walk) :
    field (walk.gather sheet known) = (field known).or (walk.findSome? sheet declared) := by
  fun_induction Walk.gather sheet known walk with
  | case1 known walk complete =>
    obtain ⟨value, found⟩ := Option.isSome_iff_exists.mp (known_of_complete known complete)
    rw [found, Option.some_or]
  | case2 known walk incomplete later step =>
    rw [Walk.findSome?]
    split <;> simp_all
  | case3 known walk incomplete style later step ih =>
    rw [ih, extends_or, Option.or_assoc]
    conv => rhs; rw [Walk.findSome?]
    split
    · simp_all
    · rename_i first next same
      rw [step] at same
      obtain ⟨rfl, rfl⟩ : style = first ∧ later = next := by simpa using same
      cases declared style <;> simp

def Sheet.attributes (sheet : Sheet) (style : Style) : Attributes :=
  (Walk.start style).gather sheet .unknown

namespace Sheet

theorem attributes_fontName (sheet : Sheet) (style : Style) :
    (sheet.attributes style).fontName = sheet.fontName? style :=
  Walk.gather_eq_findSome? sheet Attributes.fontName Style.fontName? (fun _ _ => rfl)
    (fun known complete => by simp_all [Attributes.complete]) .unknown (.start style)

theorem attributes_fontSize (sheet : Sheet) (style : Style) :
    (sheet.attributes style).fontSize = sheet.fontSize? style :=
  Walk.gather_eq_findSome? sheet Attributes.fontSize Style.fontSize? (fun _ _ => rfl)
    (fun known complete => by simp_all [Attributes.complete]) .unknown (.start style)

theorem attributes_lineSpacing (sheet : Sheet) (style : Style) :
    (sheet.attributes style).lineSpacing = sheet.lineSpacing? style :=
  Walk.gather_eq_findSome? sheet Attributes.lineSpacing Style.lineSpacing? (fun _ _ => rfl)
    (fun known complete => by simp_all [Attributes.complete]) .unknown (.start style)

theorem attributes_firstLineIndent (sheet : Sheet) (style : Style) :
    (sheet.attributes style).firstLineIndent = sheet.firstLineIndent? style :=
  Walk.gather_eq_findSome? sheet Attributes.firstLineIndent
    (fun declaring => declaring.paragraph.firstLineIndent) (fun _ _ => rfl)
    (fun known complete => by simp_all [Attributes.complete]) .unknown (.start style)

end Sheet

end HouseStyle
