import HouseStyle.Proofs.Style.Declaration
import HouseStyle.Style.Lineage
import Mathlib.Data.List.Chain
import Mathlib.Data.List.Dedup

/-!
The lineage of a style, told apart from the walk that finds it. A walk is a machine with a memory of
ids; what it comes to is pinned down by four plain facts about a list of styles, and no other list
has them. The start of a walk need not be the style that is found under its id, so the count of
steps rests on ids and not on styles.
-/

namespace HouseStyle

namespace Walk

variable (sheet : Sheet)

def after (sheet : Sheet) (walk : Walk) : Nat → Walk
  | 0 => walk
  | steps + 1 => after sheet (walk.next sheet).2 steps

def answer? (sheet : Sheet) (walk : Walk) (steps : Nat) : Option Style :=
  ((walk.after sheet steps).next sheet).1

/-! What one step does: it comes to the style ahead unless that one's id is behind the walk. -/

theorem next_some_iff (walk later : Walk) (style : Style) :
    walk.next sheet = (some style, later) ↔
      walk.ahead = some style ∧ style.id ∉ walk.visited ∧
        later = ⟨sheet.base? style, walk.visited.insert style.id⟩ := by
  obtain ⟨ahead, visited⟩ := walk
  cases ahead with
  | none => simp [next]
  | some first =>
    by_cases seen : first.id ∈ visited
    · simp only [next, Std.TreeSet.contains_iff_mem, seen, if_true, Prod.mk.injEq, reduceCtorEq,
        false_and, Option.some.injEq, false_iff, not_and]
      rintro rfl unseen
      exact absurd seen unseen
    · simp only [next, Std.TreeSet.contains_iff_mem, seen, if_false, Prod.mk.injEq,
        Option.some.injEq]
      constructor
      · rintro ⟨rfl, rfl⟩
        exact ⟨rfl, seen, rfl⟩
      · rintro ⟨rfl, _, rfl⟩
        exact ⟨rfl, rfl⟩

theorem next_none_iff (walk later : Walk) :
    walk.next sheet = (none, later) ↔
      (∀ style, walk.ahead = some style → style.id ∈ walk.visited) ∧
        later = ⟨none, walk.visited⟩ := by
  obtain ⟨ahead, visited⟩ := walk
  cases ahead with
  | none => simp [next, eq_comm]
  | some first =>
    by_cases seen : first.id ∈ visited
    · simp [next, Std.TreeSet.contains_iff_mem, seen, eq_comm (a := later)]
    · simp [next, Std.TreeSet.contains_iff_mem, seen]

theorem toList_of_next_some (walk later : Walk) (style : Style)
    (step : walk.next sheet = (some style, later)) :
    walk.toList sheet = style :: later.toList sheet := by
  rw [toList]
  split <;> simp_all

theorem toList_of_next_none (walk later : Walk) (step : walk.next sheet = (none, later)) :
    walk.toList sheet = [] := by
  rw [toList]
  split <;> simp_all

theorem mem_insert_iff (visited : Std.TreeSet String) (id other : String) :
    other ∈ visited.insert id ↔ other = id ∨ other ∈ visited := by
  rw [Std.TreeSet.mem_insert, Std.compare_eq_iff_eq, eq_comm]

/-! What a whole walk does. -/

/-- Nothing lies ahead of a walk that has ended, so each further step ends it again. -/
theorem answer?_eq_getElem? (walk : Walk) (steps : Nat) :
    walk.answer? sheet steps = (walk.toList sheet)[steps]? := by
  induction steps generalizing walk with
  | zero =>
    rw [answer?, after]
    cases step : walk.next sheet with
    | mk reached later =>
      cases reached with
      | none => rw [toList_of_next_none sheet walk later step, List.getElem?_nil]
      | some style => rw [toList_of_next_some sheet walk later style step, List.getElem?_cons_zero]
  | succ steps ih =>
    have further : walk.answer? sheet (steps + 1) = (walk.next sheet).2.answer? sheet steps := rfl
    rw [further, ih]
    cases step : walk.next sheet with
    | mk reached later =>
      cases reached with
      | none =>
        obtain ⟨_, ended⟩ := (next_none_iff sheet walk later).mp step
        have still : later.next sheet = (none, later) := by rw [ended]; rfl
        rw [toList_of_next_none sheet walk later step, toList_of_next_none sheet later later still,
          List.getElem?_nil, List.getElem?_nil]
      | some style =>
        rw [toList_of_next_some sheet walk later style step, List.getElem?_cons_succ]

theorem mem_toList_unseen (walk : Walk) (style : Style) (member : style ∈ walk.toList sheet) :
    style.id ∉ walk.visited := by
  fun_induction toList sheet walk with
  | case1 walk later step => cases member
  | case2 walk first later step ih =>
    obtain ⟨_, fresh, moved⟩ := (next_some_iff sheet walk later first).mp step
    rcases List.mem_cons.mp member with same | further
    · exact same ▸ fresh
    · have unseen := ih further
      rw [moved] at unseen
      exact fun behind => unseen (Std.TreeSet.mem_insert.mpr (.inr behind))

theorem toList_nodup (walk : Walk) : ((walk.toList sheet).map Style.id).Nodup := by
  fun_induction toList sheet walk with
  | case1 walk later step => exact List.nodup_nil
  | case2 walk first later step ih =>
    obtain ⟨_, _, moved⟩ := (next_some_iff sheet walk later first).mp step
    rw [List.map_cons, List.nodup_cons]
    refine ⟨?_, ih⟩
    intro repeated
    obtain ⟨style, member, same⟩ := List.mem_map.mp repeated
    have unseen := mem_toList_unseen sheet later style member
    rw [moved, same] at unseen
    exact unseen Std.TreeSet.mem_insert_self

theorem head?_toList (walk : Walk) :
    (walk.toList sheet).head? = walk.ahead.filter fun style => style.id ∉ walk.visited := by
  cases step : walk.next sheet with
  | mk reached later =>
    cases reached with
    | none =>
      obtain ⟨seen, _⟩ := (next_none_iff sheet walk later).mp step
      rw [toList_of_next_none sheet walk later step]
      cases ahead : walk.ahead with
      | none => rfl
      | some first => simp [Option.filter_some, seen first ahead]
    | some style =>
      obtain ⟨ahead, fresh, _⟩ := (next_some_iff sheet walk later style).mp step
      rw [toList_of_next_some sheet walk later style step, ahead]
      simp [Option.filter_some, fresh]

theorem toList_based (walk : Walk) :
    (walk.toList sheet).IsChain fun style base => sheet.base? style = some base := by
  fun_induction toList sheet walk with
  | case1 walk later step => exact List.isChain_nil
  | case2 walk first later step ih =>
    obtain ⟨_, _, moved⟩ := (next_some_iff sheet walk later first).mp step
    rw [List.isChain_cons]
    refine ⟨?_, ih⟩
    intro base found
    rw [head?_toList, moved] at found
    exact (Option.filter_eq_some_iff.mp found).1

-- Only the style that the walk sets out from can be a stranger to the sheet.
theorem mem_toList_known (walk : Walk) (style : Style) (member : style ∈ walk.toList sheet) :
    walk.ahead = some style ∨ style ∈ sheet.toList := by
  fun_induction toList sheet walk with
  | case1 walk later step => cases member
  | case2 walk first later step ih =>
    obtain ⟨ahead, _, moved⟩ := (next_some_iff sheet walk later first).mp step
    rcases List.mem_cons.mp member with same | further
    · exact .inl (same ▸ ahead)
    · rcases ih further with next | known
      · rw [moved] at next
        exact .inr (sheet.base?_mem first style next)
      · exact .inr known

/--
Behind the last style are the ids remembered at the start and those that were come to on the way.
-/
theorem base_behind_last (walk : Walk) (passed : List Style) (last base : Style)
    (whole : walk.toList sheet = passed ++ [last]) (based : sheet.base? last = some base) :
    base.id ∈ walk.visited ∨ base.id ∈ (passed ++ [last]).map Style.id := by
  fun_induction toList sheet walk generalizing passed with
  | case1 walk later step => simp at whole
  | case2 walk first later step ih =>
    obtain ⟨_, _, moved⟩ := (next_some_iff sheet walk later first).mp step
    have inserted : base.id ∈ later.visited ↔ base.id = first.id ∨ base.id ∈ walk.visited := by
      rw [moved, mem_insert_iff]
    cases passed with
    | nil =>
      obtain ⟨rfl, ended⟩ : first = last ∧ later.toList sheet = [] := by simpa using whole
      have ahead : later.ahead = some base := by rw [moved, based]
      have nowhere := head?_toList sheet later
      have behind : base.id ∈ later.visited := by
        simpa [ended, ahead, Option.filter_some] using nowhere
      rcases inserted.mp behind with same | remembered
      · exact .inr (by simp [same])
      · exact .inl remembered
    | cons second passed =>
      obtain ⟨rfl, rest⟩ : first = second ∧ later.toList sheet = passed ++ [last] := by
        simpa using whole
      rcases ih passed rest with behind | passedBy
      · rcases inserted.mp behind with same | remembered
        · exact .inr (by simp [same])
        · exact .inl remembered
      · exact .inr (List.mem_cons_of_mem _ passedBy)

end Walk

namespace Sheet

variable {sheet : Sheet} {style : Style}

/-- Why no style comes after one: it has no base, the base is not declared, or the id of the style
declared under it has been passed. -/
def StopsAt (sheet : Sheet) (passed : List Style) (last : Style) : Prop :=
  last.basedOn = none ∨
  (∃ id, last.basedOn = some id ∧ sheet.byId? id = none) ∨
  ∃ id base, last.basedOn = some id ∧ sheet.byId? id = some base ∧
    base.id ∈ (passed ++ [last]).map Style.id

structure IsLineage (sheet : Sheet) (style : Style) (line : List Style) : Prop where
  head : line.head? = some style
  based : line.IsChain fun descendant base => sheet.base? descendant = some base
  distinct : (line.map Style.id).Nodup
  ends_iff : ∀ passed last later, line = passed ++ last :: later →
    (later = [] ↔ sheet.StopsAt passed last)

theorem stopsAt_iff (sheet : Sheet) (passed : List Style) (last : Style) :
    sheet.StopsAt passed last ↔
      ∀ base, sheet.base? last = some base → base.id ∈ (passed ++ [last]).map Style.id := by
  unfold StopsAt base?
  cases basedOn : last.basedOn with
  | none => simp
  | some id =>
    cases declared : sheet.byId? id with
    | none => simp [declared]
    | some base => simp [declared]

theorem lineage_head? (sheet : Sheet) (style : Style) :
    (sheet.lineage style).head? = some style := by
  rw [lineage, Walk.head?_toList]
  simp [Walk.start, Option.filter_some]

theorem lineage_isLineage (sheet : Sheet) (style : Style) :
    sheet.IsLineage style (sheet.lineage style) where
  head := sheet.lineage_head? style
  based := Walk.toList_based sheet (.start style)
  distinct := Walk.toList_nodup sheet (.start style)
  ends_iff := by
    intro passed last later whole
    rw [stopsAt_iff]
    cases later with
    | nil =>
      refine iff_of_true rfl ?_
      intro base based
      rcases Walk.base_behind_last sheet (.start style) passed last base whole based with
        remembered | passedBy
      · simp [Walk.start] at remembered
      · exact passedBy
    | cons base later =>
      -- A base that follows was not passed, for no id comes twice.
      refine iff_of_false (List.cons_ne_nil _ _) ?_
      intro repeated
      have chain := Walk.toList_based sheet (.start style)
      have distinct := Walk.toList_nodup sheet (.start style)
      rw [← lineage, whole] at chain distinct
      have based := (List.isChain_append_cons_cons.mp chain).2.1
      have again := repeated base based
      rw [List.append_cons, List.map_append, List.nodup_append] at distinct
      exact distinct.2.2 base.id again base.id (by simp) rfl

-- From a style that two lineages share they run on alike: a base is one style, both stop at once.
theorem isLineage_tail_unique (left right : List Style) (first : sheet.IsLineage style left)
    (second : sheet.IsLineage style right) (passed : List Style) (shared : Style)
    (rest others : List Style) (left_eq : left = passed ++ shared :: rest)
    (right_eq : right = passed ++ shared :: others) : rest = others := by
  induction rest generalizing passed shared others with
  | nil =>
    have stops := (first.ends_iff passed shared [] left_eq).mp rfl
    exact ((second.ends_iff passed shared others right_eq).mpr stops).symm
  | cons base rest ih =>
    cases others with
    | nil =>
      have stops := (second.ends_iff passed shared [] right_eq).mp rfl
      cases (first.ends_iff passed shared (base :: rest) left_eq).mpr stops
    | cons other others =>
      have leftChain := first.based
      have rightChain := second.based
      rw [left_eq, List.isChain_append_cons_cons] at leftChain
      rw [right_eq, List.isChain_append_cons_cons] at rightChain
      obtain rfl : base = other := by
        simpa [leftChain.2.1] using rightChain.2.1
      rw [ih (passed ++ [shared]) base others (by simp [left_eq]) (by simp [right_eq])]

theorem isLineage_unique (left right : List Style) (first : sheet.IsLineage style left)
    (second : sheet.IsLineage style right) : left = right := by
  obtain ⟨rest, left_eq⟩ := List.head?_eq_some_iff.mp first.head
  obtain ⟨others, right_eq⟩ := List.head?_eq_some_iff.mp second.head
  rw [left_eq, right_eq,
    isLineage_tail_unique left right first second [] style rest others left_eq right_eq]

theorem isLineage_iff (sheet : Sheet) (style : Style) (line : List Style) :
    sheet.IsLineage style line ↔ line = sheet.lineage style := by
  constructor
  · intro isLine
    exact isLineage_unique line _ isLine (sheet.lineage_isLineage style)
  · rintro rfl
    exact sheet.lineage_isLineage style

theorem mem_of_mem_lineage (declared : style ∈ sheet.toList) (member : Style)
    (inside : member ∈ sheet.lineage style) : member ∈ sheet.toList := by
  rcases Walk.mem_toList_known sheet (.start style) member inside with start | known
  · have same : style = member := by simpa [Walk.start] using start
    exact same ▸ declared
  · exact known

-- Distinct ids of declared styles are among the distinct ids of the sheet.
theorem lineage_length_le (declared : style ∈ sheet.toList) :
    (sheet.lineage style).length ≤ (sheet.toList.map Style.id).dedup.length := by
  have distinct := (sheet.lineage_isLineage style).distinct
  have inside : (sheet.lineage style).map Style.id ⊆ (sheet.toList.map Style.id).dedup := by
    intro id member
    obtain ⟨ancestor, held, rfl⟩ := List.mem_map.mp member
    exact List.mem_dedup.mpr (List.mem_map_of_mem (mem_of_mem_lineage declared ancestor held))
  simpa using distinct.length_le_of_subset inside

/--
A walk from any style of a sheet, also from one that an earlier style hides under its id: step by
step it yields the lineage and then nothing for good. The lineage is the one list that starts with
the style, goes from style to base, repeats no id and ends where it has to, and it has no more
styles than the sheet has ids.
-/
theorem walk_yields_lineage (sheet : Sheet) (style : Style) (declared : style ∈ sheet.toList) :
    (∀ steps, (Walk.start style).answer? sheet steps = (sheet.lineage style)[steps]?) ∧
    (∀ line, line = sheet.lineage style ↔ sheet.IsLineage style line) ∧
    (sheet.lineage style).length ≤ (sheet.toList.map Style.id).dedup.length ∧
    ∀ steps later, (Walk.start style).answer? sheet steps = none → steps ≤ later →
      (Walk.start style).answer? sheet later = none := by
  have yields : ∀ steps, (Walk.start style).answer? sheet steps = (sheet.lineage style)[steps]? :=
    Walk.answer?_eq_getElem? sheet (.start style)
  refine ⟨yields, fun line => (sheet.isLineage_iff style line).symm,
    lineage_length_le declared, ?_⟩
  intro steps later ended further
  rw [yields, List.getElem?_eq_none_iff] at ended ⊢
  exact ended.trans further

def linked (id name base : String) : Style :=
  { Style.plain id with name := name, basedOn := some base }

-- Two styles are based on each other, and the first one hides a third under its id.
def circle : Sheet := ofList [linked "a" "A" "b", linked "b" "B" "a", linked "a" "C" "b"]

/-- The walk from the hidden style ends before the first one, which it has never been at. -/
theorem hidden_style_lineage :
    linked "a" "C" "b" ∈ circle.toList ∧
    circle.byId? "a" = some (linked "a" "A" "b") ∧
    circle.lineage (linked "a" "C" "b") = [linked "a" "C" "b", linked "b" "B" "a"] ∧
    (Walk.start (linked "a" "C" "b")).answer? circle 2 = none := by
  have listed : circle.toList = [linked "a" "A" "b", linked "b" "B" "a", linked "a" "C" "b"] :=
    toList_ofList _
  have declared : linked "a" "C" "b" ∈ circle.toList := by rw [listed]; decide
  have underA : circle.byId? "a" = some (linked "a" "A" "b") := by
    rw [byId?_eq_find?, listed]; rfl
  have underB : circle.byId? "b" = some (linked "b" "B" "a") := by
    rw [byId?_eq_find?, listed]; rfl
  obtain ⟨yields, unique, _, _⟩ := walk_yields_lineage circle (linked "a" "C" "b") declared
  have line : [linked "a" "C" "b", linked "b" "B" "a"] = circle.lineage (linked "a" "C" "b") := by
    refine (unique _).mpr ⟨rfl, List.isChain_pair.mpr underB, by decide, ?_⟩
    intro passed last later whole
    rw [stopsAt_iff]
    match passed with
    | [] =>
      obtain ⟨rfl, rfl⟩ : linked "a" "C" "b" = last ∧ [linked "b" "B" "a"] = later := by
        simpa using whole
      refine iff_of_false (List.cons_ne_nil _ _) fun stops => ?_
      exact absurd (stops _ underB) (by decide)
    | [first] =>
      obtain ⟨rfl, rfl, rfl⟩ :
          linked "a" "C" "b" = first ∧ linked "b" "B" "a" = last ∧ [] = later := by
        simpa using whole
      refine iff_of_true rfl fun base based => ?_
      obtain rfl : linked "a" "A" "b" = base := Option.some.inj (underA.symm.trans based)
      decide
    | _ :: _ :: _ => simp at whole
  exact ⟨declared, underA, line.symm, by rw [yields, ← line]; rfl⟩

end Sheet

end HouseStyle
