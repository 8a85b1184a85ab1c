import HouseStyle.Proofs.Style.Lineage
import HouseStyle.Style.Lineage

/-!
Inheritance without a memory. Going from base to base never ends when the bases run in a circle; an
attribute is what the first style on this endless way declares. A walk leaves the way at the first
id that comes again, and nothing is lost by that: each style after the start is the one found under
its id, so an id that comes again brings the same style and the same way on from it.
-/

namespace HouseStyle.Sheet

variable {Value : Type} {sheet : Sheet} {style : Style}

/-- The style that a number of steps from base to base leads to, styles coming again or not. -/
def ancestor? (sheet : Sheet) (style : Style) : Nat → Option Style
  | 0 => some style
  | steps + 1 => (sheet.ancestor? style steps).bind sheet.base?

def Registered (sheet : Sheet) (style : Style) : Prop := sheet.byId? style.id = some style

def Inherits (sheet : Sheet) (style : Style) (declared : Style → Option Value) (value : Value) :
    Prop :=
  ∃ steps ancestor, sheet.ancestor? style steps = some ancestor ∧ declared ancestor = some value ∧
    ∀ before < steps, ∀ nearer, sheet.ancestor? style before = some nearer →
      declared nearer = none

theorem registered_of_base? (descendant base : Style) (based : sheet.base? descendant = some base) :
    sheet.Registered base := by
  obtain ⟨id, _, found⟩ := Option.bind_eq_some_iff.mp based
  obtain ⟨_, same⟩ := sheet.byId?_mem id base found
  rw [Registered, same, found]

theorem registered_inj (left right : Style) (first : sheet.Registered left)
    (second : sheet.Registered right) (same : left.id = right.id) : left = right := by
  rw [Registered, same, second] at first
  exact (Option.some.inj first).symm

/-- A lineage is the beginning of the endless way. -/
theorem ancestor?_of_lineage (steps : Nat) (ancestor : Style)
    (held : (sheet.lineage style)[steps]? = some ancestor) :
    sheet.ancestor? style steps = some ancestor := by
  induction steps generalizing ancestor with
  | zero => rw [← List.head?_eq_getElem?, lineage_head?] at held; exact held
  | succ steps ih =>
    obtain ⟨inside, reached⟩ := List.getElem?_eq_some_iff.mp held
    have chain := (sheet.lineage_isLineage style).based
    have based := List.isChain_iff_getElem.mp chain steps inside
    rw [ancestor?, ih _ (List.getElem?_eq_getElem (by omega)), Option.bind_some, based, reached]

theorem registered_of_mem_lineage (registered : sheet.Registered style) (ancestor : Style)
    (member : ancestor ∈ sheet.lineage style) : sheet.Registered ancestor := by
  obtain ⟨steps, held⟩ := List.mem_iff_getElem?.mp member
  cases steps with
  | zero =>
    rw [← List.head?_eq_getElem?, lineage_head?] at held
    exact Option.some.inj held ▸ registered
  | succ steps =>
    have reached := ancestor?_of_lineage (steps + 1) ancestor held
    obtain ⟨descendant, _, based⟩ := Option.bind_eq_some_iff.mp reached
    exact registered_of_base? descendant ancestor based

/--
At the end of the lineage the base is missing or has a known id, and then it is the known style.
-/
theorem base?_mem_lineage (registered : sheet.Registered style) (ancestor base : Style)
    (member : ancestor ∈ sheet.lineage style) (based : sheet.base? ancestor = some base) :
    base ∈ sheet.lineage style := by
  obtain ⟨passed, later, whole⟩ := List.append_of_mem member
  have lineage := sheet.lineage_isLineage style
  cases later with
  | nil =>
    have stops := (stopsAt_iff sheet passed ancestor).mp
      ((lineage.ends_iff passed ancestor [] whole).mp rfl)
    obtain ⟨known, held, same⟩ := List.mem_map.mp (stops base based)
    rw [← whole] at held
    have one : known = base := registered_inj known base
      (registered_of_mem_lineage registered known held) (registered_of_base? ancestor base based)
      same
    exact one ▸ held
  | cons next later =>
    have chain := lineage.based
    rw [whole, List.isChain_append_cons_cons] at chain
    have same : next = base := Option.some.inj (chain.2.1.symm.trans based)
    rw [whole, ← same]
    simp

theorem mem_lineage_iff (registered : sheet.Registered style) (ancestor : Style) :
    ancestor ∈ sheet.lineage style ↔ ∃ steps, sheet.ancestor? style steps = some ancestor := by
  constructor
  · intro member
    obtain ⟨steps, held⟩ := List.mem_iff_getElem?.mp member
    exact ⟨steps, ancestor?_of_lineage steps ancestor held⟩
  · rintro ⟨steps, reached⟩
    induction steps generalizing ancestor with
    | zero =>
      have same : style = ancestor := Option.some.inj reached
      exact same ▸ List.mem_of_mem_head? (sheet.lineage_head? style)
    | succ steps ih =>
      obtain ⟨descendant, earlier, based⟩ := Option.bind_eq_some_iff.mp reached
      exact base?_mem_lineage registered descendant ancestor (ih descendant earlier) based

theorem inherits_of_resolve? (declared : Style → Option Value) (value : Value)
    (resolved : sheet.resolve? style declared = some value) :
    sheet.Inherits style declared value := by
  rw [resolve?_eq_lineage] at resolved
  obtain ⟨passed, ancestor, later, whole, found, silent⟩ :=
    List.findSome?_eq_some_iff.mp resolved
  refine ⟨passed.length, ancestor, ancestor?_of_lineage _ _ (by simp [whole]), found, ?_⟩
  intro before nearer other reached
  have held : (sheet.lineage style)[before]? = some passed[before] := by
    rw [whole, List.getElem?_append_left nearer, List.getElem?_eq_getElem nearer]
  have same : passed[before] = other :=
    Option.some.inj ((ancestor?_of_lineage before _ held).symm.trans reached)
  exact silent other (same ▸ List.getElem_mem nearer)

theorem declared_of_resolve? (member : style ∈ sheet.toList) (declared : Style → Option Value)
    (value : Value) (resolved : sheet.resolve? style declared = some value) :
    ∃ ancestor ∈ sheet.toList, declared ancestor = some value := by
  rw [resolve?_eq_lineage] at resolved
  obtain ⟨ancestor, inherited, found⟩ := List.exists_of_findSome?_eq_some resolved
  exact ⟨ancestor, mem_of_mem_lineage member ancestor inherited, found⟩

theorem resolve?_eq_none_iff (registered : sheet.Registered style)
    (declared : Style → Option Value) :
    sheet.resolve? style declared = none ↔
      ∀ steps ancestor, sheet.ancestor? style steps = some ancestor → declared ancestor = none := by
  rw [resolve?_eq_lineage, List.findSome?_eq_none_iff]
  constructor
  · intro silent steps ancestor reached
    exact silent ancestor ((mem_lineage_iff registered ancestor).mpr ⟨steps, reached⟩)
  · intro silent ancestor member
    obtain ⟨steps, reached⟩ := (mem_lineage_iff registered ancestor).mp member
    exact silent steps ancestor reached

theorem inherits_unique (declared : Style → Option Value) (left right : Value)
    (first : sheet.Inherits style declared left) (second : sheet.Inherits style declared right) :
    left = right := by
  obtain ⟨steps, ancestor, reached, found, silent⟩ := first
  obtain ⟨others, another, reachedToo, foundToo, silentToo⟩ := second
  rcases Nat.lt_trichotomy steps others with nearer | same | farther
  · rw [silentToo steps nearer ancestor reached] at found
    contradiction
  · subst same
    have one : ancestor = another := Option.some.inj (reached.symm.trans reachedToo)
    rw [one, foundToo] at found
    exact (Option.some.inj found).symm
  · rw [silent others farther another reachedToo] at foundToo
    contradiction

/--
What an attribute comes to for a style that is found under its id, in any sheet: the value that the
first declaring ancestor on the endless way declares, and nothing only if no ancestor declares any.
-/
theorem resolve?_by_ancestors (sheet : Sheet) (style : Style)
    (registered : sheet.byId? style.id = some style) (declared : Style → Option Value) :
    (∀ value, sheet.resolve? style declared = some value ↔
      sheet.Inherits style declared value) ∧
    (sheet.resolve? style declared = none ↔
      ∀ steps ancestor, sheet.ancestor? style steps = some ancestor →
        declared ancestor = none) := by
  refine ⟨fun value => ⟨inherits_of_resolve? declared value, ?_⟩,
    resolve?_eq_none_iff registered declared⟩
  intro inherits
  cases resolved : sheet.resolve? style declared with
  | none =>
    obtain ⟨steps, ancestor, reached, found, _⟩ := inherits
    rw [(resolve?_eq_none_iff registered declared).mp resolved steps ancestor reached] at found
    contradiction
  | some other =>
    have first := inherits_of_resolve? declared other resolved
    rw [inherits_unique declared other value first inherits]

-- A style is based on one of two that are based on each other, of which the farther is bold.
def tailed : Sheet :=
  ofList [linked "t" "T" "b", linked "b" "B" "c",
    { linked "c" "C" "b" with font := ⟨none, none, none, some true⟩ }]

/-- Weight is found on the circle, and colour is missed although the way round it has no end. -/
theorem tailed_style_resolved :
    tailed.byId? "t" = some (linked "t" "T" "b") ∧
    tailed.resolve? (linked "t" "T" "b") (fun style => style.font.bold) = some true ∧
    tailed.resolve? (linked "t" "T" "b") (fun style => style.font.color) = none := by
  have listed : tailed.toList = [linked "t" "T" "b", linked "b" "B" "c",
      { linked "c" "C" "b" with font := ⟨none, none, none, some true⟩ }] := toList_ofList _
  have registered : tailed.Registered (linked "t" "T" "b") := by
    rw [Registered, byId?_eq_find?, listed]; rfl
  have nearBase : tailed.base? (linked "t" "T" "b") = some (linked "b" "B" "c") := by
    change tailed.byId? "b" = _
    rw [byId?_eq_find?, listed]; rfl
  have farBase : tailed.base? (linked "b" "B" "c") =
      some { linked "c" "C" "b" with font := ⟨none, none, none, some true⟩ } := by
    change tailed.byId? "c" = _
    rw [byId?_eq_find?, listed]; rfl
  have weight := resolve?_by_ancestors tailed (linked "t" "T" "b") registered
    fun style => style.font.bold
  have color := resolve?_by_ancestors tailed (linked "t" "T" "b") registered
    fun style => style.font.color
  have farther : tailed.ancestor? (linked "t" "T" "b") 2 =
      some { linked "c" "C" "b" with font := ⟨none, none, none, some true⟩ } := by
    simp only [ancestor?, Option.bind_some, nearBase, farBase]
  refine ⟨registered, (weight.1 true).mpr ⟨2, _, farther, rfl, ?_⟩, color.2.mpr ?_⟩
  · intro before nearer other reached
    match before with
    | 0 =>
      have same : linked "t" "T" "b" = other := Option.some.inj reached
      rw [← same]; rfl
    | 1 =>
      have same : linked "b" "B" "c" = other := Option.some.inj (nearBase.symm.trans reached)
      rw [← same]; rfl
  · intro steps ancestor reached
    have declared : linked "t" "T" "b" ∈ tailed.toList := by rw [listed]; decide
    have member := mem_of_mem_lineage declared ancestor
      ((mem_lineage_iff registered ancestor).mpr ⟨steps, reached⟩)
    rw [listed] at member
    simp only [List.mem_cons, List.not_mem_nil, or_false] at member
    rcases member with rfl | rfl | rfl <;> rfl

end HouseStyle.Sheet
