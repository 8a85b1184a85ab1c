import HouseStyle.Proofs.Style.Ancestry
import Mathlib.Data.List.Rotate
import Mathlib.Data.List.TakeWhile

/-!
A style beside the style it is based on. Their two walks remember different ids, but the style has
only its own id to remember before its base is come to: its lineage goes on as that of the base does
until the style would come again. Where bases run in a circle, each style of it has the whole circle
for its lineage, and only the place where the circle is cut open differs.
-/

namespace HouseStyle

/-- Ids that are remembered besides cut a walk short, and up to the cut they change nothing. -/
theorem Walk.toList_takeWhile (sheet : Sheet) (walk barred : Walk) (besides : String → Bool)
    (ahead : barred.ahead = walk.ahead)
    (visited : ∀ id, id ∈ barred.visited ↔ id ∈ walk.visited ∨ besides id = true) :
    barred.toList sheet = (walk.toList sheet).takeWhile fun style => !besides style.id := by
  fun_induction toList sheet walk generalizing barred with
  | case1 walk later step =>
    obtain ⟨seen, _⟩ := (next_none_iff sheet walk later).mp step
    have ends : barred.next sheet = (none, ⟨none, barred.visited⟩) := by
      refine (next_none_iff sheet _ _).mpr ⟨?_, rfl⟩
      intro style there
      exact (visited style.id).mpr (.inl (seen style (ahead ▸ there)))
    rw [toList_of_next_none sheet barred _ ends, List.takeWhile_nil]
  | case2 walk first later step ih =>
    obtain ⟨there, fresh, moved⟩ := (next_some_iff sheet walk later first).mp step
    cases stop : besides first.id with
    | true =>
      have ends : barred.next sheet = (none, ⟨none, barred.visited⟩) := by
        refine (next_none_iff sheet _ _).mpr ⟨?_, rfl⟩
        intro style next
        obtain rfl : first = style := Option.some.inj (there.symm.trans (ahead ▸ next))
        exact (visited first.id).mpr (.inr stop)
      rw [toList_of_next_none sheet barred _ ends, List.takeWhile_cons_of_neg (by simp [stop])]
    | false =>
      have unseen : first.id ∉ barred.visited := by
        rw [visited, stop]
        simp [fresh]
      have goesOn := (next_some_iff sheet barred _ first).mpr
        ⟨ahead.trans there, unseen, rfl⟩
      have behind : ∀ id, id ∈ barred.visited.insert first.id ↔
          id ∈ later.visited ∨ besides id = true := by
        intro id
        rw [moved, mem_insert_iff, mem_insert_iff, visited, or_assoc]
      rw [toList_of_next_some sheet barred _ first goesOn,
        List.takeWhile_cons_of_pos (by simp [stop]), ih _ (by rw [moved]) behind]

namespace Sheet

variable {sheet : Sheet} {style base other : Style}

/--
A hidden style is not come to again, but the walk from it stops before the style that hides it.
-/
theorem lineage_of_base (based : sheet.base? style = some base) :
    sheet.lineage style =
      style :: (sheet.lineage base).takeWhile fun ancestor => !(ancestor.id == style.id) := by
  have first := (Walk.next_some_iff sheet (.start style) _ style).mpr
    ⟨rfl, Std.TreeSet.not_mem_emptyc, rfl⟩
  rw [lineage, Walk.toList_of_next_some sheet _ _ style first, lineage]
  congr 1
  apply Walk.toList_takeWhile sheet (.start base) _ fun id => id == style.id
  · exact based
  · intro id
    rw [Walk.mem_insert_iff, beq_iff_eq]
    exact or_comm

/-- Styles that are found under their ids and are not the style have other ids than it. -/
theorem lineage_of_base_apart (registered : sheet.Registered style)
    (based : sheet.base? style = some base) (apart : style ∉ sheet.lineage base) :
    sheet.lineage style = style :: sheet.lineage base := by
  rw [lineage_of_base based]
  congr 1
  rw [List.takeWhile_eq_self_iff]
  intro ancestor member
  have known := registered_of_mem_lineage (registered_of_base? style base based) ancestor member
  have differs : ancestor.id ≠ style.id := by
    intro same
    exact apart (registered_inj ancestor style known registered same ▸ member)
  simpa using differs

/-- The lineage of the base ends where it comes to the style, for then the base would come next. -/
theorem lineage_of_base_circular (based : sheet.base? style = some base)
    (circular : style ∈ sheet.lineage base) :
    ∃ between, sheet.lineage style = style :: between ∧ sheet.lineage base = between ++ [style] := by
  obtain ⟨between, behind, whole⟩ := List.append_of_mem circular
  have line := sheet.lineage_isLineage base
  have passedBase : base ∈ between ++ [style] := by
    have head := sheet.lineage_head? base
    rw [whole, List.append_cons, List.head?_append_of_ne_nil _ (by simp)] at head
    exact List.mem_of_mem_head? head
  have stops : sheet.StopsAt between style := by
    rw [stopsAt_iff]
    intro next found
    obtain rfl : base = next := Option.some.inj (based.symm.trans found)
    exact List.mem_map_of_mem passedBase
  obtain rfl : behind = [] := (line.ends_iff between style behind whole).mpr stops
  have distinct := line.distinct
  rw [whole, List.map_append, List.nodup_append] at distinct
  have apart : ∀ ancestor ∈ between, (!(ancestor.id == style.id)) = true := by
    intro ancestor member
    have differs := distinct.2.2 ancestor.id (List.mem_map_of_mem member) style.id (by simp)
    simpa using differs
  refine ⟨between, ?_, whole⟩
  rw [lineage_of_base based, whole, List.takeWhile_append_of_pos apart,
    List.takeWhile_cons_of_neg (by simp), List.append_nil]

theorem ancestor?_add (sheet : Sheet) (style : Style) (near far : Nat) :
    sheet.ancestor? style (near + far) =
      (sheet.ancestor? style near).bind fun ancestor => sheet.ancestor? ancestor far := by
  induction far with
  | zero => simp [ancestor?]
  | succ far ih => rw [← Nat.add_assoc, ancestor?, ih, Option.bind_assoc]; rfl

/-- Going from base to base leads from each of the two styles to the other. -/
def OnOneCircle (sheet : Sheet) (style other : Style) : Prop :=
  ∃ there back, sheet.ancestor? style (there + 1) = some other ∧
    sheet.ancestor? other back = some style

/-- Each step from base to base moves the cut of the circle on by one style. -/
theorem lineage_rotate (there back : Nat)
    (ahead : sheet.ancestor? style there = some other)
    (returns : sheet.ancestor? other back = some style) :
    sheet.lineage other = (sheet.lineage style).rotate there := by
  induction there generalizing other back with
  | zero =>
    obtain rfl : style = other := Option.some.inj ahead
    rw [List.rotate_zero]
  | succ there ih =>
    obtain ⟨middle, reached, based⟩ := Option.bind_eq_some_iff.mp ahead
    have goesRound : sheet.ancestor? middle (1 + back) = some style := by
      rw [ancestor?_add]
      simp [ancestor?, based, returns]
    have comesAgain : sheet.ancestor? other (back + there) = some middle := by
      rw [ancestor?_add, returns, Option.bind_some, reached]
    have known := registered_of_base? middle other based
    have circular := (mem_lineage_iff known middle).mpr ⟨_, comesAgain⟩
    obtain ⟨between, ofMiddle, ofOther⟩ := lineage_of_base_circular based circular
    have earlier := ih (1 + back) reached goesRound
    rw [ofOther, ← List.rotate_rotate, ← earlier, ofMiddle, List.rotate_cons_succ,
      List.rotate_zero]

theorem resolve?_of_base {Value : Type} (registered : sheet.Registered style)
    (based : sheet.base? style = some base) (declared : Style → Option Value) :
    sheet.resolve? style declared = (declared style).or (sheet.resolve? base declared) := by
  rw [resolve?_eq_lineage, resolve?_eq_lineage]
  by_cases circular : style ∈ sheet.lineage base
  · obtain ⟨between, ofStyle, ofBase⟩ := lineage_of_base_circular based circular
    rw [ofStyle, ofBase, List.findSome?_append, List.findSome?_cons]
    -- What the style declares is asked for last from its base, when it is known to be nothing.
    cases own : declared style with
    | some value => rw [Option.some_or]
    | none => simp [own]
  · rw [lineage_of_base_apart registered based circular, List.findSome?_cons]
    cases declared style with
    | some value => rw [Option.some_or]
    | none => rw [Option.none_or]

theorem lineage_tail_of_baseless (baseless : sheet.base? style = none) :
    (sheet.lineage style).tail = [] := by
  cases behind : (sheet.lineage style).tail with
  | nil => rfl
  | cons next rest =>
    have second : (sheet.lineage style)[1]? = some next := by
      rw [← List.getElem?_tail, behind, List.getElem?_cons_zero]
    have based : sheet.base? style = some next := ancestor?_of_lineage 1 next second
    rw [baseless] at based
    contradiction

/-! A style that does not declare an attribute. -/

section Undeclared

variable {Value : Type} (declared : Style → Option Value) (undeclared : declared style = none)
include undeclared

theorem resolve?_of_undeclared (sheet : Sheet) :
    sheet.resolve? style declared = (sheet.lineage style).tail.findSome? declared := by
  obtain ⟨behind, line⟩ := List.head?_eq_some_iff.mp (sheet.lineage_head? style)
  rw [resolve?_eq_lineage, line, List.findSome?_cons, undeclared, List.tail_cons]

theorem resolve?_from_base (registered : sheet.Registered style) :
    sheet.resolve? style declared =
      (sheet.base? style).bind fun base => sheet.resolve? base declared := by
  cases based : sheet.base? style with
  | none =>
    rw [resolve?_of_undeclared declared undeclared, lineage_tail_of_baseless based,
      List.findSome?_nil, Option.bind_none]
  | some base =>
    rw [resolve?_of_base registered based, undeclared, Option.none_or, Option.bind_some]

end Undeclared

/--
A style that is found under its id, in any sheet, and its base. The lineage of the style is the style
before the lineage of the base, unless the style comes in that one: then both hold the same styles
and the style comes last instead of first. Either way an attribute is what the style declares or
else what the base comes to, and styles on one circle see the same styles.
-/
theorem lineage_beside_base (sheet : Sheet) (style base : Style) (id : String)
    (registered : sheet.byId? style.id = some style) (named : style.basedOn = some id)
    (found : sheet.byId? id = some base) :
    (style ∉ sheet.lineage base → sheet.lineage style = style :: sheet.lineage base) ∧
    (style ∈ sheet.lineage base →
      sheet.lineage base = (sheet.lineage style).tail ++ [style]) ∧
    (∀ (Value : Type) (declared : Style → Option Value),
      sheet.resolve? style declared = (declared style).or (sheet.resolve? base declared)) ∧
    ∀ other, sheet.OnOneCircle style other →
      (sheet.lineage style).IsRotated (sheet.lineage other) ∧
      ∀ ancestor, ancestor ∈ sheet.lineage other ↔ ancestor ∈ sheet.lineage style := by
  have based : sheet.base? style = some base := by
    rw [base?, named, Option.bind_some, found]
  refine ⟨lineage_of_base_apart registered based, ?_, ?_, ?_⟩
  · intro circular
    obtain ⟨between, ofStyle, ofBase⟩ := lineage_of_base_circular based circular
    rw [ofStyle, ofBase, List.tail_cons]
  · intro Value declared
    exact resolve?_of_base registered based declared
  · rintro other ⟨there, back, ahead, returns⟩
    have turned := lineage_rotate (there + 1) back ahead returns
    refine ⟨⟨there + 1, turned.symm⟩, ?_⟩
    intro ancestor
    rw [turned, List.mem_rotate]

def boldLast : Style := { linked "c" "C" "b" with font := ⟨none, none, none, some true⟩ }

/-- From the tail the circle is entered at a style that its own base leads back to. -/
theorem tailed_beside_base :
    (tailed.byId? "t" = some (linked "t" "T" "b") ∧
      tailed.byId? "b" = some (linked "b" "B" "c") ∧ tailed.byId? "c" = some boldLast) ∧
    (linked "t" "T" "b" ∉ tailed.lineage (linked "b" "B" "c") ∧
      tailed.lineage (linked "t" "T" "b") =
        linked "t" "T" "b" :: tailed.lineage (linked "b" "B" "c")) ∧
    (linked "b" "B" "c" ∈ tailed.lineage boldLast ∧
      tailed.lineage boldLast =
        (tailed.lineage (linked "b" "B" "c")).tail ++ [linked "b" "B" "c"]) ∧
    tailed.OnOneCircle (linked "b" "B" "c") boldLast ∧
      ∀ ancestor, ancestor ∈ tailed.lineage boldLast ↔
        ancestor ∈ tailed.lineage (linked "b" "B" "c") := by
  have outside : tailed.byId? "t" = some (linked "t" "T" "b") := by decide +kernel
  have entry : tailed.byId? "b" = some (linked "b" "B" "c") := by decide +kernel
  have opposite : tailed.byId? "c" = some boldLast := by decide +kernel
  have fresh : linked "t" "T" "b" ∉ tailed.lineage (linked "b" "B" "c") := by decide +kernel
  have again : linked "b" "B" "c" ∈ tailed.lineage boldLast := by decide +kernel
  have round : tailed.OnOneCircle (linked "b" "B" "c") boldLast := ⟨0, 1, opposite, entry⟩
  obtain ⟨before, _⟩ :=
    lineage_beside_base tailed (linked "t" "T" "b") _ "b" outside rfl entry
  obtain ⟨_, last, _, alike⟩ :=
    lineage_beside_base tailed (linked "b" "B" "c") _ "c" entry rfl opposite
  exact ⟨⟨outside, entry, opposite⟩, ⟨fresh, before fresh⟩, ⟨again, last again⟩, round,
    (alike boldLast round).2⟩

end Sheet

end HouseStyle
