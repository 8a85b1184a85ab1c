import HouseStyle.Proofs.Style.Lineage
import HouseStyle.Style.Lineage

/-!
A sheet before and after a style is added. What was found under an id is still found under it, so a
walk from base to base comes to the same styles as before, until it has nowhere left to go in the
smaller sheet. There it goes on only if the new style is the base that was missing, and whatever an
attribute came to before has been found by then.
-/

namespace HouseStyle

/-- Every style that one sheet finds under an id is found under it in a larger one. -/
def Sheet.Extends (larger smaller : Sheet) : Prop :=
  ∀ id style, smaller.byId? id = some style → larger.byId? id = some style

theorem Sheet.Extends.base? {larger smaller : Sheet} (kept : larger.Extends smaller)
    (style base : Style) (based : smaller.base? style = some base) :
    larger.base? style = some base := by
  obtain ⟨id, named, found⟩ := Option.bind_eq_some_iff.mp based
  exact Option.bind_eq_some_iff.mpr ⟨id, named, kept id base found⟩

-- The two walks have the same ids behind them, and the one through the larger sheet may lead on.
theorem Walk.toList_prefix {larger smaller : Sheet} (kept : larger.Extends smaller)
    (walk further : Walk)
    (ahead : ∀ style, walk.ahead = some style → further.ahead = some style)
    (visited : further.visited = walk.visited) :
    walk.toList smaller <+: further.toList larger := by
  fun_induction toList smaller walk generalizing further with
  | case1 walk later step => exact List.nil_prefix
  | case2 walk first later step ih =>
    obtain ⟨there, fresh, moved⟩ := (next_some_iff smaller walk later first).mp step
    have alike := (next_some_iff larger further _ first).mpr
      ⟨ahead first there, visited ▸ fresh, rfl⟩
    rw [toList_of_next_some larger further _ first alike, List.cons_prefix_cons]
    refine ⟨rfl, ih _ ?_ ?_⟩
    · intro base next
      rw [moved] at next
      exact kept.base? first base next
    · rw [moved, visited]

namespace Sheet

variable {sheet larger smaller : Sheet} {style added : Style}

theorem Extends.lineage_prefix (kept : larger.Extends smaller) (style : Style) :
    smaller.lineage style <+: larger.lineage style :=
  Walk.toList_prefix kept (.start style) (.start style) (fun _ next => next) rfl

theorem Extends.resolve? {Value : Type} (kept : larger.Extends smaller) (style : Style)
    (declares : Style → Option Value) (value : Value)
    (resolved : smaller.resolve? style declares = some value) :
    larger.resolve? style declares = some value := by
  obtain ⟨behind, whole⟩ := kept.lineage_prefix style
  rw [resolve?_eq_lineage] at resolved ⊢
  rw [← whole, List.findSome?_append, resolved, Option.some_or]

/-! What one more style does to the answers. -/

theorem find?_concat (field : Style → String) (styles : List Style) (added : Style)
    (key : String) :
    ((styles ++ [added]).find? fun style => field style == key) =
      (styles.find? fun style => field style == key).or
        (if field added = key then some added else none) := by
  rw [List.find?_append, List.find?_singleton]
  simp only [beq_iff_eq]

theorem byId?_add (sheet : Sheet) (added : Style) (id : String) :
    (sheet.add added).byId? id =
      (sheet.byId? id).or (if added.id = id then some added else none) := by
  rw [byId?_eq_find?, byId?_eq_find?, toList_add, find?_concat]

theorem byName?_add (sheet : Sheet) (added : Style) (name : String) :
    (sheet.add added).byName? name =
      (sheet.byName? name).or (if added.name = name then some added else none) := by
  rw [byName?_eq_find?, byName?_eq_find?, toList_add, find?_concat]

theorem base?_add (sheet : Sheet) (added style : Style) :
    (sheet.add added).base? style =
      (sheet.base? style).or (if style.basedOn = some added.id then some added else none) := by
  unfold base?
  cases style.basedOn with
  | none => simp
  | some id => simp [byId?_add, eq_comm]

theorem extends_add (sheet : Sheet) (added : Style) : (sheet.add added).Extends sheet := by
  intro id style found
  rw [byId?_add, found, Option.some_or]

/-- The styles of a lineage are declared, so an id that is not declared is none of theirs. -/
theorem not_mem_lineage_ids (declared : style ∈ sheet.toList) (id : String)
    (unknown : sheet.byId? id = none) : id ∉ (sheet.lineage style).map Style.id := by
  intro passed
  obtain ⟨ancestor, member, same⟩ := List.mem_map.mp passed
  have known := mem_of_mem_lineage declared ancestor member
  exact (sheet.indexed_ids.missing_iff id).mp unknown ancestor known same

theorem lineage_has_last (sheet : Sheet) (style : Style) :
    ∃ passed last, sheet.lineage style = passed ++ [last] := by
  rcases List.eq_nil_or_concat' (sheet.lineage style) with empty | ends
  · have start := sheet.lineage_head? style
    rw [empty, List.head?_nil] at start
    contradiction
  · exact ends

variable {passed further : List Style} {last : Style}

theorem goes_on_iff (declared : style ∈ sheet.toList)
    (before : sheet.lineage style = passed ++ [last])
    (after : (sheet.add added).lineage style = passed ++ last :: further) :
    further ≠ [] ↔ sheet.byId? added.id = none ∧ last.basedOn = some added.id := by
  have stopped := (stopsAt_iff sheet passed last).mp
    (((sheet.lineage_isLineage style).ends_iff passed last [] before).mp rfl)
  have stops := ((sheet.add added).lineage_isLineage style).ends_iff passed last further after
  rw [stopsAt_iff, base?_add] at stops
  rw [ne_eq, stops]
  cases known : sheet.base? last with
  | some base =>
    -- A base that is known remains the base, and it was passed before.
    refine iff_of_false (not_not_intro ?_) ?_
    · intro other based
      obtain rfl : base = other := by simpa using based
      exact stopped base known
    · rintro ⟨unknown, named⟩
      rw [base?, named, Option.bind_some, unknown] at known
      contradiction
  | none =>
    by_cases named : last.basedOn = some added.id
    · have unknown : sheet.byId? added.id = none := by
        rw [base?, named, Option.bind_some] at known
        exact known
      have unpassed := not_mem_lineage_ids declared added.id unknown
      rw [before] at unpassed
      simp only [named, if_true, Option.none_or, Option.some.injEq, forall_eq', unpassed,
        not_false_eq_true, unknown, and_self]
    · simp [named]

theorem head_of_goes_on (unknown : sheet.byId? added.id = none)
    (named : last.basedOn = some added.id)
    (after : (sheet.add added).lineage style = passed ++ last :: further) (first : Style)
    (next : further.head? = some first) : first = added := by
  obtain ⟨rest, rfl⟩ := List.head?_eq_some_iff.mp next
  have chain := ((sheet.add added).lineage_isLineage style).based
  rw [after, List.isChain_append_cons_cons] at chain
  have missing : sheet.base? last = none := by rw [base?, named, Option.bind_some, unknown]
  have based := chain.2.1
  rw [base?_add, missing, named, if_pos rfl, Option.none_or] at based
  exact (Option.some.inj based).symm

/--
One more style in a sheet, whatever it declares, and any style that was there before. The lineage of
this one is as before with some styles behind it. There are such styles exactly if the last one
before was based on the id of the new style and nothing was declared under that id; then the new
style comes first of them. What an attribute has come to, it still comes to.
-/
theorem addition_extends_lineage (sheet : Sheet) (style added : Style)
    (declared : style ∈ sheet.toList) :
    (∃ further, (sheet.add added).lineage style = sheet.lineage style ++ further ∧
      (further ≠ [] ↔ sheet.byId? added.id = none ∧
        ∃ last, (sheet.lineage style).getLast? = some last ∧ last.basedOn = some added.id) ∧
      (further ≠ [] → further.head? = some added)) ∧
    ∀ (Value : Type) (declares : Style → Option Value) (value : Value),
      sheet.resolve? style declares = some value →
        (sheet.add added).resolve? style declares = some value := by
  have kept := sheet.extends_add added
  refine ⟨?_, fun Value declares => kept.resolve? style declares⟩
  obtain ⟨further, whole⟩ := kept.lineage_prefix style
  obtain ⟨passed, last, before⟩ := sheet.lineage_has_last style
  have after : (sheet.add added).lineage style = passed ++ last :: further := by
    rw [← whole, before, List.append_assoc, List.singleton_append]
  have goesOn := goes_on_iff declared before after
  have same : (∃ final, (sheet.lineage style).getLast? = some final ∧
      final.basedOn = some added.id) ↔ last.basedOn = some added.id := by
    rw [before, List.getLast?_concat]
    simp
  refine ⟨further, whole.symm, by rw [same]; exact goesOn, ?_⟩
  intro more
  obtain ⟨unknown, named⟩ := goesOn.mp more
  obtain ⟨first, others, rfl⟩ := List.exists_cons_of_ne_nil more
  rw [List.head?_cons, head_of_goes_on unknown named after first rfl]

def boldMiddle : Style := { linked "b" "B" "c" with font := ⟨none, none, none, some true⟩ }

/-- The base of the second style is missing, and the first one hides the third under its id. -/
def dangling : Sheet := ofList [linked "a" "A" "b", boldMiddle, linked "a" "C" "b"]

def lightLast : Style := { linked "c" "D" "a" with font := ⟨none, none, none, some false⟩ }

/-- The missing base is added, and with it a way back to the id that the hidden style has. -/
theorem dangling_closed :
    linked "a" "C" "b" ∈ dangling.toList ∧
    (∃ further, (dangling.add lightLast).lineage (linked "a" "C" "b") =
        dangling.lineage (linked "a" "C" "b") ++ further ∧
      further.head? = some lightLast) ∧
    (dangling.add lightLast).resolve? (linked "a" "C" "b") (fun style => style.font.bold) =
      some true := by
  have declared : linked "a" "C" "b" ∈ dangling.toList := by decide +kernel
  have missing : dangling.byId? "c" = none := by decide +kernel
  have last : (dangling.lineage (linked "a" "C" "b")).getLast? = some boldMiddle := by
    decide +kernel
  have bold : dangling.resolve? (linked "a" "C" "b") (fun style => style.font.bold) =
      some true := by decide +kernel
  obtain ⟨⟨further, whole, goesOn, first⟩, kept⟩ :=
    addition_extends_lineage dangling (linked "a" "C" "b") lightLast declared
  have more : further ≠ [] := goesOn.mpr ⟨missing, boldMiddle, last, rfl⟩
  exact ⟨declared, ⟨further, whole, first more⟩, kept Bool _ true bold⟩

end Sheet

end HouseStyle
