import HouseStyle.Style.Sheet

/-!
Which style of a sheet a look-up comes to. Styles are declared one after the other, and ids and
names may repeat independently of each other: a style can be the one found under its name and be
hidden under its id by an earlier one. The first declaration of a key counts in either index, a
place that an index keeps leads to a style of its key, and a sheet holds no more than its list. A
canonical name is looked for itself first, wherever a style has it, and only where none does its
alias counts.
-/

namespace HouseStyle.Sheet

structure FirstAt (field : Style → String) (key : String) (styles : List Style) (place : Nat)
    (style : Style) : Prop where
  declared : styles[place]? = some style
  keyed : field style = key
  first : ∀ earlier ∈ styles.take place, field earlier ≠ key

/-- An index and the look-up that goes through it agree with a list of styles about a field. -/
structure IndexedBy (field : Style → String) (styles : List Style) (index : Index)
    (find? : String → Option Style) : Prop where
  in_bounds : ∀ key place, index.position? key = some place → place < styles.length
  place_iff : ∀ key place,
    index.position? key = some place ↔ ∃ style, FirstAt field key styles place style
  found_iff : ∀ key style, find? key = some style ↔ ∃ place, FirstAt field key styles place style
  missing_iff : ∀ key, find? key = none ↔ ∀ style ∈ styles, field style ≠ key

theorem idxOf?_map_iff (styles : List Style) (field : Style → String) (key : String)
    (place : Nat) :
    (styles.map field).idxOf? key = some place ↔ ∃ style, FirstAt field key styles place style := by
  rw [List.idxOf?_eq_some_iff]
  constructor
  · rintro ⟨bound, same, first⟩
    have inside : place < styles.length := by simpa using bound
    refine ⟨styles[place], List.getElem?_eq_getElem inside, by simpa using same, ?_⟩
    intro earlier member
    obtain ⟨before, smaller, rfl⟩ := List.mem_take_iff_getElem.mp member
    simpa using first before (by omega)
  · rintro ⟨style, declared, keyed, first⟩
    obtain ⟨inside, rfl⟩ := List.getElem?_eq_some_iff.mp declared
    refine ⟨by simpa using inside, by simpa using keyed, ?_⟩
    intro before smaller
    have member : styles[before] ∈ styles.take place :=
      List.mem_take_iff_getElem.mpr ⟨before, by omega, rfl⟩
    simpa using first _ member

theorem find?_indexed_iff (styles : List Style) (field : Style → String) (key : String)
    (style : Style) :
    ((styles.map field).idxOf? key).bind (styles[·]?) = some style ↔
      ∃ place, FirstAt field key styles place style := by
  rw [Option.bind_eq_some_iff]
  constructor
  · rintro ⟨place, found, declared⟩
    obtain ⟨held, foremost⟩ := (idxOf?_map_iff styles field key place).mp found
    have same : held = style := by simpa [foremost.declared] using declared
    exact ⟨place, same ▸ foremost⟩
  · rintro ⟨place, foremost⟩
    exact ⟨place, (idxOf?_map_iff styles field key place).mpr ⟨style, foremost⟩, foremost.declared⟩

theorem indexed_by_keys (styles : List Style) (field : Style → String) :
    IndexedBy field styles (.ofKeys (styles.map field))
      (fun key => ((Index.ofKeys (styles.map field)).position? key).bind (styles[·]?)) where
  in_bounds := by
    intro key place found
    rw [Index.position?_ofKeys, idxOf?_map_iff] at found
    obtain ⟨style, foremost⟩ := found
    exact (List.getElem?_eq_some_iff.mp foremost.declared).1
  place_iff := by
    intro key place
    rw [Index.position?_ofKeys, idxOf?_map_iff]
  found_iff := by
    intro key style
    rw [Index.position?_ofKeys, find?_indexed_iff]
  missing_iff := by
    intro key
    rw [Index.position?_ofKeys, getElem?_idxOf?_map, List.find?_eq_none]
    simp only [beq_iff_eq, ne_eq]

-- The proof fields of a sheet tie each index to the list of styles, whatever built the sheet.
theorem indexed_ids (sheet : Sheet) : IndexedBy Style.id sheet.toList sheet.ids sheet.byId? := by
  have keyed := indexed_by_keys sheet.toList Style.id
  simp only [toList, ← sheet.ids_eq, Array.getElem?_toList] at keyed
  exact keyed

theorem indexed_names (sheet : Sheet) :
    IndexedBy Style.name sheet.toList sheet.names sheet.byName? := by
  have keyed := indexed_by_keys sheet.toList Style.name
  simp only [toList, ← sheet.names_eq, Array.getElem?_toList] at keyed
  exact keyed

theorem contains_eq_isSome (sheet : Sheet) (name : String) :
    sheet.contains name = (sheet.byName? name).isSome := by
  rw [contains]
  cases place : sheet.names.position? name with
  | none => simp [byName?, place]
  | some found =>
    obtain ⟨style, foremost⟩ := (sheet.indexed_names.place_iff name found).mp place
    have answer := (sheet.indexed_names.found_iff name style).mpr ⟨found, foremost⟩
    rw [answer, Option.isSome_some, Option.isSome_some]

theorem byName?_mem (sheet : Sheet) (name : String) (style : Style)
    (found : sheet.byName? name = some style) : style ∈ sheet.toList := by
  rw [byName?_eq_find?] at found
  exact List.mem_of_find?_eq_some found

theorem find?_mem (sheet : Sheet) (name : String) (style : Style)
    (found : Canonical.find? sheet name = some style) : style ∈ sheet.toList := by
  rw [Canonical.find?, Option.or_eq_some_iff] at found
  rcases found with named | ⟨_, byAlias⟩
  · exact sheet.byName?_mem name style named
  · obtain ⟨other, _, named⟩ := Option.bind_eq_some_iff.mp byAlias
    exact sheet.byName?_mem other style named

theorem toList_foldl_add (styles : List Style) (sheet : Sheet) :
    (styles.foldl add sheet).toList = sheet.toList ++ styles := by
  induction styles generalizing sheet with
  | nil => simp
  | cons style rest ih =>
    rw [List.foldl_cons, ih, toList_add, List.append_assoc, List.singleton_append]

@[simp] theorem toList_ofList (styles : List Style) : (ofList styles).toList = styles := by
  rw [ofList, toList_foldl_add, toList_empty, List.nil_append]

-- Both indexes are made from the list alone, so nothing else tells two sheets apart.
theorem eq_of_toList_eq (left right : Sheet) (same : left.toList = right.toList) :
    left = right := by
  obtain ⟨styles, ids, names, ids_eq, names_eq⟩ := left
  obtain ⟨others, otherIds, otherNames, otherIds_eq, otherNames_eq⟩ := right
  have styles_eq : styles = others := Array.toList_inj.mp same
  subst styles_eq
  subst ids_eq names_eq otherIds_eq otherNames_eq
  rfl

theorem ofList_toList (sheet : Sheet) : ofList sheet.toList = sheet :=
  eq_of_toList_eq _ _ (toList_ofList sheet.toList)

/--
What a row of additions to the empty sheet comes to: both indexes give the first declaration of a
key and no place outside the list, the list holds the styles in their order, and a sheet is
recovered from its list.
-/
theorem additions_indexed (styles : List Style) :
    IndexedBy Style.id styles (ofList styles).ids (ofList styles).byId? ∧
    IndexedBy Style.name styles (ofList styles).names (ofList styles).byName? ∧
    (∀ name, (ofList styles).contains name = ((ofList styles).byName? name).isSome) ∧
    (ofList styles).toList = styles ∧
    ofList (ofList styles).toList = ofList styles := by
  have ids := indexed_ids (ofList styles)
  have names := indexed_names (ofList styles)
  rw [toList_ofList] at ids names
  exact ⟨ids, names, contains_eq_isSome _, toList_ofList styles, ofList_toList _⟩

end HouseStyle.Sheet

/-! The style of a canonical name, and the place where it is declared. -/

namespace HouseStyle

namespace Canonical

/-- No canonical name has two aliases, so the first entry of a name is its only one. -/
theorem lookup_aliases_iff (name other : String) :
    aliases.lookup name = some other ↔ (name, other) ∈ aliases := by
  rw [List.lookup_eq_some_iff]
  constructor
  · rintro ⟨before, behind, parts, _⟩
    rw [parts]
    exact List.mem_append_right before List.mem_cons_self
  · intro known
    obtain ⟨before, behind, parts⟩ := List.append_of_mem known
    refine ⟨before, behind, parts, ?_⟩
    have distinct : (aliases.map Prod.fst).Nodup := by decide
    rw [parts, List.map_append, List.map_cons, List.nodup_append] at distinct
    intro entry earlier
    have apart := distinct.2.2 entry.1 (List.mem_map_of_mem earlier) name List.mem_cons_self
    exact bne_iff_ne.mpr apart.symm

variable (sheet : Sheet) (name : String)

theorem find?_eq_some_iff (style : Style) :
    find? sheet name = some style ↔
      sheet.byName? name = some style ∨
      ∃ other, (name, other) ∈ aliases ∧ sheet.byName? name = none ∧
        sheet.byName? other = some style := by
  rw [find?, Option.or_eq_some_iff, Option.bind_eq_some_iff]
  simp only [lookup_aliases_iff]
  constructor
  · rintro (named | ⟨unnamed, other, known, found⟩)
    · exact .inl named
    · exact .inr ⟨other, known, unnamed, found⟩
  · rintro (named | ⟨other, known, unnamed, found⟩)
    · exact .inl named
    · exact .inr ⟨unnamed, other, known, found⟩

theorem find?_eq_none_iff :
    find? sheet name = none ↔
      sheet.byName? name = none ∧
      ∀ other, (name, other) ∈ aliases → sheet.byName? other = none := by
  rw [find?, Option.or_eq_none_iff, Option.bind_eq_none_iff]
  simp only [lookup_aliases_iff]

end Canonical

namespace Sheet

/--
The style at a place is the one that goes by a canonical name: the first that has the name itself,
or the first that has its alias where no style has the name.
-/
inductive SelectedAt (sheet : Sheet) (name : String) (place : Nat) (style : Style) : Prop where
  | named (first : FirstAt Style.name name sheet.toList place style)
  | aliased {other : String} (known : (name, other) ∈ Canonical.aliases)
      (unnamed : ∀ held ∈ sheet.toList, held.name ≠ name)
      (first : FirstAt Style.name other sheet.toList place style)

variable {sheet : Sheet} {name : String} {place : Nat} {style : Style}

theorem SelectedAt.declared (selected : sheet.SelectedAt name place style) :
    sheet.toList[place]? = some style := by
  cases selected with
  | named first => exact first.declared
  | aliased known unnamed first => exact first.declared

theorem SelectedAt.found (selected : sheet.SelectedAt name place style) :
    Canonical.find? sheet name = some style := by
  rw [Canonical.find?_eq_some_iff]
  cases selected with
  | named first => exact .inl ((sheet.indexed_names.found_iff name style).mpr ⟨place, first⟩)
  | @aliased other known unnamed first =>
    have missing := (sheet.indexed_names.missing_iff name).mpr unnamed
    have found := (sheet.indexed_names.found_iff other style).mpr ⟨place, first⟩
    exact .inr ⟨other, known, missing, found⟩

theorem selectedAt_iff (sheet : Sheet) (name : String) (style : Style) :
    Canonical.find? sheet name = some style ↔ ∃ place, sheet.SelectedAt name place style := by
  constructor
  · intro found
    rcases (Canonical.find?_eq_some_iff sheet name style).mp found with
      named | ⟨other, known, missing, underOther⟩
    · obtain ⟨place, first⟩ := (sheet.indexed_names.found_iff name style).mp named
      exact ⟨place, .named first⟩
    · have unnamed := (sheet.indexed_names.missing_iff name).mp missing
      obtain ⟨place, first⟩ := (sheet.indexed_names.found_iff other style).mp underOther
      exact ⟨place, .aliased known unnamed first⟩
  · rintro ⟨place, selected⟩
    exact selected.found

end Sheet

end HouseStyle
