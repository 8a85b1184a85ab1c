import HouseStyle.Proofs.Profile.Renaming

/-!
What the order of declaration means to a profile: nothing, as long as no id and no name comes up
twice. It is only by being the first of its key that a style's place tells, so with distinct keys a
sheet answers every look-up alike in any order, and nothing but the listing of styles shows it.
-/

namespace HouseStyle

namespace Sheet

variable {styles others : List Style}

/-- With distinct keys the first style of a key is the only one. -/
theorem find?_keyed_iff (field : Style → String) (distinct : (styles.map field).Nodup)
    (key : String) (style : Style) :
    (styles.find? fun held => field held == key) = some style ↔
      style ∈ styles ∧ field style = key := by
  constructor
  · intro found
    exact ⟨List.mem_of_find?_eq_some found, by simpa using List.find?_some found⟩
  · rintro ⟨member, keyed⟩
    cases found : styles.find? fun held => field held == key with
    | none =>
      have unkeyed := List.find?_eq_none.mp found style member
      simp [keyed] at unkeyed
    | some other =>
      have same : field other = field style := by
        rw [keyed]
        simpa using List.find?_some found
      rw [List.inj_on_of_nodup_map distinct (List.mem_of_find?_eq_some found) member same]

theorem find?_keyed_perm (field : Style → String) (order : styles.Perm others)
    (distinct : (styles.map field).Nodup) (key : String) :
    (others.find? fun style => field style == key) =
      styles.find? fun style => field style == key := by
  have alsoDistinct : (others.map field).Nodup := (order.map field).nodup_iff.mp distinct
  apply Option.ext
  intro style
  rw [find?_keyed_iff field distinct, find?_keyed_iff field alsoDistinct, order.mem_iff]

variable {sheet : Sheet}

theorem byId?_reordered (order : sheet.toList.Perm styles)
    (distinct : (sheet.toList.map Style.id).Nodup) : (ofList styles).byId? = sheet.byId? := by
  funext id
  rw [byId?_eq_find?, byId?_eq_find?, toList_ofList, find?_keyed_perm Style.id order distinct]

theorem byName?_reordered (order : sheet.toList.Perm styles)
    (distinct : (sheet.toList.map Style.name).Nodup) :
    (ofList styles).byName? = sheet.byName? := by
  funext name
  rw [byName?_eq_find?, byName?_eq_find?, toList_ofList,
    find?_keyed_perm Style.name order distinct]

structure AnswersAlike (left right : Sheet) : Prop where
  byId : right.byId? = left.byId?
  byName : right.byName? = left.byName?

theorem answersAlike_reordered (order : sheet.toList.Perm styles)
    (ids : (sheet.toList.map Style.id).Nodup) (names : (sheet.toList.map Style.name).Nodup) :
    sheet.AnswersAlike (ofList styles) :=
  ⟨byId?_reordered order ids, byName?_reordered order names⟩

namespace AnswersAlike

variable {left right : Sheet}

-- No id is another one, which is the least that renaming them can do.
theorem renames (alike : left.AnswersAlike right) : left.Renames right id where
  injective := Function.injective_id
  byId key := by rw [alike.byId, style_withIds_id, Option.map_id, id_eq, id_eq]
  byName name := by rw [alike.byName, style_withIds_id, Option.map_id, id_eq]

theorem detail_eq (alike : left.AnswersAlike right) : right.detail = left.detail := by
  funext style
  have same := alike.renames.detail_eq style
  rw [style_withIds_id] at same
  exact same

end AnswersAlike

end Sheet

namespace Document

theorem details_profile (document : Document) (options : ProfileOptions) :
    (document.profile options).details =
      if options.detailed then
        some ((document.sheet.toList.filter Style.isParagraph).map document.sheet.detail)
      else none := rfl

theorem profile_of_answersAlike (document : Document) (sheet : Sheet)
    (alike : document.sheet.AnswersAlike sheet) (options : ProfileOptions) :
    { document with sheet }.profile options =
      { document.profile options with
        details := if options.detailed then some sheet.details else none } := by
  have profiled := document.profile_of_renames sheet alike.renames options
  rw [table_withIds_id, List.map_id] at profiled
  exact profiled

/--
The profile of a document whose styles are declared in another order, in which neither an id nor a
name comes up twice: it differs at most in the listing, and that has the same entry for each
paragraph style and is in the new order.
-/
theorem profile_reordered (document : Document) (styles : List Style)
    (order : document.sheet.toList.Perm styles)
    (ids : (document.sheet.toList.map Style.id).Nodup)
    (names : (document.sheet.toList.map Style.name).Nodup) (options : ProfileOptions) :
    { document with sheet := .ofList styles }.profile options =
      { document.profile options with
        details :=
          if options.detailed then
            some ((styles.filter Style.isParagraph).map document.sheet.detail)
          else none } ∧
    (document.profile options).details =
      if options.detailed then
        some ((document.sheet.toList.filter Style.isParagraph).map document.sheet.detail)
      else none := by
  have alike := Sheet.answersAlike_reordered order ids names
  refine ⟨?_, document.details_profile options⟩
  rw [profile_of_answersAlike document (.ofList styles) alike, Sheet.details,
    Sheet.toList_ofList, alike.detail_eq]

def inherited : Document :=
  { Document.empty with
    sheet := .ofList [Sheet.linked "n" "Normal" "h", Sheet.linked "h" "Heading 1" "n"] }

/-- Two styles that are based on each other change places, and so do their entries. -/
theorem swapped_profile :
    inherited.sheet.toList.Perm
      [Sheet.linked "h" "Heading 1" "n", Sheet.linked "n" "Normal" "h"] ∧
    { inherited with
      sheet := .ofList [Sheet.linked "h" "Heading 1" "n", Sheet.linked "n" "Normal" "h"] }.profile
        ⟨ProfileOptions.standardTargets, Color.redStarts, true, true⟩ =
      { inherited.profile ⟨ProfileOptions.standardTargets, Color.redStarts, true, true⟩ with
        details := some [inherited.sheet.detail (Sheet.linked "h" "Heading 1" "n"),
          inherited.sheet.detail (Sheet.linked "n" "Normal" "h")] } := by
  have listed : inherited.sheet.toList =
      [Sheet.linked "n" "Normal" "h", Sheet.linked "h" "Heading 1" "n"] := Sheet.toList_ofList _
  have order : inherited.sheet.toList.Perm
      [Sheet.linked "h" "Heading 1" "n", Sheet.linked "n" "Normal" "h"] := by
    rw [listed]
    exact List.Perm.swap _ _ _
  refine ⟨order, ?_⟩
  exact (profile_reordered inherited _ order (by rw [listed]; decide) (by rw [listed]; decide)
    ⟨ProfileOptions.standardTargets, Color.redStarts, true, true⟩).1

end Document

end HouseStyle
