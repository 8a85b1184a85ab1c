import HouseStyle.Proofs.Profile.Reports
import Mathlib.Data.List.Nodup
import Mathlib.Tactic.MkIffOfInductiveProp

/-!
When the keys of a rendered profile are distinct. A font has a key for its face and one for its
size, both at the top level and both ending in its label, so the size under one label can have the
key of the face under another. The fields besides the fonts never meet a font there, nor each
other, so the fonts alone decide.
-/

namespace HouseStyle

namespace TargetFont

def keys (font : TargetFont) : List String := font.members.map Prod.fst

theorem mem_keys_iff (font : TargetFont) (key : String) :
    key ∈ font.keys ↔
      (font.name.isSome ∧ key = nameKey font.label) ∨
        (font.size.isSome ∧ key = sizeKey font.label) := by
  obtain ⟨label, name, size⟩ := font
  cases name <;> cases size <;> simp [keys, members, Json.member]

theorem nameKey_injective : Function.Injective nameKey :=
  fun _ _ same => (String.append_right_inj "font").mp same

theorem sizeKey_injective : Function.Injective sizeKey :=
  fun _ _ same => (String.append_right_inj "fontSize").mp same

theorem sizeKey_eq_nameKey_iff (sized named : String) :
    sizeKey sized = nameKey named ↔ named = "Size" ++ sized := by
  have longer : sizeKey sized = nameKey ("Size" ++ sized) := by
    rw [sizeKey, nameKey, ← String.append_assoc]
    rfl
  rw [longer]
  constructor
  · intro same
    exact (nameKey_injective same).symm
  · rintro rfl
    rfl

theorem label_ne_size_append (label : String) : label ≠ "Size" ++ label := by
  intro same
  have lengths := congrArg String.length same
  rw [String.length_append] at lengths
  have four : "Size".length = 4 := rfl
  omega

/-! The three ways in which two fonts come to one key. -/

def NamesMeet (first second : TargetFont) : Prop :=
  first.name.isSome ∧ second.name.isSome ∧ first.label = second.label

def SizesMeet (first second : TargetFont) : Prop :=
  first.size.isSome ∧ second.size.isSome ∧ first.label = second.label

def SizeMeetsName (sized named : TargetFont) : Prop :=
  sized.size.isSome ∧ named.name.isSome ∧ named.label = "Size" ++ sized.label

instance (first second : TargetFont) : Decidable (first.NamesMeet second) :=
  inferInstanceAs (Decidable (_ ∧ _ ∧ _))

instance (first second : TargetFont) : Decidable (first.SizesMeet second) :=
  inferInstanceAs (Decidable (_ ∧ _ ∧ _))

instance (sized named : TargetFont) : Decidable (sized.SizeMeetsName named) :=
  inferInstanceAs (Decidable (_ ∧ _ ∧ _))

theorem shares_key_iff (first second : TargetFont) :
    (∃ key ∈ first.keys, key ∈ second.keys) ↔
      first.NamesMeet second ∨ first.SizesMeet second ∨ first.SizeMeetsName second ∨
        second.SizeMeetsName first := by
  constructor
  · rintro ⟨key, here, there⟩
    rw [mem_keys_iff] at here there
    rcases here with ⟨named, rfl⟩ | ⟨sized, rfl⟩
    · rcases there with ⟨otherNamed, same⟩ | ⟨otherSized, same⟩
      · exact .inl ⟨named, otherNamed, nameKey_injective same⟩
      · have crossed := (sizeKey_eq_nameKey_iff _ _).mp same.symm
        exact .inr (.inr (.inr ⟨otherSized, named, crossed⟩))
    · rcases there with ⟨otherNamed, same⟩ | ⟨otherSized, same⟩
      · have crossed := (sizeKey_eq_nameKey_iff _ _).mp same
        exact .inr (.inr (.inl ⟨sized, otherNamed, crossed⟩))
      · exact .inr (.inl ⟨sized, otherSized, sizeKey_injective same⟩)
  · simp only [mem_keys_iff]
    rintro (⟨named, otherNamed, same⟩ | ⟨sized, otherSized, same⟩ | ⟨sized, named, crossed⟩ |
      ⟨sized, named, crossed⟩)
    · exact ⟨nameKey first.label, .inl ⟨named, rfl⟩, .inl ⟨otherNamed, congrArg nameKey same⟩⟩
    · exact ⟨sizeKey first.label, .inr ⟨sized, rfl⟩, .inr ⟨otherSized, congrArg sizeKey same⟩⟩
    · exact ⟨sizeKey first.label, .inr ⟨sized, rfl⟩,
        .inl ⟨named, (sizeKey_eq_nameKey_iff _ _).mpr crossed⟩⟩
    · exact ⟨sizeKey second.label, .inl ⟨named, (sizeKey_eq_nameKey_iff _ _).mpr crossed⟩,
        .inr ⟨sized, rfl⟩⟩

theorem keys_disjoint_iff (first second : TargetFont) :
    first.keys.Disjoint second.keys ↔
      ¬first.NamesMeet second ∧ ¬first.SizesMeet second ∧ ¬first.SizeMeetsName second ∧
        ¬second.SizeMeetsName first := by
  have shared := not_congr (first.shares_key_iff second)
  simp only [not_or, not_exists, not_and] at shared
  exact shared

theorem not_sizeMeetsName_self (font : TargetFont) : ¬font.SizeMeetsName font :=
  fun meets => label_ne_size_append font.label meets.2.2

theorem keys_nodup (font : TargetFont) : font.keys.Nodup := by
  have apart : nameKey font.label ≠ sizeKey font.label := by
    intro same
    exact label_ne_size_append _ ((sizeKey_eq_nameKey_iff _ _).mp same.symm)
  obtain ⟨label, name, size⟩ := font
  cases name <;> cases size <;> simp [keys, members, Json.member, apart]

end TargetFont

namespace TargetFonts

@[mk_iff]
structure KeysApart (fonts : TargetFonts) : Prop where
  names : fonts.entries.Pairwise fun first second => ¬first.NamesMeet second
  sizes : fonts.entries.Pairwise fun first second => ¬first.SizesMeet second
  crossed : ∀ sized ∈ fonts.entries, ∀ named ∈ fonts.entries, ¬sized.SizeMeetsName named

instance (fonts : TargetFonts) : Decidable fonts.KeysApart :=
  decidable_of_iff' _ fonts.keysApart_iff

theorem keys_eq_flatMap (fonts : TargetFonts) :
    fonts.members.map Prod.fst = fonts.entries.flatMap TargetFont.keys := by
  rw [members, List.map_flatMap]
  rfl

/-- A font may stand on either side of a clash with another one, but not on both sides of one. -/
theorem keys_nodup_iff (fonts : TargetFonts) :
    (fonts.members.map Prod.fst).Nodup ↔ fonts.KeysApart := by
  rw [keys_eq_flatMap, List.nodup_flatMap]
  constructor
  · rintro ⟨_, disjoint⟩
    have parts := disjoint.imp fun {first second} => (first.keys_disjoint_iff second).mp
    have names := parts.imp fun apart => apart.1
    have sizes := parts.imp fun apart => apart.2.1
    have crossed := parts.imp fun apart => apart.2.2.1
    have crossedBack := parts.imp fun apart => apart.2.2.2
    exact ⟨names, sizes, fun sized here named there =>
      crossed.forall_of_forall_of_flip (fun font _ => font.not_sizeMeetsName_self) crossedBack
        here there⟩
  · intro apart
    constructor
    · intro font _
      exact font.keys_nodup
    · apply (apart.names.and apart.sizes).imp_of_mem
      intro first second here there parted
      exact (first.keys_disjoint_iff second).mpr ⟨parted.1, parted.2,
        apart.crossed first here second there, apart.crossed second there first here⟩

end TargetFonts

namespace Profile

variable (profile : Profile)

theorem members_perm :
    profile.members.Perm (profile.fonts.members ++ Json.written profile.fields) := by
  have whole : Json.written profile.fields =
      Json.written [profile.marginField] ++ Json.written profile.laterFields :=
    Json.written_append [profile.marginField] profile.laterFields
  rw [members_eq, whole, ← List.append_assoc]
  exact List.perm_append_comm.append_right _

theorem keys_fields_sublist :
    ((Json.written profile.fields).map Prod.fst).Sublist fieldKeys := by
  have slots : (profile.fields.map Json.slot).map Prod.fst = fieldKeys := by
    rw [List.map_map]
    exact profile.keys_fields
  rw [Json.keys_written, Json.filled, ← slots]
  exact List.filter_sublist.map Prod.fst

theorem keys_nodup_iff : (profile.members.map Prod.fst).Nodup ↔ profile.fonts.KeysApart := by
  rw [(profile.members_perm.map Prod.fst).nodup_iff, List.map_append, List.nodup_append,
    profile.fonts.keys_nodup_iff]
  constructor
  · intro distinct
    exact distinct.1
  · intro apart
    have fieldsApart : fieldKeys.Nodup := by decide
    refine ⟨apart, fieldsApart.sublist profile.keys_fields_sublist, ?_⟩
    intro fontKey here fieldKey there same
    obtain ⟨entry, font, rfl⟩ := List.mem_map.mp here
    exact profile.font_key_apart entry font (same ▸ profile.keys_fields_sublist.subset there)

end Profile

/-! Labels that keep the keys apart, whatever is found under them. -/

theorem TargetFonts.keysApart_of_labels (fonts : TargetFonts)
    (distinct : (fonts.entries.map TargetFont.label).Nodup)
    (plain : ∀ font ∈ fonts.entries, ¬"Size".toList <+: font.label.toList) : fonts.KeysApart := by
  have parted : fonts.entries.Pairwise fun first second => first.label ≠ second.label :=
    List.pairwise_map.mp distinct
  constructor
  · exact parted.imp fun apart meet => apart meet.2.2
  · exact parted.imp fun apart meet => apart meet.2.2
  · rintro sized _ named there ⟨_, _, crossed⟩
    apply plain named there
    rw [crossed, String.toList_append]
    exact List.prefix_append _ _

theorem Sheet.labels_sublist (sheet : Sheet) (targets : List Target) :
    ((sheet.targetFonts targets).entries.map TargetFont.label).Sublist
      (targets.map Target.label) := by
  have found : ((targets.filterMap sheet.targetFont?).map TargetFont.label).Sublist
      (targets.map Target.label) := by
    induction targets with
    | nil => exact .slnil
    | cons target rest ih =>
      rw [List.filterMap_cons, List.map_cons]
      cases known : sheet.targetFont? target with
      | none => exact ih.cons _
      | some font =>
        obtain ⟨style, _, rfl⟩ := Option.map_eq_some_iff.mp known
        exact ih.cons_cons target.label
  exact (List.filter_sublist.map TargetFont.label).trans found

/--
The text of a profile, in either layout, of any document and whatever is asked of it. No key comes
twice at the top level exactly if among the fonts no two tell a face under one label, no two tell a
size under one label, and no face is told under the label that "Size" makes of the label of a size.
Targets whose labels are distinct and do not begin with "Size" never bring a key twice.
-/
theorem Document.rendered_keys_nodup_iff (document : Document) (options : ProfileOptions)
    (layout : Json.Layout) :
    ∃ members,
      Json.read? ((document.profile options).toJson.render layout) = some (.object members) ∧
      ((members.map Prod.fst).Nodup ↔ (document.profile options).fonts.KeysApart) ∧
      ((options.targets.map Target.label).Nodup →
        (∀ target ∈ options.targets, ¬"Size".toList <+: target.label.toList) →
          (members.map Prod.fst).Nodup) := by
  have apart_iff := (document.profile options).keys_nodup_iff
  refine ⟨(document.profile options).members, Json.read?_render layout _, apart_iff, ?_⟩
  intro distinct plain
  have listed := document.sheet.labels_sublist options.targets
  apply apart_iff.mpr
  apply TargetFonts.keysApart_of_labels
  · exact distinct.sublist listed
  · intro font there
    obtain ⟨target, asked, same⟩ :=
      List.mem_map.mp (listed.subset (List.mem_map_of_mem (f := TargetFont.label) there))
    exact same ▸ plain target asked

def Document.halved : Document where
  sections := []
  sheet := .ofList
    [{ Style.plain "n" with name := "Normal", font := ⟨none, some 12, none, none⟩ },
     { Style.plain "h" with name := "Heading 1", font := ⟨some "Arial", none, none, none⟩ }]
  tables := []

def pairOfTargets (body heading : String) : ProfileOptions :=
  ⟨[⟨Canonical.body, body⟩, ⟨Canonical.heading, heading⟩], [], false, false⟩

/-- One label for both keeps the keys apart, and two labels may bring one key. -/
theorem halved_keys :
    (∃ members,
      Json.read? ((Document.halved.profile (pairOfTargets "Main" "H1")).toJson.render .pretty) =
        some (.object members) ∧ (members.map Prod.fst).Nodup) ∧
    (∃ members,
      Json.read? ((Document.halved.profile (pairOfTargets "X" "X")).toJson.render .pretty) =
        some (.object members) ∧ (members.map Prod.fst).Nodup) ∧
    ∃ members,
      Json.read? ((Document.halved.profile (pairOfTargets "X" "SizeX")).toJson.render .pretty) =
        some (.object members) ∧ ¬(members.map Prod.fst).Nodup := by
  refine ⟨?_, ?_, ?_⟩
  · obtain ⟨members, read, _, told⟩ :=
      Document.halved.rendered_keys_nodup_iff (pairOfTargets "Main" "H1") .pretty
    exact ⟨members, read, told (by decide) (by decide)⟩
  · obtain ⟨members, read, told, _⟩ :=
      Document.halved.rendered_keys_nodup_iff (pairOfTargets "X" "X") .pretty
    exact ⟨members, read, told.mpr (by decide +kernel)⟩
  · obtain ⟨members, read, told, _⟩ :=
      Document.halved.rendered_keys_nodup_iff (pairOfTargets "X" "SizeX") .pretty
    exact ⟨members, read, mt told.mp (by decide +kernel)⟩

end HouseStyle
