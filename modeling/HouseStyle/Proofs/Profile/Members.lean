import HouseStyle.Profile.Encoding
import HouseStyle.Proofs.Json.Fields

/-!
The members of an encoded profile. The profile and the records in it are rows of optional fields,
and their keys are those of the fields that are there. The keys of fonts end in labels that anyone
may choose; they begin like no other key, so the other fields are told apart from the fonts whatever
the labels are.
-/

namespace HouseStyle

open Json (filled written keys_written written_injective Clean CleanField cleanField_map
  cleanField_some clean_written)

/-! Margins, tables and entries of the listing. -/

namespace MarginTexts

def fields (margins : MarginTexts) : List (String × Option Json) :=
  [("top", margins.top.map .text), ("bottom", margins.bottom.map .text),
    ("left", margins.left.map .text), ("right", margins.right.map .text)]

def slots (margins : MarginTexts) : List (String × Bool) :=
  [("top", margins.top.isSome), ("bottom", margins.bottom.isSome),
    ("left", margins.left.isSome), ("right", margins.right.isSome)]

theorem toJson_eq (margins : MarginTexts) : margins.toJson = .object (written margins.fields) := by
  simp [toJson, written, fields]

theorem keys_toJson (margins : MarginTexts) : margins.toJson.keys = filled margins.slots := by
  rw [toJson_eq, Json.keys, keys_written]
  simp [fields, slots, Json.slot]

theorem clean_toJson (margins : MarginTexts) : Clean margins.toJson := by
  rw [toJson_eq]
  apply Json.clean_object
  apply clean_written
  simp only [fields, List.forall_mem_cons, List.not_mem_nil, false_imp_iff, implies_true, and_true]
  refine ⟨?_, ?_, ?_, ?_⟩ <;> exact cleanField_map _ _ _ Json.clean_text

end MarginTexts

namespace TableConvention

def allKeys : List String :=
  ["borderStyle", "borderColor", "borderSize", "headerBold", "headerColor", "cellAlign"]

theorem keys_toJson (convention : TableConvention) : convention.toJson.keys = allKeys := rfl

theorem clean_toJson (convention : TableConvention) : Clean convention.toJson := by
  apply Json.clean_object
  simp only [List.forall_mem_cons, List.not_mem_nil, false_imp_iff, implies_true, and_true]
  exact ⟨Json.clean_text _, Json.clean_text _, Json.clean_integer _, Json.clean_bool _,
    Json.clean_text _, Json.clean_text _⟩

end TableConvention

namespace StyleDetail

def fields (detail : StyleDetail) : List (String × Option Json) :=
  [("id", some (.text detail.id)), ("name", some (.text detail.name)),
    ("fontName", detail.fontName.map .text), ("fontSize", detail.fontSize.map .integer),
    ("lineSpacing", detail.lineSpacing.map .integer),
    ("firstLineIndent", detail.firstLineIndent.map .integer),
    ("baseStyle", detail.baseStyle.map .text)]

def slots (detail : StyleDetail) : List (String × Bool) :=
  [("id", true), ("name", true), ("fontName", detail.fontName.isSome),
    ("fontSize", detail.fontSize.isSome), ("lineSpacing", detail.lineSpacing.isSome),
    ("firstLineIndent", detail.firstLineIndent.isSome), ("baseStyle", detail.baseStyle.isSome)]

theorem toJson_eq (detail : StyleDetail) : detail.toJson = .object (written detail.fields) := by
  simp [toJson, written, fields, Json.member]

theorem keys_toJson (detail : StyleDetail) : detail.toJson.keys = filled detail.slots := by
  rw [toJson_eq, Json.keys, keys_written]
  simp [fields, slots, Json.slot]

theorem clean_toJson (detail : StyleDetail) : Clean detail.toJson := by
  rw [toJson_eq]
  apply Json.clean_object
  apply clean_written
  simp only [fields, List.forall_mem_cons, List.not_mem_nil, false_imp_iff, implies_true, and_true]
  exact ⟨cleanField_some _ _ (Json.clean_text _), cleanField_some _ _ (Json.clean_text _),
    cleanField_map _ _ _ Json.clean_text, cleanField_map _ _ _ Json.clean_integer,
    cleanField_map _ _ _ Json.clean_integer, cleanField_map _ _ _ Json.clean_integer,
    cleanField_map _ _ _ Json.clean_text⟩

end StyleDetail

/-! Fonts. -/

namespace TargetFont

def fields (font : TargetFont) : List (String × Option Json) :=
  [(nameKey font.label, font.name.map .text), (sizeKey font.label, font.size.map .integer)]

def slots (font : TargetFont) : List (String × Bool) :=
  [(nameKey font.label, font.name.isSome), (sizeKey font.label, font.size.isSome)]

def isFontKey (key : String) : Bool := "font".toList.isPrefixOf key.toList

theorem isFontKey_nameKey (label : String) : isFontKey (nameKey label) = true := by
  rw [isFontKey, nameKey, String.toList_append, List.isPrefixOf_iff_prefix]
  exact List.prefix_append _ _

theorem isFontKey_sizeKey (label : String) : isFontKey (sizeKey label) = true := by
  have longer : "fontSize" = "font" ++ "Size" := rfl
  rw [isFontKey, sizeKey, longer, String.toList_append, String.toList_append, List.append_assoc,
    List.isPrefixOf_iff_prefix]
  exact List.prefix_append _ _

end TargetFont

namespace TargetFonts

theorem members_eq (fonts : TargetFonts) :
    fonts.members = written (fonts.entries.flatMap TargetFont.fields) := by
  rw [members, written, List.flatMap_assoc]
  congr 1
  funext font
  simp [TargetFont.members, TargetFont.fields]

theorem keys_members (fonts : TargetFonts) :
    fonts.members.map Prod.fst = filled (fonts.entries.flatMap TargetFont.slots) := by
  rw [members_eq, keys_written, List.map_flatMap]
  simp only [TargetFont.fields, List.map_cons, List.map_nil, Json.slot, Option.isSome_map]
  rfl

theorem isFontKey_of_mem (fonts : TargetFonts) (entry : String × Json)
    (held : entry ∈ fonts.members) : TargetFont.isFontKey entry.1 = true := by
  rw [members_eq] at held
  obtain ⟨field, listed, same⟩ := List.mem_map.mp (Json.mem_written_key _ entry held)
  obtain ⟨font, _, inside⟩ := List.mem_flatMap.mp listed
  simp only [TargetFont.fields, List.mem_cons, List.not_mem_nil, or_false] at inside
  rcases inside with rfl | rfl
  · rw [← same, TargetFont.isFontKey_nameKey]
  · rw [← same, TargetFont.isFontKey_sizeKey]

theorem clean_members (fonts : TargetFonts) : ∀ entry ∈ fonts.members, Clean entry.2 := by
  rw [members_eq]
  apply clean_written
  intro field listed
  obtain ⟨font, _, inside⟩ := List.mem_flatMap.mp listed
  simp only [TargetFont.fields, List.mem_cons, List.not_mem_nil, or_false] at inside
  rcases inside with rfl | rfl
  · exact cleanField_map _ _ _ Json.clean_text
  · exact cleanField_map _ _ _ Json.clean_integer

end TargetFonts

/-! The whole profile. -/

namespace Profile

def marginField (profile : Profile) : String × Option Json :=
  ("margin", profile.margin.map MarginTexts.toJson)

def laterFields (profile : Profile) : List (String × Option Json) :=
  [("redHeader", if profile.redHeader then some (.bool true) else none),
    ("firstLineIndent", profile.firstLineIndent.map .integer),
    ("lineSpacing", profile.lineSpacing.map .integer),
    ("colorMain", profile.colorMain.map fun color => .text color.text),
    ("table", profile.table.map TableConvention.toJson),
    ("detailedStylesInfo",
      profile.details.map fun details => .list (details.map StyleDetail.toJson))]

def slots (profile : Profile) : List (String × Bool) :=
  [("margin", profile.margin.isSome)] ++ profile.fonts.entries.flatMap TargetFont.slots ++
    [("redHeader", profile.redHeader), ("firstLineIndent", profile.firstLineIndent.isSome),
      ("lineSpacing", profile.lineSpacing.isSome), ("colorMain", profile.colorMain.isSome),
      ("table", profile.table.isSome), ("detailedStylesInfo", profile.details.isSome)]

theorem members_eq (profile : Profile) :
    profile.members =
      written [profile.marginField] ++ profile.fonts.members ++ written profile.laterFields := by
  simp [members, written, marginField, laterFields]

theorem keys_toJson (profile : Profile) : profile.toJson.keys = filled profile.slots := by
  have red : (if profile.redHeader then some (Json.bool true) else none).isSome =
      profile.redHeader := by
    cases profile.redHeader <;> rfl
  rw [toJson, Json.keys, members_eq, List.map_append, List.map_append, keys_written,
    keys_written, profile.fonts.keys_members, ← Json.filled_append, ← Json.filled_append]
  simp [slots, marginField, laterFields, Json.slot, red]

theorem clean_toJson (profile : Profile) : Clean profile.toJson := by
  apply Json.clean_object
  rw [members_eq, List.forall_mem_append, List.forall_mem_append]
  refine ⟨⟨?_, profile.fonts.clean_members⟩, ?_⟩
  · apply clean_written
    rw [List.forall_mem_singleton]
    exact cleanField_map _ _ _ MarginTexts.clean_toJson
  · apply clean_written
    simp only [laterFields, List.forall_mem_cons, List.not_mem_nil, false_imp_iff, implies_true,
      and_true]
    refine ⟨?_, cleanField_map _ _ _ Json.clean_integer, cleanField_map _ _ _ Json.clean_integer,
      cleanField_map _ _ _ fun color => Json.clean_text color.text,
      cleanField_map _ _ _ TableConvention.clean_toJson, cleanField_map _ _ _ fun details => ?_⟩
    · split
      · exact cleanField_some _ _ (Json.clean_bool true)
      · intro value there
        contradiction
    · apply Json.clean_list
      intro item held
      obtain ⟨detail, _, rfl⟩ := List.mem_map.mp held
      exact detail.clean_toJson

def fields (profile : Profile) : List (String × Option Json) :=
  profile.marginField :: profile.laterFields

def fieldKeys : List String :=
  ["margin", "redHeader", "firstLineIndent", "lineSpacing", "colorMain", "table",
    "detailedStylesInfo"]

theorem keys_fields (profile : Profile) : profile.fields.map Prod.fst = fieldKeys := rfl

theorem no_font_key (key : String) (known : key ∈ fieldKeys) :
    TargetFont.isFontKey key = false := by
  revert known key
  decide

theorem get?_toJson (profile : Profile) (key : String) (value : Option Json)
    (field : (key, value) ∈ profile.fields) : profile.toJson.get? key = value := by
  have known : key ∈ fieldKeys := List.mem_map_of_mem (f := Prod.fst) field
  have silent : profile.fonts.members.lookup key = none := by
    apply Json.lookup_eq_none_of_apart
    rintro entry held rfl
    have font := profile.fonts.isFontKey_of_mem entry held
    rw [no_font_key entry.1 known] at font
    contradiction
  have whole := Json.lookup_written profile.fields key value (by rw [keys_fields]; decide) field
  rw [toJson, Json.get?, members_eq, List.lookup_append, List.lookup_append, silent,
    Option.or_none, ← List.lookup_append, ← Json.written_append]
  exact whole

end Profile

end HouseStyle
