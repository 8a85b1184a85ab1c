import HouseStyle.Proofs.Json.RoundTrip
import HouseStyle.Proofs.Profile.Members

/-!
What the text of a profile tells. The members of an encoded profile determine every field of it: the
plain fields by their keys, and the fonts by their order, once no label comes up twice. Together
with the round trip of the text, either layout tells the profile.
-/

namespace HouseStyle

open Json (written written_injective)

theorem text_injective : Function.Injective Json.text := fun _ _ => Json.text.inj

theorem integer_injective : Function.Injective Json.integer := fun _ _ => Json.integer.inj

theorem MarginTexts.toJson_injective : Function.Injective MarginTexts.toJson := by
  intro first second same
  rw [toJson_eq, toJson_eq] at same
  have distinct : (first.fields.map Prod.fst).Nodup := by
    change ["top", "bottom", "left", "right"].Nodup
    decide
  have rows := written_injective first.fields second.fields rfl distinct (Json.object.inj same)
  have texts := Option.map_injective text_injective
  simp only [fields, List.cons.injEq, Prod.mk.injEq, true_and, and_true] at rows
  obtain ⟨top, bottom, left, right⟩ := rows
  obtain ⟨_, _, _, _⟩ := first
  obtain ⟨_, _, _, _⟩ := second
  rw [MarginTexts.mk.injEq]
  exact ⟨texts top, texts bottom, texts left, texts right⟩

theorem BorderStyle.name_injective : Function.Injective BorderStyle.name := by
  intro first second same
  cases first <;> cases second <;> simp_all [name]

theorem CellAlign.name_injective : Function.Injective CellAlign.name := by
  intro first second same
  cases first <;> cases second <;> simp_all [name]

theorem color_text_injective : Function.Injective Color.text := by
  rintro ⟨_⟩ ⟨_⟩ rfl
  rfl

theorem TableConvention.toJson_injective : Function.Injective TableConvention.toJson := by
  rintro ⟨style, color, size, bold, header, align⟩ ⟨style', color', size', bold', header', align'⟩
    same
  simp only [toJson, Json.object.injEq, List.cons.injEq, Prod.mk.injEq, true_and, and_true,
    Json.text.injEq, Json.integer.injEq, Json.bool.injEq, Int.natCast_inj] at same
  obtain ⟨sameStyle, sameColor, rfl, rfl, sameHeader, sameAlign⟩ := same
  rw [BorderStyle.name_injective sameStyle, color_text_injective sameColor,
    color_text_injective sameHeader, CellAlign.name_injective sameAlign]

theorem StyleDetail.toJson_injective : Function.Injective StyleDetail.toJson := by
  intro first second same
  rw [toJson_eq, toJson_eq] at same
  have distinct : (first.fields.map Prod.fst).Nodup := by
    change ["id", "name", "fontName", "fontSize", "lineSpacing", "firstLineIndent",
      "baseStyle"].Nodup
    decide
  have rows := written_injective first.fields second.fields rfl distinct (Json.object.inj same)
  have texts := Option.map_injective text_injective
  have numbers := Option.map_injective integer_injective
  simp only [fields, List.cons.injEq, Prod.mk.injEq, true_and, and_true, Option.some.injEq,
    Json.text.injEq] at rows
  obtain ⟨id, name, font, size, spacing, indent, base⟩ := rows
  obtain ⟨_, _, _, _, _, _, _⟩ := first
  obtain ⟨_, _, _, _, _, _, _⟩ := second
  rw [StyleDetail.mk.injEq]
  exact ⟨id, name, texts font, numbers size, numbers spacing, numbers indent, texts base⟩

/-! Fonts: what is told of each of them, as a row in which equal labels stand together. -/

inductive FontFact where
  | name (label : String) (content : String)
  | size (label : String) (number : Int)

namespace FontFact

def label : FontFact → String
  | name label _ => label
  | size label _ => label

def encode : FontFact → String × Json
  | name label content => (TargetFont.nameKey label, .text content)
  | size label number => (TargetFont.sizeKey label, .integer number)

/-- A name under one label may have the key of a size under another, but never its kind of value. -/
theorem encode_injective : Function.Injective encode := by
  rintro (⟨label, content⟩ | ⟨label, number⟩) (⟨label', content'⟩ | ⟨label', number'⟩) same
  · simp only [encode, Prod.mk.injEq, Json.text.injEq, TargetFont.nameKey] at same
    rw [(String.append_right_inj "font").mp same.1, same.2]
  · simp [encode] at same
  · simp [encode] at same
  · simp only [encode, Prod.mk.injEq, Json.integer.injEq, TargetFont.sizeKey] at same
    rw [(String.append_right_inj "fontSize").mp same.1, same.2]

end FontFact

namespace TargetFont

def facts (font : TargetFont) : List FontFact :=
  (font.name.map (.name font.label)).toList ++ (font.size.map (.size font.label)).toList

theorem members_eq_facts (font : TargetFont) : font.members = font.facts.map FontFact.encode := by
  obtain ⟨label, name, size⟩ := font
  cases name <;> cases size <;> rfl

theorem label_of_mem_facts (font : TargetFont) (fact : FontFact) (told : fact ∈ font.facts) :
    fact.label = font.label := by
  obtain ⟨label, name, size⟩ := font
  cases name <;> cases size <;> simp only [facts, Option.map_none, Option.map_some,
    Option.toList_none, Option.toList_some, List.nil_append, List.append_nil, List.cons_append,
    List.mem_cons, List.not_mem_nil, or_false] at told
  · rw [told]; rfl
  · rw [told]; rfl
  · rcases told with rfl | rfl <;> rfl

theorem facts_ne_nil (font : TargetFont) (told : font.saysSomething = true) : font.facts ≠ [] := by
  obtain ⟨label, name, size⟩ := font
  cases name <;> cases size <;> simp_all [facts, saysSomething]

theorem eq_of_facts (first second : TargetFont) (label : first.label = second.label)
    (same : first.facts = second.facts) : first = second := by
  obtain ⟨label, name, size⟩ := first
  obtain ⟨_, name', size'⟩ := second
  cases name <;> cases size <;> cases name' <;> cases size' <;> simp_all [facts]

end TargetFont

namespace TargetFonts

/-- Behind a font nothing is told of its label, so what is told of it can be picked out. -/
theorem filter_facts (font : TargetFont) (rest : List TargetFont)
    (fresh : font.label ∉ rest.map TargetFont.label) :
    (font.facts ++ rest.flatMap TargetFont.facts).filter (fun fact => fact.label = font.label) =
      font.facts := by
  have own : font.facts.filter (fun fact => fact.label = font.label) = font.facts := by
    rw [List.filter_eq_self]
    intro fact told
    simpa using font.label_of_mem_facts fact told
  have others : (rest.flatMap TargetFont.facts).filter (fun fact => fact.label = font.label) =
      [] := by
    rw [List.filter_eq_nil_iff]
    intro fact told
    obtain ⟨other, listed, inside⟩ := List.mem_flatMap.mp told
    have label := other.label_of_mem_facts fact inside
    simp only [decide_eq_true_eq]
    intro same
    exact fresh (same ▸ label ▸ List.mem_map_of_mem listed)
  rw [List.filter_append, own, others, List.append_nil]

theorem entries_eq_of_facts (left right : List TargetFont)
    (distinct : (left.map TargetFont.label).Nodup)
    (distinctToo : (right.map TargetFont.label).Nodup)
    (telling : ∀ font ∈ left, font.saysSomething = true)
    (tellingToo : ∀ font ∈ right, font.saysSomething = true)
    (same : left.flatMap TargetFont.facts = right.flatMap TargetFont.facts) : left = right := by
  induction left generalizing right with
  | nil =>
    cases right with
    | nil => rfl
    | cons other others =>
      have none_told := (List.append_eq_nil_iff.mp same.symm).1
      exact absurd none_told (other.facts_ne_nil (tellingToo other List.mem_cons_self))
  | cons font rest ih =>
    cases right with
    | nil =>
      have none_told := (List.append_eq_nil_iff.mp same).1
      exact absurd none_told (font.facts_ne_nil (telling font List.mem_cons_self))
    | cons other others =>
      obtain ⟨fresh, later⟩ := List.nodup_cons.mp distinct
      obtain ⟨freshToo, laterToo⟩ := List.nodup_cons.mp distinctToo
      simp only [List.flatMap_cons] at same
      have label : font.label = other.label := by
        obtain ⟨first, more, told⟩ := List.exists_cons_of_ne_nil
          (font.facts_ne_nil (telling font List.mem_cons_self))
        obtain ⟨second, moreToo, toldToo⟩ := List.exists_cons_of_ne_nil
          (other.facts_ne_nil (tellingToo other List.mem_cons_self))
        have heads : first = second := by
          rw [told, toldToo] at same
          exact (List.cons.inj same).1
        rw [← font.label_of_mem_facts first (told ▸ List.mem_cons_self), heads,
          other.label_of_mem_facts second (toldToo ▸ List.mem_cons_self)]
      have facts : font.facts = other.facts := by
        rw [← filter_facts font rest fresh, same, label, filter_facts other others freshToo]
      rw [facts] at same
      rw [font.eq_of_facts other label facts, ih others later laterToo
        (fun behind listed => telling behind (List.mem_cons_of_mem font listed))
        (fun behind listed => tellingToo behind (List.mem_cons_of_mem other listed))
        (List.append_cancel_left same)]

theorem eq_of_members (left right : TargetFonts)
    (distinct : (left.entries.map TargetFont.label).Nodup)
    (distinctToo : (right.entries.map TargetFont.label).Nodup)
    (same : left.members = right.members) : left = right := by
  have encoded : ∀ fonts : TargetFonts,
      fonts.members = (fonts.entries.flatMap TargetFont.facts).map FontFact.encode := by
    intro fonts
    have each : TargetFont.members = fun font => font.facts.map FontFact.encode :=
      funext TargetFont.members_eq_facts
    rw [members, List.map_flatMap, each]
  rw [encoded, encoded] at same
  have facts := (List.map_injective_iff.mpr FontFact.encode_injective) same
  have entries := entries_eq_of_facts left.entries right.entries distinct distinctToo left.telling
    right.telling facts
  rw [TargetFonts.mk.injEq]
  exact entries

end TargetFonts

namespace Profile

/-! The fonts and the other fields of a profile, picked out of its members by the keys. -/

theorem isFontKey_of_mem_written (fields : List (String × Option Json))
    (known : ∀ key ∈ fields.map Prod.fst, key ∈ fieldKeys) (entry : String × Json)
    (held : entry ∈ written fields) : TargetFont.isFontKey entry.1 = false :=
  no_font_key entry.1 (known _ (Json.mem_written_key fields entry held))

theorem margin_key_known (profile : Profile) :
    ∀ key ∈ [profile.marginField].map Prod.fst, key ∈ fieldKeys := by
  change ∀ key ∈ ["margin"], key ∈ fieldKeys
  decide

theorem later_keys_known (profile : Profile) :
    ∀ key ∈ profile.laterFields.map Prod.fst, key ∈ fieldKeys := by
  change ∀ key ∈ ["redHeader", "firstLineIndent", "lineSpacing", "colorMain", "table",
    "detailedStylesInfo"], key ∈ fieldKeys
  decide

theorem filter_fontKeys (profile : Profile) :
    profile.members.filter (fun entry => TargetFont.isFontKey entry.1) =
      profile.fonts.members := by
  have none_of : ∀ fields : List (String × Option Json),
      (∀ key ∈ fields.map Prod.fst, key ∈ fieldKeys) →
        (written fields).filter (fun entry => TargetFont.isFontKey entry.1) = [] := by
    intro fields known
    rw [List.filter_eq_nil_iff]
    intro entry held
    simp [isFontKey_of_mem_written fields known entry held]
  have all_of : profile.fonts.members.filter (fun entry => TargetFont.isFontKey entry.1) =
      profile.fonts.members := List.filter_eq_self.mpr profile.fonts.isFontKey_of_mem
  rw [members_eq, List.filter_append, List.filter_append, none_of _ profile.margin_key_known,
    none_of _ profile.later_keys_known, all_of, List.nil_append, List.append_nil]

theorem filter_otherKeys (profile : Profile) :
    profile.members.filter (fun entry => !TargetFont.isFontKey entry.1) =
      written profile.fields := by
  have all_of : ∀ fields : List (String × Option Json),
      (∀ key ∈ fields.map Prod.fst, key ∈ fieldKeys) →
        (written fields).filter (fun entry => !TargetFont.isFontKey entry.1) = written fields := by
    intro fields known
    rw [List.filter_eq_self]
    intro entry held
    simp [isFontKey_of_mem_written fields known entry held]
  have none_of : profile.fonts.members.filter (fun entry => !TargetFont.isFontKey entry.1) =
      [] := by
    rw [List.filter_eq_nil_iff]
    intro entry held
    simp [profile.fonts.isFontKey_of_mem entry held]
  rw [members_eq, List.filter_append, List.filter_append, all_of _ profile.margin_key_known,
    all_of _ profile.later_keys_known, none_of, List.append_nil, ← Json.written_append]
  rfl

/-- A profile in which no label comes up twice is determined by what it is encoded as. -/
theorem eq_of_toJson (first second : Profile)
    (distinct : (first.fonts.entries.map TargetFont.label).Nodup)
    (distinctToo : (second.fonts.entries.map TargetFont.label).Nodup)
    (same : first.toJson = second.toJson) : first = second := by
  have members := Json.object.inj same
  have fonts : first.fonts = second.fonts := by
    apply TargetFonts.eq_of_members _ _ distinct distinctToo
    rw [← filter_fontKeys, ← filter_fontKeys, members]
  have rows : first.fields = second.fields := by
    apply written_injective first.fields second.fields rfl
    · rw [keys_fields]
      decide
    · rw [← filter_otherKeys, ← filter_otherKeys, members]
  simp only [fields, marginField, laterFields, List.cons.injEq, Prod.mk.injEq, true_and, and_true]
    at rows
  obtain ⟨margin, red, indent, spacing, color, table, details⟩ := rows
  have flags : first.redHeader = second.redHeader := by
    cases left : first.redHeader <;> cases right : second.redHeader <;> simp_all
  have numbers := Option.map_injective integer_injective
  have colors := Option.map_injective (text_injective.comp color_text_injective)
  have listings : Function.Injective fun details : List StyleDetail =>
      Json.list (details.map StyleDetail.toJson) := by
    intro left right alike
    exact List.map_injective_iff.mpr StyleDetail.toJson_injective (Json.list.inj alike)
  obtain ⟨_, _, _, _, _, _, _, _⟩ := first
  obtain ⟨_, _, _, _, _, _, _, _⟩ := second
  rw [Profile.mk.injEq]
  exact ⟨Option.map_injective MarginTexts.toJson_injective margin, fonts, flags, numbers indent,
    numbers spacing, colors color, Option.map_injective TableConvention.toJson_injective table,
    Option.map_injective listings details⟩

open Json (Clean filled squeeze)

/--
Rendering a profile in which no label comes up twice loses nothing. The text is that of one object
without any null; its keys, and those of the objects in it, are the keys of the fields that are
there, in their order. Both layouts read back as that object, the pretty text is the compact one
with blanks outside strings, and no other profile has the same text in either layout.
-/
theorem rendered_losslessly (profile : Profile)
    (distinct : (profile.fonts.entries.map TargetFont.label).Nodup) :
    (profile.toJson = .object profile.members ∧ Clean profile.toJson) ∧
    (profile.toJson.keys = filled profile.slots ∧
      ∀ field ∈ profile.fields, profile.toJson.get? field.1 = field.2) ∧
    (∀ margins, profile.margin = some margins → margins.toJson.keys = filled margins.slots) ∧
    (∀ convention, profile.table = some convention →
      convention.toJson.keys = TableConvention.allKeys) ∧
    (∀ details, profile.details = some details →
      ∀ detail ∈ details, detail.toJson.keys = filled detail.slots) ∧
    (∀ layout, Json.read? (profile.toJson.render layout) = some profile.toJson) ∧
    squeeze .outside (profile.toJson.render .pretty).toList =
      (profile.toJson.render .compact).toList ∧
    ∀ layout (other : Profile), (other.fonts.entries.map TargetFont.label).Nodup →
      other.toJson.render layout = profile.toJson.render layout → other = profile := by
  refine ⟨⟨rfl, profile.clean_toJson⟩, ⟨profile.keys_toJson, ?_⟩, ?_, ?_, ?_, ?_, ?_, ?_⟩
  · intro field listed
    exact profile.get?_toJson field.1 field.2 listed
  · intro margins _
    exact margins.keys_toJson
  · intro convention _
    exact convention.keys_toJson
  · intro details _ detail _
    exact detail.keys_toJson
  · intro layout
    exact Json.read?_render layout profile.toJson
  · simp only [Json.render, String.toList_ofList]
    exact Json.squeeze_pretty profile.toJson
  · intro layout other distinctToo same
    exact other.eq_of_toJson profile distinctToo distinct (Json.render_injective layout same)

def sizedApart : Profile :=
  { Profile.empty with fonts := .ofList [⟨"X", none, some 24⟩, ⟨"SizeX", some "Arial", none⟩] }

/-- The size under one label and the name under another have the same key. -/
theorem shared_key_rendered :
    (sizedApart.fonts.entries.map TargetFont.label).Nodup ∧
    sizedApart.toJson.keys = ["fontSizeX", "fontSizeX"] ∧
    ∀ other : Profile, (other.fonts.entries.map TargetFont.label).Nodup →
      other.toJson.render .compact = sizedApart.toJson.render .compact → other = sizedApart := by
  have distinct : (sizedApart.fonts.entries.map TargetFont.label).Nodup := by decide
  obtain ⟨_, ⟨keys, _⟩, _, _, _, _, _, only⟩ := rendered_losslessly sizedApart distinct
  exact ⟨distinct, keys.trans rfl, only .compact⟩

end Profile

end HouseStyle
