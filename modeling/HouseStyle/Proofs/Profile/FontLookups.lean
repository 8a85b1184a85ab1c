import HouseStyle.Proofs.Profile.FontKeys
import HouseStyle.Proofs.Profile.Rendering

/-!
What a profile tells of the font of a label, beside what its object holds under the keys of that
label. The object has a member for whatever any font says, while a look-up stops at the first font
of the label. So everything that is told is held; more is held exactly when two fonts have the
label, of which, the keys being distinct, one says the face and the other the size.
-/

namespace HouseStyle

theorem Json.lookup_eq_some_iff_mem (members : List (String × Json))
    (distinct : (members.map Prod.fst).Nodup) (key : String) (value : Json) :
    members.lookup key = some value ↔ (key, value) ∈ members := by
  induction members with
  | nil => simp
  | cons entry rest ih =>
    obtain ⟨first, present⟩ := entry
    obtain ⟨fresh, later⟩ := List.nodup_cons.mp distinct
    by_cases same : key = first
    · subst same
      have behind : (key, value) ∉ rest := by
        intro held
        have known : key ∈ rest.map Prod.fst := List.mem_map_of_mem (f := Prod.fst) held
        exact fresh known
      simp [behind, eq_comm]
    · have passed : (key == first) = false := beq_eq_false_iff_ne.mpr same
      simp [List.lookup_cons, passed, same, ih later]

namespace TargetFont

/--
A field of a font: the key it is written under for a label, and how it is written. No other field is
written under that key in the same way.
-/
structure Field (Value : Type) where
  value? : TargetFont → Option Value
  key : String → String
  encode : Value → Json
  begins : ∀ label, isFontKey (key label) = true
  keyed : Function.Injective key
  encoded : Function.Injective encode
  written : ∀ (font : TargetFont) (label : String) (value : Value),
    (key label, encode value) ∈ font.members ↔
      (key label, encode value) ∈ Json.member (key font.label) ((value? font).map encode)

def nameField : Field String where
  value? := name
  key := nameKey
  encode := .text
  begins := isFontKey_nameKey
  keyed := nameKey_injective
  encoded _ _ same := Json.text.inj same
  written font label value := by simp [members, Json.mem_member_iff]

def sizeField : Field Int where
  value? := size
  key := sizeKey
  encode := .integer
  begins := isFontKey_sizeKey
  keyed := sizeKey_injective
  encoded _ _ same := Json.integer.inj same
  written font label value := by simp [members, Json.mem_member_iff]

theorem Field.mem_members_iff {Value : Type} (field : Field Value) (font : TargetFont)
    (label : String) (value : Value) :
    (field.key label, field.encode value) ∈ font.members ↔
      font.label = label ∧ field.value? font = some value := by
  rw [field.written, Json.mem_member_iff, Option.map_eq_some_iff, field.keyed.eq_iff]
  simp only [field.encoded.eq_iff, exists_eq_right, eq_comm (a := label)]

end TargetFont

namespace TargetFonts

variable (fonts : TargetFonts)

theorem get?_eq_some_iff (label : String) (font : TargetFont) :
    fonts.get? label = some font ↔
      ∃ before after, fonts.entries = before ++ font :: after ∧ font.label = label ∧
        ∀ other ∈ before, other.label ≠ label := by
  rw [get?, List.find?_eq_some_iff_append]
  simp only [decide_eq_true_eq, Bool.not_eq_true', decide_eq_false_iff_not]
  constructor
  · rintro ⟨labelled, before, after, whole, passed⟩
    exact ⟨before, after, whole, labelled, passed⟩
  · rintro ⟨before, after, whole, labelled, passed⟩
    exact ⟨labelled, before, after, whole, passed⟩

theorem get?_eq_none_iff (label : String) :
    fonts.get? label = none ↔ ∀ font ∈ fonts.entries, font.label ≠ label := by
  rw [get?, List.find?_eq_none]
  simp only [decide_eq_true_eq, ne_eq]

theorem get?_mem (label : String) (font : TargetFont) (found : fonts.get? label = some font) :
    font ∈ fonts.entries ∧ font.label = label := by
  obtain ⟨before, after, whole, labelled, _⟩ := (fonts.get?_eq_some_iff label font).mp found
  rw [whole]
  exact ⟨List.mem_append_right before List.mem_cons_self, labelled⟩

/-- A label that comes up once leads to the one font that has it. -/
theorem find?_of_count (entries : List TargetFont) (font : TargetFont) (listed : font ∈ entries)
    (once : (entries.map TargetFont.label).count font.label ≤ 1) :
    (entries.find? fun other => other.label = font.label) = some font := by
  induction entries with
  | nil => contradiction
  | cons first rest ih =>
    rw [List.map_cons, List.count_cons] at once
    by_cases same : first.label = font.label
    · have gone : font.label ∉ rest.map TargetFont.label := by
        apply List.count_eq_zero.mp
        simpa [same] using once
      rcases List.mem_cons.mp listed with rfl | later
      · simp
      · exact absurd (List.mem_map_of_mem later) gone
    · have later : font ∈ rest := by
        rcases List.mem_cons.mp listed with rfl | later
        · contradiction
        · exact later
      have further := ih later (by simpa [same] using once)
      simpa [same] using further

variable {Value : Type} (field : TargetFont → Option Value) (label : String)

def Tells (value : Value) : Prop :=
  ∃ font ∈ fonts.entries, font.label = label ∧ field font = some value

theorem tells_of_get? (value : Value) (told : (fonts.get? label).bind field = some value) :
    fonts.Tells field label value := by
  obtain ⟨font, found, present⟩ := Option.bind_eq_some_iff.mp told
  obtain ⟨listed, labelled⟩ := fonts.get?_mem label font found
  exact ⟨font, listed, labelled, present⟩

theorem get?_of_tells (once : (fonts.entries.map TargetFont.label).count label ≤ 1)
    (value : Value) (tells : fonts.Tells field label value) :
    (fonts.get? label).bind field = some value := by
  obtain ⟨font, listed, rfl, present⟩ := tells
  rw [get?, find?_of_count fonts.entries font listed once, Option.bind_some, present]

end TargetFonts

namespace Profile

variable (profile : Profile) (label : String)

theorem font_mem_members_iff (entry : String × Json)
    (begins : TargetFont.isFontKey entry.1 = true) :
    entry ∈ profile.members ↔ ∃ font ∈ profile.fonts.entries, entry ∈ font.members := by
  rw [← List.mem_flatMap, ← TargetFonts.members, ← filter_fontKeys, List.mem_filter]
  simp [begins]

section Fields

variable {Value : Type} (field : TargetFont.Field Value)
  (distinct : (profile.members.map Prod.fst).Nodup)

include distinct

theorem held_iff (value : Value) :
    profile.toJson.get? (field.key label) = some (field.encode value) ↔
      profile.fonts.Tells field.value? label value := by
  rw [toJson, Json.get?, Json.lookup_eq_some_iff_mem _ distinct,
    profile.font_mem_members_iff (field.key label, field.encode value) (field.begins label)]
  simp only [field.mem_members_iff, TargetFonts.Tells]

theorem held_of_told (value : Value)
    (told : (profile.fonts.get? label).bind field.value? = some value) :
    profile.toJson.get? (field.key label) = some (field.encode value) :=
  (profile.held_iff label field distinct value).mpr
    (profile.fonts.tells_of_get? field.value? label value told)

theorem told_iff_held (once : (profile.fonts.entries.map TargetFont.label).count label ≤ 1)
    (value : Value) :
    (profile.fonts.get? label).bind field.value? = some value ↔
      profile.toJson.get? (field.key label) = some (field.encode value) := by
  constructor
  · exact profile.held_of_told label field distinct value
  · intro held
    exact profile.fonts.get?_of_tells field.value? label once value
      ((profile.held_iff label field distinct value).mp held)

/-- Where all that is held is told, no font of a label has a field that the first of them lacks. -/
theorem first_has_field
    (complete : ∀ value, profile.toJson.get? (field.key label) = some (field.encode value) →
      (profile.fonts.get? label).bind field.value? = some value)
    (first second : TargetFont) (found : profile.fonts.get? label = some first)
    (listed : second ∈ profile.fonts.entries) (labelled : second.label = label)
    (present : (field.value? second).isSome) : (field.value? first).isSome := by
  obtain ⟨value, has⟩ := Option.isSome_iff_exists.mp present
  have held := (profile.held_iff label field distinct value).mpr ⟨second, listed, labelled, has⟩
  have told := complete value held
  rw [found, Option.bind_some] at told
  rw [told]
  rfl

end Fields

@[mk_iff]
structure ToldAsHeld : Prop where
  name : ∀ name, profile.fontName? label = some name ↔
    profile.toJson.get? (TargetFont.nameKey label) = some (.text name)
  size : ∀ size, profile.fontSize? label = some size ↔
    profile.toJson.get? (TargetFont.sizeKey label) = some (.integer size)

theorem toldAsHeld_of_count (distinct : (profile.members.map Prod.fst).Nodup)
    (once : (profile.fonts.entries.map TargetFont.label).count label ≤ 1) :
    profile.ToldAsHeld label where
  name := profile.told_iff_held label TargetFont.nameField distinct once
  size := profile.told_iff_held label TargetFont.sizeField distinct once

/--
Where all that is held is told, a further font of the label says again what the first one does.
-/
theorem meets_first_of_toldAsHeld (distinct : (profile.members.map Prod.fst).Nodup)
    (agrees : profile.ToldAsHeld label) (first second : TargetFont)
    (found : profile.fonts.get? label = some first) (listed : second ∈ profile.fonts.entries)
    (labelled : second.label = label) : first.NamesMeet second ∨ first.SizesMeet second := by
  have shared : first.label = second.label := by
    rw [(profile.fonts.get?_mem label first found).2, labelled]
  have telling := profile.fonts.telling second listed
  rw [TargetFont.saysSomething, Bool.or_eq_true] at telling
  rcases telling with named | sized
  · have firstNamed := profile.first_has_field label TargetFont.nameField distinct
      (fun name => (agrees.name name).mpr) first second found listed labelled named
    exact .inl ⟨firstNamed, named, shared⟩
  · have firstSized := profile.first_has_field label TargetFont.sizeField distinct
      (fun size => (agrees.size size).mpr) first second found listed labelled sized
    exact .inr ⟨firstSized, sized, shared⟩

theorem count_of_toldAsHeld (distinct : (profile.members.map Prod.fst).Nodup)
    (agrees : profile.ToldAsHeld label) :
    (profile.fonts.entries.map TargetFont.label).count label ≤ 1 := by
  have apart := profile.keys_nodup_iff.mp distinct
  cases found : profile.fonts.get? label with
  | none =>
    have absent : label ∉ profile.fonts.entries.map TargetFont.label := by
      intro known
      obtain ⟨font, listed, same⟩ := List.mem_map.mp known
      exact (profile.fonts.get?_eq_none_iff label).mp found font listed same
    rw [List.count_eq_zero.mpr absent]
    exact Nat.zero_le 1
  | some first =>
    obtain ⟨before, after, whole, _, passed⟩ :=
      (profile.fonts.get?_eq_some_iff label first).mp found
    have fresh : label ∉ before.map TargetFont.label := by
      intro earlier
      obtain ⟨other, there, same⟩ := List.mem_map.mp earlier
      exact passed other there same
    have alone : label ∉ after.map TargetFont.label := by
      intro again
      obtain ⟨second, later, labelled⟩ := List.mem_map.mp again
      have order : [first, second].Sublist profile.fonts.entries := by
        rw [whole]
        exact ((List.singleton_sublist.mpr later).cons_cons first).trans
          (List.sublist_append_right before _)
      have listed : second ∈ profile.fonts.entries := order.subset (by simp)
      rcases profile.meets_first_of_toldAsHeld label distinct agrees first second found listed
        labelled with meet | meet
      · exact List.pairwise_pair.mp (apart.names.sublist order) meet
      · exact List.pairwise_pair.mp (apart.sizes.sublist order) meet
    rw [whole, List.map_append, List.map_cons, List.count_append, List.count_cons,
      List.count_eq_zero.mpr fresh, List.count_eq_zero.mpr alone]
    split <;> omega

def ofPushed (pushed : List TargetFont) : Profile :=
  { empty with fonts := pushed.foldl .push .empty }

/--
The profile of fonts pushed one after the other, whose text in either layout is read as an object
without a repeated key. Whatever it tells of a label, the object holds under the keys of the label.
It tells all that the object holds there exactly if at most one of the kept fonts has the label.
-/
theorem told_as_held_iff (pushed : List TargetFont) (layout : Json.Layout) (object : Json)
    (read : Json.read? ((ofPushed pushed).toJson.render layout) = some object)
    (distinct : object.keys.Nodup) (label : String) :
    (∀ name, (ofPushed pushed).fontName? label = some name →
      object.get? (TargetFont.nameKey label) = some (.text name)) ∧
    (∀ size, (ofPushed pushed).fontSize? label = some size →
      object.get? (TargetFont.sizeKey label) = some (.integer size)) ∧
    (((∀ name, (ofPushed pushed).fontName? label = some name ↔
          object.get? (TargetFont.nameKey label) = some (.text name)) ∧
        ∀ size, (ofPushed pushed).fontSize? label = some size ↔
          object.get? (TargetFont.sizeKey label) = some (.integer size)) ↔
      ((ofPushed pushed).fonts.entries.map TargetFont.label).count label ≤ 1) := by
  rw [Json.read?_render] at read
  obtain rfl := Option.some.inj read
  refine ⟨?_, ?_, ?_⟩
  · exact (ofPushed pushed).held_of_told label TargetFont.nameField distinct
  · exact (ofPushed pushed).held_of_told label TargetFont.sizeField distinct
  · rw [← toldAsHeld_iff]
    constructor
    · exact (ofPushed pushed).count_of_toldAsHeld label distinct
    · exact (ofPushed pushed).toldAsHeld_of_count label distinct

def parted : List TargetFont :=
  [⟨"X", none, some 24⟩, ⟨"Main", some "Georgia", some 21⟩, ⟨"X", some "Arial", none⟩]

/-- All of it is told under the one label, and under the other the face is missed. -/
theorem parted_told_in_part :
    Json.read? ((ofPushed parted).toJson.render .pretty) = some (ofPushed parted).toJson ∧
    (ofPushed parted).toJson.keys.Nodup ∧
    (∀ name, (ofPushed parted).fontName? "Main" = some name ↔
      (ofPushed parted).toJson.get? (TargetFont.nameKey "Main") = some (.text name)) ∧
    (ofPushed parted).toJson.get? (TargetFont.sizeKey "X") = some (.integer 24) := by
  have read := Json.read?_render .pretty (ofPushed parted).toJson
  have distinct : (ofPushed parted).toJson.keys.Nodup := by decide
  obtain ⟨_, _, told_iff⟩ := told_as_held_iff parted .pretty _ read distinct "Main"
  obtain ⟨_, held, _⟩ := told_as_held_iff parted .pretty _ read distinct "X"
  exact ⟨read, distinct, (told_iff.mpr (by decide)).1, held 24 rfl⟩

/-- Under distinct keys the object holds a face that the profile does not tell. -/
theorem parted_face_untold :
    Json.read? ((ofPushed parted).toJson.render .compact) = some (ofPushed parted).toJson ∧
    (ofPushed parted).toJson.keys.Nodup ∧
    (ofPushed parted).toJson.get? (TargetFont.nameKey "X") = some (.text "Arial") ∧
    (ofPushed parted).fontName? "X" = none := by
  have distinct : (ofPushed parted).toJson.keys.Nodup := by decide
  exact ⟨Json.read?_render .compact _, distinct, rfl, rfl⟩

end Profile

end HouseStyle
