import HouseStyle.Proofs.Profile.Reordering
import HouseStyle.Proofs.Profile.TargetFonts
import HouseStyle.Proofs.Style.Declaration

/-!
The detailed listing beside the rest of a profile. The listing goes through the styles in their order
and the rest looks styles up by name, but a style that is looked up is declared at some place, and
the paragraph styles declared before that place tell the row of its entry. There the listing says of
the style what the rest of the profile says of it, also of a style that others hide.
-/

namespace HouseStyle

namespace Sheet

def paragraphsBefore (sheet : Sheet) (place : Nat) : Nat :=
  (sheet.toList.take place).countP Style.isParagraph

theorem place_of_paragraph (styles : List Style) (row : Nat) (style : Style)
    (shown : (styles.filter Style.isParagraph)[row]? = some style) :
    ∃ place, styles[place]? = some style ∧ style.isParagraph = true ∧
      (styles.take place).countP Style.isParagraph = row := by
  induction styles generalizing row with
  | nil => simp at shown
  | cons first rest ih =>
    by_cases kind : first.isParagraph = true
    · rw [List.filter_cons_of_pos kind] at shown
      cases row with
      | zero =>
        obtain rfl : first = style := Option.some.inj shown
        exact ⟨0, rfl, kind, rfl⟩
      | succ row =>
        obtain ⟨place, declared, paragraph, before⟩ := ih row shown
        refine ⟨place + 1, declared, paragraph, ?_⟩
        rw [List.take_succ_cons, List.countP_cons_of_pos kind, before]
    · rw [List.filter_cons_of_neg kind] at shown
      obtain ⟨place, declared, paragraph, before⟩ := ih row shown
      refine ⟨place + 1, declared, paragraph, ?_⟩
      rw [List.take_succ_cons, List.countP_cons_of_neg kind, before]

/--
Cut in front of the style, the paragraph styles of the front part are those of the rows above it.
-/
theorem row_of_paragraph (styles : List Style) (place : Nat) (style : Style)
    (declared : styles[place]? = some style) (kind : style.isParagraph = true) :
    (styles.filter Style.isParagraph)[(styles.take place).countP Style.isParagraph]? =
      some style := by
  obtain ⟨inside, rfl⟩ := List.getElem?_eq_some_iff.mp declared
  have parts : styles.take place ++ styles[place] :: styles.drop (place + 1) = styles := by
    rw [List.getElem_cons_drop, List.take_append_drop]
  have shown : styles.filter Style.isParagraph =
      (styles.take place).filter Style.isParagraph ++
        styles[place] :: (styles.drop (place + 1)).filter Style.isParagraph := by
    conv => lhs; rw [← parts]
    rw [List.filter_append, List.filter_cons_of_pos kind]
  rw [shown, List.countP_eq_length_filter, List.getElem?_append_right (Nat.le_refl _), Nat.sub_self,
    List.getElem?_cons_zero]

theorem paragraphsBefore_lt (sheet : Sheet) (place later : Nat) (style : Style)
    (declared : sheet.toList[place]? = some style) (kind : style.isParagraph = true)
    (before : place < later) : sheet.paragraphsBefore place < sheet.paragraphsBefore later := by
  have further : (sheet.toList.take (place + 1)).Sublist (sheet.toList.take later) :=
    (List.take_prefix_take_left (by omega)).sublist
  have counted := further.countP_le (p := Style.isParagraph)
  rw [List.take_add_one, declared, List.countP_append] at counted
  have one : (some style).toList.countP Style.isParagraph = 1 := by simp [kind]
  rw [one] at counted
  exact counted

/--
A listing of the paragraph styles of a sheet: a row for each of them and for no other style, in the
order of declaration, with what each attribute comes to by itself.
-/
structure ListedIn (sheet : Sheet) (details : List StyleDetail) : Prop where
  row_iff : ∀ row detail, details[row]? = some detail ↔
    ∃ place style, sheet.toList[place]? = some style ∧ style.isParagraph = true ∧
      sheet.paragraphsBefore place = row ∧
      detail = ⟨style.id, style.name, sheet.fontName? style, sheet.fontSize? style,
        sheet.lineSpacing? style, sheet.firstLineIndent? style, (sheet.base? style).map Style.name⟩
  rows_ascend : ∀ place later style, sheet.toList[place]? = some style →
    style.isParagraph = true → place < later →
      sheet.paragraphsBefore place < sheet.paragraphsBefore later
  length_eq : details.length = sheet.toList.countP Style.isParagraph

theorem details_listed (sheet : Sheet) : sheet.ListedIn sheet.details where
  row_iff := by
    intro row detail
    rw [details, List.getElem?_map, Option.map_eq_some_iff]
    simp only [detail_eq]
    constructor
    · rintro ⟨style, shown, rfl⟩
      obtain ⟨place, declared, kind, before⟩ := place_of_paragraph sheet.toList row style shown
      exact ⟨place, style, declared, kind, before, rfl⟩
    · rintro ⟨place, style, declared, kind, rfl, rfl⟩
      exact ⟨style, row_of_paragraph sheet.toList place style declared kind, rfl⟩
  rows_ascend := sheet.paragraphsBefore_lt
  length_eq := by rw [details, List.length_map, List.countP_eq_length_filter]

/--
The style of a canonical name is declared somewhere, and so it has a row if it is of the kind.
-/
theorem detail_of_selected (sheet : Sheet) (name : String) (style : Style)
    (found : Canonical.find? sheet name = some style) (kind : style.isParagraph = true) :
    ∃ place, sheet.SelectedAt name place style ∧
      sheet.details[sheet.paragraphsBefore place]? =
        some ⟨style.id, style.name, sheet.fontName? style, sheet.fontSize? style,
          sheet.lineSpacing? style, sheet.firstLineIndent? style,
          (sheet.base? style).map Style.name⟩ := by
  obtain ⟨place, selected⟩ := (sheet.selectedAt_iff name style).mp found
  refine ⟨place, selected, ?_⟩
  rw [sheet.details_listed.row_iff]
  exact ⟨place, style, selected.declared, kind, rfl, rfl⟩

theorem targetFonts_split (sheet : Sheet) (before behind : List Target) (target : Target)
    (style : Style) (found : Canonical.find? sheet target.styleName = some style) :
    (sheet.targetFonts (before ++ target :: behind)).entries =
      (sheet.targetFonts before).entries ++
        [⟨target.label, sheet.fontName? style, sheet.fontSize? style⟩].filter
          TargetFont.saysSomething ++
        (sheet.targetFonts behind).entries := by
  have one : (sheet.targetFonts [target]).entries =
      [⟨target.label, sheet.fontName? style, sheet.fontSize? style⟩].filter
        TargetFont.saysSomething := by
    simp [targetFonts, TargetFonts.ofList, targetFont?, found]
  rw [List.append_cons, targetFonts_append, targetFonts_append, one]

end Sheet

/--
The listing of any document, when it is asked for. It has one row for each paragraph style, in the
order of declaration. If the style of a target is a paragraph style, the target brings the face and
the size that the row of this style shows, between the fonts of the targets before and behind it, and
no font if the row shows neither. If running text has a paragraph style, the profile shows the line
spacing and the indent that the row of that style shows.
-/
theorem Document.listing_agrees (document : Document) (options : ProfileOptions)
    (asked : options.detailed = true) :
    ∃ details, (document.profile options).details = some details ∧
      document.sheet.ListedIn details ∧
      (∀ before target behind style, options.targets = before ++ target :: behind →
        Canonical.find? document.sheet target.styleName = some style →
        style.isParagraph = true →
        ∃ place detail, document.sheet.SelectedAt target.styleName place style ∧
          details[document.sheet.paragraphsBefore place]? = some detail ∧
          (document.profile options).fonts.entries =
            (document.profile { options with targets := before }).fonts.entries ++
              [⟨target.label, detail.fontName, detail.fontSize⟩].filter
                TargetFont.saysSomething ++
              (document.profile { options with targets := behind }).fonts.entries) ∧
      ∀ style, Canonical.find? document.sheet Canonical.body = some style →
        style.isParagraph = true →
        ∃ place detail, document.sheet.SelectedAt Canonical.body place style ∧
          details[document.sheet.paragraphsBefore place]? = some detail ∧
          (document.profile options).lineSpacing = detail.lineSpacing ∧
          (document.profile options).firstLineIndent = detail.firstLineIndent := by
  refine ⟨document.sheet.details, ?_, document.sheet.details_listed, ?_, ?_⟩
  · rw [details_profile, if_pos asked]
    rfl
  · intro before target behind style parts found kind
    obtain ⟨place, selected, row⟩ :=
      document.sheet.detail_of_selected target.styleName style found kind
    refine ⟨place, _, selected, row, ?_⟩
    have listed := document.sheet.targetFonts_split before behind target style found
    rw [← parts] at listed
    exact listed
  · intro style found kind
    obtain ⟨place, selected, row⟩ :=
      document.sheet.detail_of_selected Canonical.body style found kind
    refine ⟨place, _, selected, row, ?_, ?_⟩
    · exact congrArg (Option.bind · document.sheet.lineSpacing?) found
    · exact congrArg (Option.bind · document.sheet.firstLineIndent?) found

namespace Document

def webText : Style := { Style.plain "n" with name := "Normal (Web)", basedOn := some "h" }

/-- Running text is hidden under its id, and its base is based on the style that hides it. -/
def webbed : Document where
  sections := []
  sheet := .ofList
    [{ Style.plain "n" with name := "Note", basedOn := some "h" },
     { Style.plain "c" with kind := .character },
     webText,
     { Style.plain "h" with
        name := "Heading 1", basedOn := some "n", font := ⟨some "Arial", none, none, none⟩,
        paragraph := ⟨none, some 480⟩ },
     webText]
  tables := []

def webbedOptions : ProfileOptions := ⟨[⟨"Gone", "G"⟩, ⟨"Normal", "Main"⟩], [], false, true⟩

/-- The row of running text comes second, since the style between is of another kind. -/
theorem hidden_text_listed :
    webbedOptions.detailed = true ∧
    (Canonical.find? webbed.sheet Canonical.body = some webText ∧ webText.isParagraph = true) ∧
    ∃ details, (webbed.profile webbedOptions).details = some details ∧ details.length = 4 ∧
      (∃ place detail, webbed.sheet.SelectedAt "Normal" place webText ∧
        details[webbed.sheet.paragraphsBefore place]? = some detail ∧
        [⟨"Main", some "Arial", none⟩] =
          [⟨"Main", detail.fontName, detail.fontSize⟩].filter TargetFont.saysSomething) ∧
      ∃ place detail, webbed.sheet.SelectedAt Canonical.body place webText ∧
        details[webbed.sheet.paragraphsBefore place]? = some detail ∧
        none = detail.lineSpacing ∧ some 480 = detail.firstLineIndent := by
  have found : Canonical.find? webbed.sheet Canonical.body = some webText := by decide +kernel
  obtain ⟨details, shown, listed, ofTarget, ofBody⟩ := webbed.listing_agrees webbedOptions rfl
  obtain ⟨place, detail, selected, row, fonts⟩ :=
    ofTarget [⟨"Gone", "G"⟩] ⟨"Normal", "Main"⟩ [] webText rfl found rfl
  have whole : (webbed.profile webbedOptions).fonts.entries = [⟨"Main", some "Arial", none⟩] := by
    decide +kernel
  have front : (webbed.profile { webbedOptions with targets := [⟨"Gone", "G"⟩] }).fonts.entries =
      [] := by decide +kernel
  rw [whole, front] at fonts
  have back : (webbed.profile { webbedOptions with targets := [] }).fonts.entries = [] := rfl
  rw [back, List.nil_append, List.append_nil] at fonts
  have spacing : (webbed.profile webbedOptions).lineSpacing = none := by decide +kernel
  have indent : (webbed.profile webbedOptions).firstLineIndent = some 480 := by decide +kernel
  have body := ofBody webText found rfl
  rw [spacing, indent] at body
  refine ⟨rfl, ⟨found, rfl⟩, details, shown, ?_, ⟨place, detail, selected, row, fonts⟩, body⟩
  rw [listed.length_eq]
  decide +kernel

end Document

end HouseStyle
