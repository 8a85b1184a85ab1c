import HouseStyle.Proofs.Profile.FontLookups
import HouseStyle.Proofs.Style.Lineage
import HouseStyle.Style.Lineage

/-!
The fonts that a profile lists, and the faces in them. A style may name its face in three places,
and a name that is all blank counts as none, wherever it stands: the next place is looked at, and
then the next style of the lineage. What is found is the first visible name, as it was declared.
Targets are taken one after the other, and each of them brings at most one font, whatever the others
bring. A target is passed over for one of two reasons: no style goes by its name, or the style and
those it builds on declare neither a face nor a size.
-/

namespace HouseStyle

def Visible (text : String) : Prop := ∃ char ∈ text.toList, Text.isBlank char = false

theorem visible?_eq_some_iff (face : Option String) (text : String) :
    visible? face = some text ↔ face = some text ∧ Visible text := by
  rw [visible?, Option.filter_eq_some_iff]
  simp [Text.allBlank, Visible]

theorem visible?_eq_none_iff (face : Option String) :
    visible? face = none ↔ ∀ text, face = some text → ¬Visible text := by
  constructor
  · intro hidden text same visible
    rw [(visible?_eq_some_iff face text).mpr ⟨same, visible⟩] at hidden
    contradiction
  · intro hidden
    cases found : visible? face with
    | none => rfl
    | some text =>
      obtain ⟨same, visible⟩ := (visible?_eq_some_iff face text).mp found
      exact absurd visible (hidden text same)

def FirstVisible (faces : List (Option String)) (text : String) : Prop :=
  ∃ before after, faces = before ++ some text :: after ∧ Visible text ∧
    ∀ other, some other ∈ before → ¬Visible other

theorem findSome?_visible?_eq_none_iff (faces : List (Option String)) :
    faces.findSome? visible? = none ↔ ∀ text, some text ∈ faces → ¬Visible text := by
  rw [List.findSome?_eq_none_iff]
  constructor
  · intro hidden text there
    exact (visible?_eq_none_iff _).mp (hidden _ there) text rfl
  · intro hidden face there
    apply (visible?_eq_none_iff face).mpr
    rintro text rfl
    exact hidden text there

theorem findSome?_visible?_eq_some_iff (faces : List (Option String)) (text : String) :
    faces.findSome? visible? = some text ↔ FirstVisible faces text := by
  rw [List.findSome?_eq_some_iff]
  constructor
  · rintro ⟨before, face, after, whole, found, hidden⟩
    obtain ⟨rfl, visible⟩ := (visible?_eq_some_iff face text).mp found
    have passed :=
      (findSome?_visible?_eq_none_iff before).mp (List.findSome?_eq_none_iff.mpr hidden)
    exact ⟨before, after, whole, visible, passed⟩
  · rintro ⟨before, after, whole, visible, passed⟩
    have found := (visible?_eq_some_iff (some text) text).mpr ⟨rfl, visible⟩
    have hidden :=
      List.findSome?_eq_none_iff.mp ((findSome?_visible?_eq_none_iff before).mpr passed)
    exact ⟨before, some text, after, whole, found, hidden⟩

namespace Style

variable (style : Style)

def faces : List (Option String) := [style.runFonts.eastAsia, style.runFonts.ascii, style.font.name]

theorem fontName?_eq_findSome? : style.fontName? = style.faces.findSome? visible? := by
  rw [fontName?, RunFonts.preferred?, faces, List.findSome?_cons, List.findSome?_cons,
    List.findSome?_cons, List.findSome?_nil]
  cases visible? style.runFonts.eastAsia <;> cases visible? style.runFonts.ascii <;>
    cases visible? style.font.name <;> rfl

def NamesFace : Prop := ∃ face, some face ∈ style.faces ∧ Visible face

theorem fontName?_eq_some_iff (text : String) :
    style.fontName? = some text ↔ FirstVisible style.faces text := by
  rw [fontName?_eq_findSome?, findSome?_visible?_eq_some_iff]

theorem fontName?_eq_none_iff : style.fontName? = none ↔ ¬style.NamesFace := by
  rw [fontName?_eq_findSome?, findSome?_visible?_eq_none_iff]
  simp [NamesFace]

end Style

namespace Sheet

variable (sheet : Sheet) (style : Style)

def NearestFace (text : String) : Prop :=
  ∃ nearer nearest farther, sheet.lineage style = nearer ++ nearest :: farther ∧
    FirstVisible nearest.faces text ∧ ∀ ancestor ∈ nearer, ¬ancestor.NamesFace

theorem fontName?_eq_some_iff (text : String) :
    sheet.fontName? style = some text ↔ sheet.NearestFace style text := by
  rw [fontName?, resolve?_eq_lineage, List.findSome?_eq_some_iff]
  simp only [Style.fontName?_eq_some_iff, Style.fontName?_eq_none_iff, NearestFace]

theorem fontName?_isSome_iff :
    (sheet.fontName? style).isSome ↔ ∃ ancestor ∈ sheet.lineage style, ancestor.NamesFace := by
  rw [fontName?, resolve?_eq_lineage, List.findSome?_isSome_iff]
  simp only [Option.isSome_iff_ne_none, ne_eq, Style.fontName?_eq_none_iff, not_not]

theorem visible_of_fontName? (text : String) (found : sheet.fontName? style = some text) :
    Visible text := by
  obtain ⟨_, _, _, _, ⟨_, _, _, visible, _⟩, _⟩ := (sheet.fontName?_eq_some_iff style text).mp found
  exact visible

end Sheet

/-! The fonts of the targets. -/

namespace Sheet

variable (sheet : Sheet)

theorem fontSize?_isSome_iff (style : Style) :
    (sheet.fontSize? style).isSome ↔
      ∃ ancestor ∈ sheet.lineage style, ancestor.font.size.isSome := by
  rw [fontSize?, resolve?_eq_lineage, List.findSome?_isSome_iff]
  simp only [Style.fontSize?, Option.isSome_map]

def DeclaresFont (style : Style) : Prop :=
  ∃ ancestor ∈ sheet.lineage style, ancestor.NamesFace ∨ ancestor.font.size.isSome

theorem saysSomething_iff (label : String) (style : Style) :
    TargetFont.saysSomething ⟨label, sheet.fontName? style, sheet.fontSize? style⟩ = true ↔
      sheet.DeclaresFont style := by
  rw [TargetFont.saysSomething, Bool.or_eq_true, fontName?_isSome_iff, fontSize?_isSome_iff]
  constructor
  · rintro (⟨ancestor, held, names⟩ | ⟨ancestor, held, sized⟩)
    · exact ⟨ancestor, held, .inl names⟩
    · exact ⟨ancestor, held, .inr sized⟩
  · rintro ⟨ancestor, held, names | sized⟩
    · exact .inl ⟨ancestor, held, names⟩
    · exact .inr ⟨ancestor, held, sized⟩

/-- The fonts that a row of targets brings, each target in its turn. -/
inductive Lists (sheet : Sheet) : List Target → List TargetFont → Prop where
  | done : Lists sheet [] []
  | listed {target : Target} {rest : List Target} {fonts : List TargetFont} {style : Style}
      (found : Canonical.find? sheet target.styleName = some style)
      (declares : sheet.DeclaresFont style) (later : Lists sheet rest fonts) :
      Lists sheet (target :: rest)
        (⟨target.label, sheet.fontName? style, sheet.fontSize? style⟩ :: fonts)
  | missing {target : Target} {rest : List Target} {fonts : List TargetFont}
      (unfound : Canonical.find? sheet target.styleName = none) (later : Lists sheet rest fonts) :
      Lists sheet (target :: rest) fonts
  | silent {target : Target} {rest : List Target} {fonts : List TargetFont} {style : Style}
      (found : Canonical.find? sheet target.styleName = some style)
      (silent : ¬sheet.DeclaresFont style) (later : Lists sheet rest fonts) :
      Lists sheet (target :: rest) fonts

theorem targetFonts_append (left right : List Target) :
    (sheet.targetFonts (left ++ right)).entries =
      (sheet.targetFonts left).entries ++ (sheet.targetFonts right).entries := by
  simp only [targetFonts, TargetFonts.ofList, List.filterMap_append, List.filter_append]

theorem lists_targetFonts (targets : List Target) :
    sheet.Lists targets (sheet.targetFonts targets).entries := by
  induction targets with
  | nil => exact .done
  | cons target rest ih =>
    have one := sheet.targetFonts_append [target] rest
    rw [List.singleton_append] at one
    rw [one]
    cases found : Canonical.find? sheet target.styleName with
    | none =>
      simpa [targetFonts, targetFont?, TargetFonts.ofList, found] using Lists.missing found ih
    | some style =>
      by_cases declares : sheet.DeclaresFont style
      · have told := (sheet.saysSomething_iff target.label style).mpr declares
        simpa [targetFonts, targetFont?, TargetFonts.ofList, found, told] using
          Lists.listed found declares ih
      · have untold := mt (sheet.saysSomething_iff target.label style).mp declares
        simpa [targetFonts, targetFont?, TargetFonts.ofList, found, untold] using
          Lists.silent found declares ih

theorem Lists.unique {targets : List Target} {fonts others : List TargetFont}
    (first : sheet.Lists targets fonts) (second : sheet.Lists targets others) : fonts = others := by
  induction first generalizing others with
  | done =>
    cases second
    rfl
  | @listed target rest fonts style found declares later ih =>
    cases second with
    | listed foundToo _ laterToo =>
      obtain rfl := Option.some.inj (found.symm.trans foundToo)
      rw [ih laterToo]
    | missing unfound _ => rw [found] at unfound; contradiction
    | silent foundToo silent _ =>
      obtain rfl := Option.some.inj (found.symm.trans foundToo)
      contradiction
  | @missing target rest fonts unfound later ih =>
    cases second with
    | listed found _ _ => rw [found] at unfound; contradiction
    | missing _ laterToo => exact ih laterToo
    | silent found _ _ => rw [found] at unfound; contradiction
  | @silent target rest fonts style found silent later ih =>
    cases second with
    | listed foundToo declares _ =>
      obtain rfl := Option.some.inj (found.symm.trans foundToo)
      contradiction
    | missing unfound _ => rw [found] at unfound; contradiction
    | silent _ _ laterToo => exact ih laterToo

theorem lists_iff (targets : List Target) (fonts : List TargetFont) :
    sheet.Lists targets fonts ↔ fonts = (sheet.targetFonts targets).entries := by
  constructor
  · intro lists
    exact Lists.unique sheet lists (sheet.lists_targetFonts targets)
  · rintro rfl
    exact sheet.lists_targetFonts targets

theorem Lists.resolved {targets : List Target} {fonts : List TargetFont}
    (lists : sheet.Lists targets fonts) (font : TargetFont) (there : font ∈ fonts) :
    ∃ style, sheet.DeclaresFont style ∧
      font = ⟨font.label, sheet.fontName? style, sheet.fontSize? style⟩ := by
  induction lists with
  | done => contradiction
  | @listed target rest fonts style found declares later ih =>
    rcases List.mem_cons.mp there with rfl | behind
    · exact ⟨style, declares, rfl⟩
    · exact ih behind
  | missing unfound later ih => exact ih there
  | silent found silent later ih => exact ih there

end Sheet

/--
The fonts of a profile, of any document and with any targets asked for. They are the one row that
the targets bring in their turn: a font for a target whose style is found and declares a face or a
size, under the label of the target and with what the style comes to, and none for another target.
No font is empty, the fonts of two rows of targets are those of the one and then those of the other,
and a look-up by a label finds the earliest font that has it.
-/
theorem Document.fonts_listed (document : Document) (options : ProfileOptions) :
    (∀ fonts, document.sheet.Lists options.targets fonts ↔
      fonts = (document.profile options).fonts.entries) ∧
    (∀ font ∈ (document.profile options).fonts.entries, font.name.isSome ∨ font.size.isSome) ∧
    (∀ left right,
      (document.profile { options with targets := left ++ right }).fonts.entries =
        (document.profile { options with targets := left }).fonts.entries ++
          (document.profile { options with targets := right }).fonts.entries) ∧
    ∀ label,
      (∀ font, (document.profile options).fonts.get? label = some font ↔
        ∃ before after, (document.profile options).fonts.entries = before ++ font :: after ∧
          font.label = label ∧ ∀ other ∈ before, other.label ≠ label) ∧
      ((document.profile options).fonts.get? label = none ↔
        ∀ font ∈ (document.profile options).fonts.entries, font.label ≠ label) := by
  refine ⟨document.sheet.lists_iff options.targets, ?_, document.sheet.targetFonts_append, ?_⟩
  · intro font there
    have lists := document.sheet.lists_targetFonts options.targets
    obtain ⟨style, declares, same⟩ := lists.resolved _ font there
    have told := (document.sheet.saysSomething_iff font.label style).mpr declares
    rw [← same, TargetFont.saysSomething, Bool.or_eq_true] at told
    exact told
  · intro label
    constructor
    · exact (document.profile options).fonts.get?_eq_some_iff label
    · exact (document.profile options).fonts.get?_eq_none_iff label

def blankText : Style :=
  { Style.plain "n" with
    name := "Normal", basedOn := some "b", runFonts := ⟨some "", some " "⟩,
    font := ⟨some "\t", none, none, none⟩ }

def Document.blanked : Document where
  sections := []
  sheet := .ofList
    [blankText,
     { Style.plain "b" with
        runFonts := ⟨some "\u3000", some "Arial"⟩, font := ⟨some "Courier", none, none, none⟩ },
     Style.plain "Note"]
  tables := []

def unevenTargets : ProfileOptions :=
  ⟨[⟨"Normal", "X"⟩, ⟨"Note", "S"⟩, ⟨"Gone", "G"⟩, ⟨"Normal", "X"⟩], [], false, true⟩

/-- What is passed over leaves no gap, and the repeated target is listed twice. -/
theorem uneven_targets_listed :
    Document.blanked.sheet.Lists unevenTargets.targets
      [⟨"X", some "Arial", none⟩, ⟨"X", some "Arial", none⟩] ∧
    (Document.blanked.profile unevenTargets).fonts.get? "S" = none := by
  have fonts : (Document.blanked.profile unevenTargets).fonts.entries =
      [⟨"X", some "Arial", none⟩, ⟨"X", some "Arial", none⟩] := by decide +kernel
  obtain ⟨listed, _, _, looked⟩ := Document.blanked.fonts_listed unevenTargets
  refine ⟨(listed _).mpr fonts.symm, (looked "S").2.mpr ?_⟩
  rw [fonts]
  decide

/--
What a style comes to as its face, in any sheet: the first visible one of the nearest style of the
lineage that names one, exactly as it was declared; a face is found exactly if one of them names
one. So whatever is asked of a document, no face that is told, of a target or in the listing, is all
blank.
-/
theorem faces_visible :
    (∀ (sheet : Sheet) (style : Style),
      (∀ text, sheet.fontName? style = some text ↔ sheet.NearestFace style text) ∧
      ((sheet.fontName? style).isSome ↔ ∃ ancestor ∈ sheet.lineage style, ancestor.NamesFace)) ∧
    ∀ (document : Document) (options : ProfileOptions),
      (∀ font ∈ (document.profile options).fonts.entries, ∀ text, font.name = some text →
        Visible text) ∧
      ∀ details, (document.profile options).details = some details →
        ∀ detail ∈ details, ∀ text, detail.fontName = some text → Visible text := by
  constructor
  · intro sheet style
    exact ⟨sheet.fontName?_eq_some_iff style, sheet.fontName?_isSome_iff style⟩
  · intro document options
    constructor
    · intro font there text named
      have lists := document.sheet.lists_targetFonts options.targets
      obtain ⟨style, _, same⟩ := lists.resolved _ font there
      rw [same] at named
      exact document.sheet.visible_of_fontName? style text named
    · intro details shown detail there text named
      have listing : (if options.detailed then some document.sheet.details else none) =
          some details := shown
      split at listing
      · obtain rfl := Option.some.inj listing
        obtain ⟨style, _, rfl⟩ := List.mem_map.mp there
        have found : document.sheet.fontName? style = some text := by
          rw [← named]
          exact (document.sheet.attributes_fontName style).symm
        exact document.sheet.visible_of_fontName? style text found
      · contradiction

/-- The blank names of the style and the blank first name of its base are all passed over. -/
theorem blank_names_passed :
    Document.blanked.sheet.NearestFace blankText "Arial" ∧
    ⟨"X", some "Arial", none⟩ ∈ (Document.blanked.profile unevenTargets).fonts.entries ∧
    Visible "Arial" := by
  have found : Document.blanked.sheet.fontName? blankText = some "Arial" := by decide +kernel
  have listed : ⟨"X", some "Arial", none⟩ ∈
      (Document.blanked.profile unevenTargets).fonts.entries := by
    decide +kernel
  obtain ⟨nearest, told⟩ := faces_visible
  exact ⟨((nearest Document.blanked.sheet blankText).1 "Arial").mp found, listed,
    (told Document.blanked unevenTargets).1 _ listed "Arial" rfl⟩

end HouseStyle
