import HouseStyle.Profile.Survey
import HouseStyle.Proofs.Style.Lineage
import HouseStyle.Style.Lineage
import HouseStyle.Style.Sheet

/-!
Other ids for the styles of a document. An id is compared with ids and with nothing else: it ties a
style to its base, tells a walk where it has been and ties a paragraph of a table to its style. As
long as different ids stay different a sheet answers as before, in styles that differ by their ids
alone, and of these nothing but the listing shows an id.
-/

/-!
Sheets that answer alike. A walk asks a sheet for bases only and tells styles apart by their ids
only, so where every answer of one sheet is a translation of another sheet's answer, lineages are
translated style by style, and an attribute that the translation keeps comes to the same value.
-/

namespace HouseStyle.Sheet

/-- The answers of one sheet are those of another one, with the styles in them translated. -/
structure Corresponds (left right : Sheet) (translate : Style → Style) : Prop where
  base : ∀ style, right.base? (translate style) = (left.base? style).map translate
  id_iff : ∀ style other, (translate style).id = (translate other).id ↔ style.id = other.id
  name : ∀ name, right.byName? name = (left.byName? name).map translate

namespace Corresponds

variable {left right : Sheet} {translate : Style → Style} {Value : Type}

theorem mem_map_id_iff (alike : left.Corresponds right translate) (styles : List Style)
    (style : Style) :
    (translate style).id ∈ (styles.map translate).map Style.id ↔
      style.id ∈ styles.map Style.id := by
  simp only [List.mem_map, exists_exists_and_eq_and, alike.id_iff]

theorem stopsAt_iff (alike : left.Corresponds right translate) (passed : List Style)
    (last : Style) :
    right.StopsAt (passed.map translate) (translate last) ↔ left.StopsAt passed last := by
  have whole : passed.map translate ++ [translate last] = (passed ++ [last]).map translate := by
    rw [List.map_append, List.map_singleton]
  rw [Sheet.stopsAt_iff, Sheet.stopsAt_iff, alike.base, whole]
  constructor
  · intro stops base based
    exact (alike.mem_map_id_iff _ base).mp
      (stops (translate base) (by rw [based, Option.map_some]))
  · intro stops translated based
    obtain ⟨base, held, rfl⟩ := Option.map_eq_some_iff.mp based
    exact (alike.mem_map_id_iff _ base).mpr (stops base held)

theorem isLineage_map (alike : left.Corresponds right translate) (style : Style)
    (line : List Style) (isLine : left.IsLineage style line) :
    right.IsLineage (translate style) (line.map translate) where
  head := by rw [List.head?_map, isLine.head, Option.map_some]
  based := by
    rw [List.isChain_map]
    refine isLine.based.imp ?_
    intro descendant base based
    rw [alike.base, based, Option.map_some]
  distinct := by
    have apart := isLine.distinct
    rw [List.Nodup, List.pairwise_map] at apart
    rw [List.Nodup, List.pairwise_map, List.pairwise_map]
    refine apart.imp ?_
    intro first second differ same
    exact differ ((alike.id_iff first second).mp same)
  ends_iff := by
    intro passed last later whole
    obtain ⟨before, rest, rfl, rfl, rest_eq⟩ := List.map_eq_append_iff.mp whole
    obtain ⟨final, further, rfl, rfl, rfl⟩ := List.map_eq_cons_iff.mp rest_eq
    rw [alike.stopsAt_iff, List.map_eq_nil_iff]
    exact isLine.ends_iff before final further rfl

theorem lineage_map (alike : left.Corresponds right translate) (style : Style) :
    right.lineage (translate style) = (left.lineage style).map translate := by
  have line := alike.isLineage_map style _ (left.lineage_isLineage style)
  exact ((right.isLineage_iff _ _).mp line).symm

theorem resolve?_eq (alike : left.Corresponds right translate) (declared : Style → Option Value)
    (kept : ∀ style, declared (translate style) = declared style) (style : Style) :
    right.resolve? (translate style) declared = left.resolve? style declared := by
  rw [resolve?_eq_lineage, resolve?_eq_lineage, alike.lineage_map, List.findSome?_map]
  congr 1
  funext ancestor
  exact kept ancestor

theorem find?_eq (alike : left.Corresponds right translate) (name : String) :
    Canonical.find? right name = (Canonical.find? left name).map translate := by
  unfold Canonical.find?
  rw [alike.name]
  cases left.byName? name with
  | some style => rfl
  | none =>
    cases Canonical.aliases.lookup name with
    | none => rfl
    | some other => simp [alike.name]

end Corresponds

end HouseStyle.Sheet

namespace HouseStyle

variable (rename : String → String)

def Style.withIds (style : Style) : Style :=
  { style with id := rename style.id, basedOn := style.basedOn.map rename }

def Paragraph.withIds (paragraph : Paragraph) : Paragraph :=
  { paragraph with styleId := paragraph.styleId.map rename }

def Table.withIds (table : Table) : Table :=
  { table with
    rows := table.rows.map fun row =>
      ⟨row.cells.map fun cell => ⟨cell.paragraphs.map (Paragraph.withIds rename)⟩⟩ }

def Sheet.withIds (sheet : Sheet) : Sheet := .ofList (sheet.toList.map (Style.withIds rename))

def StyleDetail.withId (detail : StyleDetail) : StyleDetail :=
  { detail with id := rename detail.id }

def Document.withIds (document : Document) : Document :=
  { document with
    sheet := document.sheet.withIds rename
    tables := document.tables.map (Table.withIds rename) }

/-! Each style under its own id again is the style itself. -/

theorem style_withIds_id : Style.withIds id = id := by
  funext style
  simp [Style.withIds]

theorem paragraph_withIds_id : Paragraph.withIds id = id := by
  funext paragraph
  simp [Paragraph.withIds]

theorem table_withIds_id : Table.withIds id = id := by
  funext table
  simp [Table.withIds, paragraph_withIds_id]

variable {rename}

namespace Sheet

/-- The answers of one sheet are those of another one, in styles with other ids. -/
structure Renames (left right : Sheet) (rename : String → String) : Prop where
  injective : Function.Injective rename
  byId : ∀ id, right.byId? (rename id) = (left.byId? id).map (Style.withIds rename)
  byName : ∀ name, right.byName? name = (left.byName? name).map (Style.withIds rename)

theorem byId?_withIds (sheet : Sheet) (injective : Function.Injective rename) (id : String) :
    (sheet.withIds rename).byId? (rename id) = (sheet.byId? id).map (Style.withIds rename) := by
  have same : ((fun style : Style => style.id == rename id) ∘ Style.withIds rename) =
      fun style => style.id == id := by
    funext style
    exact Bool.eq_iff_iff.mpr (by simpa [Style.withIds] using injective.eq_iff)
  rw [byId?_eq_find?, byId?_eq_find?, withIds, toList_ofList, List.find?_map, same]

theorem byName?_withIds (sheet : Sheet) (name : String) :
    (sheet.withIds rename).byName? name = (sheet.byName? name).map (Style.withIds rename) := by
  rw [byName?_eq_find?, byName?_eq_find?, withIds, toList_ofList, List.find?_map]
  rfl

theorem renames_withIds (sheet : Sheet) (injective : Function.Injective rename) :
    sheet.Renames (sheet.withIds rename) rename :=
  ⟨injective, sheet.byId?_withIds injective, sheet.byName?_withIds⟩

/-- A style's entry in the listing, by what each of its attributes comes to on its own. -/
theorem detail_eq (sheet : Sheet) (style : Style) :
    sheet.detail style =
      ⟨style.id, style.name, sheet.fontName? style, sheet.fontSize? style,
        sheet.lineSpacing? style, sheet.firstLineIndent? style,
        (sheet.base? style).map Style.name⟩ := by
  rw [← attributes_fontName, ← attributes_fontSize, ← attributes_lineSpacing,
    ← attributes_firstLineIndent]
  rfl

namespace Renames

variable {left right : Sheet} {Value : Type}

theorem base?_eq (renames : left.Renames right rename) (style : Style) :
    right.base? (style.withIds rename) = (left.base? style).map (Style.withIds rename) := by
  rw [base?, base?, Style.withIds]
  cases style.basedOn with
  | none => rfl
  | some id => exact renames.byId id

-- A walk tells styles apart by their ids, and so it takes the same way under the other ids.
theorem corresponds (renames : left.Renames right rename) :
    left.Corresponds right (Style.withIds rename) where
  base := renames.base?_eq
  id_iff _ _ := renames.injective.eq_iff
  name := renames.byName

theorem resolve?_eq (renames : left.Renames right rename) (declared : Style → Option Value)
    (kept : ∀ style, declared (style.withIds rename) = declared style) (style : Style) :
    right.resolve? (style.withIds rename) declared = left.resolve? style declared :=
  renames.corresponds.resolve?_eq declared kept style

/-- An attribute of the style that goes by a canonical name. -/
theorem find?_bind_eq (renames : left.Renames right rename) (name : String)
    (declared : Style → Option Value)
    (kept : ∀ style, declared (style.withIds rename) = declared style) :
    ((Canonical.find? right name).bind fun style => right.resolve? style declared) =
      (Canonical.find? left name).bind fun style => left.resolve? style declared := by
  rw [renames.corresponds.find?_eq]
  cases Canonical.find? left name with
  | none => rfl
  | some style => exact renames.resolve?_eq declared kept style

theorem targetFont?_eq (renames : left.Renames right rename) (target : Target) :
    right.targetFont? target = left.targetFont? target := by
  rw [targetFont?, targetFont?, renames.corresponds.find?_eq]
  cases Canonical.find? left target.styleName with
  | none => rfl
  | some style =>
    have name : right.fontName? (style.withIds rename) = left.fontName? style :=
      renames.resolve?_eq _ (fun _ => rfl) style
    have size : right.fontSize? (style.withIds rename) = left.fontSize? style :=
      renames.resolve?_eq _ (fun _ => rfl) style
    simp only [Option.map_some, name, size]

theorem targetFonts_eq (renames : left.Renames right rename) (targets : List Target) :
    right.targetFonts targets = left.targetFonts targets := by
  have each : right.targetFont? = left.targetFont? := funext renames.targetFont?_eq
  rw [targetFonts, targetFonts, each]

theorem headingIsRed_eq (renames : left.Renames right rename) (redStarts : List String) :
    right.headingIsRed redStarts = left.headingIsRed redStarts := by
  have color : (Canonical.find? right Canonical.heading).bind right.fontColor? =
      (Canonical.find? left Canonical.heading).bind left.fontColor? :=
    renames.find?_bind_eq _ _ fun _ => rfl
  rw [headingIsRed, headingIsRed, color]

theorem detail_eq (renames : left.Renames right rename) (style : Style) :
    right.detail (style.withIds rename) = (left.detail style).withId rename := by
  rw [Sheet.detail_eq, Sheet.detail_eq, renames.base?_eq, Option.map_map]
  unfold StyleDetail.withId
  congr 1
  · exact renames.resolve?_eq _ (fun _ => rfl) style
  · exact renames.resolve?_eq _ (fun _ => rfl) style
  · exact renames.resolve?_eq _ (fun _ => rfl) style
  · exact renames.resolve?_eq _ (fun _ => rfl) style

/-! The header of a table. Its style is looked up by id, and the styles this one is based on are not
asked. -/

theorem headerIsBold_eq (renames : left.Renames right rename) (header : Paragraph) :
    TableConvention.headerIsBold right (header.withIds rename) =
      TableConvention.headerIsBold left header := by
  rw [TableConvention.headerIsBold, TableConvention.headerIsBold, Paragraph.withIds]
  cases header.styleId with
  | none => rfl
  | some id =>
    simp only [Option.map_some, Option.bind_some, renames.byId, Option.bind_map]
    rfl

theorem headerParagraph?_withIds (table : Table) :
    (table.withIds rename).headerParagraph? =
      table.headerParagraph?.map (Paragraph.withIds rename) := by
  obtain ⟨borders, rows⟩ := table
  rcases rows with _ | ⟨⟨_ | ⟨⟨_ | ⟨paragraph, paragraphs⟩⟩, cells⟩⟩, rows⟩
  · rfl
  · rfl
  · rfl
  · rfl

theorem ofTable_eq (renames : left.Renames right rename) (table : Table) :
    TableConvention.ofTable right (table.withIds rename) = TableConvention.ofTable left table := by
  have bold : TableConvention.headerIsBold right ∘ Paragraph.withIds rename =
      TableConvention.headerIsBold left := funext renames.headerIsBold_eq
  rw [TableConvention.ofTable, TableConvention.ofTable, headerParagraph?_withIds]
  simp only [Option.map_map, bold, Option.bind_map]
  rfl

end Renames

theorem details_withIds (sheet : Sheet) (injective : Function.Injective rename) :
    (sheet.withIds rename).details = sheet.details.map (StyleDetail.withId rename) := by
  have each : (sheet.withIds rename).detail ∘ Style.withIds rename =
      StyleDetail.withId rename ∘ sheet.detail :=
    funext (sheet.renames_withIds injective).detail_eq
  have listed : (sheet.withIds rename).toList = sheet.toList.map (Style.withIds rename) :=
    toList_ofList _
  rw [details, details, listed, List.filter_map, List.map_map, List.map_map, each]
  rfl

end Sheet

namespace Document

-- Everything but the listing asks the sheet for nothing but answers.
theorem profile_of_renames (document : Document) (sheet : Sheet)
    (renames : document.sheet.Renames sheet rename) (options : ProfileOptions) :
    { document with sheet, tables := document.tables.map (Table.withIds rename) }.profile options =
      { document.profile options with
        details := if options.detailed then some sheet.details else none } := by
  have convention : TableConvention.ofTable sheet ∘ Table.withIds rename =
      TableConvention.ofTable document.sheet := funext renames.ofTable_eq
  unfold profile
  simp only [renames.targetFonts_eq, renames.headingIsRed_eq, List.head?_map, Option.map_map,
    convention]
  congr 1
  · exact renames.find?_bind_eq Canonical.body _ fun _ => rfl
  · exact renames.find?_bind_eq Canonical.body _ fun _ => rfl
  · exact renames.find?_bind_eq Canonical.body _ fun _ => rfl

/--
The profile of a document under other ids, different ones for different ones, whether or not they
are declared, declared once or run in a circle: it is the profile as before, but for the ids that
the listing shows, which are the other ones.
-/
theorem profile_renamed (document : Document) (rename : String → String)
    (injective : Function.Injective rename) (options : ProfileOptions) :
    (document.withIds rename).profile options =
      { document.profile options with
        details :=
          (document.profile options).details.map (List.map (StyleDetail.withId rename)) } := by
  have renames := document.sheet.renames_withIds injective
  have profiled := document.profile_of_renames (document.sheet.withIds rename) renames options
  have listing : (if options.detailed then some (document.sheet.withIds rename).details else none) =
      (document.profile options).details.map (List.map (StyleDetail.withId rename)) := by
    rw [document.sheet.details_withIds injective]
    cases detailed : options.detailed <;> simp [profile, detailed]
  rw [listing] at profiled
  exact profiled

/-- Two styles are based on each other, and the first of them hides a third under its id. -/
def entangled : Document where
  sections := []
  sheet := .ofList
    [{ Style.plain "n" with name := "Normal", basedOn := some "h" },
     { Style.plain "h" with
        name := "Heading 1", basedOn := some "n", font := ⟨some "Arial", none, none, some true⟩ },
     { Style.plain "n" with name := "Note", basedOn := some "gone" }]
  tables := [⟨.none, [⟨[⟨[(Paragraph.ofRuns [.plain "a"]).styled "h"]⟩]⟩]⟩]

/--
The circle is still one, the hidden style is still hidden, and the header still has its style.
-/
theorem entangled_renamed :
    Function.Injective ("x" ++ ·) ∧
    (entangled.withIds ("x" ++ ·)).profile ⟨ProfileOptions.standardTargets, [], true, true⟩ =
      { entangled.profile ⟨ProfileOptions.standardTargets, [], true, true⟩ with
        table := some { TableConvention.plain with headerBold := true }
        details := some
          [⟨"xn", "Normal", some "Arial", none, none, none, some "Heading 1"⟩,
           ⟨"xh", "Heading 1", some "Arial", none, none, none, some "Normal"⟩,
           ⟨"xn", "Note", none, none, none, none, none⟩] } := by
  have injective : Function.Injective ("x" ++ ·) := fun _ _ same => by simpa using same
  refine ⟨injective, ?_⟩
  rw [profile_renamed entangled ("x" ++ ·) injective]
  decide +kernel

end Document

end HouseStyle
