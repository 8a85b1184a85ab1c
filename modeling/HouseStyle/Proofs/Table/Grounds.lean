import HouseStyle.Profile.Basic
import HouseStyle.Proofs.Style.Declaration
import HouseStyle.Proofs.Style.Lineage

/-!
What the convention of a table rests on. Each part of it is declared in one place or else plain, and
there are three such places: the bottom border, the paragraph that heads the table, and the weight
that the style of this paragraph declares itself. A paragraph heads a table when it comes first in
the first cell of the first row; where any of these is missing, nothing heads the table. From these
places one convention follows and no other does, so tables that agree about them have one
convention, and it makes no difference what else they and their sheets hold.
-/

namespace HouseStyle

inductive Table.HeadedBy : Table → Paragraph → Prop
  | first (borders : TableBorders) (header : Paragraph) (paragraphs : List Paragraph)
      (cells : List Cell) (rows : List Row) :
      HeadedBy ⟨borders, ⟨⟨header :: paragraphs⟩ :: cells⟩ :: rows⟩ header

def Table.BottomSays {Value : Type} (table : Table) (field : Border → Option Value)
    (value : Value) : Prop :=
  ∃ border, table.borders.bottom = some border ∧ field border = some value

def Paragraph.FirstColored (paragraph : Paragraph) (color : Color) : Prop :=
  ∃ before run after, paragraph.runs = before ++ run :: after ∧ run.color = some color ∧
    ∀ earlier ∈ before, earlier.color = none

namespace Sheet

def Registers (sheet : Sheet) (id : String) (style : Style) : Prop :=
  ∃ place, FirstAt Style.id id sheet.toList place style

/-- A run of the paragraph is bold, or the paragraph's style is by its own declaration. -/
inductive Emboldens (sheet : Sheet) (paragraph : Paragraph) : Prop
  | run (run : Run) (inParagraph : run ∈ paragraph.runs) (bold : run.bold = some true)
  | style (id : String) (style : Style) (named : paragraph.styleId = some id)
      (registered : sheet.Registers id style) (bold : style.font.bold = some true)

/-- Both sheets register a style under the id or neither does, and where both do the two styles
declare the same weight. -/
structure AlikeAt (left right : Sheet) (id : String) : Prop where
  registered : (∃ style, left.Registers id style) ↔ ∃ style, right.Registers id style
  bold : ∀ style other, left.Registers id style → right.Registers id other →
    style.font.bold = other.font.bold

end Sheet

namespace TableConvention

/-- The value is declared, or it is the plain one and none is declared. -/
inductive Settled {Value : Type} (Declared : Value → Prop) (plain : Value) : Value → Prop
  | declared (value : Value) (said : Declared value) : Settled Declared plain value
  | undeclared (silent : ∀ value, ¬Declared value) : Settled Declared plain plain

structure Follows (convention : TableConvention) (sheet : Sheet) (table : Table) : Prop where
  borderStyle : Settled
    (fun style => ∃ tag, table.BottomSays Border.style tag ∧ BorderStyle.ofTag tag = style)
    .single convention.borderStyle
  borderColor : Settled
    (fun color => ∃ text, table.BottomSays Border.color text ∧ Color.parse? text = some color)
    .black convention.borderColor
  borderSize : Settled (table.BottomSays Border.size) 4 convention.borderSize
  headerBold : convention.headerBold = true ↔
    ∃ header, table.HeadedBy header ∧ sheet.Emboldens header
  headerColor : Settled (fun color => ∃ header, table.HeadedBy header ∧ header.FirstColored color)
    .black convention.headerColor
  cellAlign : convention.cellAlign = .left

end TableConvention

/-! What each look-up finds. -/

theorem Table.headerParagraph?_eq_some_iff (table : Table) (header : Paragraph) :
    table.headerParagraph? = some header ↔ table.HeadedBy header := by
  constructor
  · intro found
    obtain ⟨⟨paragraphs⟩, firstCell, firstParagraph⟩ := Option.bind_eq_some_iff.mp found
    obtain ⟨⟨cells⟩, firstRow, inRow⟩ := Option.bind_eq_some_iff.mp firstCell
    obtain ⟨borders, rows⟩ := table
    obtain ⟨otherRows, rfl⟩ := List.head?_eq_some_iff.mp firstRow
    obtain ⟨otherCells, rfl⟩ := List.head?_eq_some_iff.mp inRow
    obtain ⟨otherParagraphs, rfl⟩ := List.head?_eq_some_iff.mp firstParagraph
    exact .first borders header otherParagraphs otherCells otherRows
  · rintro ⟨⟩
    rfl

theorem Table.bottom_bind_iff {Value : Type} (table : Table) (field : Border → Option Value)
    (value : Value) :
    table.borders.bottom.bind field = some value ↔ table.BottomSays field value :=
  Option.bind_eq_some_iff

theorem Table.bottom_style_iff (table : Table) (style : BorderStyle) :
    (table.borders.bottom.bind Border.style).map BorderStyle.ofTag = some style ↔
      ∃ tag, table.BottomSays Border.style tag ∧ BorderStyle.ofTag tag = style := by
  simp only [Option.map_eq_some_iff, table.bottom_bind_iff]

theorem Table.bottom_color_iff (table : Table) (color : Color) :
    (table.borders.bottom.bind Border.color).bind Color.parse? = some color ↔
      ∃ text, table.BottomSays Border.color text ∧ Color.parse? text = some color := by
  rw [Option.bind_eq_some_iff]
  simp only [table.bottom_bind_iff]

theorem Table.header_color_iff (table : Table) (color : Color) :
    (table.headerParagraph?.bind fun header => header.runs.findSome? Run.color) = some color ↔
      ∃ header, table.HeadedBy header ∧ header.FirstColored color := by
  rw [Option.bind_eq_some_iff]
  simp only [table.headerParagraph?_eq_some_iff, List.findSome?_eq_some_iff,
    Paragraph.FirstColored]

namespace Sheet

variable (sheet : Sheet) (paragraph : Paragraph)

theorem byId?_eq_some_iff (id : String) (style : Style) :
    sheet.byId? id = some style ↔ sheet.Registers id style :=
  sheet.indexed_ids.found_iff id style

theorem headerIsBold_iff :
    TableConvention.headerIsBold sheet paragraph = true ↔ sheet.Emboldens paragraph := by
  rw [TableConvention.headerIsBold, Bool.or_eq_true, List.any_eq_true, Option.getD_eq_iff]
  constructor
  · rintro (⟨run, inParagraph, bold⟩ | declared | ⟨_, plain⟩)
    · exact .run run inParagraph (of_decide_eq_true bold)
    · obtain ⟨style, found, bold⟩ := Option.bind_eq_some_iff.mp declared
      obtain ⟨id, named, registered⟩ := Option.bind_eq_some_iff.mp found
      exact .style id style named ((sheet.byId?_eq_some_iff id style).mp registered) bold
    · contradiction
  · intro emboldens
    cases emboldens with
    | run run inParagraph bold => exact .inl ⟨run, inParagraph, decide_eq_true bold⟩
    | style id style named registered bold =>
      have found := (sheet.byId?_eq_some_iff id style).mpr registered
      exact .inr (.inl (by rw [named, Option.bind_some, found, Option.bind_some, bold]))

/-- A style that only one sheet registers would have no other to agree with about its weight. -/
theorem Emboldens.carried {left right : Sheet} {paragraph : Paragraph}
    (alike : ∀ id, paragraph.styleId = some id → left.AlikeAt right id)
    (emboldens : left.Emboldens paragraph) : right.Emboldens paragraph := by
  cases emboldens with
  | run run inParagraph bold => exact .run run inParagraph bold
  | style id style named registered bold =>
    have agreed := alike id named
    obtain ⟨other, there⟩ := agreed.registered.mp ⟨style, registered⟩
    exact .style id other named there ((agreed.bold style other registered there).symm.trans bold)

theorem AlikeAt.symm {left right : Sheet} {id : String} (alike : left.AlikeAt right id) :
    right.AlikeAt left id where
  registered := alike.registered.symm
  bold style other here there := (alike.bold other style there here).symm

theorem alikeAt_of_byId? {left right : Sheet} {id : String} {style other : Style}
    (here : left.byId? id = some style) (there : right.byId? id = some other)
    (same : style.font.bold = other.font.bold) : left.AlikeAt right id where
  registered := by
    simp only [← byId?_eq_some_iff, here, there, Option.some.injEq, exists_eq']
  bold := by
    intro first second registered registeredToo
    rw [← byId?_eq_some_iff, here, Option.some.injEq] at registered
    rw [← byId?_eq_some_iff, there, Option.some.injEq] at registeredToo
    rw [← registered, ← registeredToo, same]

end Sheet

namespace TableConvention

theorem settled_iff {Value : Type} {Declared : Value → Prop} (read : Option Value)
    (answers : ∀ value, read = some value ↔ Declared value) (plain value : Value) :
    Settled Declared plain value ↔ value = read.getD plain := by
  constructor
  · intro settled
    cases settled with
    | declared _ said => rw [(answers value).mpr said, Option.getD_some]
    | undeclared silent =>
      have missing : read = none := by
        rw [Option.eq_none_iff_forall_ne_some]
        exact fun other found => silent other ((answers other).mp found)
      rw [missing, Option.getD_none]
  · rintro rfl
    cases found : read with
    | none =>
      refine .undeclared fun other said => ?_
      rw [(answers other).mpr said] at found
      contradiction
    | some other => exact .declared other ((answers other).mp found)

theorem headerBold_iff (sheet : Sheet) (table : Table) :
    (ofTable sheet table).headerBold = true ↔
      ∃ header, table.HeadedBy header ∧ sheet.Emboldens header := by
  rw [ofTable, Option.getD_eq_iff, Option.map_eq_some_iff]
  simp only [table.headerParagraph?_eq_some_iff, sheet.headerIsBold_iff]
  constructor
  · rintro (headed | ⟨_, plain⟩)
    · exact headed
    · contradiction
  · exact .inl

/-- One convention follows from a table and its sheet, and it is the one read off the table. -/
theorem follows_iff (convention : TableConvention) (sheet : Sheet) (table : Table) :
    convention.Follows sheet table ↔ convention = ofTable sheet table := by
  have style := settled_iff _ table.bottom_style_iff
  have color := settled_iff _ table.bottom_color_iff
  have size := settled_iff _ (table.bottom_bind_iff Border.size)
  have header := settled_iff _ table.header_color_iff
  have bold := headerBold_iff sheet table
  constructor
  · intro follows
    obtain ⟨borderStyle, borderColor, borderSize, headerBold, headerColor, cellAlign⟩ := convention
    rw [ofTable, TableConvention.mk.injEq]
    exact ⟨(style _ _).mp follows.borderStyle, (color _ _).mp follows.borderColor,
      (size _ _).mp follows.borderSize, Bool.eq_iff_iff.mpr (follows.headerBold.trans bold.symm),
      (header _ _).mp follows.headerColor, follows.cellAlign⟩
  · rintro rfl
    exact ⟨(style _ _).mpr rfl, (color _ _).mpr rfl, (size _ _).mpr rfl, bold,
      (header _ _).mpr rfl, rfl⟩

section Agreement

variable {left right : Sheet} {table other : Table}
  (bottom : table.borders.bottom = other.borders.bottom)
  (header : ∀ paragraph, table.HeadedBy paragraph ↔ other.HeadedBy paragraph)
  (weight : ∀ paragraph id, table.HeadedBy paragraph → paragraph.styleId = some id →
    left.AlikeAt right id)

include header weight in
theorem emboldened_iff :
    (∃ paragraph, table.HeadedBy paragraph ∧ left.Emboldens paragraph) ↔
      ∃ paragraph, other.HeadedBy paragraph ∧ right.Emboldens paragraph := by
  constructor
  · rintro ⟨paragraph, headed, emboldens⟩
    have alike : ∀ id, paragraph.styleId = some id → left.AlikeAt right id :=
      fun id named => weight paragraph id headed named
    exact ⟨paragraph, (header paragraph).mp headed, emboldens.carried alike⟩
  · rintro ⟨paragraph, headed, emboldens⟩
    have headedToo := (header paragraph).mpr headed
    have alike : ∀ id, paragraph.styleId = some id → right.AlikeAt left id :=
      fun id named => (weight paragraph id headedToo named).symm
    exact ⟨paragraph, headedToo, emboldens.carried alike⟩

include bottom header weight in
theorem Follows.carried {convention : TableConvention} (follows : convention.Follows left table) :
    convention.Follows right other := by
  have said {Value : Type} (field : Border → Option Value) :
      table.BottomSays field = other.BottomSays field := by
    funext value
    rw [Table.BottomSays, bottom, Table.BottomSays]
  have headed : table.HeadedBy = other.HeadedBy :=
    funext fun paragraph => propext (header paragraph)
  exact
    { borderStyle := said Border.style ▸ follows.borderStyle
      borderColor := said Border.color ▸ follows.borderColor
      borderSize := said Border.size ▸ follows.borderSize
      headerBold := follows.headerBold.trans (emboldened_iff header weight)
      headerColor := headed ▸ follows.headerColor
      cellAlign := follows.cellAlign }

end Agreement

/--
Two tables with one bottom border and one header, or both without a header, each with a sheet. If
the sheets agree on the header's style, whether there is one and which weight it declares itself,
the same convention is read off both tables, and from neither of them does any other follow.
-/
theorem told_by_bottom_and_header (left right : Sheet) (table other : Table)
    (bottom : table.borders.bottom = other.borders.bottom)
    (header : ∀ paragraph, table.HeadedBy paragraph ↔ other.HeadedBy paragraph)
    (weight : ∀ paragraph id, table.HeadedBy paragraph → paragraph.styleId = some id →
      left.AlikeAt right id) :
    ofTable left table = ofTable right other ∧
    ∀ convention : TableConvention,
      convention.Follows left table ↔ convention = ofTable right other := by
  have follows := (follows_iff (ofTable left table) left table).mpr rfl
  have same : ofTable left table = ofTable right other :=
    (follows_iff _ right other).mp (follows.carried bottom header weight)
  refine ⟨same, fun convention => ?_⟩
  rw [follows_iff, same]

def captionHead : Paragraph := ⟨some "Head", [.plain "Item", ⟨"No.", some false, some ⟨"1F3864"⟩⟩]⟩

def doubleBottom : Border := ⟨some "double", some "auto", none⟩

def slim : Table := ⟨{ TableBorders.none with bottom := some doubleBottom }, [⟨[⟨[captionHead]⟩]⟩]⟩

def ragged : Table :=
  ⟨⟨some ⟨some "dotted", some "FF0000", some 12⟩, some doubleBottom, none, none, none, none⟩,
    [⟨[⟨[captionHead, .ofRuns [.strong "Total"]]⟩, .empty]⟩, ⟨[]⟩]⟩

def boldBase : Sheet :=
  .ofList [Sheet.linked "Head" "Header" "Base",
    { Style.plain "Base" with font := ⟨none, none, none, some true⟩ }]

/-- The header's style is based on no other, and it hides a bold one under its id. -/
def boldHidden : Sheet :=
  .ofList [Style.plain "Item", Style.plain "Head",
    { Style.plain "Head" with font := ⟨none, none, none, some true⟩ }]

/-- Neither the weight that is inherited nor the weight that is hidden makes the header bold. -/
theorem ragged_as_slim :
    slim.borders.bottom = ragged.borders.bottom ∧
    (∀ paragraph, slim.HeadedBy paragraph ↔ ragged.HeadedBy paragraph) ∧
    boldBase.AlikeAt boldHidden "Head" ∧
    ofTable boldBase slim = ⟨.double, .black, 4, false, ⟨"1F3864"⟩, .left⟩ ∧
    ofTable boldHidden ragged = ⟨.double, .black, 4, false, ⟨"1F3864"⟩, .left⟩ := by
  have headed (table : Table) (found : table.headerParagraph? = some captionHead)
      (paragraph : Paragraph) : table.HeadedBy paragraph ↔ captionHead = paragraph := by
    rw [← Table.headerParagraph?_eq_some_iff, found, Option.some_inj]
  have header (paragraph : Paragraph) : slim.HeadedBy paragraph ↔ ragged.HeadedBy paragraph :=
    (headed slim rfl paragraph).trans (headed ragged rfl paragraph).symm
  have based : boldBase.byId? "Head" = some (Sheet.linked "Head" "Header" "Base") := by
    decide +kernel
  have hides : boldHidden.byId? "Head" = some (Style.plain "Head") := by decide +kernel
  have alike : boldBase.AlikeAt boldHidden "Head" := Sheet.alikeAt_of_byId? based hides rfl
  have told : ofTable boldBase slim = ⟨.double, .black, 4, false, ⟨"1F3864"⟩, .left⟩ := by
    decide +kernel
  have weight (paragraph : Paragraph) (id : String) (first : slim.HeadedBy paragraph)
      (named : paragraph.styleId = some id) : boldBase.AlikeAt boldHidden id := by
    obtain rfl := (headed slim rfl paragraph).mp first
    obtain rfl := Option.some.inj named
    exact alike
  obtain ⟨same, _⟩ := told_by_bottom_and_header boldBase boldHidden slim ragged rfl header weight
  exact ⟨rfl, header, alike, told, same.symm.trans told⟩

end TableConvention

end HouseStyle
