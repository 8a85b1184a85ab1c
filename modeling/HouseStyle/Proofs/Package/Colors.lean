import HouseStyle.Profile.Survey
import HouseStyle.Proofs.Style.Ancestry
import HouseStyle.Proofs.Word.BodyChildren

/-!
Where colours come from. A document that was parsed holds only colours that were read from a text,
whatever its parts say, and a profile shows only colours of its document, colours that it reads from
border texts itself, and black. A colour that was read is six capital hexadecimal digits, so no other
colour is ever shown.
-/

namespace HouseStyle

open Xml (Element Node wordName)

namespace Color

def IsRead (color : Color) : Prop := ∃ text, parse? text = some color

theorem wellFormed_of_isRead (color : Color) (read : color.IsRead) : color.WellFormed := by
  obtain ⟨text, parsed⟩ := read
  rw [parse?] at parsed
  split at parsed
  · rename_i digits
    obtain ⟨six, hex⟩ := digits
    obtain rfl := Option.some.inj parsed
    rw [WellFormed, String.toList_ofList, List.length_map, List.all_map]
    exact ⟨six, hex⟩
  · contradiction

theorem wellFormed_black : black.WellFormed := by decide

theorem isRead_of_bind (text : Option String) (color : Color)
    (parsed : text.bind parse? = some color) : color.IsRead := by
  obtain ⟨content, _, read⟩ := Option.bind_eq_some_iff.mp parsed
  exact ⟨content, read⟩

end Color

/-- The colour stands in the document: a style declares it or a run of text in a table has it. -/
inductive Document.Holds (document : Document) (color : Color) : Prop
  | style (style : Style) (listed : style ∈ document.sheet.toList)
      (declared : style.font.color = some color)
  | run (table : Table) (row : Row) (cell : Cell) (paragraph : Paragraph) (run : Run)
      (inDocument : table ∈ document.tables) (inTable : row ∈ table.rows) (inRow : cell ∈ row.cells)
      (inCell : paragraph ∈ cell.paragraphs) (inParagraph : run ∈ paragraph.runs)
      (colored : run.color = some color)

inductive Profile.Shows (profile : Profile) (color : Color) : Prop
  | main (present : profile.colorMain = some color)
  | border (convention : TableConvention) (present : profile.table = some convention)
      (same : convention.borderColor = color)
  | header (convention : TableConvention) (present : profile.table = some convention)
      (same : convention.headerColor = color)

/-! What is read from markup. -/

namespace Word

theorem isRead_of_font (properties : Element) (color : Color)
    (declared : (font properties).color = some color) : color.IsRead :=
  Color.isRead_of_bind _ color declared

theorem isRead_of_style? (element : Element) (style : Style) (color : Color)
    (read : style? element = some style) (declared : style.font.color = some color) :
    color.IsRead := by
  obtain ⟨id, _, rfl⟩ := Option.map_eq_some_iff.mp read
  simp only at declared
  cases runs : element.word? "rPr" with
  | none =>
    rw [runs] at declared
    contradiction
  | some properties =>
    rw [runs] at declared
    exact isRead_of_font properties color declared

theorem isRead_of_sheet (root : Element) (style : Style) (color : Color)
    (listed : style ∈ (sheet root).toList) (declared : style.font.color = some color) :
    color.IsRead := by
  rw [sheet, Sheet.toList_ofList] at listed
  obtain ⟨element, _, read⟩ := List.mem_filterMap.mp listed
  exact isRead_of_style? element style color read declared

theorem isRead_of_run (element : Element) (color : Color)
    (colored : (run element).color = some color) : color.IsRead :=
  Color.isRead_of_bind _ color colored

theorem run_of_table (element : Element) (part : Row) (piece : Cell) (block : Paragraph)
    (stretch : Run) (inTable : part ∈ (table element).rows) (inRow : piece ∈ part.cells)
    (inCell : block ∈ piece.paragraphs) (inParagraph : stretch ∈ block.runs) :
    ∃ inner : Element, stretch = run inner := by
  obtain ⟨_, _, rfl⟩ := List.mem_map.mp inTable
  obtain ⟨_, _, rfl⟩ := List.mem_map.mp inRow
  obtain ⟨_, _, rfl⟩ := List.mem_map.mp inCell
  obtain ⟨inner, _, rfl⟩ := List.mem_map.mp inParagraph
  exact ⟨inner, rfl⟩

theorem table_of_document (styles : Sheet) (withTables : Bool) (root : Element) (held : Table)
    (listed : held ∈ (document styles withTables root).tables) :
    ∃ element : Element, held = table element := by
  rw [document] at listed
  split at listed
  · cases listed
  · simp only at listed
    split at listed
    · obtain ⟨child, _, read⟩ := List.mem_filterMap.mp listed
      obtain ⟨element, _, rfl⟩ := Option.map_eq_some_iff.mp read
      exact ⟨element, rfl⟩
    · cases listed

theorem sheet_of_document (styles : Sheet) (withTables : Bool) (root : Element) :
    (document styles withTables root).sheet = styles := by
  rw [document]
  split <;> rfl

end Word

namespace Package

variable (package : Package)

theorem isRead_of_sheet (lenient : Bool) (sheet : Sheet) (style : Style) (color : Color)
    (opened : package.sheet lenient = .ok sheet) (listed : style ∈ sheet.toList)
    (declared : style.font.color = some color) : color.IsRead := by
  rw [Package.sheet] at opened
  split at opened
  · obtain rfl := Except.ok.inj opened
    cases listed
  · split at opened
    · rename_i root _
      obtain rfl := Except.ok.inj opened
      exact Word.isRead_of_sheet root style color listed declared
    · split at opened
      · obtain rfl := Except.ok.inj opened
        cases listed
      · contradiction

theorem parts_of_parse (options : ParseOptions) (document : Document)
    (parsed : package.parse options = .ok document) :
    ∃ sheet root, package.sheet options.lenient = .ok sheet ∧
      document = Word.document sheet options.tables root := by
  rw [parse] at parsed
  cases opened : package.sheet options.lenient with
  | error fault => rw [opened] at parsed; contradiction
  | ok sheet =>
    rw [opened] at parsed
    cases read : Xml.parse package.text with
    | error fault => rw [read] at parsed; contradiction
    | ok root =>
      rw [read] at parsed
      exact ⟨sheet, root, rfl, (Except.ok.inj parsed).symm⟩

theorem isRead_of_holds (options : ParseOptions) (document : Document) (color : Color)
    (parsed : package.parse options = .ok document) (held : document.Holds color) :
    color.IsRead := by
  obtain ⟨sheet, root, opened, rfl⟩ := package.parts_of_parse options document parsed
  cases held with
  | style style listed declared =>
    rw [Word.sheet_of_document] at listed
    exact package.isRead_of_sheet options.lenient sheet style color opened listed declared
  | run table row cell paragraph run inDocument inTable inRow inCell inParagraph colored =>
    obtain ⟨element, rfl⟩ := Word.table_of_document sheet options.tables root table inDocument
    obtain ⟨inner, rfl⟩ := Word.run_of_table element row cell paragraph run inTable inRow inCell
      inParagraph
    exact Word.isRead_of_run inner color colored

end Package

/-! What a profile shows. -/

theorem Table.run_of_header (table : Table) (header : Paragraph) (run : Run)
    (first : table.headerParagraph? = some header) (inHeader : run ∈ header.runs) :
    ∃ row ∈ table.rows, ∃ cell ∈ row.cells, ∃ paragraph ∈ cell.paragraphs,
      run ∈ paragraph.runs := by
  obtain ⟨cell, firstCell, firstParagraph⟩ := Option.bind_eq_some_iff.mp first
  obtain ⟨row, firstRow, inFirst⟩ := Option.bind_eq_some_iff.mp firstCell
  exact ⟨row, List.mem_of_mem_head? firstRow, cell, List.mem_of_mem_head? inFirst, header,
    List.mem_of_mem_head? firstParagraph, inHeader⟩

namespace Document

variable (document : Document)

theorem shows_border (table : Table) :
    (TableConvention.ofTable document.sheet table).borderColor.IsRead ∨
      (TableConvention.ofTable document.sheet table).borderColor = Color.black := by
  rw [TableConvention.ofTable]
  simp only
  cases read : (table.borders.bottom.bind Border.color).bind Color.parse? with
  | none => exact .inr rfl
  | some color => exact .inl (Color.isRead_of_bind _ color read)

theorem shows_header (table : Table) (inDocument : table ∈ document.tables) :
    document.Holds (TableConvention.ofTable document.sheet table).headerColor ∨
      (TableConvention.ofTable document.sheet table).headerColor = Color.black := by
  rw [TableConvention.ofTable]
  simp only
  cases found : table.headerParagraph?.bind fun header => header.runs.findSome? Run.color with
  | none => exact .inr rfl
  | some color =>
    obtain ⟨header, first, colored⟩ := Option.bind_eq_some_iff.mp found
    obtain ⟨run, inHeader, own⟩ := List.exists_of_findSome?_eq_some colored
    obtain ⟨row, inTable, cell, inRow, paragraph, inCell, inParagraph⟩ :=
      table.run_of_header header run first inHeader
    exact .inl (.run table row cell paragraph run inDocument inTable inRow inCell inParagraph own)

theorem table_of_profile (options : ProfileOptions) (convention : TableConvention)
    (present : (document.profile options).table = some convention) :
    ∃ table ∈ document.tables, TableConvention.ofTable document.sheet table = convention := by
  rw [profile] at present
  simp only at present
  split at present
  · obtain ⟨table, first, same⟩ := Option.map_eq_some_iff.mp present
    exact ⟨table, List.mem_of_mem_head? first, same⟩
  · contradiction

/-- A colour of a profile comes from one of three places, and only the last is no text at all. -/
theorem shows_cases (options : ProfileOptions) (color : Color)
    (shown : (document.profile options).Shows color) :
    document.Holds color ∨ color.IsRead ∨ color = Color.black := by
  cases shown with
  | main present =>
    obtain ⟨body, found, resolved⟩ := Option.bind_eq_some_iff.mp present
    have member := document.sheet.find?_mem Canonical.body body found
    obtain ⟨ancestor, listed, declared⟩ := Sheet.declared_of_resolve? member _ color resolved
    exact .inl (.style ancestor listed declared)
  | border convention present same =>
    obtain ⟨table, _, rfl⟩ := document.table_of_profile options convention present
    rw [← same]
    exact .inr (document.shows_border table)
  | header convention present same =>
    obtain ⟨table, inDocument, rfl⟩ := document.table_of_profile options convention present
    rw [← same]
    rcases document.shows_header table inDocument with held | plain
    · exact .inl held
    · exact .inr (.inr plain)

end Document

/--
A package that is parsed, leniently or not: every colour that its document holds, and every colour
that a profile of the document shows, is six capital hexadecimal digits.
-/
theorem Package.colors_wellFormed (package : Package) (parsing : ParseOptions)
    (document : Document) (parsed : package.parse parsing = .ok document) :
    (∀ color, document.Holds color → color.WellFormed) ∧
    ∀ (profiling : ProfileOptions) (color : Color),
      (document.profile profiling).Shows color → color.WellFormed := by
  have held : ∀ color, document.Holds color → color.WellFormed := by
    intro color holds
    exact color.wellFormed_of_isRead (package.isRead_of_holds parsing document color parsed holds)
  refine ⟨held, ?_⟩
  intro profiling color shown
  rcases document.shows_cases profiling color shown with holds | read | rfl
  · exact held color holds
  · exact color.wellFormed_of_isRead read
  · exact Color.wellFormed_black

namespace Package

/-- A table whose bottom border has a word for its colour, and a style of running text with a colour
that is not written as it is kept. -/
def gaudyRoot : Element :=
  .rooted
    [plain "body" [plain "tbl" [plain "tblPr" [plain "tblBorders"
      [.element ⟨wordName "bottom", [⟨wordName "color", "auto"⟩]⟩ []]]]],
     .element ⟨wordName "style", [⟨wordName "styleId", "Normal"⟩]⟩
      [plain "rPr" [.element ⟨wordName "color", [⟨wordName "val", "#c0ffee"⟩]⟩ []]]]

def gaudy : Package :=
  let text := Xml.rooted ["<w:body><w:tbl><w:tblPr>", "<w:tblBorders><w:bottom",
    " w:color='auto'/>", "</w:tblBorders></w:tblPr>", "</w:tbl></w:body>",
    "<w:style w:styleId='Normal'>", "<w:rPr><w:color w:val='#c0ffee'/>", "</w:rPr></w:style>"]
  ⟨text, some text⟩

def gaudyDocument : Document := Word.document (Word.sheet gaudyRoot) true gaudyRoot

set_option maxRecDepth 20000 in
/--
The word stays in the document, where it is no colour, and the profile has black in its place.
-/
theorem gaudy_colors :
    gaudy.parse .standard = .ok gaudyDocument ∧
    gaudyDocument.tables.map (fun table => table.borders.bottom.bind Border.color) =
      [some "auto"] ∧
    (gaudyDocument.profile .standard).table.map TableConvention.borderColor = some .black ∧
    (gaudyDocument.profile .standard).Shows ⟨"C0FFEE"⟩ ∧ Color.WellFormed ⟨"C0FFEE"⟩ := by
  have read : Xml.parse gaudy.text = .ok gaudyRoot := Xml.parse_ofList _ _ rfl
  have parsed : gaudy.parse .standard = .ok gaudyDocument :=
    parse_of_roots gaudy .standard gaudyRoot gaudyRoot read (congrArg some read)
  have shown : (gaudyDocument.profile .standard).Shows ⟨"C0FFEE"⟩ := .main (by decide +kernel)
  obtain ⟨_, shows⟩ := colors_wellFormed gaudy .standard gaudyDocument parsed
  exact ⟨parsed, by decide +kernel, by decide +kernel, shown, shows .standard _ shown⟩

end Package

end HouseStyle
