import HouseStyle.Proofs.Word.Values
import HouseStyle.Proofs.Word.Writing

/-!
Tables written in word processing markup and read again. Rows, cells, paragraphs and runs nest, any
number of them at each level, and none is lost, merged or moved. Borders are told apart by the names
of their sides, so they may stand in any order; a left or right border that goes by the name of a
line's end counts where the usual name is not used.
-/

namespace HouseStyle

open Word (Content first? nodes)
open Xml (Element wordName)

/-! The markup of a table. Hollow elements are kept or left out. -/

def Border.content (border : Border) : Content where
  attributes :=
    [("val", border.style), ("color", border.color),
     ("sz", border.size.map fun size => toString size)]
  children := []

namespace Run

def properties (run : Run) : Content :=
  .holding
    [("b", run.bold.map .switch), ("color", run.color.map fun color => .mark color.text)]

def textContent (hollow : Bool) (run : Run) : Content where
  attributes := []
  children := if hollow = true ∨ run.text ≠ "" then [.text run.text] else []

def content (hollow : Bool) (run : Run) : Content :=
  .holding
    [("rPr", run.properties.kept hollow), ("t", (run.textContent hollow).kept hollow)]

def Writable (run : Run) : Prop := ∀ color, run.color = some color → color.WellFormed

end Run

namespace Paragraph

def properties (paragraph : Paragraph) : Content :=
  .holding [("pStyle", paragraph.styleId.map .mark)]

def content (hollow : Bool) (paragraph : Paragraph) : Content :=
  .holding (("pPr", paragraph.properties.kept hollow) ::
    paragraph.runs.map fun run => ("r", some (run.content hollow)))

end Paragraph

def Cell.content (hollow : Bool) (cell : Cell) : Content :=
  .holding (cell.paragraphs.map fun paragraph => ("p", some (paragraph.content hollow)))

def Row.content (hollow : Bool) (row : Row) : Content :=
  .holding (row.cells.map fun cell => ("tc", some (cell.content hollow)))

def Border.Writable (border : Border) : Prop :=
  ∀ size, border.size = some size → Range.unsigned32.contains size = true

namespace TableBorders

def sides (borders : TableBorders) : List (String × Option Border) :=
  [("top", borders.top), ("left", borders.left), ("bottom", borders.bottom),
   ("right", borders.right), ("insideH", borders.insideH), ("insideV", borders.insideV)]

def lineSides (borders : TableBorders) : List (String × Option Border) :=
  [("top", borders.top), ("start", borders.left), ("bottom", borders.bottom),
   ("end", borders.right), ("insideH", borders.insideH), ("insideV", borders.insideV)]

def ofSides (sides : List (String × Option Border)) : TableBorders where
  top := first? "top" sides
  bottom := first? "bottom" sides
  left := (first? "left" sides).or (first? "start" sides)
  right := (first? "right" sides).or (first? "end" sides)
  insideH := first? "insideH" sides
  insideV := first? "insideV" sides

theorem ofSides_sides (borders : TableBorders) : ofSides borders.sides = borders := by
  simp [ofSides, sides]

theorem ofSides_lineSides (borders : TableBorders) : ofSides borders.lineSides = borders := by
  simp [ofSides, lineSides]

theorem ofSides_perm (left right : List (String × Option Border)) (order : left.Perm right)
    (distinct : (right.map Prod.fst).Nodup) : ofSides left = ofSides right := by
  simp only [ofSides, Word.first?_perm _ left right order distinct]

theorem ofSides_both (borders : TableBorders) (start stop : Option Border)
    (left : start.isSome → borders.left.isSome) (right : stop.isSome → borders.right.isSome) :
    ofSides (borders.sides ++ [("start", start), ("end", stop)]) = borders := by
  obtain ⟨top, bottom, leftmost, rightmost, insideH, insideV⟩ := borders
  cases leftmost <;> cases rightmost <;> simp_all [ofSides, sides]

end TableBorders

namespace Table

def bordersContent (sides : List (String × Option Border)) : Content :=
  .holding (sides.map fun side => (side.1, side.2.map Border.content))

def properties (hollow : Bool) (sides : List (String × Option Border)) : Content :=
  .holding [("tblBorders", (bordersContent sides).kept hollow)]

def element (hollow : Bool) (sides : List (String × Option Border)) (rows : List Row) : Element :=
  (Content.holding (("tblPr", (properties hollow sides).kept hollow) ::
    rows.map fun row => ("tr", some (row.content hollow)))).element "tbl"

structure Writable (table : Table) : Prop where
  sides : ∀ side ∈ table.borders.sides, ∀ border, side.2 = some border → border.Writable
  runs : ∀ row ∈ table.rows, ∀ cell ∈ row.cells, ∀ paragraph ∈ cell.paragraphs,
    ∀ run ∈ paragraph.runs, run.Writable

end Table

namespace Word

variable (hollow : Bool)

/-! Reading the markup of each level, from the innermost to the outermost. -/

-- A text without characters is no text among the children, and then no element holds it.
theorem text_written (run : Run) :
    String.join ((((run.content hollow).element "r").words "t").filterMap Element.leadingText?) =
      run.text := by
  have texts : ((run.content hollow).element "r").words "t" =
      ((run.textContent hollow).kept hollow).toList.map (·.element "t") := by
    rw [words_of_nodes _ _ "r" "t" rfl]
    simp [held_cons, held_nil]
  rw [texts]
  by_cases written : hollow = true ∨ run.text ≠ ""
  · have content : run.textContent hollow = ⟨[], [.text run.text]⟩ := by
      rw [Run.textContent, if_pos written]
    have present : (run.textContent hollow).kept hollow = some ⟨[], [.text run.text]⟩ := by
      simp [content, Content.kept, Content.isHollow]
    rw [present]
    simp [Content.element, Element.leadingText?]
  · obtain ⟨left_out, empty⟩ : ¬hollow = true ∧ run.text = "" := by simpa using written
    have absent : (run.textContent hollow).kept hollow = none := by
      simp [Content.kept, Content.isHollow, Content.tagAttributes, Run.textContent, left_out, empty]
    rw [absent, empty]
    rfl

theorem run_written (run : Run) (writable : run.Writable) :
    Word.run ((run.content hollow).element "r") = run := by
  have properties := word?_of_item (run.content hollow) _ "r" "rPr"
    (run.properties.kept hollow) rfl (by simp)
  have bold : (run.properties.element "rPr").switch? "b" = run.bold :=
    switch?_switch _ _ "rPr" "b" _ rfl (by simp)
  have color : (run.properties.element "rPr").childValue? "color" = run.color.map Color.text :=
    childValue?_mark _ _ "rPr" "color" _ rfl (by simp [Function.comp_def])
  rw [Word.run, properties, text_written]
  simp only [bind_kept hollow _ _ (fun properties => properties.switch? "b") rfl,
    bind_kept hollow _ _ (fun properties => properties.childValue? "color") rfl, bold, color,
    Color.bind_parse?_text _ writable]

theorem paragraph_written (paragraph : Paragraph)
    (writable : ∀ run ∈ paragraph.runs, run.Writable) :
    Word.paragraph ((paragraph.content hollow).element "p") = paragraph := by
  have properties := word?_of_item (paragraph.content hollow) _ "p" "pPr"
    (paragraph.properties.kept hollow) rfl (by simp)
  have style : (paragraph.properties.element "pPr").childValue? "pStyle" = paragraph.styleId :=
    childValue?_mark _ _ "pPr" "pStyle" _ rfl (by simp)
  have runs := words_of_nodes (paragraph.content hollow) _ "p" "r" rfl
  rw [held_cons, if_neg (by simp), List.nil_append, held_map_same] at runs
  rw [Word.paragraph, properties, bind_kept hollow _ _ _ rfl, style, runs,
    map_read_written _ _ _ _ fun run member => run_written hollow run (writable run member)]

theorem cell_written (cell : Cell)
    (writable : ∀ paragraph ∈ cell.paragraphs, ∀ run ∈ paragraph.runs, run.Writable) :
    Word.cell ((cell.content hollow).element "tc") = cell := by
  have paragraphs := words_of_nodes (cell.content hollow) _ "tc" "p" rfl
  rw [held_map_same] at paragraphs
  rw [Word.cell, paragraphs, map_read_written _ _ _ _ fun paragraph member =>
    paragraph_written hollow paragraph (writable paragraph member)]

theorem row_written (row : Row)
    (writable : ∀ cell ∈ row.cells, ∀ paragraph ∈ cell.paragraphs, ∀ run ∈ paragraph.runs,
      run.Writable) :
    Word.row ((row.content hollow).element "tr") = row := by
  have cells := words_of_nodes (row.content hollow) _ "tr" "tc" rfl
  rw [held_map_same] at cells
  rw [Word.row, cells,
    map_read_written _ _ _ _ fun cell member => cell_written hollow cell (writable cell member)]

/-! Borders. What is read for a side is what stands under its name first. -/

/-- A border as it is read: a size that is no word is lost. -/
def reread (border : Border) : Border :=
  { border with size := border.size.bind fun size => borderSize? (toString size) }

theorem border_written (border : Border) (label : String) :
    Word.border (border.content.element label) = reread border := by
  have style : (border.content.element label).value? "val" = border.style :=
    value?_of_item _ _ _ _ (by simp [Border.content])
  have color : (border.content.element label).value? "color" = border.color :=
    value?_of_item _ _ _ _ (by simp [Border.content])
  have size : (border.content.element label).value? "sz" =
      border.size.map fun size => toString size :=
    value?_of_item _ _ _ _ (by simp [Border.content])
  rw [Word.border, style, color, size, reread, Option.bind_map, Function.comp_def]

theorem map_reread (side : Option Border)
    (writable : ∀ border, side = some border → border.Writable) : side.map reread = side := by
  cases side with
  | none => rfl
  | some border =>
    have size : border.size.bind (fun size => borderSize? (toString size)) = border.size := by
      cases sized : border.size with
      | none => rfl
      | some size =>
        rw [Option.bind_some]
        exact borderSize?_toString size (writable border rfl size sized)
    rw [Option.map_some, reread, size]

theorem side_written (sides : List (String × Option Border)) (label : String) :
    (((Table.bordersContent sides).element "tblBorders").word? label).map
        (fun element => Word.border element) =
      (first? label sides).map reread := by
  rw [word?_of_item _ _ "tblBorders" label _ rfl rfl, first?_map, Option.map_map, Option.map_map]
  congr 1
  funext border
  exact border_written border label

theorem borders_written (sides : List (String × Option Border)) :
    Word.borders ((Table.bordersContent sides).element "tblBorders") =
      ⟨(TableBorders.ofSides sides).top.map reread, (TableBorders.ofSides sides).bottom.map reread,
        (TableBorders.ofSides sides).left.map reread,
        (TableBorders.ofSides sides).right.map reread,
        (TableBorders.ofSides sides).insideH.map reread,
        (TableBorders.ofSides sides).insideV.map reread⟩ := by
  simp only [Word.borders, TableBorders.ofSides, Option.map_or, ← side_written]

theorem table_written (sides : List (String × Option Border)) (table : Table)
    (writable : table.Writable) (spelled : TableBorders.ofSides sides = table.borders) :
    Word.table (Table.element hollow sides table.rows) = table := by
  have properties : (Table.element hollow sides table.rows).word? "tblPr" =
      ((Table.properties hollow sides).kept hollow).map (·.element "tblPr") :=
    word?_of_item _ _ "tbl" "tblPr" _ rfl (by simp)
  have inner : ((Table.properties hollow sides).element "tblPr").word? "tblBorders" =
      ((Table.bordersContent sides).kept hollow).map (·.element "tblBorders") :=
    word?_of_item _ _ "tblPr" "tblBorders" _ rfl (by simp)
  have read : ((((Table.bordersContent sides).kept hollow).map (·.element "tblBorders")).map
      Word.borders).getD TableBorders.none = table.borders := by
    refine (map_kept hollow _ "tblBorders" Word.borders).trans ?_
    have written : ∀ side ∈ table.borders.sides, side.2.map reread = side.2 :=
      fun side member => map_reread side.2 (writable.sides side member)
    simp only [TableBorders.sides, List.forall_mem_cons] at written
    simp only [borders_written, spelled, written]
  have rows : (Table.element hollow sides table.rows).words "tr" =
      (table.rows.map (Row.content hollow)).map (·.element "tr") := by
    rw [Table.element, words_of_nodes _ _ "tbl" "tr" rfl, held_cons, if_neg (by simp),
      List.nil_append, held_map_same]
  rw [Word.table, properties, bind_kept hollow _ _ _ rfl, inner, read, rows,
    map_read_written _ _ _ _ fun row member => row_written hollow row (writable.runs row member)]

/--
The element of any table, with the borders in any order: what is read from it is the table. It is so
too when the left and right borders go by the names of a line's ends, and when they go by both
names, whatever borders stand under the second ones.
-/
theorem table_read_back (hollow : Bool) (table : Table) (writable : table.Writable) :
    (∀ sides, sides.Perm table.borders.sides →
      Word.table (Table.element hollow sides table.rows) = table) ∧
    (∀ sides, sides.Perm table.borders.lineSides →
      Word.table (Table.element hollow sides table.rows) = table) ∧
    ∀ sides start stop, (start.isSome → table.borders.left.isSome) →
      (stop.isSome → table.borders.right.isSome) →
      sides.Perm (table.borders.sides ++ [("start", start), ("end", stop)]) →
      Word.table (Table.element hollow sides table.rows) = table := by
  refine ⟨?_, ?_, ?_⟩
  · intro sides order
    apply table_written hollow sides table writable
    rw [TableBorders.ofSides_perm sides _ order (by simp [TableBorders.sides]),
      TableBorders.ofSides_sides]
  · intro sides order
    apply table_written hollow sides table writable
    rw [TableBorders.ofSides_perm sides _ order (by simp [TableBorders.lineSides]),
      TableBorders.ofSides_lineSides]
  · intro sides start stop left right order
    apply table_written hollow sides table writable
    rw [TableBorders.ofSides_perm sides _ order (by simp [TableBorders.sides]),
      TableBorders.ofSides_both table.borders start stop left right]

def ledger : Table where
  borders :=
    { TableBorders.none with
      left := some ⟨some "single", some "auto", some 4⟩
      insideV := some ⟨none, some "", some 4294967295⟩ }
  rows :=
    [⟨[]⟩,
     ⟨[⟨[]⟩,
       ⟨[⟨none, []⟩,
         ⟨some "", [⟨"Sum", some false, some ⟨"0FC9A1"⟩⟩, ⟨"", some true, none⟩, .plain " 7"]⟩]⟩]⟩]

/-- Its borders out of their order, and one for the start of the line, which stands before the left
one and does not count. -/
def ledgerSides : List (String × Option Border) :=
  [("start", some ⟨some "double", none, none⟩), ("insideV", ledger.borders.insideV), ("top", none),
   ("bottom", none), ("right", none), ("left", ledger.borders.left), ("insideH", none),
   ("end", none)]

theorem ledger_read_back :
    ledger.Writable ∧ table (Table.element false ledgerSides ledger.rows) = ledger := by
  have sized : ∀ side ∈ ledger.borders.sides, ∀ border, side.2 = some border → border.Writable := by
    simp +decide [ledger, TableBorders.sides, TableBorders.none, Border.Writable]
  have colored : ∀ row ∈ ledger.rows, ∀ cell ∈ row.cells, ∀ paragraph ∈ cell.paragraphs,
      ∀ run ∈ paragraph.runs, run.Writable := by
    simp +decide [ledger, Run.Writable, Run.plain]
  have writable : ledger.Writable := ⟨sized, colored⟩
  refine ⟨writable, (table_read_back false ledger writable).2.2 ledgerSides
    (some ⟨some "double", none, none⟩) none ?_ ?_ ?_⟩
  · exact fun _ => rfl
  · exact fun ending => absurd ending (by decide)
  · decide

-- What is absent is not written, while an empty paragraph is.
example : Table.element false [("top", none), ("left", some ⟨some "single", none, some 4⟩)]
    [⟨[⟨[⟨none, []⟩]⟩]⟩] =
      ⟨⟨wordName "tbl", []⟩,
        [.element ⟨wordName "tblPr", []⟩ [.element ⟨wordName "tblBorders", []⟩
           [.element ⟨wordName "left", [⟨wordName "val", "single"⟩, ⟨wordName "sz", "4"⟩]⟩ []]],
         .element ⟨wordName "tr", []⟩ [.element ⟨wordName "tc", []⟩
           [.element ⟨wordName "p", []⟩ []]]]⟩ := rfl

end Word

end HouseStyle
