import HouseStyle.Color
import HouseStyle.Measure
import HouseStyle.Style.Sheet

/-!
A document as far as its style goes: the sections with their margins, the sheet of styles and the
tables, each in the order of the text. Tables have borders around and between cells, and rows of
cells that hold paragraphs of runs. Rows need not have the same number of cells. Border texts are
kept as they were written.
-/

namespace HouseStyle

structure Run where
  text : String
  bold : Option Bool
  color : Option Color
deriving DecidableEq

structure Paragraph where
  styleId : Option String
  runs : List Run
deriving DecidableEq

structure Border where
  style : Option String
  color : Option String
  size : Option Nat
deriving DecidableEq

structure TableBorders where
  top : Option Border
  bottom : Option Border
  left : Option Border
  right : Option Border
  insideH : Option Border
  insideV : Option Border
deriving DecidableEq

structure Cell where
  paragraphs : List Paragraph
deriving DecidableEq

structure Row where
  cells : List Cell
deriving DecidableEq

structure Table where
  borders : TableBorders
  rows : List Row
deriving DecidableEq

namespace Run

def plain (text : String) : Run := ⟨text, none, none⟩

def strong (text : String) : Run := ⟨text, some true, none⟩

def colored (run : Run) (color : Color) : Run := { run with color := some color }

def isBold (run : Run) : Bool := run.bold = some true

end Run

namespace Paragraph

def ofRuns (runs : List Run) : Paragraph := ⟨none, runs⟩

def styled (paragraph : Paragraph) (id : String) : Paragraph := { paragraph with styleId := some id }

def plainText (paragraph : Paragraph) : String := String.join (paragraph.runs.map Run.text)

end Paragraph

namespace Cell

def empty : Cell := ⟨[]⟩

def plainText (cell : Cell) : String :=
  String.intercalate " " (cell.paragraphs.map Paragraph.plainText)

end Cell

namespace TableBorders

def none : TableBorders := ⟨.none, .none, .none, .none, .none, .none⟩

/-- The border of a side; the left and right sides also go by the names of a line's ends. -/
def side? (borders : TableBorders) (name : String) : Option Border :=
  match name with
  | "top" => borders.top
  | "bottom" => borders.bottom
  | "left" => borders.left
  | "start" => borders.left
  | "right" => borders.right
  | "end" => borders.right
  | "insideH" => borders.insideH
  | "insideV" => borders.insideV
  | _ => .none

end TableBorders

namespace Table

def empty : Table := ⟨.none, []⟩

def addRow (table : Table) (row : Row) : Table := { table with rows := table.rows ++ [row] }

def isEmpty (table : Table) : Bool := table.rows.isEmpty

def rowCount (table : Table) : Nat := table.rows.length

def columnCount (table : Table) : Nat := (table.rows.head?.map fun row => row.cells.length).getD 0

def headerCell? (table : Table) : Option Cell := table.rows.head?.bind fun row => row.cells.head?

def headerParagraph? (table : Table) : Option Paragraph :=
  table.headerCell?.bind fun cell => cell.paragraphs.head?

end Table

structure Margins where
  top : Option Length
  bottom : Option Length
  left : Option Length
  right : Option Length
deriving DecidableEq

namespace Margins

def unset : Margins := ⟨none, none, none, none⟩

def uniform (length : Length) : Margins := ⟨some length, some length, some length, some length⟩

end Margins

structure Section where
  margins : Margins
deriving DecidableEq

structure Document where
  sections : List Section
  sheet : Sheet
  tables : List Table

namespace Document

def empty : Document := ⟨[], .empty, []⟩

def addSection (document : Document) (part : Section) : Document :=
  { document with sections := document.sections ++ [part] }

def addStyle (document : Document) (style : Style) : Document :=
  { document with sheet := document.sheet.add style }

def addTable (document : Document) (table : Table) : Document :=
  { document with tables := document.tables ++ [table] }

end Document

end HouseStyle
