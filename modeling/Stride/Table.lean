-- Tables in text: boxes drawn around rows of cells. Each column is as wide
-- as its widest cell.
import Stride.Text.Split
import Stride.Text.Measure

namespace Stride

inductive Alignment where
  | left | right
deriving DecidableEq, Repr

structure Cell where
  text : String
  alignment : Alignment := .left

/-- Each row has as many cells as the header. -/
structure Table where
  header : List String
  rows : List (List Cell)

/-! ## Cells -/

namespace Cell

/-- The lines of its text, at least one. -/
def lines (cell : Cell) : List (List Char) := splitAtChar '\n' cell.text.toList

def width (cell : Cell) : Nat := ((cell.lines.map textWidth).max?).getD 0

/-- A line of the cell, filled up to the width of its column. -/
def pad (width : Nat) (alignment : Alignment) (line : List Char) : List Char :=
  let fill := List.replicate (width - textWidth line) ' '
  match alignment with
  | .left => line ++ fill
  | .right => fill ++ line

end Cell

/-! ## Lines of the box -/

/-- The characters of a line between cells: its ends, its crossings and
what it is drawn with. -/
structure Border where
  first : Char
  stroke : Char
  crossing : Char
  last : Char

def Border.draw (b : Border) (widths : List Nat) : List Char :=
  b.first :: List.intercalate [b.crossing] (widths.map fun w => List.replicate (w + 2) b.stroke)
    ++ [b.last]

def topBorder : Border := ⟨'┌', '─', '┬', '┐'⟩
def headerBorder : Border := ⟨'╞', '═', '╪', '╡'⟩
def rowBorder : Border := ⟨'├', '╌', '┼', '┤'⟩
def bottomBorder : Border := ⟨'└', '─', '┴', '┘'⟩

/-- The lines of a row; a cell with fewer lines than its neighbours is
filled up with blank ones. -/
def rowLines (widths : List Nat) (cells : List Cell) : List (List Char) :=
  let height := ((cells.map fun cell => cell.lines.length).max?).getD 1
  (List.range height).map fun i =>
    let parts := (widths.zip cells).map fun (width, cell) =>
      Cell.pad width cell.alignment ((cell.lines[i]?).getD [])
    '│' :: ' ' :: List.intercalate [' ', '┆', ' '] parts ++ [' ', '│']

namespace Table

def columnWidths (t : Table) : List Nat :=
  t.rows.foldl (fun widths row => List.zipWith max widths (row.map Cell.width))
    (t.header.map fun text => Cell.width { text })

def lines (t : Table) : List (List Char) :=
  let widths := t.columnWidths
  let body := List.intercalate [rowBorder.draw widths] (t.rows.map (rowLines widths))
  topBorder.draw widths :: rowLines widths (t.header.map fun text => { text })
    ++ headerBorder.draw widths :: body ++ [bottomBorder.draw widths]

/-- The text of the table, with a line break behind each line. -/
def text (t : Table) : String :=
  String.ofList (t.lines.flatMap fun line => line ++ ['\n'])

end Table

end Stride
