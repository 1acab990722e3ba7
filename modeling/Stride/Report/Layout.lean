-- How a report is laid out: the expression, line by line, with marks where
-- it fails.
import Stride.Report
import Stride.Text.Split
import Stride.Text.Width

namespace Stride

/-! ## Lines of an expression -/

/-- A line, its number, and the place of its first character. What ends the
line is a part of it. -/
structure NumberedLine where
  number : Nat
  start : Nat
  text : List Char
deriving DecidableEq, Repr

namespace NumberedLine

/-- The place behind the line. -/
def stop (l : NumberedLine) : Nat := l.start + l.text.length

def ofLines (number start : Nat) : List (List Char) → List NumberedLine
  | [] => []
  | text :: rest => ⟨number, start, text⟩ :: ofLines (number + 1) (start + text.length) rest

def ofText (s : List Char) : List NumberedLine := ofLines 1 0 (splitLines s)

/-- The last of the lines that starts at a place or before it. -/
def at? (lines : List NumberedLine) (place : Nat) : Option NumberedLine :=
  (lines.filter (·.start ≤ place)).getLast?

end NumberedLine

/-! ## Characters and marks -/

/-- What a character is shown as, and its columns. A tab goes to the next
multiple of four places; other blanks are one space. -/
def shownChar (place : Nat) (c : Char) : List Char × Nat :=
  if c = '\t' then (List.replicate (4 - place % 4) ' ', 4 - place % 4)
  else if isBlank c then ([' '], 1)
  else ([c], charWidth .unicode15 c)

/-- The characters of a line as they are shown. -/
def NumberedLine.shown (l : NumberedLine) : List (List Char × Nat) :=
  (trimBlanksEnd l.text).mapIdx shownChar

/-- A mark for each place, as wide as what stands at that place. -/
def drawMarks (widths : List Nat) (places : Nat) (mark : Nat → Char × Char) : List Char :=
  (List.range places).flatMap fun place =>
    let (first, rest) := mark place
    match (widths[place]?).getD 1 with
    | 0 => []
    | width + 1 => first :: List.replicate width rest

/-- The line under the places of a span, and the line that leads to its
label. -/
def Span.marks (s : Span) (widths : List Nat) : List Char × List Char :=
  let middle := s.start + (s.stop - s.start) / 2
  let under := fun place =>
    if place = middle then ('┬', '─')
    else if s.start ≤ place ∧ place < s.stop then ('─', '─')
    else (' ', ' ')
  let lead := fun place =>
    if place = middle then ('╰', '─')
    else if middle < place then ('─', '─')
    else (' ', ' ')
  (drawMarks widths s.stop under, drawMarks widths (s.stop + 2) lead)

/-! ## The margin -/

/-- The margin of a line without a number; numbers take `width` columns. -/
def margin (width : Nat) (bar : Char) : List Char := List.replicate (width + 2) ' ' ++ [bar, ' ']

def NumberedLine.margin (width : Nat) (l : NumberedLine) : List Char :=
  let digits := Nat.toDigits 10 l.number
  List.replicate (width + 1 - digits.length) ' ' ++ digits ++ [' ', '│', ' ']

namespace Report

/-- A line with marks under it. A span that ends behind the line, as it does
if there are only blanks, is not shown. -/
def inLine (r : Report) (width : Nat) (l : NumberedLine) : List (List Char) :=
  let shown := l.shown
  let span : Span := ⟨r.span.start - l.start, r.span.stop - l.start⟩
  let (under, lead) := span.marks (shown.map (·.2))
  if l.stop < r.span.stop then [margin width '│']
  else
    [l.margin width ++ shown.flatMap (·.1), margin width '│' ++ under,
      margin width '│' ++ lead ++ ' ' :: r.label.toList]

/-- The first and the last line of a span, with an arrow from one to the
other. Lines between them are left out. -/
def acrossLines (r : Report) (width : Nat) (first last : NumberedLine) : List (List Char) :=
  let shown := last.shown
  let lead := drawMarks (shown.map (·.2)) (last.text.length + 2) fun _ => ('─', '─')
  let gap := if last.number = first.number + 1 then [] else [margin width '┆' ++ ['┆']]
  (first.margin width ++ "╭─▶ ".toList ++ first.shown.flatMap (·.1)) :: gap
    ++ [last.margin width ++ "├─▶ ".toList ++ shown.flatMap (·.1), margin width '│' ++ ['│'],
      margin width '│' ++ "╰───".toList ++ lead ++ ' ' :: r.label.toList]

/-- What stands before the help if the span goes across lines. The arrow is
drawn there once more if it starts where the first line of all ends. -/
def helpIndent (r : Report) (lines : List NumberedLine) : List Char :=
  if (lines.head?.map (·.stop)) = some r.span.start then "│   ".toList else "    ".toList

/-- The lines of the report. An empty expression has no line that could be
shown. -/
def lines (r : Report) (input : String) : List String :=
  let title := "Error: " ++ r.title
  let all := NumberedLine.ofText input.toList
  match NumberedLine.at? all r.span.start, NumberedLine.at? all (r.span.stop - 1) with
  | some first, some last =>
    let width := (Nat.toDigits 10 last.number).length
    let isAcross := first.number ≠ last.number
    let body := if isAcross then r.acrossLines width first last else r.inLine width first
    let indent := if isAcross then r.helpIndent all else []
    let place := first.number.repr ++ ":" ++ (r.span.start - first.start + 1).repr
    let dashes := List.replicate (width + 2) '─'
    let rows := body ++ [margin width '│' ++ indent,
      margin width '│' ++ indent ++ "Help: ".toList ++ r.help.toList, dashes ++ ['╯']]
    [title, String.ofList (List.replicate (width + 2) ' ') ++ "╭─[expression:" ++ place ++ "]"]
      ++ (margin width '│' :: rows).map fun row => String.ofList (trimBlanksEnd row)
  | _, _ => [title]

end Report

end Stride
