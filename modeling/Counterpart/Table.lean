import Counterpart.Failure
import Counterpart.Markup.Rendered

/-! Tables drawn with box characters. A column is as wide as its widest cell and one blank on each
side, as long as the table fits on the page; otherwise the widest columns give way. The lines of the
title are centred over the whole table, the odd blank going to their right. -/

namespace Counterpart

inductive Alignment where
  | left
  | right
deriving DecidableEq

structure Column where
  heading : Text
  alignment : Alignment := .left
  overflow : Text.Overflow := .ellipsis

structure Table where
  /-- The cells of a whole page. -/
  pageWidth : Nat
  title : Text
  columns : List Column
  rows : List (List Markup.Rendered)

/-- The strokes of one horizontal line. -/
structure Rule where
  left : Char
  stroke : Char
  crossing : Char
  right : Char

/-- The quotient to the nearest number, a half going to the even neighbour. -/
def nearestQuotient (n d : Nat) : Nat :=
  let q := n / d
  if 2 * (n % d) < d ∨ (2 * (n % d) = d ∧ q % 2 = 0) then q else q + 1

namespace Table

def topRule : Rule := ⟨'┏', '━', '┳', '┓'⟩

def headRule : Rule := ⟨'┡', '━', '╇', '┩'⟩

def bottomRule : Rule := ⟨'└', '─', '┴', '┘'⟩

/-- The blanks around the content of a cell. -/
def margin : Nat := 2

/-- The cells that columns can have together, the strokes between and around them taken off. -/
def room (t : Table) : Nat := t.pageWidth - (t.columns.length + 1)

/-- The widths that the columns ask for. -/
def wantedWidths (t : Table) : List Nat :=
  t.columns.mapIdx fun i c =>
    let spanAt (row : List Markup.Rendered) := Text.span ((row[i]?.map (·.text)).getD [])
    let content := (t.rows.map spanAt).foldl max (Text.span c.heading)
    min (min content t.room + margin) t.room

/-- Takes an excess off the columns of the greatest width, as evenly as can be and no more than
`most` from each. `sharers` of them are still to come. -/
def shrink (widest most excess sharers : Nat) : List Nat → List Nat
  | [] => []
  | w :: rest =>
    if w = widest then
      let share := min most (nearestQuotient excess sharers)
      (w - share) :: shrink widest most (excess - share) (sharers - 1) rest
    else w :: shrink widest most excess sharers rest

def total (widths : List Nat) : Nat := widths.foldl (· + ·) 0

/-- Narrows the widest columns to the next narrower ones, again and again, until there is room. -/
def narrow (room : Nat) : Nat → List Nat → List Nat
  | 0, widths => widths
  | steps + 1, widths =>
    let excess := total widths - room
    let widest := widths.foldl max 0
    let second := (widths.filter (· != widest)).foldl max 0
    if excess = 0 ∨ widest = second then widths
    else narrow room steps
      (shrink widest (min excess (widest - second)) excess (widths.count widest) widths)

/-- The widths of the columns with their margins. -/
def widths (t : Table) : List Nat :=
  let wanted := t.wantedWidths
  narrow t.room (total wanted) wanted

/-- The cells that the content of each column takes. -/
def contentWidths (t : Table) : List Nat := t.widths.map (· - margin)

/-- The width of a whole line. -/
def span (t : Table) : Nat := total t.widths + t.columns.length + 1

def rule (t : Table) (r : Rule) : Text :=
  [r.left] ++ Text.joinWith [r.crossing] (t.widths.map fun w => List.replicate w r.stroke)
    ++ [r.right]

/-- Puts the parts of a line to their side of a column. -/
def aligned (alignment : Alignment) (cells : Nat) (parts : List Text) : List Text :=
  match alignment with
  | .left => parts
  | .right =>
    let content := Text.trimEnd isBlank parts.flatten
    [Text.blanks (cells - content.width), content]

/-- The parts of the lines of a cell, with the margins. All styles that show are looked up. Without
room for any content there are no lines. -/
def cellLines (column : Column) (cells : Nat) (cell : Markup.Rendered) :
    Except MarkupError (List (List Text)) := do
  if cells = 0 then return []
  let broken ← (cell.wrap column.overflow cells).mapError .uncut
  if broken.any fun line => line.spans.any Markup.Span.isFaulty then throw .badNumber
  let filled ← (broken.mapM fun line => Text.fitParts cells line.parts).mapError .uncut
  let framed := filled.map fun parts => [[' ']] ++ aligned column.alignment cells parts ++ [[' ']]
  (framed.mapM (Text.fitParts (cells + margin))).mapError .uncut

/-- A row is as high as its highest cell; the others are filled up with blanks. Headings stand at
the bottom, other cells at the top. -/
def rowLines (t : Table) (isHead : Bool) (row : List Markup.Rendered) :
    Except MarkupError (List (List Text)) := do
  let bar := if isHead then '┃' else '│'
  let cells ← (t.columns.zip (t.contentWidths.zip row)).mapM fun (column, cells, cell) =>
    cellLines column cells cell
  let height := (cells.map List.length).foldl max 1
  let columns ← (t.widths.zip cells).mapM fun (width, lines) =>
    let blank := List.replicate (height - lines.length) [Text.blanks width]
    let filled := if isHead then blank ++ lines else lines ++ blank
    (filled.mapM (Text.fitParts width)).mapError .uncut
  return (List.range height).map fun i =>
    [bar] :: columns.flatMap fun lines => (lines[i]?.getD []) ++ [[bar]]

/-- The headings as a row. -/
def headings (t : Table) : List Markup.Rendered := t.columns.map fun c => ⟨c.heading, []⟩

def centred (cells : Nat) (s : Text) : Text :=
  let spare := cells - s.width
  Text.blanks (spare / 2) ++ s ++ Text.blanks (spare - spare / 2)

/-- The title is as wide as the table at most. -/
def titleLines (t : Table) : List Text :=
  (Text.breakLine .fold t.span t.title).map fun line => centred t.span (Text.trimEnd isBlank line)

/-- The lines of a table. Those that are wider than the page are cropped. -/
def lines (t : Table) : Except MarkupError (List Text) := do
  let head ← t.rowLines true t.headings
  let body ← t.rows.mapM (t.rowLines false)
  let lines := t.titleLines.map ([·]) ++ [[t.rule topRule]] ++ head ++ [[t.rule headRule]]
    ++ body.flatten ++ [[t.rule bottomRule]]
  let cropped ← (lines.mapM (Text.cropParts t.pageWidth)).mapError .uncut
  return cropped.map List.flatten

/-- What is printed, or why nothing is. -/
def text (t : Table) : Except MarkupError Text :=
  t.lines.map fun lines => lines.flatMap (· ++ ['\n'])

end Table
end Counterpart
