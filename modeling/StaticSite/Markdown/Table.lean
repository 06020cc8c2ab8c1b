import StaticSite.Markdown.Block
import StaticSite.Text.Punctuation

/-!
# Tables

A table is a line with bars, a line that says how each column is aligned, and further lines with
bars. A bar after a backslash belongs to the text of a cell.
-/

namespace StaticSite.Markdown

/-- What is known of a column while its mark is read. -/
structure ColumnMark where
  /-- The alignment so far. -/
  alignment : Alignment := .free
  /-- Whether the mark has begun. -/
  begun : Bool := false
  /-- Whether it has a hyphen. -/
  drawn : Bool := false

/-- The column after a colon: before the hyphens it aligns to the left, after them to the right, on
both sides to the center. -/
def ColumnMark.colon (column : ColumnMark) : ColumnMark :=
  let alignment : Alignment :=
    match column.begun, column.alignment with
    | false, .free => .left
    | true, .left => .center
    | true, .free => .right
    | _, alignment => alignment
  { column with alignment, begun := true }

/-- The alignments of the columns, given the mark that is being read. -/
def readColumns? (column : ColumnMark) : List Char → Option (List Alignment)
  | [] =>
    if column.drawn then some [column.alignment]
    else if column.begun then none
    else some []
  | c :: rest =>
    if c = ' ' then readColumns? column rest
    else if c = ':' then readColumns? column.colon rest
    else if c = '-' then readColumns? { column with begun := true, drawn := true } rest
    else if c = '|' then
      if column.drawn then (readColumns? {} rest).map (column.alignment :: ·) else none
    else none

/-- The alignments of the columns that a line gives. The line holds at least one bar. -/
def readAlignments? (text : List Char) : Option (List Alignment) :=
  if !text.contains '|' then none
  else
    let columns? :=
      match text with
      | '|' :: rest => readColumns? {} rest
      | text => readColumns? {} text
    columns?.filter fun columns => !columns.isEmpty

/-- The parts of a line between bars that no backslash precedes, with all that stands in them. -/
def splitBars : List Char → List (List Char)
  | [] => [[]]
  | '\\' :: c :: rest =>
    if Text.isAsciiPunctuation c then
      match splitBars rest with
      | part :: parts => ('\\' :: c :: part) :: parts
      | [] => [['\\', c]]
    else
      match splitBars (c :: rest) with
      | part :: parts => ('\\' :: part) :: parts
      | [] => [['\\']]
  | c :: rest =>
    if c = '|' then [] :: splitBars rest
    else
      match splitBars rest with
      | part :: parts => (c :: part) :: parts
      | [] => [[c]]

/-- The number of columns that the first line of a table has; none without a bar. -/
def columnCount (text : List Char) : Nat :=
  let parts := splitBars text
  let parts := if (parts.head?.any isBlankLine) then parts.drop 1 else parts
  if (splitBars text).length < 2 then 0
  else if (parts.getLast?.any isBlankLine) then parts.length - 1
  else parts.length

/-- The characters of a cell up to a bar or the end of the line, and the text from there. A
backslash before a bar, or two before it, make it a character of the cell. -/
def readCell : List Char → List Char × List Char
  | [] => ([], [])
  | '\\' :: '|' :: rest =>
    let (cell, rest) := readCell rest
    ('|' :: cell, rest)
  | '\\' :: '\\' :: '|' :: rest =>
    let (cell, rest) := readCell rest
    ('\\' :: '|' :: cell, rest)
  | '\\' :: c :: rest =>
    if Text.isAsciiPunctuation c then
      let (cell, rest) := readCell rest
      ('\\' :: c :: cell, rest)
    else
      match readCell (c :: rest) with
      | (cell, rest) => ('\\' :: cell, rest)
  | c :: rest =>
    if c = '|' then ([], c :: rest)
    else
      let (cell, rest) := readCell rest
      (c :: cell, rest)

/-- The cells of a line, at most the given number. A bar may stand before the first cell and after
the last one. -/
def readCells : Nat → List Char → List (List Char)
  | 0, _ => []
  | n + 1, text =>
    let text :=
      match text with
      | '|' :: rest => rest
      | text => text
    match dropSpace text with
    | [] => []
    | text =>
      let (cell, rest) := readCell text
      dropSpaceEnd cell :: readCells n rest

/-- The cells of a row of a table: cells that are missing are empty, and further ones are left
out. -/
def readRow (width : Nat) (text : List Char) : List (List Char) :=
  let cells := readCells width text
  cells ++ List.replicate (width - cells.length) []

end StaticSite.Markdown
