import StaticSite.Text.Blank

/-!
# Lines of Markdown

Markdown is read line by line. A line end is a line feed, a carriage return, or both in this order.
On a line, a tab stands for the spaces up to the next column that is a multiple of four, and
indentation may take a part of those spaces and leave the others.
-/

namespace StaticSite.Markdown

/-- Whether a character is white space within a line. -/
def isSpace (c : Char) : Bool := c == ' ' || c == '\t' || c == '\x0b' || c == '\x0c'

/-- Whether a character is white space or ends a line. -/
def isSpaceOrEnd (c : Char) : Bool := isSpace c || c == '\n' || c == '\r'

/-- Whether a line holds white space only. -/
def isBlankLine (text : List Char) : Bool := text.all isSpace

/-- The text without the white space at its front. -/
def dropSpace (text : List Char) : List Char := text.dropWhile isSpace

/-- The text without the white space at its end. -/
def dropSpaceEnd (text : List Char) : List Char := (text.reverse.dropWhile isSpace).reverse

/-- A line of text. -/
structure Line where
  /-- The text without the line end. -/
  text : List Char
  /-- Whether a line end follows it. -/
  ended : Bool
  deriving DecidableEq, Repr

/-- The text with a line feed for its line end, if it has one. -/
def Line.source (line : Line) : List Char := if line.ended then line.text ++ ['\n'] else line.text

/-- The lines of a text. -/
def lines : List Char → List Line
  | [] => []
  | '\r' :: '\n' :: text => ⟨[], true⟩ :: lines text
  | c :: text =>
    if c = '\n' || c = '\r' then ⟨[], true⟩ :: lines text
    else
      match lines text with
      | [] => [⟨[c], false⟩]
      | line :: rest => { line with text := c :: line.text } :: rest

/-- What remains of a line. -/
structure Cursor where
  /-- The text that remains. -/
  rest : List Char
  /-- The column at which it begins. -/
  column : Nat
  /-- The spaces that remain of a tab before it. -/
  spare : Nat
  deriving DecidableEq, Repr

namespace Cursor

/-- The cursor at the start of a line. -/
def ofText (text : List Char) : Cursor := ⟨text, 0, 0⟩

/-- Takes up to a number of columns of spaces and tabs; the first component is the number of
columns missing. -/
def takeColumns : (n column : Nat) → List Char → Nat × Cursor
  | 0, column, rest => (0, ⟨rest, column, 0⟩)
  | n + 1, column, ' ' :: rest => takeColumns n (column + 1) rest
  | n + 1, column, '\t' :: rest =>
    let width := 4 - column % 4
    if width ≤ n + 1 then takeColumns (n + 1 - width) (column + width) rest
    else (0, ⟨rest, column + width, width - (n + 1)⟩)
  | n + 1, column, rest => (n + 1, ⟨rest, column, 0⟩)

/-- Takes up to a number of columns of indentation; the first component is the number taken. -/
def takeIndent (n : Nat) (cur : Cursor) : Nat × Cursor :=
  if n ≤ cur.spare then (n, { cur with spare := cur.spare - n })
  else
    let (missing, after) := takeColumns (n - cur.spare) cur.column cur.rest
    (n - missing, after)

/-- The cursor after a number of columns of indentation, if there are so many. -/
def indent? (n : Nat) (cur : Cursor) : Option Cursor :=
  let (taken, after) := cur.takeIndent n
  if taken = n then some after else none

/-- The cursor after one character. -/
def next (cur : Cursor) : Cursor :=
  { cur with rest := cur.rest.drop 1, column := cur.column + 1 }

/-- The cursor after a character, if it comes next. -/
def char? (c : Char) (cur : Cursor) : Option Cursor :=
  if cur.rest.head? = some c then some cur.next else none

/-- Whether the line is over. -/
def atEnd (cur : Cursor) : Bool := cur.rest.isEmpty

/-- Whether only white space remains. -/
def isBlank (cur : Cursor) : Bool := isBlankLine cur.rest

/-- The text that remains, with the spare spaces of a tab. -/
def padded (cur : Cursor) : List Char := List.replicate cur.spare ' ' ++ cur.rest

end Cursor

end StaticSite.Markdown
