import StaticSite.Markdown.Link
import StaticSite.Markdown.Tag

/-!
# How blocks begin

The marks at the start of a line that begin a block. Each reader gets the line from its first
character that is not indentation.
-/

namespace StaticSite.Markdown

/-- Whether the line is a rule: three or more of one mark, with white space between them. -/
def isRule : List Char → Bool
  | [] => false
  | c :: rest =>
    (c == '*' || c == '-' || c == '_')
      && rest.all (fun d => d == c || d == ' ' || d == '\t')
      && 2 ≤ rest.count c

/-- The level of a heading that begins with number signs, and the text after them. -/
def readHeading? (text : List Char) : Option (Nat × List Char) :=
  let (marks, rest) := Text.spanOf (· == '#') text
  if 1 ≤ marks.length && marks.length ≤ 6 && rest.head?.all isSpaceOrEnd then
    some (marks.length, rest)
  else none

/-- The level of the heading whose underline the line is. -/
def underlineLevel? : List Char → Option Nat
  | [] => none
  | c :: rest =>
    if (c == '=' || c == '-') && isBlankLine (rest.dropWhile (· == c)) then
      some (if c = '=' then 1 else 2)
    else none

/-- The opening fence of code. -/
structure Fence where
  /-- The mark it consists of. -/
  mark : Char
  /-- The number of marks. -/
  length : Nat
  /-- The words after it. -/
  info : List Char

/-- The fence that begins here. The words after a fence of backticks hold no backtick. -/
def readFence? (text : List Char) : Option Fence :=
  match text with
  | [] => none
  | c :: _ =>
    if c = '\x60' || c = '~' then
      let (marks, rest) := Text.spanOf (· == c) text
      if marks.length < 3 || (c == '\x60' && rest.contains '\x60') then none
      else some ⟨c, marks.length, unescape (dropSpaceEnd (dropSpace rest))⟩
    else none

/-- Whether the line closes code that begins with the fence. -/
def Fence.isClosedBy (fence : Fence) (text : List Char) : Bool :=
  let (marks, rest) := Text.spanOf (· == fence.mark) text
  fence.length ≤ marks.length && isBlankLine rest

/-- The label of a footnote whose text begins here, and the text after its colon. -/
def readFootnoteStart? : List Char → Option (List Char × List Char)
  | '[' :: '^' :: rest =>
    match readLabel? rest with
    | some (label, ':' :: rest) => some (label, rest)
    | _ => none
  | _ => none

/-- The mark of a list item. -/
structure ListMark where
  /-- The bullet, or the character after the number. -/
  mark : Char
  /-- The number. -/
  number? : Option Nat
  /-- The columns by which the lines of the item are indented. -/
  indent : Nat
  deriving DecidableEq, Repr

/-- The mark and the cursor after it, its number and the width of what stands before the white
space. -/
def readBareMark? (cur : Cursor) : Option (Char × Option Nat × Nat × Cursor) :=
  match cur.rest with
  | [] => none
  | c :: rest =>
    if c = '-' || c = '+' || c = '*' then
      if isRule cur.rest then none else some (c, none, 1, cur.next)
    else
      let (digits, after) := Text.spanOf Char.isDigit (c :: rest)
      match after with
      | d :: after =>
        if (d == '.' || d == ')') && digits.length ≤ 9 then
          let width := digits.length + 1
          (Text.readNat? digits).map fun n =>
            (d, some n, width, ⟨after, cur.column + width, cur.spare⟩)
        else none
      | [] => none

/-- The mark of a list item that stands at a column, and the cursor where its text begins. White
space or the end of the line follows a mark; five columns or more of white space count as one,
since the text is then code. -/
def readListMark? (outer : Nat) (cur : Cursor) : Option (ListMark × Cursor) :=
  match readBareMark? cur with
  | none => none
  | some (mark, number?, width, after) =>
    match after.indent? 1 with
    | none =>
      if after.atEnd then
        some (⟨mark, number?, outer + width + if number?.isNone then 1 else 0⟩, after)
      else none
    | some after =>
      let indent := outer + width + 1
      if after.isBlank then some (⟨mark, number?, indent⟩, after)
      else
        let (more, within) := after.takeIndent 4
        if more < 4 then some (⟨mark, number?, indent + more⟩, within)
        else some (⟨mark, number?, indent⟩, after)

/-- Whether a task is done, by the box at the cursor, and the cursor after the box. White space
follows the box. -/
def readTaskBox? (cur : Cursor) : Option (Bool × Cursor) :=
  let (_, cur) := cur.takeIndent 3
  match cur.rest with
  | '[' :: c :: ']' :: d :: rest =>
    if !isSpace d then none
    else
      let after : Cursor := ⟨d :: rest, cur.column + 3, cur.spare⟩
      if isSpace c then some (false, after)
      else if c = 'x' || c = 'X' then some (true, after)
      else none
  | _ => none

/-- The cursor after the mark of a quotation and the space that may follow it. -/
def readQuoteMark? (cur : Cursor) : Option Cursor :=
  (cur.char? '>').map fun cur => (cur.takeIndent 1).2

end StaticSite.Markdown
