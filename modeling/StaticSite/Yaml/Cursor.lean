import StaticSite.Text.Blank

/-!
# A cursor over YAML text

The cursor knows the text that remains and its place in the whole: the count of characters, the
line and the column. Line ends are those of YAML, which include the Unicode separators.
-/

namespace StaticSite.Yaml

/-- Whether a character ends a line. -/
def isBreak (c : Char) : Bool :=
  c == '\n' || c == '\r' || c.toNat == 0x85 || c.toNat == 0x2028 || c.toNat == 0x2029

/-- Whether a character is a space or a tab. -/
def isSpaceOrTab (c : Char) : Bool := c == ' ' || c == '\t'

/-- Whether a character may stand in the name of an anchor or a handle. -/
def isWordChar (c : Char) : Bool := c.isAlphanum || c == '_' || c == '-'

/-- Whether a character may stand in a YAML text at all. -/
def isAllowed (c : Char) : Bool :=
  let n := c.toNat
  n == 0x9 || n == 0xA || n == 0xD || (0x20 ≤ n && n ≤ 0x7E) || n == 0x85
    || (0xA0 ≤ n && n ≤ 0xFFFD) || 0x10000 ≤ n

/-- The text that remains, and its place. -/
structure Cursor where
  /-- The text that remains. -/
  rest : List Char
  /-- The count of characters before it. -/
  index : Nat
  /-- The count of lines before it. -/
  line : Nat
  /-- The count of characters before it on its line. -/
  column : Nat
  deriving Repr

namespace Cursor

/-- The cursor at the start of a text. -/
def ofText (text : List Char) : Cursor := ⟨text, 0, 0, 0⟩

/-- The cursor a number of characters further on the line. -/
def skip (cur : Cursor) (n : Nat) : Cursor :=
  { cur with rest := cur.rest.drop n, index := cur.index + n, column := cur.column + n }

/-- The next character. -/
def peek? (cur : Cursor) : Option Char := cur.rest.head?

/-- Whether the next character is the one given. -/
def sees (cur : Cursor) (c : Char) : Bool := cur.peek? == some c

/-- The cursor after the line end that comes next, and the text of that line end: all forms of one
line feed become a line feed. -/
def readBreak (cur : Cursor) : List Char × Cursor :=
  let after (n : Nat) : Cursor := ⟨cur.rest.drop n, cur.index + n, cur.line + 1, 0⟩
  match cur.rest with
  | '\r' :: '\n' :: _ => (['\n'], after 2)
  | c :: _ =>
    if c == '\r' || c == '\n' || c.toNat == 0x85 then (['\n'], after 1) else ([c], after 1)
  | [] => ([], cur)

/-- Whether a text begins with a line end. -/
def startsBreak : List Char → Bool
  | c :: _ => isBreak c
  | [] => false

/-- Whether a text begins with a space or a tab. -/
def startsBlank : List Char → Bool
  | c :: _ => isSpaceOrTab c
  | [] => false

/-- Whether a text begins with a line end, or is over. -/
def startsBreakOrEnd : List Char → Bool
  | c :: _ => isBreak c
  | [] => true

/-- Whether a text begins with white space or a line end, or is over. -/
def startsBlankOrEnd : List Char → Bool
  | c :: _ => isSpaceOrTab c || isBreak c
  | [] => true

/-- Reads characters of the line while they satisfy a test. -/
def readWhile (cur : Cursor) (p : Char → Bool) : List Char × Cursor :=
  let (front, _) := Text.spanOf p cur.rest
  (front, cur.skip front.length)

/-- The cursor after the spaces and tabs. -/
def skipBlanks (cur : Cursor) : Cursor := (cur.readWhile isSpaceOrTab).2

/-- Whether a document marker stands at the cursor. -/
def atDocumentMarker (cur : Cursor) : Bool :=
  cur.column == 0 &&
    match cur.rest with
    | a :: b :: c :: rest =>
      (a == b && b == c && (a == '-' || a == '.')) && startsBlankOrEnd rest
    | _ => false

/-- The cursor after the blanks, the comment and the line end that may end a line; `none` if
anything else follows. -/
def endLine? (cur : Cursor) : Option Cursor :=
  let cur := cur.skipBlanks
  let cur := if cur.sees '#' then (cur.readWhile fun c => !isBreak c).2 else cur
  if startsBreakOrEnd cur.rest then some cur.readBreak.2 else none

end Cursor

end StaticSite.Yaml
