import StaticSite.Markdown.Container
import StaticSite.Markdown.Table

/-!
# Leaf blocks

The lines that make up code, HTML, a paragraph or a table. Each reader gets the open containers and
the lines after the first one of the block, and gives the text of the block and the lines after it.
-/

namespace StaticSite.Markdown

/-- The text at the cursor with the line end of its line. -/
def sourceAt (line : Line) (cur : Cursor) : List Char :=
  Line.source ⟨cur.padded, line.ended⟩

/-- The lines of indented code, each with whether it is blank. -/
def takeIndentedCode (spine : List Container) :
    List Line → List (List Char × Bool) × List Line
  | [] => ([], [])
  | line :: rest =>
    match (enter? spine line).bind fun cur => enterIndented? 4 cur with
    | some cur =>
      let (taken, after) := takeIndentedCode spine rest
      ((sourceAt line cur, cur.isBlank) :: taken, after)
    | none => ([], line :: rest)

/-- The lines of code after a fence that stands behind some columns of indentation, up to the
closing fence. -/
def takeFencedCode (spine : List Container) (fence : Fence) (indent : Nat) :
    List Line → List (List Char) × List Line
  | [] => ([], [])
  | line :: rest =>
    match enter? spine line with
    | some cur =>
      let (_, cur) := cur.takeIndent indent
      let (more, closing) := cur.takeIndent (4 - indent)
      if more < 4 - indent && fence.isClosedBy closing.rest then ([], rest)
      else
        let (taken, after) := takeFencedCode spine fence indent rest
        (sourceAt line cur :: taken, after)
    | none => ([], line :: rest)

/-- The lines of HTML up to one that holds a text. -/
def takeHtmlSection (spine : List Container) (stop : String) :
    List Line → List (List Char) × List Line
  | [] => ([], [])
  | line :: rest =>
    match enter? spine line with
    | some cur =>
      if Text.contains stop.toList cur.rest then ([sourceAt line cur], rest)
      else
        let (taken, after) := takeHtmlSection spine stop rest
        (sourceAt line cur :: taken, after)
    | none => ([], line :: rest)

/-- The lines of HTML up to a blank line. -/
def takeHtmlBlock (spine : List Container) : List Line → List (List Char) × List Line
  | [] => ([], [])
  | line :: rest =>
    match (enter? spine line).filter fun cur => !cur.isBlank with
    | some cur =>
      let (taken, after) := takeHtmlBlock spine rest
      (sourceAt line cur :: taken, after)
    | none => ([], line :: rest)

/-- The alignments of the table whose first line is the text, if the next line gives as many as the
first line has columns. -/
def tableColumns? (spine : List Container) (text : List Char) (following : List Line) :
    Option (List Alignment) :=
  match following with
  | [] => none
  | line :: _ => do
    let cur ← enter? spine line
    let (indent, cur) := cur.takeIndent 4
    let columns ← if indent < 4 then readAlignments? cur.rest else none
    if columns.length = columnCount text then some columns else none

/-- Whether the text begins a list item that may end a paragraph. Within the containers of the
paragraph, an item without text and a number other than one do not end it. -/
def interruptsAsItem (within : Bool) (text : List Char) : Bool :=
  match readListMark? 0 (Cursor.ofText text) with
  | some (mark, after) => !within || (mark.number?.all (· == 1) && !after.isBlank)
  | none => false

/-- Whether the text ends a paragraph or a table before it; `within` says whether list items have to
be more than a mark. -/
def interrupts (within : Bool) (text : List Char) : Bool :=
  text.isEmpty || isRule text || (readHeading? text).isSome || (readFence? text).isSome
    || text.head? == some '>' || interruptsAsItem within text
    || (match text with
      | '<' :: rest => (sectionEnd? rest).isSome || startsBlockElement rest
      | _ => false)
    || (readFootnoteStart? text).isSome

/-- Whether a table begins with the text. Its line begins with a bar if a paragraph is before it. -/
def interruptsAsTable (spine : List Container) (text : List Char) (following : List Line) : Bool :=
  text.head? == some '|' && (tableColumns? spine text following).isSome

/-- What a line is to the paragraph before it. -/
inductive Continuation where
  /-- Not a part of it. -/
  | other
  /-- The underline that makes it a heading. -/
  | underline (level : Nat)
  /-- A further line, with its text after the marks of the containers. -/
  | more (content : List Char)

/-- What a line is to the paragraph before it. A line without the marks of all containers may still
continue the paragraph. -/
def continuation (spine : List Container) (line : Line) (following : List Line) : Continuation :=
  let (n, cur) := enterAll spine (Cursor.ofText line.text)
  let within := n == spine.length
  let (indent, inner) := cur.takeIndent 4
  let level? := if within && indent < 4 then underlineLevel? inner.rest else none
  match level? with
  | some level => .underline level
  | none =>
    if cur.isBlank then .other
    else if indent < 4
        && (interrupts within inner.rest || interruptsAsTable spine inner.rest following) then
      .other
    else .more cur.rest

/-- The further lines of a paragraph, and the level of the heading that an underline makes of
it. -/
def takeParagraph (spine : List Container) :
    List Line → List (List Char) × Option Nat × List Line
  | [] => ([], none, [])
  | line :: rest =>
    match continuation spine line rest with
    | .other => ([], none, line :: rest)
    | .underline level => ([], some level, rest)
    | .more content =>
      let (more, level, after) := takeParagraph spine rest
      (content :: more, level, after)

/-- The lines that a definition may take up after its first, without the white space at their
front. -/
def definitionLines (spine : List Container) : List Line → List (List Char)
  | [] => []
  | line :: rest =>
    match continuation spine line rest with
    | .other => []
    | .underline _ =>
      let (_, cur) := enterAll spine (Cursor.ofText line.text)
      if interrupts true (dropSpace cur.rest) then []
      else dropSpace cur.rest :: definitionLines spine rest
    | .more content => dropSpace content :: definitionLines spine rest

/-- The rows of a table. -/
def takeRows (spine : List Container) (width : Nat) :
    List Line → List (List (List Char)) × List Line
  | [] => ([], [])
  | line :: rest =>
    match (enter? spine line).filter fun cur => !interrupts false (dropSpace cur.rest) with
    | some cur =>
      let (rows, after) := takeRows spine width rest
      (readRow width (dropSpace cur.rest) :: rows, after)
    | none => ([], line :: rest)

end StaticSite.Markdown
