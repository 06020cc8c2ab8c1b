import StaticSite.Markdown.Leaf

/-!
# The blocks of a document

A document is read from the first line to the last. Each line first continues the open containers it
belongs to, which closes the others, then opens new ones, and then begins a leaf block that may take
further lines.
-/

namespace StaticSite.Markdown

/-- Splits a word at the equals sign, if it has one. -/
def readAssignment (word : List Char) : List Char × Option (List Char) :=
  match Text.spanOf (· != '=') word with
  | (key, _ :: value) => (key, some value)
  | (key, []) => (key, none)

/-- The attributes with a further word: an identifier, a class or an attribute. A word of one
character is none of them. -/
def HeadingAttributes.add (attributes : HeadingAttributes) (word : List Char) :
    HeadingAttributes :=
  match word with
  | [] => attributes
  | [_] => attributes
  | '#' :: id => { attributes with id? := some id }
  | '.' :: name => { attributes with classes := attributes.classes ++ [name] }
  | word => { attributes with others := attributes.others ++ [readAssignment word] }

/-- The words of a text between ASCII white space. -/
def words (text : List Char) : List (List Char) :=
  (Text.splitOn ' ' (text.map fun c => if Text.isAsciiBlank c then ' ' else c)).filter
    fun word => !word.isEmpty

/-- The text of a heading without the attributes in braces at its end, and the attributes. -/
def splitAttributes (text : List Char) : List Char × HeadingAttributes :=
  let isEnd (c : Char) : Bool := c == '\n' || c == ' ' || c == '\t'
  match text.reverse.dropWhile isEnd with
  | '\x7d' :: before =>
    let (inner, before) :=
      Text.spanOf (fun c => !("\x7b\x7d<>\\\n".toList.contains c)) before
    match before with
    | '\x7b' :: before => (before.reverse, (words inner.reverse).foldl HeadingAttributes.add {})
    | _ => (text, {})
  | _ => (text, {})

/-- The text of a heading without the number signs that close it. A space stands before them. -/
def dropClosing (text : List Char) : List Char :=
  let trimmed := text.reverse.dropWhile (· == ' ')
  match trimmed.dropWhile (· == '#') with
  | [] => []
  | ' ' :: before => (before.dropWhile (· == ' ')).reverse
  | _ => trimmed.reverse

/-- The heading whose text is underlined. -/
def underlinedHeading (level : Nat) (task : Option Bool) (text : List Char) : Block :=
  let (content, attributes) := splitAttributes text
  .heading level attributes task content

/-- The heading whose text stands after number signs. -/
def markedHeading (level : Nat) (text : List Char) : Block :=
  let (content, attributes) := splitAttributes (dropSpace text)
  .heading level attributes none (dropClosing content)

namespace Draft

/-- The code of some lines, without the blank ones at the end. -/
def codeText (taken : List (List Char × Bool)) : List Char :=
  ((taken.reverse.dropWhile Prod.snd).reverse.map Prod.fst).flatten

/-- Begins a paragraph, or what else its further lines make of it: a table, a heading or the
definition of a link. -/
def readParagraph (draft : Draft) (text : List Char) (rest : List Line) : Draft × List Line :=
  let spine := draft.spine
  let candidates :=
    if text.head? = some '[' then text :: definitionLines spine rest else [text]
  match readDefinition? (Text.joinWith ['\n'] candidates) with
  | some definition =>
    let left := if definition.rest.isEmpty then 0 else definition.rest.count '\n' + 1
    (draft.define definition.label definition.target, rest.drop (candidates.length - 1 - left))
  | none =>
    match tableColumns? spine text rest with
    | some alignments =>
      let width := alignments.length
      let (rows, after) := takeRows spine width (rest.drop 1)
      ({ draft.append (.table alignments (readRow width text) rows) with task := none }, after)
    | none =>
      let (more, level?, after) := takeParagraph spine rest
      let content := Text.joinWith ['\n'] (text :: more)
      let block : Block :=
        match level? with
        | some level => underlinedHeading level draft.task content
        | none => .paragraph draft.task content
      ({ draft.append block with task := none }, after)

/-- Reads the leaf block that begins at the cursor, which is not blank. -/
def readLeaf (draft : Draft) (line : Line) (cur : Cursor) (rest : List Line) :
    Draft × List Line :=
  let draft := draft.finishList
  let spine := draft.spine
  let (indent, inner) := cur.takeIndent 4
  if indent = 4 then
    let (more, after) := takeIndentedCode spine rest
    let taken := (sourceAt line inner, false) :: more
    let endsBlank := taken.getLast?.any Prod.snd
    ({ draft.append (.code [] (codeText taken)) with afterBlank := endsBlank }, after)
  else
    let htmlFirst := List.replicate (max cur.spare indent) ' ' ++ Line.source ⟨inner.rest, line.ended⟩
    let section? : Option String :=
      match inner.rest with
      | '<' :: tail => sectionEnd? tail
      | _ => none
    let isHtmlBlock :=
      match inner.rest with
      | '<' :: tail => startsBlockElement tail || isTagLine tail
      | _ => false
    match section? with
    | some stop =>
      if Text.contains stop.toList inner.rest then (draft.append (.html [htmlFirst]), rest)
      else
        let (more, after) := takeHtmlSection spine stop rest
        (draft.append (.html (htmlFirst :: more)), after)
    | none =>
      if isHtmlBlock then
        let (more, after) := takeHtmlBlock spine rest
        (draft.append (.html (htmlFirst :: more)), after)
      else if isRule inner.rest then (draft.append .rule, rest)
      else
        match readHeading? inner.rest with
        | some (level, text) => (draft.append (markedHeading level text), rest)
        | none =>
          match readFence? inner.rest with
          | some fence =>
            let (more, after) := takeFencedCode spine fence indent rest
            (draft.append (.code fence.info more.flatten), after)
          | none => draft.readParagraph inner.rest rest

/-- Reads the block that begins on a line, with the lines it takes up; the second component is the
lines after it. -/
def readBlock (draft : Draft) (line : Line) (rest : List Line) : Draft × List Line :=
  let (n, cur) := enterAll draft.spine (Cursor.ofText line.text)
  match (draft.popTo n).openContainers (line.text.length + 1) cur with
  | (draft, none) => (draft, rest)
  | (draft, some cur) =>
    if cur.isBlank then (draft.blankLine, rest) else draft.readLeaf line cur rest

/-- Reads the blocks of some lines; the number bounds the blocks. -/
def readBlocks : Nat → Draft → List Line → Draft
  | 0, draft, _ => draft
  | _, draft, [] => draft
  | n + 1, draft, line :: rest =>
    let (draft, rest) := draft.readBlock line rest
    readBlocks n draft rest

end Draft

/-- The document of a text. -/
def Document.ofText (text : List Char) : Document :=
  let all := lines text
  let draft := (Draft.readBlocks all.length {} all).popTo 0
  ⟨draft.blocks.reverse, draft.targets.reverse, draft.footnotes⟩

end StaticSite.Markdown
