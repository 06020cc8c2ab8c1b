import StaticSite.Markdown.Line

/-!
# Blocks

A Markdown document is a list of blocks. The leaves hold text whose inline structure is read later,
when all link definitions of the document are known.
-/

namespace StaticSite.Markdown

/-- Where the text of a table column stands. -/
inductive Alignment where
  | free
  | left
  | right
  | center
  deriving DecidableEq, Repr

/-- What a heading carries besides its text. -/
structure HeadingAttributes where
  /-- The identifier. -/
  id? : Option (List Char) := none
  /-- The classes. -/
  classes : List (List Char) := []
  /-- Further attributes, with or without a value. -/
  others : List (List Char × Option (List Char)) := []
  deriving DecidableEq, Repr

/-- A block of a document. -/
inductive Block where
  /-- A paragraph, which may begin with the box of a task. -/
  | paragraph (task : Option Bool) (content : List Char)
  /-- A heading, which may begin with the box of a task. -/
  | heading (level : Nat) (attributes : HeadingAttributes) (task : Option Bool)
      (content : List Char)
  /-- A line across the page. -/
  | rule
  /-- Code, with the words after the fence if it is fenced. -/
  | code (info : List Char) (content : List Char)
  /-- HTML, line by line. -/
  | html (lines : List (List Char))
  /-- A table. -/
  | table (alignments : List Alignment) (head : List (List Char)) (rows : List (List (List Char)))
  /-- The box of a task that has no text. -/
  | task (done : Bool)
  /-- A quotation. -/
  | quote (children : List Block)
  /-- A list; a tight one shows the paragraphs of its items as plain text. -/
  | list (start : Option Nat) (tight : Bool) (items : List Block)
  /-- An item of a list. -/
  | item (children : List Block)
  /-- The text of a footnote. -/
  | footnote (label : List Char) (children : List Block)
  deriving Repr

/-- Where a link leads. -/
structure Target where
  /-- The address. -/
  destination : List Char
  /-- The title, which may be empty. -/
  title : List Char
  deriving DecidableEq, Repr

/-- A document: its blocks, the links it defines by label, and the labels of its footnotes. -/
structure Document where
  /-- The blocks. -/
  blocks : List Block
  /-- The defined links, by folded label; of two links with one label the first counts. -/
  targets : List (List Char × Target)
  /-- The folded labels of the footnotes. -/
  footnotes : List (List Char)

end StaticSite.Markdown
