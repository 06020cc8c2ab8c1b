import StaticSite.Markdown.Block

/-!
# Inline structure

The text of a block consists of plain text, code, HTML, line breaks, emphasis, links, images and
references to footnotes.
-/

namespace StaticSite.Markdown

/-- A part of the text of a block. -/
inductive Inline where
  /-- Plain text. -/
  | plain (content : List Char)
  /-- Code. -/
  | code (content : List Char)
  /-- HTML as it is written. -/
  | html (source : List Char)
  /-- The end of a line that means no more than a space. -/
  | softBreak
  /-- The end of a line that the page shows. -/
  | hardBreak
  /-- Emphasis. -/
  | emphasis (children : List Inline)
  /-- Strong emphasis. -/
  | strong (children : List Inline)
  /-- Text struck through. -/
  | struck (children : List Inline)
  /-- A link. -/
  | link (target : Target) (children : List Inline)
  /-- A link to a mail address, which is its text. -/
  | mail (address : List Char)
  /-- An image, with the text that describes it. -/
  | image (target : Target) (children : List Inline)
  /-- A reference to a footnote. -/
  | footnote (label : List Char)
  deriving Repr

end StaticSite.Markdown
