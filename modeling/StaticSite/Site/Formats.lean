import StaticSite.Format
import StaticSite.Markdown.Html

/-!
# Formats of a site

The formats that every site knows: HTML, which stays as it is, and Markdown.
-/

namespace StaticSite

/-- Markdown, which is converted to HTML. -/
def Format.markdown : Format := ⟨"markdown", ["md", "markdown"], Markdown.toHtml⟩

/-- The formats that every site knows. -/
def Registry.standard : Registry := (Registry.empty.register .html).register .markdown

/-- The files of a list by what they are. -/
structure FilesByFormat where
  /-- Pages in HTML. -/
  html : List Path
  /-- Pages in other formats. -/
  markdown : List Path
  /-- Files that are no pages. -/
  other : List Path
  deriving Repr

/-- The files by what they are, in their order. -/
def Registry.classify (registry : Registry) (files : List Path) : FilesByFormat :=
  let name (file : Path) : Option String := (registry.forPath? file).map Format.name
  ⟨files.filter fun f => name f == some "html",
    files.filter fun f => (name f).any (· != "html"),
    files.filter fun f => (name f).isNone⟩

end StaticSite
