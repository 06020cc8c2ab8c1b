import StaticSite.Path.Basic
import StaticSite.Text.Case

/-!
# Formats of pages

A format turns the body of a page into HTML. A registry of formats decides which files are pages:
those whose extension, in any case of letters, belongs to a format. Of several formats with an
extension the one registered last counts.
-/

namespace StaticSite

/-- A format of pages. -/
structure Format where
  /-- The name. -/
  name : String
  /-- The extensions of its files, in lower case. -/
  extensions : List String
  /-- The HTML of a body. -/
  convert : String → String

/-- Formats, the one registered last first. -/
structure Registry where
  /-- The formats. -/
  formats : List Format

namespace Registry

/-- The registry without formats. -/
def empty : Registry := ⟨[]⟩

/-- The registry with one more format. -/
def register (registry : Registry) (format : Format) : Registry := ⟨format :: registry.formats⟩

/-- The format of an extension. -/
def forExtension? (registry : Registry) (extension : String) : Option Format :=
  let lower := String.ofList (Text.lower extension.toList)
  registry.formats.find? fun format => format.extensions.contains lower

/-- The format of a file. -/
def forPath? (registry : Registry) (path : Path) : Option Format :=
  path.extension?.bind registry.forExtension?

/-- Whether a file is a page. -/
def isPage (registry : Registry) (path : Path) : Bool := (registry.forPath? path).isSome

end Registry

/-- HTML, which stays as it is. -/
def Format.html : Format := ⟨"html", ["html", "htm"], id⟩

end StaticSite
