import StaticSite.Compose
import StaticSite.Renderer

/-!
# Errors of builds

An error either ends the whole build or concerns a single file, which is then left out.
-/

namespace StaticSite

/-- A directory that holds sources. -/
inductive SourceKind where
  /-- Templates. -/
  | template
  /-- Content. -/
  | content
  deriving DecidableEq, Repr

/-- The name of a kind. -/
def SourceKind.name : SourceKind → String
  | .template => "template"
  | .content => "content"

/-- Why a build, or the build of a file, failed. -/
inductive BuildError where
  /-- A source directory is missing. -/
  | missingDirectory (kind : SourceKind) (path : Path)
  /-- The output directory and a source directory hold each other. -/
  | unsafeOutput (output : Path) (kind : SourceKind) (other : Path)
  /-- A template or a page could not be composed. -/
  | compose (location : Location) (error : ComposeError)
  /-- A page or the layout could not be rendered. -/
  | render (path : Path) (error : RenderError)
  /-- A file or a directory could not be read. -/
  | read (path : Path) (fault : FileFault)
  /-- A file could not be written. -/
  | write (path : Path) (fault : FileFault)
  /-- Another operation on files failed. -/
  | io (fault : FileFault)
  deriving DecidableEq, Repr

namespace BuildError

/-- The text of an error. -/
def message : BuildError → String
  | .missingDirectory kind path => kind.name ++ " directory not found: " ++ path.text
  | .unsafeOutput output kind other =>
    "output directory " ++ output.text ++ " overlaps the " ++ kind.name ++ " directory "
      ++ other.text
  | .compose location error => "failed to compose " ++ location.display ++ ": " ++ error.message
  | .render path error => "failed to render " ++ path.text ++ ": " ++ error.message
  | .read path fault => "failed to read " ++ path.text ++ ": " ++ fault.message
  | .write path fault => "failed to write " ++ path.text ++ ": " ++ fault.message
  | .io fault => "IO error: " ++ fault.message

/-- Whether the error ends the whole build. -/
def isFatal : BuildError → Bool
  | .compose _ error => error.isFatal
  | .render .. => false
  | .read .. => false
  | .write .. => false
  | _ => true

end BuildError

end StaticSite
