import StaticSite.Path.Normal
import StaticSite.Url.Reader

/-!
# Locations of templates

A template lies in a file or at a web address. References found in a template are resolved against
the directory of that template; a reference that begins with a slash is rooted at the directory of
templates, not at the root of the file system.
-/

namespace StaticSite

/-- Where a template lies. -/
inductive Location where
  /-- A file. -/
  | file (path : Path)
  /-- A web address. -/
  | remote (url : Url)
  deriving DecidableEq, Repr

namespace Location

/-- The web address a text stands for: the text begins with `http://` or `https://` and is a
URL. -/
def remoteUrl? (text : String) : Option Url :=
  if Text.startsWith "http://".toList text.toList || Text.startsWith "https://".toList text.toList
  then Url.read? text
  else none

/-- The location a text stands for. -/
def ofText (text : String) : Location :=
  match remoteUrl? text with
  | some url => .remote url
  | none => .file ⟨text⟩

/-- The text of a location. -/
def display : Location → String
  | .file path => path.text
  | .remote url => url.write

/-- The directory that holds a location. A web address keeps its last slash. -/
def parent : Location → Location
  | .file path => .file (path.parent?.getD ⟨""⟩)
  | .remote url => .remote ((Url.join? url "./").getD url)

/-- The location by which visits are told apart: a file has its normal path. -/
def canonical : Location → Location
  | .file path => .file path.normalize
  | .remote url => .remote url

/-- The path a reference names in a directory, before it is brought into normal form. -/
def referredPath (root directory : Path) (reference : String) : Path :=
  match reference.toList with
  | '/' :: rooted => root.join ⟨String.ofList rooted⟩
  | _ => directory.join ⟨reference⟩

/-- The location a reference names in a directory, with `root` as the directory of templates. -/
def resolve (root : Path) (directory : Location) (reference : String) : Location :=
  match directory with
  | .remote url =>
    match Url.join? url reference with
    | some url => .remote url
    | none => ofText reference
  | .file path =>
    match remoteUrl? reference with
    | some url => .remote url
    | none => .file (referredPath root path reference).normalize

/-- The location of a template: a file without an extension is an HTML file. -/
def resolveTemplate (root : Path) (directory : Location) (reference : String) : Location :=
  match resolve root directory reference with
  | .file path =>
    match path.extension? with
    | none => .file (path.withExtension "html")
    | some _ => .file path
  | .remote url => .remote url

end Location

end StaticSite
