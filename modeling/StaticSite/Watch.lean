import StaticSite.Change
import StaticSite.FileTree.Access
import StaticSite.Format

/-!
# Watching files

A path at which something happened is classified by where it lies: the configuration, the
directory of templates or the directory of content. Hidden files and directories of content do not
count.
-/

namespace StaticSite

/-- What is watched. -/
structure Watched where
  /-- The directory of content. -/
  content : Path
  /-- The directory of templates. -/
  templates : Path
  /-- The configuration file. -/
  config : Path
  /-- The name of metadata files. -/
  metadataFile : String
  /-- The formats that decide which files are pages. -/
  registry : Registry

/-- Something that happened at a path. -/
structure FileEvent where
  /-- The path. -/
  path : Path
  /-- Whether the file was deleted. -/
  deleted : Bool
  deriving DecidableEq, Repr

namespace Watched

/-- Whether a component begins with a dot. -/
def isHidden (relative : Path) : Bool :=
  relative.components.any fun c => Path.isHiddenName c.text

/-- The change that an event means, if it means any. -/
def classify (watched : Watched) (tree : FileTree) (event : FileEvent) : Option Change :=
  let path := event.path
  if path.same watched.config then some .config
  else
    match path.relativeTo? watched.templates with
    | some relative => if isHidden relative then none else some (.template path)
    | none =>
      match path.relativeTo? watched.content with
      | none => none
      | some relative =>
        if isHidden relative || (!event.deleted && tree.isDirectory path) then none
        else if path.fileName? = some watched.metadataFile then some (.metadata path)
        else if watched.registry.isPage path then some (.page path event.deleted)
        else some (.asset path event.deleted)

end Watched

end StaticSite
