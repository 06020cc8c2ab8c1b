import StaticSite.FileTree.Access
import StaticSite.Metadata
import StaticSite.Path.Site
import StaticSite.Site.Error

/-!
# Content of a site

The files under the directory of content, without hidden ones, in the order of their paths; and the
metadata that goes with a page.
-/

namespace StaticSite

/-- The paths in their order; of paths with the same components the first one stays first. -/
def Path.sorted (paths : List Path) : List Path := paths.mergeSort fun a b => !b.precedes a

namespace FileTree

mutual

/-- The files under a directory, or the first directory that cannot be read; the number bounds the
depth. -/
def walk (tree : FileTree) : (depth : Nat) → Path → Except BuildError (List Path)
  | 0, directory => .error (.read directory .missing)
  | depth + 1, directory =>
    match tree.list directory with
    | .error fault => .error (.read directory fault)
    | .ok names => walkNames tree depth directory names

/-- The files under the entries of a directory. -/
def walkNames (tree : FileTree) (depth : Nat) (directory : Path) :
    List String → Except BuildError (List Path)
  | [] => .ok []
  | name :: rest =>
    if Path.isHiddenName name then walkNames tree depth directory rest
    else
      let path := directory.join ⟨name⟩
      let here := if tree.isDirectory path then walk tree depth path else .ok [path]
      match here with
      | .error e => .error e
      | .ok files =>
        match walkNames tree depth directory rest with
        | .error e => .error e
        | .ok more => .ok (files ++ more)

end

/-- The greatest depth of a tree. -/
def depth (tree : FileTree) : Nat := tree.entries.foldl (fun d e => max d e.1.length) 0

/-- The files under a directory in the order of their paths, without hidden files and
directories. -/
def contentFiles (tree : FileTree) (directory : Path) : Except BuildError (List Path) :=
  (tree.walk (tree.depth + 1) directory).map Path.sorted

/-- The metadata of a page. A missing, unreadable or malformed file holds none. -/
def metadataOf (tree : FileTree) (page : Path) (fileName : String) : Metadata :=
  match tree.readText (page.metadataFile fileName) with
  | .error _ => .empty
  | .ok text =>
    match Metadata.ofYaml text with
    | .ok metadata => metadata
    | .error _ => .empty

/-- The text at a location, in one attempt. -/
def attempt (tree : FileTree) (location : Location) : Except FetchError String :=
  match location with
  | .file path =>
    match tree.readText path with
    | .ok text => .ok text
    | .error fault => .error (.io location.display fault)
  | .remote _ => .error (.unreachable location.display)

/-- The templates in the files of a tree. Where a fetch comes to nothing, the error of its attempts
stands for that. -/
def source (tree : FileTree) (retries : Nat) : Source :=
  fun location =>
    let attempt := tree.attempt location
    (Fetch.fetch retries location fun _ => attempt).result?.getD attempt

end FileTree

end StaticSite
