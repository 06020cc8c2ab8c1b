import StaticSite.FileTree.Basic

/-!
# Access to files by paths

A path is followed from the root or from the current directory, name by name; every name but the
last must be that of a directory. A path that ends in a slash names a directory. The operations say
why they fail, and an operation that fails changes nothing.
-/

namespace StaticSite.FileTree

/-- Follows the fields of a path from a directory. The last name may be missing. -/
def follow (tree : FileTree) (directory : Place) : List (List Char) → Except FileFault Place
  | [] => .ok directory
  | field :: rest =>
    match field with
    | [] => follow tree directory rest
    | ['.'] => follow tree directory rest
    | ['.', '.'] => follow tree directory.dropLast rest
    | name =>
      let place := directory ++ [String.ofList name]
      if rest = [] then .ok place
      else
        match tree.get? place with
        | some .directory => follow tree place rest
        | some (.file _) => .error .notDirectory
        | none => .error .missing

/-- The place that a path names. -/
def locate (tree : FileTree) (path : Path) : Except FileFault Place :=
  match path.text.toList with
  | [] => .error .missing
  | '/' :: rest => follow tree [] (Text.splitOn '/' rest)
  | text => follow tree tree.current (Text.splitOn '/' text)

/-- What lies at a path, and its place. -/
def lookup (tree : FileTree) (path : Path) : Except FileFault (Place × Entry) :=
  match tree.locate path with
  | .error fault => .error fault
  | .ok place =>
    match tree.get? place with
    | some entry => .ok (place, entry)
    | none => .error .missing

/-- Whether anything lies at a path. -/
def hasEntry (tree : FileTree) (path : Path) : Bool := (tree.lookup path).isOk

/-- Whether a directory lies at a path. -/
def isDirectory (tree : FileTree) (path : Path) : Bool :=
  match tree.lookup path with
  | .ok (_, .directory) => true
  | _ => false

/-- Whether a file lies at a path. -/
def isFile (tree : FileTree) (path : Path) : Bool :=
  match tree.lookup path with
  | .ok (_, .file _) => true
  | _ => false

/-- The content of a file. -/
def read (tree : FileTree) (path : Path) : Except FileFault Content :=
  match tree.lookup path with
  | .error fault => .error fault
  | .ok (_, .directory) => .error .isDirectory
  | .ok (_, .file content) => .ok content

/-- The text of a file. -/
def readText (tree : FileTree) (path : Path) : Except FileFault String :=
  match tree.read path with
  | .error fault => .error fault
  | .ok (.text s) => .ok s
  | .ok (.binary _) => .error .notText

/-- The path of a place without `.`, `..` and repeated slashes, if anything lies there. -/
def canonical? (tree : FileTree) (path : Path) : Option Path :=
  match tree.lookup path with
  | .ok (place, _) => some (pathOf place)
  | .error _ => none

/-- The path itself, or where it cannot be found as it is written. -/
def canonicalOr (tree : FileTree) (path : Path) : Path := (tree.canonical? path).getD path

/-- The path from the root, with `.` and `..` resolved by the text alone. -/
def absolute (tree : FileTree) (path : Path) : Path :=
  if path.text.isEmpty then path else (tree.currentPath.join path).normalize

/-- The tree with a file written; what it held before is gone. -/
def write (tree : FileTree) (path : Path) (content : Content) : Except FileFault FileTree :=
  match tree.locate path with
  | .error fault => .error fault
  | .ok place =>
    if tree.get? place = some .directory then .error .isDirectory
    else if tree.get? place.dropLast = some .directory then .ok (tree.set place (.file content))
    else .error .missing

/-- The path without the slashes at its end. -/
def withoutEndSlashes (path : Path) : Path :=
  match (path.text.toList.reverse.dropWhile (· == '/')).reverse with
  | [] => if path.text.isEmpty then path else ⟨"/"⟩
  | text => ⟨String.ofList text⟩

/-- The tree with a directory made in a directory. -/
def makeDirectory (tree : FileTree) (path : Path) : Except FileFault FileTree :=
  match tree.locate (withoutEndSlashes path) with
  | .error fault => .error fault
  | .ok place =>
    if (tree.get? place).isSome then .error .alreadyExists
    else if tree.get? place.dropLast = some .directory then .ok (tree.set place .directory)
    else .error .missing

/-- Makes a directory and, first, the ones above it; the number bounds how many there are. A
failure keeps the directories that are made already. -/
def ensureWithin : (fuel : Nat) → FileTree → Path → FileTree × Option FileFault
  | 0, tree, _ => (tree, some .missing)
  | fuel + 1, tree, path =>
    if path.text.isEmpty then (tree, none)
    else
      match tree.makeDirectory path with
      | .ok tree => (tree, none)
      | .error fault =>
        if fault = .missing then
          match path.parent? with
          | none => (tree, some fault)
          | some parent =>
            match ensureWithin fuel tree parent with
            | (tree, some fault) => (tree, some fault)
            | (tree, none) =>
              match tree.makeDirectory path with
              | .ok tree => (tree, none)
              | .error fault => (tree, if tree.isDirectory path then none else some fault)
        else (tree, if tree.isDirectory path then none else some fault)

/-- Makes a directory and the ones above it. -/
def ensureDirectory (tree : FileTree) (path : Path) : FileTree × Option FileFault :=
  ensureWithin (path.components.length + 2) tree path

/-- The tree without a file. -/
def removeFile (tree : FileTree) (path : Path) : Except FileFault FileTree :=
  match tree.lookup path with
  | .error fault => .error fault
  | .ok (_, .directory) => .error .isDirectory
  | .ok (place, .file _) => .ok (tree.removeAt fun p => p == place)

/-- The tree without a directory and all below it. -/
def removeTree (tree : FileTree) (path : Path) : Except FileFault FileTree :=
  match tree.lookup path with
  | .error fault => .error fault
  | .ok (_, .file _) => .error .notDirectory
  | .ok (place, .directory) => .ok (tree.removeAt (isWithin place))

/-- The tree without all that lies below a directory. -/
def emptyDirectory (tree : FileTree) (path : Path) : Except FileFault FileTree :=
  match tree.lookup path with
  | .error fault => .error fault
  | .ok (_, .file _) => .error .notDirectory
  | .ok (place, .directory) => .ok (tree.removeAt (isBelow place))

/-- The names directly in a directory. -/
def list (tree : FileTree) (path : Path) : Except FileFault (List String) :=
  match tree.lookup path with
  | .error fault => .error fault
  | .ok (_, .file _) => .error .notDirectory
  | .ok (place, .directory) => .ok (tree.namesIn place)

/-- The tree with a copy of a file. -/
def copy (tree : FileTree) (source target : Path) : Except FileFault FileTree :=
  match tree.lookup source with
  | .error fault => .error fault
  | .ok (_, .directory) =>
    .error (.other "the source path is neither a regular file nor a symlink to a regular file")
  | .ok (_, .file content) => tree.write target content

end StaticSite.FileTree
