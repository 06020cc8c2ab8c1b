import StaticSite.Text.Blank

/-!
# Paths of files

A path is a text whose parts are separated by slashes. Its components are the root, names, `..`
and, only at the front, `.`; repeated slashes, slashes at the end and `.` elsewhere are no
components. Two paths name the same place when their components agree, whatever their texts.
-/

namespace StaticSite

/-- The path of a file or a directory, as written. -/
structure Path where
  /-- The path as written. -/
  text : String
  deriving DecidableEq, Repr, Inhabited, Hashable

/-- A component of a path. -/
inductive Component where
  /-- The root directory. -/
  | root
  /-- The current directory. -/
  | current
  /-- The directory above. -/
  | parent
  /-- A name. -/
  | normal (name : String)
  deriving DecidableEq, Repr, Inhabited

namespace Component

/-- The text of a component. -/
def text : Component → String
  | .root => "/"
  | .current => "."
  | .parent => ".."
  | .normal name => name

/-- The rank of the kind of a component: the root comes first, names come last. -/
def rank : Component → Nat
  | .root => 0
  | .current => 1
  | .parent => 2
  | .normal _ => 3

/-- Components are ordered by kind, and names by their code points. -/
def precedes : Component → Component → Bool
  | .normal a, .normal b => a < b
  | a, b => a.rank < b.rank

end Component

namespace Path

/-- A component with the positions of its first character and of the character after it. -/
structure Part where
  /-- The component. -/
  component : Component
  /-- The position of its first character. -/
  start : Nat
  /-- The position after its last character. -/
  stop : Nat
  deriving Repr

/-- The parts among the fields between slashes, the first of which begins at a position. -/
def partsFrom (position : Nat) : List (List Char) → List Part
  | [] => []
  | field :: fields =>
    let stop := position + field.length
    let rest := partsFrom (stop + 1) fields
    match field with
    | [] => rest
    | ['.'] => rest
    | ['.', '.'] => ⟨.parent, position, stop⟩ :: rest
    | name => ⟨.normal (String.ofList name), position, stop⟩ :: rest

/-- The parts of a path. -/
def parts (path : Path) : List Part :=
  match Text.splitOn '/' path.text.toList with
  | [] => []
  | [[]] => []
  | [] :: fields => ⟨.root, 0, 1⟩ :: partsFrom 1 fields
  | ['.'] :: fields => ⟨.current, 0, 1⟩ :: partsFrom 2 fields
  | fields => partsFrom 0 fields

/-- The components of a path. -/
def components (path : Path) : List Component := path.parts.map Part.component

/-- Whether two paths have the same components. -/
def same (a b : Path) : Bool := a.components = b.components

/-- The characters of the path between two positions. -/
def slice (path : Path) (start stop : Nat) : Path :=
  ⟨String.ofList ((path.text.toList.take stop).drop start)⟩

/-- Whether the path begins at the root. -/
def isAbsolute (path : Path) : Bool :=
  match path.text.toList with
  | c :: _ => c == '/'
  | [] => false

/-- The path without its last component; the root and the empty path have none. -/
def parent? (path : Path) : Option Path :=
  match path.parts.reverse with
  | [] => none
  | last :: before =>
    if last.component = .root then none
    else
      match before with
      | [] => some ⟨""⟩
      | previous :: _ => some (path.slice 0 previous.stop)

/-- The last component, if it is a name. -/
def fileName? (path : Path) : Option String :=
  match path.components.getLast? with
  | some (.normal name) => some name
  | _ => none

/-- The part of a file name before its last dot and the part after it; a dot at the front does not
count. -/
def splitName (name : List Char) : List Char × Option (List Char) :=
  match Text.breakOnLast? ['.'] name with
  | some (stem, extension) => if stem.isEmpty then (name, none) else (stem, some extension)
  | none => (name, none)

/-- The extension of the file name. -/
def extension? (path : Path) : Option String :=
  match path.fileName? with
  | none => none
  | some name => (splitName name.toList).2.map String.ofList

/-- The path with a new extension in the place of the old one; a path without a file name is
kept. -/
def setExtension (path : Path) (extension : String) : Path :=
  match path.parts.getLast? with
  | some ⟨.normal name, start, _⟩ =>
    let stem := (splitName name.toList).1
    ⟨String.ofList (path.text.toList.take (start + stem.length)) ++ "." ++ extension⟩
  | _ => path

/-- The path with a new extension. As many characters as the old extension has are taken off the
end before the new one is set, so a name left without a stem stays as it is. -/
def withExtension (path : Path) (extension : String) : Path :=
  let chars := path.text.toList
  match path.extension? with
  | none => path.setExtension extension
  | some old =>
    Path.setExtension ⟨String.ofList (chars.take (chars.length - old.length))⟩ extension

/-- A path under a directory; an absolute path stays as it is. -/
def join (directory path : Path) : Path :=
  if path.isAbsolute then path
  else
    match directory.text.toList.getLast? with
    | none => path
    | some '/' => ⟨directory.text ++ path.text⟩
    | some _ => ⟨directory.text ++ "/" ++ path.text⟩

/-- Whether the first list begins with the second. -/
def beginsWith : List Component → List Component → Bool
  | _, [] => true
  | [], _ :: _ => false
  | a :: as, b :: bs => a == b && beginsWith as bs

/-- Whether the path is a directory or lies under it, component by component. -/
def startsWith (path directory : Path) : Bool :=
  beginsWith path.components directory.components

/-- The path relative to a directory it lies under. -/
def relativeTo? (path directory : Path) : Option Path :=
  if path.startsWith directory then
    match path.parts.drop directory.components.length with
    | [] => some ⟨""⟩
    | first :: rest => some (path.slice first.start ((first :: rest).getLastD first).stop)
  else none

/-- The place of a file under one directory in a copy of that directory. -/
def rebase? (path source target : Path) : Option Path :=
  (path.relativeTo? source).map target.join

/-- The order of components decides the order of paths. -/
def componentsPrecede : List Component → List Component → Bool
  | [], [] => false
  | [], _ :: _ => true
  | _ :: _, [] => false
  | a :: as, b :: bs => a.precedes b || (a == b && componentsPrecede as bs)

/-- Whether a path comes before another. -/
def precedes (a b : Path) : Bool := componentsPrecede a.components b.components

/-- The components with slashes between them, as in the path of a URL. -/
def urlPath (path : Path) : String :=
  String.intercalate "/" (path.components.map Component.text)

/-- Whether a name marks a hidden file. -/
def isHiddenName (name : String) : Bool := name.toList.head? == some '.'

end Path

end StaticSite
