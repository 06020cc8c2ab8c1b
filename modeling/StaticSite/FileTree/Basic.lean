import StaticSite.FileTree.Fault
import StaticSite.Path.Normal

/-!
# File trees

A file tree holds files and directories under the names that lead to them from the root, and knows
a current directory. `get?_set` and `get?_removeAt` say what is found after a change.
-/

namespace StaticSite

/-- The bytes of a file: a text, or bytes that are none. -/
inductive Content where
  /-- A text, in UTF-8. -/
  | text (s : String)
  /-- Bytes that are no UTF-8. -/
  | binary (bytes : List UInt8)
  deriving DecidableEq, Repr

/-- The content that some bytes are. -/
def Content.ofBytes (bytes : ByteArray) : Content :=
  match String.fromUTF8? bytes with
  | some s => .text s
  | none => .binary bytes.toList

/-- What lies at a place of a file tree. -/
inductive Entry where
  /-- A file. -/
  | file (content : Content)
  /-- A directory. -/
  | directory
  deriving DecidableEq, Repr

/-- The names that lead to a place from the root. -/
abbrev Place := List String

/-- Files and directories. -/
structure FileTree where
  /-- What lies at the places below the root. -/
  entries : List (Place × Entry)
  /-- The current directory. -/
  current : Place
  deriving Repr

namespace FileTree

/-- The entry at a place among some entries. -/
def find? (place : Place) : List (Place × Entry) → Option Entry
  | [] => none
  | (p, entry) :: rest => if p = place then some entry else find? place rest

/-- What lies at a place. -/
def get? (tree : FileTree) (place : Place) : Option Entry :=
  if place = [] then some .directory else find? place tree.entries

/-- The entries with an entry set at a place. -/
def put (place : Place) (entry : Entry) : List (Place × Entry) → List (Place × Entry)
  | [] => [(place, entry)]
  | (p, e) :: rest => if p = place then (place, entry) :: rest else (p, e) :: put place entry rest

/-- The tree with an entry set at a place. -/
def set (tree : FileTree) (place : Place) (entry : Entry) : FileTree :=
  { tree with entries := put place entry tree.entries }

/-- The tree without what lies at the places of a kind. -/
def removeAt (tree : FileTree) (gone : Place → Bool) : FileTree :=
  { tree with entries := tree.entries.filter fun e => !gone e.1 }

/-- Whether a place is another one or lies below it. -/
def isWithin (directory : Place) : Place → Bool := fun place => directory.isPrefixOf place

/-- Whether a place lies below another one. -/
def isBelow (directory : Place) : Place → Bool :=
  fun place => directory.isPrefixOf place && place != directory

theorem find?_put (place other : Place) (entry : Entry) (entries : List (Place × Entry)) :
    find? other (put place entry entries) =
      if place = other then some entry else find? other entries := by
  induction entries with
  | nil => simp [put, find?]
  | cons e rest ih =>
    obtain ⟨p, e⟩ := e
    by_cases hp : p = place
    · subst hp
      by_cases ho : p = other <;> simp [put, find?, ho]
    · by_cases ho : p = other
      · subst ho
        have hne : ¬ place = p := fun h => hp h.symm
        simp [put, find?, hp, hne]
      · simp [put, find?, hp, ho, ih]

/-- The entry set last is the one that is found. -/
theorem get?_set (tree : FileTree) {place : Place} (other : Place) (entry : Entry)
    (h : place ≠ []) :
    (tree.set place entry).get? other = if place = other then some entry else tree.get? other := by
  by_cases ho : other = []
  · subst ho
    simp [get?, h]
  · simp [get?, set, ho, find?_put]

/-- What is removed is not found, and all else is found as before. -/
theorem get?_removeAt (tree : FileTree) (gone : Place → Bool) {place : Place} (h : place ≠ []) :
    (tree.removeAt gone).get? place = if gone place then none else tree.get? place := by
  simp only [get?, h, if_false, removeAt]
  induction tree.entries with
  | nil => simp [find?]
  | cons e rest ih =>
    obtain ⟨p, e⟩ := e
    by_cases hg : gone p
    · by_cases hp : p = place
      · subst hp
        simp [hg, ih]
      · simp [hg, hp, find?, ih]
    · by_cases hp : p = place
      · subst hp
        simp [hg, find?]
      · simp [hg, hp, find?, ih]

/-- The names directly in a directory. -/
def namesIn (tree : FileTree) (directory : Place) : List String :=
  tree.entries.filterMap fun (place, _) =>
    if directory.isPrefixOf place then
      match place.drop directory.length with
      | [name] => some name
      | _ => none
    else none

/-- The entries below a directory, by the names that lead to them from there. -/
def below (tree : FileTree) (directory : Place) : List (Place × Entry) :=
  tree.entries.filterMap fun (place, entry) =>
    if isBelow directory place then some (place.drop directory.length, entry) else none

/-- The path of a place. -/
def pathOf (place : Place) : Path := ⟨"/" ++ String.intercalate "/" place⟩

/-- The path of the current directory. -/
def currentPath (tree : FileTree) : Path := pathOf tree.current

end FileTree

end StaticSite
