import StaticSite.Path.Basic

/-!
# Changes and rebuilds

A batch of changes to files asks for a rebuild: of everything, or of single files. Of several
changes that concern the same target only the last one counts, in its place in the order.
-/

namespace StaticSite

/-- A change to a file. -/
inductive Change where
  /-- A page was written or deleted. -/
  | page (path : Path) (deleted : Bool)
  /-- A metadata file was written or deleted. -/
  | metadata (path : Path)
  /-- Another content file was written or deleted. -/
  | asset (path : Path) (deleted : Bool)
  /-- A template was written or deleted. -/
  | template (path : Path)
  /-- The configuration was written or deleted. -/
  | config
  deriving DecidableEq, Repr

/-- A piece of work of a rebuild. -/
inductive Task where
  /-- Build a page. -/
  | page (path : Path)
  /-- Build the pages directly in a directory. -/
  | directory (path : Path)
  /-- Copy a file. -/
  | asset (path : Path)
  /-- Delete what was made of a file. -/
  | remove (path : Path)
  deriving DecidableEq, Repr

namespace Task

/-- The file or the directory that a task is about. -/
def path : Task → Path
  | .page path => path
  | .directory path => path
  | .asset path => path
  | .remove path => path

/-- Whether a task is about the pages of a directory. -/
def isDirectory : Task → Bool
  | .directory _ => true
  | _ => false

/-- Whether two tasks are about the same file, or about the pages of the same directory. -/
def sameTarget (a b : Task) : Bool := a.isDirectory == b.isDirectory && a.path.same b.path

end Task

/-- What a batch of changes asks for. -/
inductive Scope where
  /-- Work on single files, in order. -/
  | files (tasks : List Task)
  /-- A build of everything. -/
  | full
  /-- A build of everything with the configuration read again. -/
  | config
  deriving DecidableEq, Repr

namespace Change

/-- The task of a change to content. -/
def task? : Change → Option Task
  | .page path deleted => some (if deleted then .remove path else .page path)
  | .asset path deleted => some (if deleted then .remove path else .asset path)
  | .metadata path => some (.directory (path.parent?.getD ⟨""⟩))
  | .template _ => none
  | .config => none

/-- The tasks with one more, which takes the place of an earlier one with the same target. -/
def addTask (tasks : List Task) (task : Task) : List Task :=
  tasks.filter (fun earlier => !earlier.sameTarget task) ++ [task]

/-- The tasks of a batch. -/
def tasks (changes : List Change) : List Task := (changes.filterMap task?).foldl addTask []

end Change

/-- What a batch of changes asks for. -/
def Scope.ofChanges (changes : List Change) : Scope :=
  if changes.any (· == .config) then .config
  else if changes.any fun change =>
      match change with
      | .template _ => true
      | _ => false
    then .full
  else .files (Change.tasks changes)

/-- Whether there is nothing to do. -/
def Scope.isEmpty : Scope → Bool
  | .files [] => true
  | _ => false

end StaticSite
