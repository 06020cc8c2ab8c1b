import StaticSite.Layout.Basic
import StaticSite.Text.Blank

/-!
# Variables of layouts

While a layout is rendered, a variable is looked up in the loops around the place, then among what
the layout has set, then among the values of the page. Work with variables may fail, and a variable
without a value is the most frequent cause.
-/

namespace StaticSite.Layout

/-- Why a layout could not be rendered. -/
inductive Fault where
  /-- A variable has no value. -/
  | undefined (name : String)
  /-- There is no filter of the name. -/
  | unknownFilter (name : String)
  /-- A value is not of the kind that is asked for. -/
  | mismatch
  deriving DecidableEq, Repr

/-- The text of a fault. -/
def Fault.message : Fault → String
  | .undefined name =>
    "Failed to render '__layout__': Variable \x60" ++ name
      ++ "\x60 not found in context while rendering '__layout__'"
  | .unknownFilter name => "Failed to render '__layout__': Filter '" ++ name ++ "' not found"
  | .mismatch => "Failed to render '__layout__'"

/-- The variables at a place of a layout. -/
structure Scopes where
  /-- The variables of the loops around the place, of the innermost loop first. -/
  loops : List Fields
  /-- The variables that the layout sets outside of loops. -/
  own : Fields
  /-- The values of the page. -/
  page : Fields

/-- Works with variables, or fails. -/
abbrev Eval := StateT Scopes (Except Fault)

namespace Eval

/-- Fails. -/
def fail {α : Type} (fault : Fault) : Eval α := fun _ => .error fault

/-- The result of a part that may fail; what it did to the variables is kept only if it
succeeds. -/
def attempt {α : Type} (part : Eval α) : Eval (Option α) := fun scopes =>
  match part scopes with
  | .ok (a, scopes) => .ok (some a, scopes)
  | .error _ => .ok (none, scopes)

/-- A value that must be there. -/
def demand {α : Type} (a : Option α) : Eval α :=
  match a with
  | some a => return a
  | none => fail .mismatch

end Eval

/-- The part of a value of a name, or of a number in a list. -/
def partOf? (v : Value) (name : String) : Option Value :=
  match v with
  | .record fields => Fields.get? fields name
  | .list items => (Text.readNat? name.toList).bind fun i => items[i]?
  | _ => none

/-- The value of a variable in the innermost scope that has it. -/
def Scopes.get? (scopes : Scopes) (name : String) : Option Value :=
  (scopes.loops ++ [scopes.own, scopes.page]).findSome? fun scope => scope.get? name

/-- Sets a variable in the innermost scope, or for the rest of the layout. -/
def Scopes.assign (scopes : Scopes) (everywhere : Bool) (name : String) (v : Value) : Scopes :=
  match everywhere, scopes.loops with
  | false, inner :: outer => { scopes with loops := inner.insert name v :: outer }
  | _, _ => { scopes with own := scopes.own.insert name v }

/-- The name that a value is as a step: a text, or a number written out. -/
def stepName? : Option Value → Option String
  | some (.text key) => some key
  | some (.int n) => some (String.ofList (Json.writeInt n))
  | _ => none

mutual

/-- The value at the end of some steps. -/
def follow? (scopes : Scopes) (v : Value) : List Access → Option Value
  | [] => some v
  | .name name :: rest => (partOf? v name).bind fun v => follow? scopes v rest
  | .variable path :: rest =>
    (stepName? (lookupPath? scopes path)).bind fun key =>
      (partOf? v key).bind fun v => follow? scopes v rest

/-- The value of a variable and the steps to a part of it. -/
def lookupPath? (scopes : Scopes) : List Access → Option Value
  | .name first :: rest => (scopes.get? first).bind fun v => follow? scopes v rest
  | _ => none

end

mutual

/-- The text of a step. -/
def Access.write : Access → String
  | .name text => "." ++ text
  | .variable path => "[" ++ writePath path ++ "]"

/-- The text of a variable and its steps, with a dot before each name. -/
def writePath : List Access → String
  | [] => ""
  | a :: rest => a.write ++ writePath rest

end

/-- The name by which a variable is reported. -/
def pathName (path : List Access) : String := String.ofList ((writePath path).toList.drop 1)

/-- The value of a variable. -/
def lookup (path : List Access) : Eval Value := do
  match lookupPath? (← get) path with
  | some v => return v
  | none => Eval.fail (.undefined (pathName path))

end StaticSite.Layout
