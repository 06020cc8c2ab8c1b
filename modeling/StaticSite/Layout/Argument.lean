import StaticSite.Layout.Basic
import StaticSite.Text.Blank

/-!
# Values in layouts

How a value is written in a page, whether it counts as true, and how it is read as the argument of
a filter.
-/

namespace StaticSite.Layout

mutual

/-- The text of a value in a page. -/
def written : Value → List Char
  | .null => []
  | .bool b => (if b then "true" else "false").toList
  | .int n => Json.writeInt n
  | .float x => Decimal.write .page x
  | .text s => s.toList
  | .list items => '[' :: writtenItems items
  | .record _ => "[object]".toList

/-- The texts of the items of a list, up to and with its closing bracket. -/
def writtenItems : List Value → List Char
  | [] => [']']
  | [v] => written v ++ [']']
  | v :: rest => written v ++ ',' :: ' ' :: writtenItems rest

end

/-- Whether a value counts as true. -/
def isTruthy : Value → Bool
  | .null => false
  | .bool b => b
  | .int n => n != 0
  | .float x => x != 0.0
  | .text s => !s.isEmpty
  | .list items => !items.isEmpty
  | .record fields => !fields.isEmpty

/-- A number as a floating-point number. -/
def asFloat? : Value → Option Float
  | .int n => some (Float.ofInt n)
  | .float x => some x
  | _ => none

/-- Whether two values are equal; numbers are compared by size. -/
def sameValue (a b : Value) : Bool :=
  match asFloat? a, asFloat? b with
  | some x, some y => x == y
  | none, none => a == b
  | _, _ => false

namespace Filter

/-- The characters of a text. -/
def chars? : Value → Option (List Char)
  | .text s => some s.toList
  | _ => none

/-- The items of a list. -/
def items? : Value → Option (List Value)
  | .list items => some items
  | _ => none

/-- A number that is not negative. -/
def count? : Value → Option Nat
  | .int n => if n < 0 then none else some n.toNat
  | _ => none

/-- A truth value. -/
def flag? : Value → Option Bool
  | .bool b => some b
  | _ => none

/-- A pattern in which `\n` and `\t` stand for a line break and a tab. -/
def pattern? (v : Value) : Option (List Char) :=
  (chars? v).map fun text =>
    Text.replaceAll ['\\', 't'] ['\t'] (Text.replaceAll ['\\', 'n'] ['\n'] text)

/-- A value made of characters. -/
def ofChars (chars : List Char) : Value := .text (String.ofList chars)

/-- An argument that must be given. -/
def required? {α : Type} (args : Fields) (name : String) (read : Value → Option α) : Option α :=
  (args.get? name).bind read

/-- An argument with a usual value. -/
def optional? {α : Type} (args : Fields) (name : String) (read : Value → Option α) (usual : α) :
    Option α :=
  match args.get? name with
  | some v => read v
  | none => some usual

end Filter

end StaticSite.Layout
