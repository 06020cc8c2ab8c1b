import StaticSite.Json.Compact

/-!
# Indented text of values

The text of a value on lines of their own for the items of lists and the fields of records, each
level two spaces further in. Empty lists and records stay on their line.
-/

namespace StaticSite.Json

/-- The start of a line at a depth. -/
private def lineAt (depth : Nat) : List Char := '\n' :: List.replicate (2 * depth) ' '

mutual

/-- The indented text of a value at a depth. -/
def indentedAt (depth : Nat) : Value → List Char
  | .list (v :: rest) => '[' :: indentedItems depth (v :: rest)
  | .record (field :: rest) => '\x7b' :: indentedFields depth (field :: rest)
  | v => compact v

/-- The items of a list up to and with its closing bracket. -/
def indentedItems (depth : Nat) : List Value → List Char
  | [] => [']']
  | [v] => lineAt (depth + 1) ++ indentedAt (depth + 1) v ++ lineAt depth ++ [']']
  | v :: rest =>
    lineAt (depth + 1) ++ indentedAt (depth + 1) v ++ ',' :: indentedItems depth rest

/-- The fields of a record up to and with its closing brace. -/
def indentedFields (depth : Nat) : List (String × Value) → List Char
  | [] => ['\x7d']
  | [(name, v)] =>
    lineAt (depth + 1) ++ quote name ++ ':' :: ' ' :: indentedAt (depth + 1) v ++ lineAt depth
      ++ ['\x7d']
  | (name, v) :: rest =>
    lineAt (depth + 1) ++ quote name ++ ':' :: ' ' :: indentedAt (depth + 1) v
      ++ ',' :: indentedFields depth rest

end

end StaticSite.Json

/-- The indented text of a value. -/
def StaticSite.Value.toIndentedJson (v : Value) : String :=
  String.ofList (StaticSite.Json.indentedAt 0 v)
