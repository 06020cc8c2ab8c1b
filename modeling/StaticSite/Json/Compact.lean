import StaticSite.Json.Value

/-!
# Compact text of values

The text of a value as a data file holds it, without spaces. Names and texts stand in quotes; only
quotes, backslashes and control characters are escaped. A number that is not finite has no such
text and is written as no value.
-/

namespace StaticSite.Json

private def hexNibble (n : Nat) : Char := (Nat.toDigits 16 n).headD '0'

/-- A character inside quotes. -/
def escapeChar (c : Char) : List Char :=
  if c = '"' then ['\\', '"']
  else if c = '\\' then ['\\', '\\']
  else if c = '\n' then ['\\', 'n']
  else if c = '\r' then ['\\', 'r']
  else if c = '\t' then ['\\', 't']
  else if c.toNat = 8 then ['\\', 'b']
  else if c.toNat = 12 then ['\\', 'f']
  else if c.toNat < 32 then
    ['\\', 'u', '0', '0', hexNibble (c.toNat / 16), hexNibble (c.toNat % 16)]
  else [c]

/-- A text in quotes. -/
def quote (s : String) : List Char := '"' :: s.toList.flatMap escapeChar ++ ['"']

/-- The decimal digits of an integer, with its sign. -/
def writeInt (n : Int) : List Char :=
  match n with
  | .ofNat m => Nat.toDigits 10 m
  | .negSucc m => '-' :: Nat.toDigits 10 (m + 1)

mutual

/-- The compact text of a value. -/
def compact : Value → List Char
  | .null => "null".toList
  | .bool b => (if b then "true" else "false").toList
  | .int n => writeInt n
  | .float x => if x.isFinite then Decimal.writeFinite .data x else "null".toList
  | .text s => quote s
  | .list items => '[' :: compactItems items
  | .record fields => '\x7b' :: compactFields fields

/-- The items of a list up to and with its closing bracket. -/
def compactItems : List Value → List Char
  | [] => [']']
  | [v] => compact v ++ [']']
  | v :: rest => compact v ++ ',' :: compactItems rest

/-- The fields of a record up to and with its closing brace. -/
def compactFields : List (String × Value) → List Char
  | [] => ['\x7d']
  | [(name, v)] => quote name ++ ':' :: compact v ++ ['\x7d']
  | (name, v) :: rest => quote name ++ ':' :: compact v ++ ',' :: compactFields rest

end

end StaticSite.Json

namespace StaticSite.Value

/-- The compact text of a value. -/
def toJson (v : Value) : String := String.ofList (Json.compact v)

/-- The text a value stands for inside a page: a text is itself, no value is empty, and any other
value is its compact text. -/
def display : Value → String
  | .text s => s
  | .null => ""
  | v => v.toJson

/-- The text of a value, unless that text is empty. -/
def nonemptyText? (v : Value) : Option String :=
  if v.display.isEmpty then none else some v.display

end StaticSite.Value
