import StaticSite.Json.Indented
import StaticSite.Layout.ListFilter
import StaticSite.Layout.Moment
import StaticSite.Layout.TextFilter

/-!
# Filters of layouts

A filter makes a value of another one and of named arguments. It is refused when the value or an
argument is not of the kind that it asks for. This module holds the filters of numbers and those of
values of several kinds.
-/

namespace StaticSite.Layout

namespace Filter

/-- A float rounded to a number of places by a rule. -/
def rounded? (rule : String) (places : Nat) (x : Float) : Option Float :=
  let scale := Float.ofNat (Nat.pow 10 places)
  match rule with
  | "common" => some ((x * scale).round / scale)
  | "ceil" => some ((x * scale).ceil / scale)
  | "floor" => some ((x * scale).floor / scale)
  | _ => none

/-- The value of a text as a whole number of 64 bits. -/
def readInt? (base : Nat) (text : List Char) : Option Int :=
  let digit? (c : Char) : Option Nat :=
    (if c.isDigit then some (c.toNat - '0'.toNat)
      else if c.isAlpha then some (c.toLower.toNat - 'a'.toNat + 10)
      else none).filter (· < base)
  let magnitude? := Text.readDigits? digit? base
  let number? : Option Int :=
    match text with
    | '-' :: digits => (magnitude? digits).map fun n => -(n : Int)
    | '+' :: digits => (magnitude? digits).map fun n => (n : Int)
    | digits => (magnitude? digits).map fun n => (n : Int)
  number?.filter fun n => -9223372036854775808 ≤ n && n ≤ 9223372036854775807

/-- The text without the marks of a base at its front. -/
def withoutBase (base : Nat) (text : List Char) : List Char :=
  match base with
  | 2 => withoutFront ['0', 'b'] text.length text
  | 8 => withoutFront ['0', 'o'] text.length text
  | 16 => withoutFront ['0', 'x'] text.length text
  | _ => text

/-- A value as a whole number; a text with a point is cut. -/
def toInt? (usual : Int) (base : Nat) : Value → Option Value
  | .int n => some (.int n)
  | .float x => some (.int x.toInt64.toInt)
  | .text s =>
    let text := withoutBase base (Text.trim s.toList)
    match readInt? base text, Decimal.readFloat? text with
    | some n, _ => some (.int n)
    | none, some x => some (.int (if text.contains '.' then x.toInt64.toInt else usual))
    | none, none => some (.int usual)
  | _ => none

/-- The units of sizes of files, each a thousand and twenty-four times the one before it. -/
def sizeUnits (binary : Bool) : List String :=
  if binary then ["B", "KiB", "MiB", "GiB", "TiB", "PiB", "EiB"]
  else ["B", "kB", "MB", "GB", "TB", "PB", "EB"]

/-- The text of a size in the largest unit of which it has at least one. -/
def sizeIn (units : List String) (x : Float) : List Char :=
  match units with
  | unit :: next :: rest =>
    if x.abs ≥ 1024.0 then sizeIn (next :: rest) (x / 1024.0) else number x ++ ' ' :: unit.toList
  | [unit] => number x ++ ' ' :: unit.toList
  | [] => number x
where
  /-- The number with two places, or none if it is whole. -/
  number (x : Float) : List Char :=
    if x.floor == x then Decimal.write .page x
    else
      let hundredths := (x.abs * 100.0).round.toUInt64.toNat
      (if x < 0 then ['-'] else []) ++ Nat.toDigits 10 (hundredths / 100) ++ '.' ::
        Moment.padded '0' 2 (hundredths % 100)

/-- The value after a filter; `none` if it is refused. -/
def result? (name : String) (args : Fields) (v : Value) : Option Value := do
  match name, v with
  | "length", .list items => return .int items.length
  | "length", .record fields => return .int fields.length
  | "length", .text s => return .int s.length
  | "reverse", .list items => return .list items.reverse
  | "reverse", .text s => return ofChars s.toList.reverse
  | "int", v =>
    let usual (v : Value) : Option Int :=
      match v with
      | .int n => some n
      | _ => none
    toInt? (← optional? args "default" usual 0) (← optional? args "base" count? 10) v
  | "float", v =>
    let usual ← optional? args "default" asFloat? 0.0
    match v with
    | .text s => return .float ((Decimal.readFloat? (Text.trim s.toList)).getD usual)
    | v => (asFloat? v).map .float
  | "abs", .int n => return .int n.natAbs
  | "abs", .float x => return .float x.abs
  | "round", v =>
    let rule ← optional? args "method" chars? "common".toList
    let places ← optional? args "precision" count? 0
    (rounded? (String.ofList rule) places (← asFloat? v)).map .float
  | "pluralize", v =>
    let one ← optional? args "singular" chars? []
    let many ← optional? args "plural" chars? ['s']
    let x ← asFloat? v
    return ofChars (if x.abs == 1.0 then one else many)
  | "filesizeformat", .int n =>
    let binary ← optional? args "binary" flag? false
    return ofChars (sizeIn (sizeUnits binary) (Float.ofInt n))
  | "date", v =>
    let pattern ← optional? args "format" chars? "%Y-%m-%d".toList
    let moment ←
      match v with
      | .int n => some (Moment.ofSeconds n)
      | .text s => Moment.read? s.toList
      | _ => none
    (moment.write? pattern).map ofChars
  | "json_encode", v =>
    let spread := args.get? "pretty" == some (.bool true)
    return .text (if spread then v.toIndentedJson else v.toJson)
  | "as_str", v => return ofChars (written v)
  | "get", .record fields =>
    let key ← required? args "key" chars?
    match Fields.get? fields (String.ofList key) with
    | some v => return v
    | none => args.get? "default"
  | name, .text s => applyToText? name args s.toList
  | name, .list items => applyToList? name args items
  | _, _ => failure

/-- The names of all filters. -/
def names : List String :=
  ["upper", "lower", "trim", "trim_start", "trim_end", "trim_start_matches", "trim_end_matches",
    "truncate", "wordcount", "replace", "capitalize", "title", "linebreaksbr", "indent",
    "striptags", "spaceless", "addslashes", "escape", "escape_xml", "urlencode",
    "urlencode_strict", "slugify", "split", "first", "last", "nth", "join", "sort", "unique", "slice",
    "group_by", "filter", "map", "concat", "length", "reverse", "int", "float", "abs", "round",
    "pluralize", "filesizeformat", "date", "json_encode", "as_str", "get", "safe", "default"]

end Filter

end StaticSite.Layout
