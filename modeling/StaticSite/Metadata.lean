import StaticSite.Json.Compact
import StaticSite.Yaml.Datum

/-!
# Metadata of pages

The metadata of the pages in a directory is a mapping of names to values. It becomes a record in
which names are texts: a truth value or a number as a name is written out, and a tagged value
becomes a record with the tag as its only name.
-/

namespace StaticSite

namespace Yaml.Datum

/-- The text of a datum that may stand as a name. -/
def name? : Datum → Option String
  | .bool b => some (if b then "true" else "false")
  | .int n => some (String.ofList (Json.writeInt n))
  | .float x => if x.isFinite then some (String.ofList (Decimal.writeFinite .data x)) else none
  | .text s => some s
  | _ => none

mutual

/-- The value of a datum; `none` if a name in it is no text, truth value or number. -/
def toValue? : Datum → Option Value
  | .null => some .null
  | .bool b => some (.bool b)
  | .int n => some (.int n)
  | .float x => some (if x.isFinite then .float x else .null)
  | .text s => some (.text s)
  | .sequence items => (toValues? items).map .list
  | .mapping entries => (toFields? [] entries).map .record
  | .tagged tag datum => (toValue? datum).map fun v => .record [(tagName tag, v)]

/-- The values of data. -/
def toValues? : List Datum → Option (List Value)
  | [] => some []
  | datum :: rest => do return (← toValue? datum) :: (← toValues? rest)

/-- The fields of entries, after the ones given. -/
def toFields? (fields : Fields) : List (Datum × Datum) → Option Fields
  | [] => some fields
  | (key, value) :: rest => do
    let name ← name? key
    let v ← toValue? value
    toFields? (fields.insert name v) rest

end

end Yaml.Datum

/-- Why a text is no metadata. -/
inductive MetadataError where
  /-- The text is malformed. -/
  | malformed
  /-- The document is no mapping. -/
  | notMapping
  /-- A name is no text, truth value or number. -/
  | badName
  deriving DecidableEq, Repr

/-- The text of an error, where it does not hang on the place in the file. -/
def MetadataError.message : MetadataError → String
  | .malformed => "invalid YAML"
  | .notMapping => "metadata must be a mapping of keys to values"
  | .badName => "unsupported metadata value"

/-- Metadata of pages. -/
structure Metadata where
  /-- The values under their names. -/
  values : Fields
  deriving Repr

namespace Metadata

/-- No metadata. -/
def empty : Metadata := ⟨[]⟩

/-- The text of a value, unless it is empty. -/
def text? (metadata : Metadata) (name : String) : Option String :=
  (metadata.values.get? name).bind Value.nonemptyText?

/-- The title. -/
def title? (metadata : Metadata) : Option String := metadata.text? "title"

/-- The path of the script of a page. -/
def scriptPath? (metadata : Metadata) : Option String := metadata.text? "pageJsPath"

/-- The list of what browsers may load ahead; a single value is a list of one. -/
def prefetch? (metadata : Metadata) : Option (List Value) :=
  match metadata.values.get? "prefetch" with
  | none => none
  | some .null => none
  | some (.list items) => some items
  | some v => some [v]

/-- The metadata in a text; a text without a value holds none. -/
def ofYaml (text : String) : Except MetadataError Metadata :=
  if Text.isAllBlank text.toList then .ok empty
  else
    match Yaml.Datum.ofText? text with
    | none => .error .malformed
    | some .null => .ok empty
    | some (.mapping entries) =>
      match Yaml.Datum.toFields? [] entries with
      | some fields => .ok ⟨fields⟩
      | none => .error .badName
    | some _ => .error .notMapping

end Metadata

end StaticSite
