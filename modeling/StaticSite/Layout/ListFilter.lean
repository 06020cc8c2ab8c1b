import StaticSite.Layout.Argument
import StaticSite.Text.Case

/-!
# Filters of lists

Filters that pick, order and group the items of a list. Items that are records can be told apart by
a field, whose name may lead through further records by dots.
-/

namespace StaticSite.Layout.Filter

/-- A part of a value by names with dots between them. -/
def field? (names : List (List Char)) (v : Value) : Option Value :=
  match names with
  | [] => some v
  | name :: rest =>
    match v with
    | .record fields => (Fields.get? fields (String.ofList name)).bind (field? rest)
    | .list items => (Text.readNat? name).bind fun i => items[i]?.bind (field? rest)
    | _ => none

/-- The names in an attribute, which have dots between them. -/
def attributeNames (field : List Char) : List (List Char) := Text.splitOn '.' field

/-- Whether a value comes before another one of the same kind; `none` for different kinds. -/
def precedes? (a b : Value) : Option Bool :=
  match a, b with
  | .text s, .text t => some (s < t)
  | .bool s, .bool t => some (!s && t)
  | .list s, .list t => some (s.length < t.length)
  | _, _ =>
    match asFloat? a, asFloat? b with
    | some x, some y => some (x < y)
    | _, _ => none

/-- Whether all values can be compared with the first one. -/
def comparable (keys : List Value) : Bool :=
  match keys with
  | [] => true
  | first :: rest =>
    (precedes? first first).isSome && rest.all fun k => (precedes? first k).isSome

/-- The items in the order of their keys; equal keys keep their order. -/
def sortedBy? (keyed : List (Value × Value)) : Option (List Value) :=
  if comparable (keyed.map Prod.fst) then
    some ((keyed.mergeSort fun a b => !((precedes? b.1 a.1).getD false)).map Prod.snd)
  else none

/-- The items with their keys. -/
def keyed? (field : List Char) (items : List Value) : Option (List (Value × Value)) :=
  items.mapM fun item =>
    if field.isEmpty then some (item, item)
    else (field? (attributeNames field) item).map fun k => (k, item)

/-- The form of a key by which items are told apart, if keys of its kind can be; letters count alike
in both cases unless the flag is set. -/
def distinction? (sensitive : Bool) : Value → Option Value
  | .text s => some (if sensitive then .text s else ofChars (Text.lower s.toList))
  | .bool b => some (.bool b)
  | .int n => some (.int n)
  | _ => none

/-- Whether two values are of the same kind. -/
def sameKind : Value → Value → Bool
  | .text _, .text _ => true
  | .bool _, .bool _ => true
  | .int _, .int _ => true
  | _, _ => false

/-- The items of a list of which no earlier one has the same key. -/
def distinct : List (Value × Value) → List Value → List Value
  | [], _ => []
  | (key, item) :: rest, seen =>
    if seen.contains key then distinct rest seen else item :: distinct rest (key :: seen)

/-- The items of a list of which no earlier one has the same key. The first item must have a key,
later ones without a key are left out, and all keys must be of the same kind. -/
def distinct? (sensitive : Bool) (names : List (List Char)) (items : List Value) :
    Option (List Value) := do
  let keyed ← (items.filterMap fun item => (field? names item).map fun k => (k, item)).mapM
    fun (k, item) => (distinction? sensitive k).map fun k => (k, item)
  let first ← (items.head?.bind (field? names)).bind (distinction? sensitive)
  if keyed.all fun entry => sameKind first entry.1 then some (distinct keyed []) else none

/-- The items under the texts of their keys. -/
def grouped (keyed : List (Value × Value)) : Fields :=
  keyed.foldl (fun groups (key, item) =>
    let name := key.display
    match groups.get? name with
    | some (.list items) => groups.insert name (.list (items ++ [item]))
    | _ => groups.insert name (.list [item])) []

/-- The filters of lists that have items. -/
def applyToItems? (name : String) (args : Fields) (items : List Value) : Option Value := do
  match name with
  | "first" => items.head?
  | "last" => items.getLast?
  | "nth" => return items[← required? args "n" count?]?.getD (.text "")
  | "sort" =>
    let field ← optional? args "attribute" chars? []
    return .list (← sortedBy? (← keyed? field items))
  | "unique" =>
    let sensitive ← optional? args "case_sensitive" flag? false
    let field ← optional? args "attribute" chars? []
    return .list (← distinct? sensitive (if field.isEmpty then [] else attributeNames field) items)
  | "slice" =>
    let position (v : Value) : Option Nat :=
      (asFloat? v).map fun x =>
        (if x < 0.0 then Float.ofNat items.length + x else x).toUInt64.toNat
    let start ← optional? args "start" position 0
    let stop ← optional? args "end" position items.length
    return .list ((items.take stop).drop start)
  | "group_by" =>
    let names := attributeNames (← required? args "attribute" chars?)
    let keyed := items.filterMap fun item =>
      match field? names item with
      | some .null => none
      | some k => some (k, item)
      | none => none
    return .record (grouped keyed)
  | "filter" =>
    let names := attributeNames (← required? args "attribute" chars?)
    let wanted := (args.get? "value").getD .null
    return .list (items.filter fun item =>
      let v := (field? names item).getD .null
      if wanted == .null then v != .null else v == wanted)
  | "map" =>
    let names := attributeNames (← required? args "attribute" chars?)
    return .list ((items.filterMap (field? names)).filter (· != .null))
  | _ => failure

/-- The filters of lists. A list without items has no part, and needs no arguments. -/
def applyToList? (name : String) (args : Fields) (items : List Value) : Option Value := do
  match name with
  | "join" =>
    let separator ← optional? args "sep" pattern? []
    return ofChars (Text.joinWith separator (items.map written))
  | "concat" =>
    match ← args.get? "with" with
    | .list more => return .list (items ++ more)
    | v => return .list (items ++ [v])
  | _ =>
    if !items.isEmpty then applyToItems? name args items
    else if ["first", "last", "nth"].contains name then return .text ""
    else if ["sort", "unique", "slice", "filter", "map"].contains name then return .list []
    else if name == "group_by" then return .record []
    else failure

end StaticSite.Layout.Filter
