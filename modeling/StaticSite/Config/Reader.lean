import StaticSite.Config.Basic
import StaticSite.Yaml.Datum

/-!
# Reading configurations

A configuration is a mapping. Settings that are left out have their usual values, settings without
a value count as empty mappings where a mapping is asked for, and unknown names are passed over. A
known name must not be given twice, and each setting must have the form it asks for.
-/

namespace StaticSite.Config

open Yaml

/-- The text of a scalar, whatever it looks like. -/
def readText? : Node → Option String
  | .scalar _ written _ => some written
  | _ => none

/-- The text of a scalar; a plain one that says that there is no value is none. -/
def readOptionalText? : Node → Option (Option String)
  | .scalar tag written style =>
    if style != .plain then some (some written)
    else if tag == some "tag:yaml.org,2002:null" then
      if Plain.isNull written then some none else none
    else if tag.isSome then some (some written)
    else if written.isEmpty || Plain.isNull written then some none
    else some (some written)
  | _ => none

/-- Whether the form of a scalar decides what it is, for a kind of value. -/
def isBare (kind : String) (tag : Option String) (style : ScalarStyle) : Bool :=
  style == .plain || (style == .literal && tag == some ("tag:yaml.org,2002:" ++ kind))

/-- The truth value of a scalar. -/
def readBool? : Node → Option Bool
  | .scalar tag written style => if isBare "bool" tag style then Plain.readBool? written else none
  | _ => none

/-- The number of a scalar, up to a largest one. -/
def readCount? (largest : Nat) : Node → Option Nat
  | .scalar tag written style =>
    if isBare "int" tag style then (Plain.readUnsigned? written.toList).filter (· ≤ largest)
    else none
  | _ => none

/-- The entries of a mapping under their names. -/
def readEntries? : Node → Option (List (String × Node))
  | .mapping _ entries => entries.mapM fun (key, value) => (readText? key).map fun k => (k, value)
  | .scalar _ written style => if written.isEmpty && style == .plain then some [] else none
  | _ => none

/-- The setting of a name, or its usual value; `none` if it is given twice or cannot be read. -/
def setting? {α : Type} (entries : List (String × Node)) (name : String)
    (read : Node → Option α) (usual : α) : Option α :=
  match entries.filter fun entry => entry.1 == name with
  | [] => some usual
  | [(_, node)] => read node
  | _ => none

mutual

/-- The value of a node in which collections may hold each other to a depth. -/
def readValue? (depth : Nat) : Node → Option Value
  | .endless => none
  | .scalar tag written style =>
    if (Datum.ownTag? tag).isSome then none
    else
      match Datum.ofScalar? tag written style with
      | some (.bool b) => some (.bool b)
      | some (.int n) => some (.int n)
      | some (.float x) => some (if x.isFinite then .float x else .null)
      | some (.text s) => some (.text s)
      | some _ => some .null
      | none => none
  | .sequence tag items =>
    match depth with
    | 0 => none
    | depth + 1 =>
      if (Datum.ownTag? tag).isSome then none else (readValues? depth items).map .list
  | .mapping tag entries =>
    match depth with
    | 0 => none
    | depth + 1 =>
      if (Datum.ownTag? tag).isSome then none
      else (readFields? depth [] entries).map .record

/-- The values of the items of a sequence. -/
def readValues? (depth : Nat) : List Node → Option (List Value)
  | [] => some []
  | node :: rest => do return (← readValue? depth node) :: (← readValues? depth rest)

/-- The fields of a mapping after the ones given; of two values of a name the later one stays. -/
def readFields? (depth : Nat) (fields : Fields) : List (Node × Node) → Option Fields
  | [] => some fields
  | (key, value) :: rest => do
    let name ← readText? key
    let v ← readValue? depth value
    readFields? depth (fields.insert name v) rest

end

/-- The values of all pages. -/
def readPage? : Node → Option Fields
  | .mapping _ entries => readFields? (Datum.depthLimit - 2) [] entries
  | node => (readEntries? node).map fun _ => []

/-- The settings of the site. -/
def readSite? (node : Node) : Option SiteSettings := do
  let entries ← readEntries? node
  let url ← setting? entries "url" readOptionalText? none
  let script ← setting? entries "default_script" readOptionalText? none
  return ⟨url, script⟩

/-- The directories. -/
def readPaths? (node : Node) : Option Directories := do
  let entries ← readEntries? node
  let path (node : Node) : Option Path := (readText? node).map Path.mk
  let templates ← setting? entries "templates" path defaultPaths.templates
  let content ← setting? entries "content" path defaultPaths.content
  let output ← setting? entries "output" path defaultPaths.output
  return ⟨templates, content, output⟩

/-- The path of a child template, which must be given. -/
def readChild? (node : Node) : Option String := do
  let entries ← readEntries? node
  let path ← setting? entries "path" (fun node => (readText? node).map some) none
  path

/-- The child templates. -/
def readChildren? (node : Node) : Option (Table String) := do
  let entries ← readEntries? node
  let children ← entries.mapM fun (name, node) => (readChild? node).map fun path => (name, path)
  return Table.ofList children

/-- The largest number of 32 bits. -/
def maxRetries : Nat := 4294967295

/-- How files are watched. -/
def readWatch? (node : Node) : Option WatchSettings := do
  let entries ← readEntries? node
  let poll ← setting? entries "poll" readBool? defaultWatch.poll
  let count := readCount? Plain.maxUnsigned
  let interval ← setting? entries "poll_interval_ms" count defaultWatch.pollInterval
  let debounce ← setting? entries "debounce_ms" count defaultWatch.debounce
  return ⟨poll, interval, debounce⟩

/-- The settings for the preview. -/
def readPreview? (node : Node) : Option PreviewSettings := do
  let entries ← readEntries? node
  let watch ← setting? entries "watch" readWatch? defaultWatch
  let liveReload ← setting? entries "live_reload" readBool? true
  return ⟨watch, liveReload⟩

/-- The configuration of a node. -/
def ofNode? (node : Node) : Option Config := do
  let entries ← readEntries? node
  let site ← setting? entries "site" readSite? default.site
  let paths ← setting? entries "paths" readPaths? default.paths
  let layout ← setting? entries "layout" readText? default.layout
  let metadataFile ← setting? entries "metadata_file" readText? default.metadataFile
  let retries ← setting? entries "retries" (readCount? maxRetries) default.retries
  let tidy ← setting? entries "tidy" readBool? default.tidy
  let childTemplates ← setting? entries "child_templates" readChildren? default.childTemplates
  let page ← setting? entries "page" readPage? default.page
  let preview ← setting? entries "dev" readPreview? default.preview
  return { site, paths, layout, metadataFile, retries, tidy, childTemplates, page, preview }

/-- The configuration in a text; a text without a document sets nothing. -/
def ofYaml? (text : String) : Option Config :=
  if Text.isAllBlank text.toList then some default
  else
    match Node.ofText? text with
    | none => none
    | some none => some default
    | some (some node) => ofNode? node

end StaticSite.Config
