import StaticSite.Change
import StaticSite.Format
import StaticSite.Site.Content

/-!
# Building a site

A build reads templates and content and writes pages and copies of all other files to the output
directory. A full build composes the templates first and only then empties the output directory, so
that a build that cannot start leaves the last output as it is. A targeted rebuild works on single
files with the templates of the last full build.
-/

namespace StaticSite

/-- The templates that a build has composed. -/
structure ComposedTemplates where
  /-- The layout. -/
  layout : String
  /-- The child templates. -/
  children : Table String
  deriving DecidableEq, Repr

/-- A site with what is needed to build it. -/
structure Builder where
  /-- The configuration. -/
  config : Config
  /-- The directories, resolved. -/
  paths : Directories
  /-- The formats of pages. -/
  registry : Registry
  /-- The templates of the last full build. -/
  cache : Option ComposedTemplates
  /-- Whether pages tell browsers to reload them. -/
  liveReload : Bool

/-- A file that could not be built. -/
structure Failure where
  /-- The file. -/
  path : Path
  /-- The cause. -/
  error : BuildError
  deriving DecidableEq, Repr

/-- What a build has done. -/
structure BuildResult where
  /-- The output directory. -/
  output : Path
  /-- The number of pages written. -/
  pages : Nat
  /-- The number of files copied. -/
  assets : Nat
  /-- The number of files deleted. -/
  removed : Nat
  /-- The files that could not be built. -/
  failures : List Failure
  deriving DecidableEq, Repr

/-- Works on a file tree; what is done before an error stays done. -/
abbrev Build := ExceptT BuildError (StateM FileTree)

namespace Build

/-- The file tree. -/
def files : Build FileTree := fun tree => (.ok tree, tree)

/-- Ends with an error. -/
def fail {α : Type} (e : BuildError) : Build α := fun tree => (.error e, tree)

/-- A part of the work; an error in it is a result, too. -/
def attempt {α : Type} (work : Build α) : Build (Except BuildError α) := fun tree =>
  match work tree with
  | (result, tree) => (.ok result, tree)

/-- An operation that changes files; a fault becomes an error. -/
def change (asError : FileFault → BuildError) (operation : FileTree → Except FileFault FileTree) :
    Build Unit := fun tree =>
  match operation tree with
  | .ok tree => (.ok (), tree)
  | .error fault => (.error (asError fault), tree)

/-- Makes a directory and the ones above it. -/
def ensureDirectory (asError : FileFault → BuildError) (path : Path) : Build Unit := fun tree =>
  match tree.ensureDirectory path with
  | (tree, none) => (.ok (), tree)
  | (tree, some fault) => (.error (asError fault), tree)

/-- Makes the directory of an output file. -/
def ensureParent (path : Path) : Build Unit :=
  match path.parent? with
  | some parent => ensureDirectory (.write path) parent
  | none => pure ()

/-- Writes an output file. -/
def writeOutput (path : Path) (text : String) : Build Unit := do
  ensureParent path
  change (.write path) fun tree => tree.write path (.text text)

/-- Copies a file to the output. -/
def copyOutput (source target : Path) : Build Unit := do
  ensureParent target
  change (.write target) fun tree => tree.copy source target

end Build

/-- The path at which the preview tells browsers to reload. -/
def liveReloadPath : String := "/_rbuild/live-reload"

/-- The script that makes a browser reload a page. -/
def liveReloadScript : String :=
  "<script>new EventSource(\"" ++ liveReloadPath
    ++ "\").addEventListener(\"reload\", () => location.reload());</script>"

/-- The HTML with a script before the end of its body, or at its end. -/
def injectScript (html script : String) : String :=
  match Text.breakOnLast? "</body>".toList html.toList with
  | some (before, after) =>
    String.ofList before ++ script ++ "</body>" ++ String.ofList after
  | none => html ++ script

namespace Builder

/-- The builder of a configuration whose relative paths are taken under a base directory. -/
def ofConfig (config : Config) (base : Path) (registry : Registry) (liveReload : Bool) : Builder :=
  ⟨config, config.paths.resolve base, registry, none, liveReload⟩

/-- Whether a file holds metadata. -/
def isSidecar (builder : Builder) (file : Path) : Bool :=
  file.fileName? = some builder.config.metadataFile

/-- The output file of a content file; `none` for a file outside of the content. -/
def outputPath? (builder : Builder) (file : Path) : Option Path :=
  (file.rebase? builder.paths.content builder.paths.output).map fun output =>
    if builder.registry.isPage file then output.outputPage else output

/-- The output file of a content file. -/
def outputPath (builder : Builder) (file : Path) : Build Path :=
  match builder.outputPath? file with
  | some path => return path
  | none => Build.fail (.io (.other (file.text ++ " is outside the content directory")))

/-- Whether two directories are the same, or one holds the other, by their texts alone. -/
def overlaps (tree : FileTree) (a b : Path) : Bool :=
  let a := tree.absolute a
  let b := tree.absolute b
  a.startsWith b || b.startsWith a

/-- Why the directories do not allow a build, if they do not. -/
def directoryError? (builder : Builder) (tree : FileTree) : Option BuildError :=
  let paths := builder.paths
  if !tree.isDirectory paths.templates then some (.missingDirectory .template paths.templates)
  else if !tree.isDirectory paths.content then some (.missingDirectory .content paths.content)
  else if overlaps tree paths.output paths.content then
    some (.unsafeOutput paths.output .content paths.content)
  else if overlaps tree paths.output paths.templates then
    some (.unsafeOutput paths.output .template paths.templates)
  else none

/-- What compositions draw on. -/
def setting (builder : Builder) (tree : FileTree) : Compose.Setting :=
  ⟨tree.source builder.config.retries, builder.paths.templates, builder.config.page⟩

/-- The composed text of a template. -/
def composeTemplate (builder : Builder) (tree : FileTree) (location : Location) :
    Except BuildError String :=
  match tree.source builder.config.retries location with
  | .error e => .error (.compose location (.fetch e))
  | .ok text =>
    (Compose.composeTidied builder.config.tidy (builder.setting tree) text location).result.mapError
      fun e => .compose location e

/-- The composed layout. A site without a layout file has one that is the body alone. -/
def composeLayout (builder : Builder) (tree : FileTree) : Except BuildError String :=
  let templates := builder.paths.templates
  let location := Location.resolve templates (.file templates) builder.config.layout
  match location with
  | .file path =>
    if tree.hasEntry path then builder.composeTemplate tree location
    else .ok Renderer.identityLayout
  | .remote _ => builder.composeTemplate tree location

/-- The composed child templates. -/
def composeChildren (builder : Builder) (tree : FileTree) :
    Table String → Except BuildError (Table String)
  | [] => .ok []
  | (key, path) :: rest =>
    let templates := builder.paths.templates
    let location := Location.resolveTemplate templates (.file templates) path
    match builder.composeTemplate tree location with
    | .error e => .error e
    | .ok text => (composeChildren builder tree rest).map fun more => (key, text) :: more

/-- The composed templates. -/
def composeTemplates (builder : Builder) (tree : FileTree) :
    Except BuildError ComposedTemplates :=
  match builder.composeLayout tree with
  | .error e => .error e
  | .ok layout =>
    (builder.composeChildren tree builder.config.childTemplates).map fun children =>
      ⟨layout, children⟩

/-- The renderer of the layout. -/
def renderer (builder : Builder) (templates : ComposedTemplates) : Except BuildError Renderer :=
  (Renderer.ofLayout templates.layout).mapError fun e =>
    .render (builder.paths.templates.join ⟨builder.config.layout⟩) e

/-- The HTML of a page. -/
def pageHtml (builder : Builder) (tree : FileTree) (templates : ComposedTemplates)
    (renderer : Renderer) (page : Path) : Except BuildError String :=
  match tree.readText page with
  | .error fault => .error (.read page fault)
  | .ok text =>
    let location := Location.file page
    match (Compose.compose (builder.setting tree) text location).result with
    | .error e => .error (.compose location e)
    | .ok composed =>
      let body :=
        match builder.registry.forPath? page with
        | some format => format.convert composed
        | none => composed
      let body := if builder.config.tidy then tidy body else body
      let metadata := tree.metadataOf page builder.config.metadataFile
      let setting :=
        ContextSetting.ofConfig builder.config builder.paths.content (some templates.children)
      let read? (path : Path) : Option String := (tree.readText path).toOption
      match renderer.renderPage (setting.context read? metadata body page) with
      | .error e => .error (.render page e)
      | .ok html => .ok (if builder.liveReload then injectScript html liveReloadScript else html)

/-- Writes a page. -/
def buildPage (builder : Builder) (templates : ComposedTemplates) (renderer : Renderer)
    (page : Path) : Build Unit := do
  match builder.pageHtml (← Build.files) templates renderer page with
  | .error e => Build.fail e
  | .ok html =>
    let output ← builder.outputPath page
    Build.writeOutput output html

/-- Copies a content file; the result says whether there was anything to copy. -/
def copyAsset (builder : Builder) (file : Path) : Build Bool := do
  if builder.isSidecar file || !(← Build.files).hasEntry file then return false
  else
    let output ← builder.outputPath file
    Build.copyOutput file output
    return true

/-- Deletes the output of a content file; the result says whether there was any. -/
def removeOutput (builder : Builder) (file : Path) : Build Bool := do
  if builder.isSidecar file then return false
  else
    let output ← builder.outputPath file
    if (← Build.files).hasEntry output then
      Build.change .io fun tree => tree.removeFile output
      return true
    else return false

/-- The pages directly in a directory, in the order of their paths. -/
def pagesIn (builder : Builder) (directory : Path) : Build (List Path) := do
  let tree ← Build.files
  if tree.isDirectory directory then
    match tree.list directory with
    | .error fault => Build.fail (.io fault)
    | .ok names =>
      let paths := names.map fun name => directory.join ⟨name⟩
      return Path.sorted (paths.filter fun path => tree.isFile path && builder.registry.isPage path)
  else return []

/-- The result with the work on a file noted; an error that ends the build ends it here. -/
def note (result : BuildResult) (path : Path) (work : Build Bool)
    (count : BuildResult → BuildResult) : Build BuildResult := do
  match ← Build.attempt work with
  | .ok true => return count result
  | .ok false => return result
  | .error e =>
    if e.isFatal then Build.fail e
    else return { result with failures := result.failures ++ [⟨path, e⟩] }

/-- Builds a page and notes it. -/
def notePage (builder : Builder) (templates : ComposedTemplates) (renderer : Renderer)
    (result : BuildResult) (page : Path) : Build BuildResult :=
  note result page (do builder.buildPage templates renderer page; return true) fun r =>
    { r with pages := r.pages + 1 }

/-- Copies a file and notes it. -/
def noteAsset (builder : Builder) (result : BuildResult) (file : Path) : Build BuildResult :=
  note result file (builder.copyAsset file) fun r => { r with assets := r.assets + 1 }

/-- Builds or copies content files in order. -/
def buildFiles (builder : Builder) (templates : ComposedTemplates) (renderer : Renderer) :
    List Path → BuildResult → Build BuildResult
  | [], result => return result
  | file :: rest, result => do
    let result ←
      if builder.registry.isPage file then builder.notePage templates renderer result file
      else builder.noteAsset result file
    buildFiles builder templates renderer rest result

/-- The result of a build that has done nothing yet. -/
def noResult (builder : Builder) : BuildResult := ⟨builder.paths.output, 0, 0, 0, []⟩

/-- An empty output directory. -/
def prepareOutput (builder : Builder) : Build Unit := do
  let output := builder.paths.output
  if (← Build.files).hasEntry output then Build.change .io fun tree => tree.emptyDirectory output
  else Build.ensureDirectory .io output

/-- Builds the whole site; the second result is the builder with the templates of this build. -/
def build (builder : Builder) : Build (BuildResult × Builder) := do
  let tree ← Build.files
  match builder.directoryError? tree with
  | some e => Build.fail e
  | none =>
    match builder.composeTemplates tree with
    | .error e => Build.fail e
    | .ok templates =>
      match builder.renderer templates with
      | .error e => Build.fail e
      | .ok renderer =>
        builder.prepareOutput
        match (← Build.files).contentFiles builder.paths.content with
        | .error e => Build.fail e
        | .ok files =>
          let result ← builder.buildFiles templates renderer files builder.noResult
          return (result, { builder with cache := some templates })

/-- Builds the pages of a list in order. -/
def buildPages (builder : Builder) (templates : ComposedTemplates) (renderer : Renderer) :
    List Path → BuildResult → Build BuildResult
  | [], result => return result
  | page :: rest, result => do
    let result ← builder.notePage templates renderer result page
    buildPages builder templates renderer rest result

/-- Does a task. -/
def runTask (builder : Builder) (templates : ComposedTemplates) (renderer : Renderer)
    (result : BuildResult) : Task → Build BuildResult
  | .page page => do
    if (← Build.files).hasEntry page && builder.registry.isPage page then
      builder.notePage templates renderer result page
    else return result
  | .directory directory => do
    builder.buildPages templates renderer (← builder.pagesIn directory) result
  | .asset file => builder.noteAsset result file
  | .remove file => do
    if ← builder.removeOutput file then return { result with removed := result.removed + 1 }
    else return result

/-- Does tasks in order. -/
def runTasks (builder : Builder) (templates : ComposedTemplates) (renderer : Renderer) :
    List Task → BuildResult → Build BuildResult
  | [], result => return result
  | task :: rest, result => do
    let result ← builder.runTask templates renderer result task
    runTasks builder templates renderer rest result

/-- Does what a batch of changes asks for. Without templates of an earlier build everything is
built. -/
def rebuild (builder : Builder) (scope : Scope) : Build (BuildResult × Builder) :=
  match scope, builder.cache with
  | .files tasks, some templates =>
    match builder.renderer templates with
    | .error e => Build.fail e
    | .ok renderer => do
      let result ← builder.runTasks templates renderer tasks builder.noResult
      return (result, builder)
  | _, _ => builder.build

end Builder

end StaticSite
