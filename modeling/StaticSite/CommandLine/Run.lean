import StaticSite.CommandLine.Arguments
import StaticSite.CommandLine.Scaffold
import StaticSite.Preview.Address
import StaticSite.Preview.Start

/-!
# Running commands

What each command does to the files and what it prints. What the host alone knows is given to a
command: the environment, and what comes of opening a browser and of listening on an address.
-/

namespace StaticSite.CommandLine

/-- What a command asks of its host. -/
structure Host where
  /-- The variables of the environment. -/
  environment : List (String × String)
  /-- Opens a page in a browser; the result is the reason of a failure. -/
  openBrowser : (url : String) → Option String
  /-- Listens on an address until the program is stopped; the result is the reason of a failure. -/
  listen : SocketAddress → Option String

/-- The configuration in a file. -/
def loadConfig (host : Host) (path : Path) : Work Config := do
  Work.ofExcept .config (Config.load (← Work.files) host.environment path)

/-- Builds the site of a configuration file. Files that could not be built are an error at the
end. -/
def buildSite (host : Host) (configFile : Path) : Work Unit := do
  let configPath := Config.filePath (← Work.files) (some configFile)
  let config ← loadConfig host configPath
  let builder := Builder.ofConfig config configPath.configDirectory .standard false
  let (result, _) ← Work.build builder.build
  Work.say ("Built site to " ++ result.output.text ++ " (" ++ toString result.pages ++ " pages, "
    ++ toString result.assets ++ " static files)")
  if !result.failures.isEmpty then
    Work.warnFailures result.failures
    Work.fail (.failedFiles result.failures.length)

/-- Deletes the output directory, unless it is the start of the path of a source directory. -/
def clean (host : Host) (configFile : Path) (pretend : Bool) : Work Unit := do
  let configPath := Config.filePath (← Work.files) (some configFile)
  let config ← loadConfig host configPath
  let paths := config.paths.resolve configPath.configDirectory
  if paths.content.startsWith paths.output || paths.templates.startsWith paths.output then
    Work.fail (.unsafeClean paths.output)
  let output := (← Work.files).canonicalOr paths.output
  if (← Work.files).hasEntry output then
    if pretend then Work.say ("Would delete " ++ output.text)
    else
      Work.change fun files => files.removeTree output
      Work.say ("Deleted " ++ output.text)
  else Work.say ("Nothing to clean at " ++ output.text)

/-- The name of a host that a browser can open. -/
def displayHost (bind : String) : String := if bind = "0.0.0.0" then "localhost" else bind

/-- Builds a site and serves it, and previews it with a watch. -/
def serve (host : Host) (options : ServeOptions) : Work Unit := do
  let _ ← Preview.start host.environment options.configFile options.watch
  if options.watch then Work.say "Watching for changes..."
  match SocketAddress.ofText? options.bind options.port with
  | none => Work.fail .badAddress
  | some address =>
    let url := "http://" ++ displayHost options.bind ++ ":" ++ toString options.port
    Work.say ("\nServing site at " ++ url)
    Work.say "Press Ctrl+C to stop\n"
    if options.browser then
      match host.openBrowser url with
      | some reason => Work.warn ("Failed to open browser: " ++ reason)
      | none => pure ()
    match host.listen address with
    | some reason => Work.fail (.unboundAddress reason)
    | none => pure ()

/-- Runs a command. -/
def Command.run (host : Host) : Command → Work Unit
  | .scaffold directory create => CommandLine.scaffold directory create
  | .build configFile => buildSite host configFile
  | .serve options => CommandLine.serve host options
  | .clean configFile pretend => CommandLine.clean host configFile pretend

/-- The session after a command, in which its error, if any, is reported, and the exit code. -/
def Command.runReporting (host : Host) (command : Command) (files : FileTree) : Session × Nat :=
  match command.run host { files } with
  | (.ok (), session) => (session, 0)
  | (.error e, session) =>
    ({ session with diagnostics := session.diagnostics ++ e.report }, 1)

end StaticSite.CommandLine
