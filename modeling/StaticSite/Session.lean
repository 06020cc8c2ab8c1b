import StaticSite.Config.Load
import StaticSite.Site.Builder

/-!
# Sessions

A command works on files and prints as it goes. Both are kept in a session, so that all that a
command did before it failed can be seen.
-/

namespace StaticSite

/-- The files, and what has been printed. -/
structure Session where
  /-- The files. -/
  files : FileTree
  /-- What has been printed. -/
  output : String := ""
  /-- What has been printed as diagnostics. -/
  diagnostics : String := ""

/-- Why a command failed. -/
inductive CommandError where
  /-- The directory of a new project is missing. -/
  | missingDirectory (path : Path)
  /-- A new project has a configuration file already. -/
  | configExists (path : Path)
  /-- The output directory holds sources. -/
  | unsafeClean (output : Path)
  /-- Some files could not be built. -/
  | failedFiles (count : Nat)
  /-- The address to listen on is none. -/
  | badAddress
  /-- The address cannot be listened on. -/
  | unboundAddress (reason : String)
  /-- The configuration could not be loaded. -/
  | config (error : ConfigError)
  /-- The site could not be built. -/
  | build (error : BuildError)
  /-- An operation on files failed. -/
  | files (fault : FileFault)
  deriving DecidableEq, Repr

/-- The text of an error. -/
def CommandError.message : CommandError → String
  | .missingDirectory path => "Directory does not exist: " ++ path.text
  | .configExists path => "Config file already exists: " ++ path.text
  | .unsafeClean output =>
    "Refusing to delete " ++ output.text ++ ": it contains the content or template directory"
  | .failedFiles count => toString count ++ " file(s) failed to build"
  | .badAddress => "invalid socket address syntax"
  | .unboundAddress reason => reason
  | .config error => error.message
  | .build error => error.message
  | .files fault => fault.message

/-- What led to an error, if its text holds it. -/
def CommandError.cause? : CommandError → Option String
  | .config (.unreadable _ fault) => some fault.message
  | .build (.compose _ error) => some error.message
  | .build (.render _ error) => some error.message
  | .build (.read _ fault) => some fault.message
  | .build (.write _ fault) => some fault.message
  | .build (.io fault) => some fault.message
  | _ => none

/-- The report of an error that ends the program. -/
def CommandError.report (error : CommandError) : String :=
  match error.cause? with
  | some cause => "Error: " ++ error.message ++ "\n\nCaused by:\n    " ++ cause ++ "\n"
  | none => "Error: " ++ error.message ++ "\n"

/-- A part of a command; what is done before an error stays done. -/
abbrev Work := ExceptT CommandError (StateM Session)

namespace Work

/-- The files. -/
def files : Work FileTree := fun session => (.ok session.files, session)

/-- Ends with an error. -/
def fail {α : Type} (error : CommandError) : Work α := fun session => (.error error, session)

/-- The result, or the end with an error. -/
def ofExcept {ε α : Type} (asError : ε → CommandError) : Except ε α → Work α
  | .ok a => pure a
  | .error e => fail (asError e)

/-- Prints a line. -/
def say (line : String) : Work Unit := fun session =>
  (.ok (), { session with output := session.output ++ line ++ "\n" })

/-- Prints a line of diagnostics. -/
def warn (line : String) : Work Unit := fun session =>
  (.ok (), { session with diagnostics := session.diagnostics ++ line ++ "\n" })

/-- An operation that changes files. -/
def change (operation : FileTree → Except FileFault FileTree) : Work Unit := fun session =>
  match operation session.files with
  | .ok files => (.ok (), { session with files })
  | .error fault => (.error (.files fault), session)

/-- Makes a directory and the ones above it. -/
def ensureDirectory (path : Path) : Work Unit := fun session =>
  match session.files.ensureDirectory path with
  | (files, none) => (.ok (), { session with files })
  | (files, some fault) => (.error (.files fault), { session with files })

/-- A build; its error is a result, too. -/
def attemptBuild {α : Type} (work : Build α) : Work (Except BuildError α) := fun session =>
  match work session.files with
  | (result, files) => (.ok result, { session with files })

/-- A build. -/
def build {α : Type} (work : Build α) : Work α := do
  ofExcept .build (← attemptBuild work)

/-- Prints the files that could not be built. -/
def warnFailures (failures : List Failure) : Work Unit :=
  failures.forM fun failure => warn ("  " ++ failure.path.text ++ ": " ++ failure.error.message)

/-- Prints what a build has done. -/
def reportBuild (result : BuildResult) : Work Unit := do
  let removed :=
    if result.removed > 0 then ", removed " ++ toString result.removed ++ " file(s)" else ""
  say ("Built " ++ toString result.pages ++ " pages, " ++ toString result.assets
    ++ " static files" ++ removed)
  warnFailures result.failures

end Work

end StaticSite
