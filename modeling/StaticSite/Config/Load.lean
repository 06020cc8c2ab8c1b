import StaticSite.Config.Environment
import StaticSite.Config.Reader
import StaticSite.FileTree.Access

/-!
# Loading the configuration

The configuration is read from its file, if there is one, and then overridden from the environment.
-/

namespace StaticSite

/-- Why the configuration could not be loaded. -/
inductive ConfigError where
  /-- The text of the file is none of a configuration. -/
  | malformed
  /-- A variable of the environment has no fitting value. -/
  | environment
  /-- The file could not be read. -/
  | unreadable (path : Path) (fault : FileFault)
  deriving DecidableEq, Repr

/-- The text of an error. -/
def ConfigError.message : ConfigError → String
  | .malformed => "invalid config"
  | .environment => "failed to read environment overrides"
  | .unreadable path fault =>
    "failed to read config file " ++ path.text ++ ": " ++ fault.message

namespace Config

/-- The configuration in a file, or the defaults if there is none. -/
def read (files : FileTree) (path : Path) : Except ConfigError Config :=
  if files.hasEntry path then
    match files.readText path with
    | .error fault => .error (.unreadable path fault)
    | .ok text =>
      match ofYaml? text with
      | some config => .ok config
      | none => .error .malformed
  else .ok default

/-- The configuration in a file with what the environment overrides. -/
def load (files : FileTree) (environment : List (String × String)) (path : Path) :
    Except ConfigError Config :=
  match read files path with
  | .error e => .error e
  | .ok config =>
    match config.withEnvironment? environment with
    | some config => .ok config
    | none => .error .environment

/-- The path of the configuration file that is named, or of the one in the current directory. -/
def filePath (files : FileTree) (name? : Option Path) : Path :=
  files.currentPath.join (name?.getD ⟨defaultFile⟩)

end Config

end StaticSite
