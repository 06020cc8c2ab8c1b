import StaticSite.CommandLine.Grammar
import StaticSite.Config.Basic

/-!
# Commands

The commands of the program with their options: to make a new project, to build a site, to preview
it, and to delete its output.
-/

namespace StaticSite.CommandLine

/-- How a site is previewed. -/
structure ServeOptions where
  /-- The address to listen on. -/
  bind : String
  /-- The port to listen on. -/
  port : Nat
  /-- Whether a browser is opened. -/
  browser : Bool
  /-- The configuration file. -/
  configFile : Path
  /-- Whether the site is rebuilt when files change. -/
  watch : Bool
  deriving DecidableEq, Repr

/-- A command. -/
inductive Command where
  /-- Make a new project in a directory, which may be created, too. -/
  | scaffold (directory : Path) (create : Bool)
  /-- Build the site. -/
  | build (configFile : Path)
  /-- Build the site and serve it. -/
  | serve (options : ServeOptions)
  /-- Delete the output, or say what would be deleted. -/
  | clean (configFile : Path) (pretend : Bool)
  deriving DecidableEq, Repr

/-- What is asked of the program. -/
structure Arguments where
  /-- Whether all details are logged. -/
  verbose : Bool
  /-- The command. -/
  command : Command
  deriving DecidableEq, Repr

/-- The option that every command has for the log. -/
def verboseRule : OptionRule := ⟨"verbose", some 'v', .flag⟩

/-- The option that every command has for its help text. -/
def helpRule : OptionRule := ⟨"help", some 'h', .help⟩

/-- The option that names the configuration file. -/
def configRule : OptionRule := ⟨"config-file", some 'c', .path⟩

/-- The name of the command that shows help texts. -/
def helpCommand : String := "help"

/-- The grammar of each command. -/
def commandGrammars : List (String × Grammar) := [
  ("init", ⟨[⟨"create", none, .flag⟩, verboseRule, helpRule], some ⟨"path", none, .path⟩, []⟩),
  ("build", ⟨[configRule, verboseRule, helpRule], none, []⟩),
  ("serve",
    ⟨[⟨"bind", some 'b', .text⟩, ⟨"port", some 'p', .port⟩, ⟨"open", some 'o', .flag⟩, configRule,
      ⟨"watch", some 'w', .flag⟩, verboseRule, helpRule], none, []⟩),
  ("clean", ⟨[configRule, ⟨"dry-run", none, .flag⟩, verboseRule, helpRule], none, []⟩)]

/-- The grammar of the whole command line. -/
def programGrammar : Grammar :=
  ⟨[verboseRule, helpRule, ⟨"version", some 'V', .version⟩], none,
    commandGrammars.map Prod.fst ++ [helpCommand]⟩

/-- What the command for help texts answers to the words after it. -/
def readHelpWords : List String → UsageError
  | [] => .helpWanted
  | [name] => if programGrammar.commands.contains name then .helpWanted else .unknownCommand
  | name :: next :: _ =>
    if name = helpCommand && programGrammar.commands.contains next then .helpWanted
    else .unknownCommand

/-- The command of a name with its options. -/
def Command.ofGiven (name : String) (given : List (String × String)) : Command :=
  let isGiven (option : String) : Bool := (given.lookup option).isSome
  let valueOr (option value : String) : String := (given.lookup option).getD value
  let configFile : Path := ⟨valueOr "config-file" Config.defaultFile⟩
  match name with
  | "init" => .scaffold ⟨valueOr "path" "."⟩ (isGiven "create")
  | "serve" =>
    .serve
      { bind := valueOr "bind" "127.0.0.1"
        port := (readPort? (valueOr "port" "3000")).getD 3000
        browser := isGiven "open"
        configFile
        watch := isGiven "watch" }
  | "clean" => .clean configFile (isGiven "dry-run")
  | _ => .build configFile

/-- What some words, without the name of the program, ask for. -/
def Arguments.ofWords (words : List String) : Except UsageError Arguments :=
  match readWords programGrammar {} words with
  | .error e => .error e
  | .ok ([], none) => .error .nothingGiven
  | .ok (_, none) => .error .missingCommand
  | .ok (outer, some (name, rest)) =>
    match commandGrammars.lookup name with
    | none => .error (readHelpWords rest)
    | some grammar =>
      match readWords grammar {} rest with
      | .error e => .error e
      | .ok (given, _) =>
        let verbose := (outer.lookup "verbose").isSome || (given.lookup "verbose").isSome
        .ok ⟨verbose, .ofGiven name given⟩

end StaticSite.CommandLine
