/-!
# Words of a command line

A command line is a list of words. A word after two hyphens is the long name of an option, letters
after one hyphen are short names, and any other word is the value of the option before it, the name
of a command, or an argument. A word of two hyphens alone ends the options. Faults are found from
left to right, except that an unknown word goes before a fault in the value just before it.
-/

namespace StaticSite.CommandLine

/-- What an option asks for. -/
inductive OptionKind where
  /-- Nothing but to be given. -/
  | flag
  /-- The help text. -/
  | help
  /-- The version. -/
  | version
  /-- A path, which is not empty. -/
  | path
  /-- Any text. -/
  | text
  /-- The number of a port. -/
  | port
  deriving DecidableEq, Repr

/-- An option. -/
structure OptionRule where
  /-- The name after two hyphens. -/
  long : String
  /-- The letter after one hyphen. -/
  short? : Option Char
  /-- What it asks for. -/
  kind : OptionKind
  deriving DecidableEq, Repr

/-- What a command takes. -/
structure Grammar where
  /-- The options. -/
  options : List OptionRule
  /-- The argument, if there may be one. -/
  argument? : Option OptionRule
  /-- The commands one of which comes next. -/
  commands : List String

/-- Why no command can be run, be it that help is asked for. -/
inductive UsageError where
  /-- The help text is asked for. -/
  | helpWanted
  /-- The version is asked for. -/
  | versionWanted
  /-- There are no words at all. -/
  | nothingGiven
  /-- There are options but no command. -/
  | missingCommand
  /-- There is no such command. -/
  | unknownCommand
  /-- There is no such option, or a word too many. -/
  | unknownWord
  /-- An option lacks its value, or a path is empty. -/
  | missingValue
  /-- The value of an option is none that it takes. -/
  | badValue
  /-- An option is given twice. -/
  | repeated
  /-- An option that takes no value has one. -/
  | unwantedValue
  deriving DecidableEq, Repr

/-- The exit code after an error. -/
def UsageError.exitCode : UsageError → Nat
  | .helpWanted => 0
  | .versionWanted => 0
  | _ => 2

/-- The number of a port: a whole number in decimal digits, which may have a sign. -/
def readPort? (value : String) : Option Nat :=
  let digits (text : List Char) : Option Nat :=
    if text.isEmpty || !text.all Char.isDigit then none
    else some (text.foldl (fun n c => n * 10 + (c.toNat - '0'.toNat)) 0)
  match value.toList with
  | '-' :: text => (digits text).filter fun n => n = 0
  | '+' :: text => (digits text).filter fun n => n ≤ 65535
  | text => (digits text).filter fun n => n ≤ 65535

/-- Why a value does not fit an option, if it does not. -/
def OptionKind.fault? (kind : OptionKind) (value : String) : Option UsageError :=
  match kind with
  | .path => if value.isEmpty then some .missingValue else none
  | .port => if (readPort? value).isNone then some .badValue else none
  | _ => none

/-- The words read so far. -/
structure Reading where
  /-- The options and the argument, with their values. -/
  given : List (String × String) := []
  /-- An option or argument whose value is not yet checked, or yet to come. -/
  pending : Option (OptionRule × Option String) := none
  /-- Whether the next word may be the value of the pending option. -/
  expectsValue : Bool := false
  /-- Whether options have ended. -/
  onlyArguments : Bool := false
  /-- Whether the argument has been given. -/
  hasArgument : Bool := false

namespace Reading

/-- Notes an option with its value. -/
def put (reading : Reading) (rule : OptionRule) (value : String) : Except UsageError Reading :=
  if (reading.given.lookup rule.long).isSome then .error .repeated
  else
    match rule.kind.fault? value with
    | some fault => .error fault
    | none => .ok { reading with given := (rule.long, value) :: reading.given }

/-- Checks the pending value. -/
def settle (reading : Reading) : Except UsageError Reading :=
  match reading.pending with
  | none => .ok reading
  | some (_, none) => .error .missingValue
  | some (rule, some value) =>
    { reading with pending := none, expectsValue := false }.put rule value

/-- Notes an option that takes no value. -/
def putFlag (reading : Reading) (rule : OptionRule) : Except UsageError Reading := do
  let reading ← reading.settle
  match rule.kind with
  | .help => .error .helpWanted
  | .version => .error .versionWanted
  | _ => reading.put rule ""

/-- Notes an option whose value is attached to it, or comes next. -/
def putOption (reading : Reading) (rule : OptionRule) (attached? : Option String) :
    Except UsageError Reading := do
  let reading ← reading.settle
  match attached? with
  | some value => reading.put rule value
  | none => .ok { reading with pending := some (rule, none), expectsValue := true }

end Reading

/-- Whether an option takes a value. -/
def OptionRule.takesValue (rule : OptionRule) : Bool :=
  match rule.kind with
  | .path => true
  | .text => true
  | .port => true
  | _ => false

/-- A long option without its hyphens. -/
def readLong (grammar : Grammar) (reading : Reading) (word : List Char) :
    Except UsageError Reading :=
  let name := word.takeWhile (· != '=')
  let attached? :=
    match word.drop name.length with
    | _ :: value => some (String.ofList value)
    | [] => none
  match grammar.options.find? fun rule => rule.long == String.ofList name with
  | none => .error .unknownWord
  | some rule =>
    if rule.takesValue then reading.putOption rule attached?
    else if attached?.isSome then .error .unwantedValue
    else reading.putFlag rule

/-- The letters of short options without their hyphen. What follows the letter of an option that
takes a value is the value. -/
def readShort (grammar : Grammar) (reading : Reading) : List Char → Except UsageError Reading
  | [] => .ok reading
  | c :: rest =>
    match grammar.options.find? fun rule => rule.short? == some c with
    | none => .error .unknownWord
    | some rule =>
      if rule.takesValue then
        let attached? :=
          match rest with
          | [] => none
          | '=' :: value => some (String.ofList value)
          | value => some (String.ofList value)
        reading.putOption rule attached?
      else
        match reading.putFlag rule with
        | .ok reading => readShort grammar reading rest
        | .error e => .error e

/-- A word that is no option. -/
def readArgument (grammar : Grammar) (reading : Reading) (word : String) :
    Except UsageError Reading :=
  match grammar.argument? with
  | some rule =>
    if reading.hasArgument then .error .unknownWord
    else
      match reading.settle with
      | .ok reading =>
        .ok { reading with pending := some (rule, some word), hasArgument := true }
      | .error e => .error e
  | none =>
    if grammar.commands.isEmpty then .error .unknownWord
    else if reading.onlyArguments && grammar.commands.contains word then .error .unknownWord
    else .error .unknownCommand

/-- One word that names no command. -/
def readWord (grammar : Grammar) (reading : Reading) (word : String) :
    Except UsageError Reading :=
  if reading.onlyArguments then readArgument grammar reading word
  else
    match word.toList with
    | ['-', '-'] => .ok { reading with onlyArguments := true }
    | '-' :: '-' :: long => readLong grammar reading long
    | '-' :: c :: short => readShort grammar reading (c :: short)
    | _ =>
      match reading.pending with
      | some (rule, none) =>
        if reading.expectsValue then
          .ok { reading with pending := some (rule, some word), expectsValue := false }
        else readArgument grammar reading word
      | _ => readArgument grammar reading word

/-- The options and the argument of some words, and the command that comes next with the words
after it. -/
def readWords (grammar : Grammar) (reading : Reading) :
    List String → Except UsageError (List (String × String) × Option (String × List String))
  | [] => reading.settle.map fun reading => (reading.given, none)
  | word :: rest =>
    if !reading.onlyArguments && !reading.expectsValue && grammar.commands.contains word then
      reading.settle.map fun reading => (reading.given, some (word, rest))
    else
      match readWord grammar reading word with
      | .ok reading => readWords grammar reading rest
      | .error e => .error e

end StaticSite.CommandLine
