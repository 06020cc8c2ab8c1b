import StaticSite.CommandLine.Run

/-!
# The program

The program reads the files around it into a file tree, runs the command on the tree, writes what
has changed back, and prints what the command printed. Files outside of the current directory are
read only below the directories that the command line names.
-/

namespace StaticSite.Program

/-- The names that lead to an absolute path. -/
def placeOf (path : String) : Place := (path.splitOn "/").filter fun name => !name.isEmpty

/-- The directories above a place, from the outermost, and the place itself. -/
def placesTo (place : Place) : List Place :=
  (List.range place.length).map fun n => place.take (n + 1)

/-- The path of a place. -/
def pathText (place : Place) : String := (FileTree.pathOf place).text

/-- Everything below a place, the place included. -/
partial def readPlace (place : Place) : IO (List (Place × Entry)) := do
  let path ← IO.FS.realPath (pathText place)
  if ← path.isDir then
    let mut entries : List (Place × Entry) := [(place, .directory)]
    for entry in ← path.readDir do
      entries := entries ++ (← readPlace (place ++ [entry.fileName]))
    return entries
  else
    return [(place, .file (Content.ofBytes (← IO.FS.readBinFile path)))]

/-- The files below some directories, as far as they exist. -/
def readFiles (current : Place) (directories : List Place) : IO FileTree := do
  let mut tree : FileTree := ⟨[], current⟩
  for directory in directories do
    try
      for (place, entry) in ← readPlace directory do
        tree := tree.set place entry
      for place in placesTo directory do
        if (tree.get? place).isNone then tree := tree.set place .directory
    catch _ => pure ()
  return tree

/-- Writes what is new or changed, and deletes what is gone, the innermost first. -/
def writeChanges (before after : FileTree) : IO Unit := do
  for (place, entry) in after.entries do
    if before.get? place != some entry then
      match entry with
      | .directory => IO.FS.createDirAll (pathText place)
      | .file (.text s) => IO.FS.writeFile (pathText place) s
      | .file (.binary bytes) => IO.FS.writeBinFile (pathText place) ⟨bytes.toArray⟩
  for (place, entry) in before.entries.mergeSort fun a b => a.1.length ≥ b.1.length do
    if (after.get? place).isNone then
      match entry with
      | .directory => IO.FS.removeDir (pathText place)
      | .file _ => IO.FS.removeFile (pathText place)

/-- The variables of the environment that the configuration heeds. -/
def readEnvironment : IO (List (String × String)) := do
  let mut found : List (String × String) := []
  for setting in ["OUTPUT", "TEMPLATES", "CONTENT", "SITE_URL", "RETRIES"] do
    for name in ["RBUILD_" ++ setting, ("RBUILD_" ++ setting).toLower] do
      if let some value ← IO.getEnv name then found := found ++ [(name, value)]
  return found

/-- The path that a command names. -/
def namedPath (command : CommandLine.Command) : Path :=
  match command with
  | .scaffold directory _ => directory
  | .build configFile => configFile.configDirectory
  | .serve options => options.configFile.configDirectory
  | .clean configFile _ => configFile.configDirectory

/-- How the program is used. -/
def usageText : String :=
  "Usage: rbuild [--verbose] <init|build|serve|clean|help> [options]\n"

/-- Runs the program on its words and gives its exit code. -/
def run (words : List String) : IO UInt32 := do
  match CommandLine.Arguments.ofWords words with
  | .error .versionWanted =>
    IO.print "rbuild 0.3.0\n"
    return 0
  | .error e =>
    if e.exitCode = 0 then IO.print usageText else IO.eprint usageText
    return e.exitCode.toUInt32
  | .ok arguments =>
    let current := placeOf (← IO.currentDir).toString
    let named := ((FileTree.pathOf current).join (namedPath arguments.command)).normalize
    let files ← readFiles current [current, placeOf named.text]
    let host : CommandLine.Host :=
      { environment := ← readEnvironment
        openBrowser := fun _ => some FileFault.missing.message
        listen := fun _ => some "Operation not supported (os error 95)" }
    let (session, code) := arguments.command.runReporting host files
    writeChanges files session.files
    IO.print session.output
    IO.eprint session.diagnostics
    return code.toUInt32

end StaticSite.Program

/-- The program. -/
def main (words : List String) : IO UInt32 := StaticSite.Program.run words
