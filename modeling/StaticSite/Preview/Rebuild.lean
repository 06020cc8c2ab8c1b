import StaticSite.Session

/-!
# Rebuilding while a site is previewed

The changes that are noted while a rebuild runs are one batch, which the next rebuild works off. A
change of the configuration loads it again; if that fails, the batch is dropped and the old
configuration stays.
-/

namespace StaticSite

/-- What is noted about the files of a site. -/
inductive WatchEvent where
  /-- Some changes. -/
  | changed (changes : List Change)
  /-- A failure of the watch itself. -/
  | failed (reason : String)
  deriving DecidableEq, Repr

/-- A site that is previewed. -/
structure Preview where
  /-- The builder. -/
  builder : Builder
  /-- The configuration file. -/
  configPath : Path
  /-- The directory under which relative paths are taken. -/
  base : Path
  /-- Whether pages tell browsers to reload them. -/
  liveReload : Bool

namespace Preview

/-- The changes of some events; failures are printed. -/
def collect : List WatchEvent → Work (List Change)
  | [] => return []
  | .changed changes :: rest => return changes ++ (← collect rest)
  | .failed reason :: rest => do
    Work.warn ("Watch error: " ++ reason)
    collect rest

/-- The preview with the configuration loaded again, if that succeeds. -/
def reload? (environment : List (String × String)) (preview : Preview) :
    Work (Option Preview) := do
  match Config.load (← Work.files) environment preview.configPath with
  | .ok config =>
    Work.say ("Reloaded " ++ preview.configPath.text)
    let builder :=
      Builder.ofConfig config preview.base preview.builder.registry preview.liveReload
    return some { preview with builder }
  | .error e =>
    Work.warn ("Keeping previous config: " ++ e.message)
    return none

/-- Rebuilds the site in a scope; the second result says whether browsers have to reload. -/
def rebuild (preview : Preview) (scope : Scope) : Work (Preview × Bool) := do
  match ← Work.attemptBuild (preview.builder.rebuild scope) with
  | .ok (result, builder) =>
    Work.reportBuild result
    return ({ preview with builder }, true)
  | .error e =>
    Work.warn ("Build error: " ++ e.message)
    return (preview, false)

/-- Works off a batch of events; the second result says whether browsers have to reload. -/
def handle (environment : List (String × String)) (preview : Preview)
    (events : List WatchEvent) : Work (Preview × Bool) := do
  let changes ← collect events
  let scope := Scope.ofChanges changes
  if scope.isEmpty then return (preview, false)
  else
    Work.say ("\nDetected " ++ toString changes.length ++ " change(s), rebuilding...")
    if scope = .config then
      match ← preview.reload? environment with
      | some preview => preview.rebuild scope
      | none => return (preview, false)
    else preview.rebuild scope

end Preview

end StaticSite
