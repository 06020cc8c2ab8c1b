import StaticSite.Preview.Rebuild
import StaticSite.Proofs.Session
import StaticSite.Proofs.Site.Flat
import StaticSite.Proofs.Site.Rebuild

/-!
# Batches of a preview

What a batch of changes does to the files and to the preview does not depend on what has been printed
before (`handle_eq`). A batch with a change of the configuration asks for one build of everything,
whatever else it holds; if the configuration cannot be loaded then, nothing is built, and all of its
changes are dropped: the preview goes on as if there had been no such batch
(`run_of_broken_config`).
-/

namespace StaticSite.Preview

variable {environment : List (String × String)} {preview : Preview} {files : FileTree}
  {session : Session} {events : List WatchEvent} {changes : List Change} {e : ConfigError}

/-- The changes of some events. -/
def changesOf : List WatchEvent → List Change
  | [] => []
  | .changed changes :: rest => changes ++ changesOf rest
  | .failed _ :: rest => changesOf rest

/-- The builder of a configuration that has been loaded again. -/
def builderOf (preview : Preview) (config : Config) : Builder :=
  .ofConfig config preview.base preview.builder.registry preview.liveReload

/-- The builder and the scope for the next rebuild, if changes ask for one that can be done. -/
def plan? (environment : List (String × String)) (preview : Preview) (files : FileTree)
    (changes : List Change) : Option (Builder × Scope) :=
  let scope := Scope.ofChanges changes
  if scope.isEmpty then none
  else if scope = .config then
    match Config.load files environment preview.configPath with
    | .ok config => some (preview.builderOf config, scope)
    | .error _ => none
  else some (preview.builder, scope)

/-- The preview and the files after a rebuild with a builder. -/
def rebuilt (preview : Preview) (files : FileTree) (builder : Builder) (scope : Scope) :
    Preview × FileTree :=
  match builder.rebuild scope files with
  | (.ok (_, builder), files) => ({ preview with builder }, files)
  | (.error _, files) => ({ preview with builder }, files)

/-- The preview and the files after the work that changes ask for. -/
def settle (environment : List (String × String)) (preview : Preview) (files : FileTree)
    (changes : List Change) : Preview × FileTree :=
  match plan? environment preview files changes with
  | none => (preview, files)
  | some (builder, scope) => preview.rebuilt files builder scope

/-! ## What a batch does -/

/-- Failures of the watch are printed, and the changes are collected. -/
theorem collect_eq (events : List WatchEvent) (session : Session) :
    ∃ middle, collect events session = (.ok (changesOf events), middle) ∧
      middle.files = session.files := by
  induction events generalizing session with
  | nil => exact ⟨session, rfl, rfl⟩
  | cons event rest ih =>
    cases event with
    | changed changes =>
      obtain ⟨middle, hrest, hfiles⟩ := ih session
      exact ⟨middle, Work.bind_eq hrest, hfiles⟩
    | failed reason =>
      obtain ⟨middle, hrest, hfiles⟩ := ih (Work.warn ("Watch error: " ++ reason) session).2
      exact ⟨middle, (Work.bind_eq rfl).trans hrest, hfiles⟩

theorem rebuild_eq (preview : Preview) (scope : Scope) (session : Session) :
    ∃ reload middle, preview.rebuild scope session =
        (.ok ((preview.rebuilt session.files preview.builder scope).1, reload), middle) ∧
      middle.files = (preview.rebuilt session.files preview.builder scope).2 := by
  rw [Preview.rebuild, rebuilt]
  cases hbuild : preview.builder.rebuild scope session.files with
  | mk found files =>
    have hattempt : Work.attemptBuild (preview.builder.rebuild scope) session =
        (.ok found, { session with files }) := by rw [Work.attemptBuild, hbuild]
    rw [Work.bind_eq hattempt]
    cases found with
    | error e => exact ⟨false, _, rfl, rfl⟩
    | ok built =>
      obtain ⟨middle, hreport, hfiles⟩ := Work.reportBuild_eq built.1 { session with files }
      exact ⟨true, middle, Work.bind_eq hreport, hfiles⟩

/-- A configuration that cannot be loaded is reported, and the old one stays. -/
theorem reload?_eq_none (h : Config.load session.files environment preview.configPath = .error e) :
    ∃ middle, preview.reload? environment session = (.ok none, middle) ∧
      middle.files = session.files := by
  have hfiles : Work.files session = (.ok session.files, session) := rfl
  rw [reload?, Work.bind_eq hfiles, h]
  exact ⟨_, rfl, rfl⟩

theorem reload?_eq_some {config : Config}
    (h : Config.load session.files environment preview.configPath = .ok config) :
    ∃ middle, preview.reload? environment session =
        (.ok (some { preview with builder := preview.builderOf config }), middle) ∧
      middle.files = session.files := by
  have hfiles : Work.files session = (.ok session.files, session) := rfl
  rw [reload?, Work.bind_eq hfiles, h]
  exact ⟨_, rfl, rfl⟩

/-- What a batch does is settled by its changes, the preview and the files. -/
theorem handle_eq (environment : List (String × String)) (preview : Preview)
    (events : List WatchEvent) (session : Session) :
    ∃ reload later, handle environment preview events session =
        (.ok ((settle environment preview session.files (changesOf events)).1, reload), later) ∧
      later.files = (settle environment preview session.files (changesOf events)).2 := by
  obtain ⟨middle, hcollect, hfiles⟩ := collect_eq events session
  rw [handle, Work.bind_eq hcollect, settle, plan?, ← hfiles]
  by_cases hempty : (Scope.ofChanges (changesOf events)).isEmpty
  · rw [if_pos hempty, if_pos hempty]
    exact ⟨false, middle, rfl, rfl⟩
  rw [if_neg hempty, if_neg hempty]
  -- What is printed first leaves the files alone.
  generalize hline : "\nDetected " ++ toString (changesOf events).length ++
    " change(s), rebuilding..." = line
  obtain ⟨noted, hsay, hnoted⟩ : ∃ noted, Work.say line middle = (.ok (), noted) ∧
      noted.files = middle.files := ⟨_, rfl, rfl⟩
  rw [Work.bind_eq hsay, ← hnoted]
  by_cases hconfig : Scope.ofChanges (changesOf events) = .config
  · rw [if_pos hconfig, if_pos hconfig]
    cases hload : Config.load noted.files environment preview.configPath with
    | error e =>
      obtain ⟨later, hreload, hlater⟩ := reload?_eq_none hload
      rw [Work.bind_eq hreload]
      exact ⟨false, later, rfl, hlater⟩
    | ok config =>
      obtain ⟨later, hreload, hlater⟩ := reload?_eq_some hload
      rw [Work.bind_eq hreload, ← hlater]
      exact rebuild_eq _ _ later
  · rw [if_neg hconfig, if_neg hconfig]
    exact rebuild_eq _ _ noted

/-! ## A preview under way -/

/-- What happens while a site is previewed. -/
inductive Happening where
  /-- Files are edited. -/
  | edit (files : FileTree)
  /-- Events are worked off as one batch. -/
  | batch (events : List WatchEvent)

/-- The preview and the session after something happened. -/
def advance (environment : List (String × String)) (now : Preview × Session) :
    Happening → Preview × Session
  | .edit files => (now.1, { now.2 with files })
  | .batch events =>
    match handle environment now.1 events now.2 with
    | (.ok (preview, _), session) => (preview, session)
    | (.error _, session) => (now.1, session)

/-- The preview and the session after a history. -/
def run (environment : List (String × String)) (start : Preview × Session)
    (history : List Happening) : Preview × Session :=
  history.foldl (advance environment) start

/-- The preview and the files, without what has been printed. -/
def situation (now : Preview × Session) : Preview × FileTree := (now.1, now.2.files)

variable {now now' start : Preview × Session} {before later history : List Happening}

theorem situation_batch (environment : List (String × String)) (now : Preview × Session)
    (events : List WatchEvent) :
    situation (advance environment now (.batch events)) =
      settle environment now.1 now.2.files (changesOf events) := by
  obtain ⟨reload, later, hhandle, hfiles⟩ := handle_eq environment now.1 events now.2
  rw [advance, hhandle]
  exact Prod.ext rfl hfiles

/-- What has been printed has no effect on what comes. -/
theorem situation_advance (h : situation now = situation now') (happening : Happening) :
    situation (advance environment now happening) =
      situation (advance environment now' happening) := by
  obtain ⟨hpreview, hfiles⟩ := Prod.mk.inj h
  cases happening with
  | edit files => exact Prod.ext hpreview rfl
  | batch events => rw [situation_batch, situation_batch, hpreview, hfiles]

theorem situation_run (h : situation now = situation now') (history : List Happening) :
    situation (run environment now history) = situation (run environment now' history) := by
  induction history generalizing now now' with
  | nil => exact h
  | cons happening history ih => exact ih (situation_advance h happening)

theorem run_append (start : Preview × Session) (before later : List Happening) :
    run environment start (before ++ later) =
      run environment (run environment start before) later := List.foldl_append

/-- Changes with one of a configuration that cannot be loaded do nothing. -/
theorem settle_of_broken_config (hconfig : .config ∈ changes)
    (hload : Config.load files environment preview.configPath = .error e) :
    settle environment preview files changes = (preview, files) := by
  have hscope := Scope.ofChanges_of_config hconfig
  have hplan : plan? environment preview files changes = none := by
    rw [plan?, hscope, hload]
    rfl
  rw [settle, hplan]

theorem situation_batch_of_broken_config (hconfig : .config ∈ changesOf events)
    (hload : Config.load now.2.files environment now.1.configPath = .error e) :
    situation (advance environment now (.batch events)) = situation now := by
  rw [situation_batch, settle_of_broken_config hconfig hload]
  rfl

/-- A batch with a change of a configuration that cannot be loaded is dropped with all of its
changes: it leaves the files as they are, and after more has happened, preview and files are as they
are without the batch. So the files are as after a rebuild for its other changes just where that
rebuild has nothing to do. -/
theorem run_of_broken_config (environment : List (String × String)) (start : Preview × Session)
    (before later : List Happening) (events : List WatchEvent)
    (hconfig : .config ∈ changesOf events)
    (hload : Config.load (run environment start before).2.files environment
      (run environment start before).1.configPath = .error e) :
    let now := run environment start before
    let rest := Scope.ofChanges ((changesOf events).filter (· ≠ .config))
    (run environment start (before ++ [.batch events])).2.files = now.2.files ∧
      situation (run environment start (before ++ .batch events :: later)) =
        situation (run environment start (before ++ later)) ∧
      ((run environment start (before ++ [.batch events])).2.files =
          (now.1.builder.rebuild rest now.2.files).2 ↔
        (now.1.builder.rebuild rest now.2.files).2 = now.2.files) := by
  intro now rest
  have hdropped : situation (advance environment now (.batch events)) = situation now :=
    situation_batch_of_broken_config hconfig hload
  have hfiles : (run environment start (before ++ [.batch events])).2.files = now.2.files := by
    rw [run_append]
    exact congrArg Prod.snd hdropped
  refine ⟨hfiles, ?_, by rw [hfiles, eq_comm]⟩
  rw [run_append, run_append]
  exact situation_run hdropped later

/-! ## A page and the configuration in one batch -/

/-- A site without a layout, with a page that has been edited since it was built, and with a
configuration file that cannot be read. -/
def editedTree (output : String) : FileTree where
  entries := [(["rbuild.yaml"], .file (.text "[")), (["template"], .directory),
    (["origin"], .directory), (["origin", "a.html"], .file (.text "new")), (["public"], .directory),
    (["public", "a.html"], .file (.text output))]
  current := []

/-- The preview of the site, with the configuration that it had before. -/
def editedPreview : Preview := ⟨.flat (some Builder.plainTemplates), ⟨"rbuild.yaml"⟩, ⟨""⟩, false⟩

/-- The batch of both edits. -/
def edits : List WatchEvent := [.changed [.config, .page ⟨"origin/a.html"⟩ false]]

private theorem load_edited :
    Config.load (editedTree "old") [] ⟨"rbuild.yaml"⟩ = .error .malformed := by
  have hhas : (editedTree "old").hasEntry ⟨"rbuild.yaml"⟩ = true := rfl
  have hread : (editedTree "old").readText ⟨"rbuild.yaml"⟩ = .ok "[" := rfl
  have hyaml : Config.ofYaml? "[" = none := by cbv
  simp [Config.load, Config.read, hhas, hread, hyaml]

theorem run_of_broken_config_edits :
    let start : Preview × Session := (editedPreview, { files := editedTree "old" })
    .config ∈ changesOf edits ∧
      Config.load (run [] start []).2.files [] (run [] start []).1.configPath =
        .error .malformed ∧
      (run [] start ([] ++ [.batch edits])).2.files = (run [] start []).2.files ∧
      situation (run [] start ([] ++ .batch edits :: [])) = situation (run [] start ([] ++ [])) := by
  intro start
  have hconfig : .config ∈ changesOf edits := by decide
  have hdropped := run_of_broken_config [] start [] [] edits hconfig load_edited
  exact ⟨hconfig, load_edited, hdropped.1, hdropped.2.1⟩

/-- The edit of the page is lost, though a rebuild for it alone shows it. -/
theorem edits_lost :
    let start : Preview × Session := (editedPreview, { files := editedTree "old" })
    let rest := Scope.ofChanges ((changesOf edits).filter (· ≠ .config))
    Config.load start.2.files [] start.1.configPath = .error .malformed ∧
      (run [] start [.batch edits]).2.files.file? ["public", "a.html"] = some (.text "old") ∧
      (start.1.builder.rebuild rest start.2.files).2.file? ["public", "a.html"] =
        some (.text "new") ∧
      (run [] start [.batch edits]).2.files ≠ (start.1.builder.rebuild rest start.2.files).2 := by
  intro start rest
  have hkept : (run [] start [.batch edits]).2.files = editedTree "old" :=
    congrArg Prod.snd (@situation_batch_of_broken_config [] edits _ start (by decide) load_edited)
  have hscope : rest = .files [.page ⟨"origin/a.html"⟩] := by decide
  have hhtml : (Builder.flat (some Builder.plainTemplates)).pageHtml (editedTree "old")
      Builder.plainTemplates .identity ⟨"origin/a.html"⟩ = .ok "new" :=
    Builder.pageHtml_of_fillMarkers rfl rfl rfl rfl (Marker.isPlain_of_not_mem (by decide)) rfl
  have houtput : (Builder.flat (some Builder.plainTemplates)).outputPath? ⟨"origin/a.html"⟩ =
      some ⟨"public/a.html"⟩ := rfl
  have hwrite : (Build.writeOutput ⟨"public/a.html"⟩ "new").Gives (editedTree "old") ()
      (editedTree "new") := rfl
  have hrebuilt : (start.1.builder.rebuild rest).Gives start.2.files
      (⟨⟨"public"⟩, 1, 0, 0, []⟩, start.1.builder) (editedTree "new") := by
    rw [hscope, Builder.rebuild_files rfl Builder.renderer_plainTemplates]
    refine Build.gives_bind.mpr ⟨_, _, ?_, Build.gives_pure.mpr ⟨rfl, rfl⟩⟩
    refine Build.gives_bind.mpr ⟨_, _, ?_, Build.gives_pure.mpr ⟨rfl, rfl⟩⟩
    exact Builder.gives_notePage_of_writeOutput hhtml houtput hwrite
  obtain ⟨-, hfiles⟩ := Build.gives_iff.mp hrebuilt
  have hold : (editedTree "old").file? ["public", "a.html"] = some (.text "old") := rfl
  have hnew : (editedTree "new").file? ["public", "a.html"] = some (.text "new") := rfl
  rw [hkept, hfiles]
  refine ⟨load_edited, hold, hnew, fun hsame ↦ ?_⟩
  rw [hsame, hnew] at hold
  exact absurd hold (by decide)

end StaticSite.Preview
