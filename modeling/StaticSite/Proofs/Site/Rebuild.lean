import StaticSite.Proofs.Site.Reports

/-!
# Targeted rebuilds

On a self-contained site whose content files have output files of their own, the tasks of a truthful
report bring an output that was up to date where a full build would bring it
(`sameOutput_of_runTasks`).
-/

namespace StaticSite.Builder

open StaticSite.Path Build

variable {builder rebuilt starter : Builder} {site site' built tree tree' : FileTree}
  {templates : ComposedTemplates} {renderer : Renderer} {scope : Scope} {tasks : List Task}
  {changes : List Change} {result result' : BuildResult}

/-- Whether a builder has its output directory by a path that goes up first and then only down, and
its metadata files apart from the pages. -/
structure Regular (builder : Builder) : Prop where
  direct : builder.paths.output.Direct
  metadata : builder.MetadataApart

/-- Whether a site is in order, reads no other content file and no output file, and shows all its
pages. -/
structure Orderly (builder : Builder) (site : FileTree) : Prop where
  wellFormed : site.WellFormed
  selfContained : builder.SelfContained site
  showsPages : builder.ShowsPages site

/-- Whether a file tree is another one with other files in the directory of content. -/
structure Edits (builder : Builder) (tree tree' : FileTree) : Prop where
  current : tree'.current = tree.current
  file? : ∀ place, ¬ builder.contentPlace tree <+: place → tree'.file? place = tree.file? place

/-- Whether two file trees have the same files in the output directory. -/
def SameOutput (builder : Builder) (tree tree' : FileTree) : Prop :=
  ∀ names ≠ [], tree.file? (builder.outputPlace tree ++ names) =
    tree'.file? (builder.outputPlace tree' ++ names)

/-! ## Builds and rebuilds -/

/-- Templates depend on the configuration and the directories of a builder alone. -/
theorem composeTemplates_congr {builder' : Builder} (hconfig : builder'.config = builder.config)
    (hpaths : builder'.paths = builder.paths) (tree : FileTree) :
    builder'.composeTemplates tree = builder.composeTemplates tree := by
  have htemplate : builder'.composeTemplate tree = builder.composeTemplate tree := by
    funext location
    simp only [composeTemplate, setting, hconfig, hpaths]
  have hchildren (table : Table String) :
      builder'.composeChildren tree table = builder.composeChildren tree table := by
    induction table with
    | nil => rfl
    | cons entry table ih => simp only [composeChildren, htemplate, hpaths, ih]
  simp only [composeTemplates, composeLayout, hchildren, htemplate, hconfig, hpaths]

section Cache

variable (builder) (cache : Option ComposedTemplates)

private theorem pageHtml_withCache (tree : FileTree) (templates : ComposedTemplates)
    (renderer : Renderer) (page : Path) :
    ({ builder with cache := cache } : Builder).pageHtml tree templates renderer page =
      builder.pageHtml tree templates renderer page := by
  simp only [pageHtml, setting]

private theorem buildFiles_withCache (templates : ComposedTemplates) (renderer : Renderer)
    (files : List Path) (result : BuildResult) :
    ({ builder with cache := cache } : Builder).buildFiles templates renderer files result =
      builder.buildFiles templates renderer files result := by
  induction files generalizing result with
  | nil => rfl
  | cons file files ih =>
    simp only [buildFiles, notePage, noteAsset, buildPage, copyAsset, pageHtml_withCache, outputPath,
      outputPath?, isSidecar, ih]
    rfl

private theorem notePage_withCache (templates : ComposedTemplates) (renderer : Renderer)
    (result : BuildResult) (page : Path) :
    ({ builder with cache := cache } : Builder).notePage templates renderer result page =
      builder.notePage templates renderer result page := by
  simp only [notePage, buildPage, pageHtml_withCache, outputPath, outputPath?]

private theorem buildPages_withCache (templates : ComposedTemplates) (renderer : Renderer)
    (pages : List Path) (result : BuildResult) :
    ({ builder with cache := cache } : Builder).buildPages templates renderer pages result =
      builder.buildPages templates renderer pages result := by
  induction pages generalizing result with
  | nil => rfl
  | cons page pages ih => simp only [buildPages, notePage_withCache, ih]

/-- Tasks are given their templates. -/
theorem runTasks_withCache (templates : ComposedTemplates) (renderer : Renderer)
    (tasks : List Task) (result : BuildResult) :
    ({ builder with cache := cache } : Builder).runTasks templates renderer tasks result =
      builder.runTasks templates renderer tasks result := by
  induction tasks generalizing result with
  | nil => rfl
  | cons task tasks ih =>
    cases task with
    | page page => simp only [runTasks, runTask, notePage_withCache, ih]
    | directory directory => simp only [runTasks, runTask, buildPages_withCache, pagesIn, ih]
    | asset file =>
      simp only [runTasks, runTask, noteAsset, copyAsset, outputPath, outputPath?, isSidecar, ih]
      rfl
    | remove file =>
      simp only [runTasks, runTask, removeOutput, outputPath, outputPath?, isSidecar, ih]
      rfl

/-- A full build does not look at the templates of an earlier one. -/
theorem build_withCache : ({ builder with cache := cache } : Builder).build = builder.build := by
  have htemplates (tree : FileTree) : ({ builder with cache := cache } : Builder).composeTemplates tree =
      builder.composeTemplates tree := by
    refine composeTemplates_congr ?_ ?_ tree <;> rfl
  simp only [build, directoryError?, htemplates, buildFiles_withCache, Builder.renderer,
    prepareOutput, noResult]

end Cache

theorem rebuild_full : builder.rebuild .full = builder.build := by
  unfold rebuild
  rfl

theorem rebuild_config : builder.rebuild .config = builder.build := by
  unfold rebuild
  rfl

theorem rebuild_files (hcache : builder.cache = some templates)
    (hrenderer : builder.renderer templates = .ok renderer) :
    builder.rebuild (.files tasks) = do
      let result ← builder.runTasks templates renderer tasks builder.noResult
      return (result, builder) := by
  unfold rebuild
  rw [hcache]
  dsimp only
  rw [hrenderer]

theorem rebuild_of_noCache (hcache : builder.cache = none) : builder.rebuild scope = builder.build := by
  cases scope with
  | full => exact rebuild_full
  | config => exact rebuild_config
  | files tasks =>
    unfold rebuild
    rw [hcache]

/-- A targeted rebuild that succeeds has done its tasks, and the builder stays. -/
theorem exists_of_rebuild_files (hcache : builder.cache = some templates)
    (h : (builder.rebuild (.files tasks)).Gives tree (result, rebuilt) tree') :
    rebuilt = builder ∧ ∃ renderer, builder.renderer templates = .ok renderer ∧
      (builder.runTasks templates renderer tasks builder.noResult).Gives tree result tree' := by
  cases hrenderer : builder.renderer templates with
  | error e =>
    unfold rebuild at h
    simp only [hcache, hrenderer] at h
    exact absurd h not_gives_fail
  | ok renderer =>
    rw [rebuild_files hcache hrenderer] at h
    obtain ⟨found, tree₁, hrun, hdone⟩ := gives_bind.mp h
    obtain ⟨hsame, rfl⟩ := gives_pure.mp hdone
    obtain ⟨rfl, rfl⟩ := Prod.mk.inj hsame
    exact ⟨rfl, renderer, rfl, hrun⟩

/-- A rebuild with cached templates is a full build, or does the tasks of its scope. -/
theorem rebuild_cases (hcache : builder.cache = some templates)
    (hrenderer : builder.renderer templates = .ok renderer)
    (h : (builder.rebuild scope).Gives tree (result, rebuilt) tree') :
    builder.build.Gives tree (result, rebuilt) tree' ∨
      ∃ tasks, scope = .files tasks ∧
        (builder.runTasks templates renderer tasks builder.noResult).Gives tree result tree' := by
  cases scope with
  | full =>
    rw [rebuild_full] at h
    exact Or.inl h
  | config =>
    rw [rebuild_config] at h
    exact Or.inl h
  | files tasks =>
    obtain ⟨-, found, hfound, hrun⟩ := exists_of_rebuild_files hcache h
    obtain rfl := Except.ok.inj (hfound.symm.trans hrenderer)
    exact Or.inr ⟨tasks, rfl, hrun⟩

theorem tasks_of_files (h : Scope.ofChanges changes = .files tasks) :
    tasks = Change.tasks changes := by
  rw [Scope.ofChanges] at h
  split_ifs at h
  exact (Scope.files.inj h).symm

/-! ## Agreement -/

theorem revises_of_edits (hstage : builder.Stage site built) (hedits : builder.Edits built site') :
    builder.Revises site site' where
  current := hedits.current.trans hstage.current
  file? place hplace := by
    rw [hedits.file? place (by rw [hstage.contentPlace_eq]; exact hplace.1),
      hstage.file? place hplace.2]

/-- No output file lies in the directory of content. -/
theorem Grounded.output_outside (h : builder.Grounded site) (names : List String) :
    ¬ builder.contentPlace site <+: builder.outputPlace site ++ names :=
  fun hbegins ↦ h.toSeparate.not_isPrefix hbegins (List.prefix_append _ _)

/-- Tasks of a truthful report bring an output that was up to date where a full build would bring
it. -/
theorem sameOutput_of_runTasks (hregular : builder.Regular)
    (hsite : builder.Orderly site) (hsite' : builder.Orderly site')
    (hbuilt : builder.UpToDate site templates renderer built)
    (hedits : builder.Edits built site') (hreports : builder.Reports site site' changes)
    (hapart : builder.Apart fun file ↦ builder.Wanted site file ∨ builder.Wanted site' file ∨
      builder.Reported changes file)
    (hfresh : builder.UpToDate site' templates renderer tree')
    (hrun : (builder.runTasks templates renderer (Change.tasks changes) result').Gives site' result
      tree) (hok : result.failures = []) : builder.SameOutput tree tree' := by
  have hrevises := revises_of_edits hbuilt.stage hedits
  have hprogress := progress_runTasks hfresh.grounded hregular.direct hsite'.showsPages
    hregular.metadata hfresh.grounded.stage
    (fun task ↦ hreports.fits (hapart.mono fun file ↦ Or.inr)) hrun hok
  intro names hnames
  rw [hprogress.stage.outputPlace_eq, hfresh.stage.outputPlace_eq]
  rcases hprogress.settled names with hsettled | ⟨hunchanged, huntouched⟩
  · -- What was worked on is what a full build has.
    have hsame : builder.Revision site' site' :=
      ⟨hfresh.grounded, hfresh.grounded, .refl _ _, hsite'.selfContained, hsite'.selfContained⟩
    exact Settled.file?_eq hsame hregular.metadata
      (hapart.mono fun file hfile ↦ Or.inr (Or.inl (hfile.elim id id)))
      (fun file _ _ ↦ .refl _ _ _) (hfresh.settled names hnames) hsettled
  · -- What was not worked on has not changed, and neither has its output file.
    have hrevision : builder.Revision site site' := ⟨hbuilt.grounded, hfresh.grounded, hrevises,
      hsite.selfContained, hsite'.selfContained⟩
    have hkeeps (file : ContentName) (hfile : builder.outputNames file = names)
        (hwanted : builder.Wanted site file ∨ builder.Wanted site' file) :
        builder.Keeps site site' file := by
      by_contra hnot
      obtain ⟨task, hmem, hworks⟩ := hreports.exists_worksOn hwanted hnot
      exact huntouched ⟨task, hmem, hfile ▸ hworks⟩
    have hold : site'.file? (builder.outputPlace site' ++ names) =
        built.file? (builder.outputPlace site ++ names) := by
      rw [hrevises.outputPlace_eq, hedits.file?]
      rw [hbuilt.stage.contentPlace_eq]
      exact hbuilt.grounded.output_outside names
    rw [hunchanged, hold]
    exact (Settled.file?_eq hrevision hregular.metadata
      (hapart.mono fun file hfile ↦ hfile.imp_right Or.inl) hkeeps (hbuilt.settled names hnames)
      (hfresh.settled names hnames)).symm

/-- Work has one result. -/
theorem tree_eq_of_gives {α : Type} {work : Build α} {a a' : α} {before after after' : FileTree}
    (h : work.Gives before a after) (h' : work.Gives before a' after') : after = after' :=
  (gives_iff.mp h).2.symm.trans (gives_iff.mp h').2

end StaticSite.Builder
