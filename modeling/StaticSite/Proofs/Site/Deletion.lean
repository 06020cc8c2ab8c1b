import StaticSite.Proofs.Site.Clash
import StaticSite.Proofs.Site.Rework
import StaticSite.Proofs.Site.Safety

/-!
# Deleted content

A batch that names files and directories of content which are gone asks for the removal of their
output (`Deletions.exists_remove`). The removal of a file's output succeeds, but where a directory
stands in its place it ends the rebuild, whatever is left to do. So after a full build a batch is
applied completely exactly if no path that it names has a directory for its output, and it names all
files with an output below what it names (`applies_iff`). This holds where it names files alone, and
`not_applies_nested` deletes a directory.
-/

namespace StaticSite

open StaticSite.Path Build FileTree

namespace Build

variable {α : Type} {tree : FileTree} {path : Path} {result : BuildResult}

/-! ## Work that succeeds -/

/-- Steps that succeed do so together, if they keep what this takes. -/
theorem exists_gives_foldlM {holds : FileTree → Prop} {step : BuildResult → α → Build BuildResult}
    {items : List α} (hstep : ∀ item ∈ items, ∀ result tree, holds tree →
      ∃ result₁ tree₁, (step result item).Gives tree result₁ tree₁ ∧ holds tree₁) (h : holds tree) :
    ∃ result₁ tree₁, (items.foldlM step result).Gives tree result₁ tree₁ ∧ holds tree₁ := by
  induction items generalizing result tree with
  | nil => exact ⟨result, tree, gives_pure.mpr ⟨rfl, rfl⟩, h⟩
  | cons item items ih =>
    obtain ⟨result₁, tree₁, hfirst, hholds⟩ := hstep item List.mem_cons_self result tree h
    obtain ⟨result₂, tree₂, hrest, hlast⟩ :=
      ih (fun item hmem ↦ hstep item (List.mem_cons_of_mem _ hmem)) hholds
    rw [List.foldlM_cons]
    exact ⟨result₂, tree₂, gives_bind.mpr ⟨_, _, hfirst, hrest⟩, hlast⟩

/-- Work on a file is noted unless its error ends the build. -/
theorem exists_gives_note {work : Build Bool} {count : BuildResult → BuildResult}
    (h : ∀ e tree₁, work.Fails tree e tree₁ → ¬ e.isFatal) :
    ∃ result₁ tree₁, (Builder.note result path work count).Gives tree result₁ tree₁ := by
  cases hwork : work tree with
  | mk found tree₁ =>
    have hattempt : (attempt work).Gives tree found tree₁ := gives_attempt.mpr (by simp [hwork])
    cases found with
    | error e =>
      refine ⟨{ result with failures := result.failures ++ [⟨path, e⟩] }, tree₁,
        gives_bind.mpr ⟨_, _, hattempt, ?_⟩⟩
      simp only [if_neg (h e tree₁ hwork)]
      exact gives_pure.mpr ⟨rfl, rfl⟩
    | ok done =>
      cases done with
      | true => exact ⟨_, tree₁, gives_bind.mpr ⟨_, _, hattempt, gives_pure.mpr ⟨rfl, rfl⟩⟩⟩
      | false => exact ⟨_, tree₁, gives_bind.mpr ⟨_, _, hattempt, gives_pure.mpr ⟨rfl, rfl⟩⟩⟩

/-- An output file that cannot be written does not end the build. -/
theorem not_isFatal_of_fails_writeOutput {text : String} {e : BuildError} {tree₁ : FileTree}
    (h : (writeOutput path text).Fails tree e tree₁) : ¬ e.isFatal := by
  rcases fails_bind.mp h with hparent | ⟨made, tree₂, -, hwrite⟩
  · rw [ensureParent] at hparent
    split at hparent
    · obtain ⟨fault, -, rfl⟩ := fails_ensureDirectory.mp hparent
      simp [BuildError.isFatal]
    · exact absurd hparent not_fails_pure
  · obtain ⟨fault, -, rfl, -⟩ := fails_change.mp hwrite
    simp [BuildError.isFatal]

end Build

namespace Builder

variable {builder starter : Builder} {site built later after tree tree₁ : FileTree}
  {file other page : ContentName} {path : Path} {changes : List Change} {task : Task}
  {templates : ComposedTemplates} {renderer : Renderer} {first result result₁ : BuildResult}

section Pages

variable (hcompose : ∀ text e, tree.readText path = .ok text →
  (Compose.compose (builder.setting tree) text (.file path)).result = .error e → ¬ e.isFatal)

include hcompose

/-- A page without an HTML ends the build only if its composition does. -/
private theorem not_isFatal_of_pageHtml {e : BuildError}
    (h : builder.pageHtml tree templates renderer path = .error e) : ¬ e.isFatal := by
  rw [pageHtml] at h
  split at h
  · obtain rfl := Except.error.inj h
    simp [BuildError.isFatal]
  next text htext =>
  simp only at h
  split at h
  · next e' hcomposed =>
    obtain rfl := Except.error.inj h
    exact hcompose text e' htext hcomposed
  next composed _ =>
  split at h
  · obtain rfl := Except.error.inj h
    simp [BuildError.isFatal]
  · simp at h

/-- Work on a page is noted unless its composition ends the build. -/
theorem exists_gives_notePage (hpath : (builder.outputPath? path).isSome) :
    ∃ result₁ tree₁,
      (builder.notePage templates renderer result path).Gives tree result₁ tree₁ := by
  obtain ⟨output, hpath⟩ := Option.isSome_iff_exists.mp hpath
  refine exists_gives_note fun e tree₁ h ↦ ?_
  rcases fails_bind.mp h with hbuild | ⟨built, tree₂, -, hdone⟩
  · rcases fails_bind.mp hbuild with hfiles | ⟨found, tree₂, hfiles, hrest⟩
    · exact absurd hfiles not_fails_files
    obtain ⟨rfl, rfl⟩ := gives_files.mp hfiles
    split at hrest
    · next e' hhtml =>
      obtain ⟨rfl, -⟩ := fails_fail.mp hrest
      exact not_isFatal_of_pageHtml hcompose hhtml
    · rcases fails_bind.mp hrest with houtput | ⟨found, tree₂, -, hwrite⟩
      · rw [outputPath, hpath] at houtput
        exact absurd houtput not_fails_pure
      · exact not_isFatal_of_fails_writeOutput hwrite
  · exact absurd hdone not_fails_pure

end Pages

/-- The search for pages succeeds. -/
theorem exists_gives_pagesIn {directory : Path} :
    ∃ pages, (builder.pagesIn directory).Gives tree pages tree := by
  obtain ⟨pages, hpages⟩ : ∃ pages, (builder.pagesIn directory tree).1 = .ok pages := by
    rw [pagesIn, run_bind]
    simp only [files]
    split_ifs with hdirectory
    · obtain ⟨htext, hpassable, hget⟩ := isDirectory_iff.mp hdirectory
      rw [list_eq_ok_iff.mpr ⟨htext, hpassable, hget, rfl⟩]
      exact ⟨_, rfl⟩
    · exact ⟨_, rfl⟩
  exact ⟨pages, gives_iff.mpr ⟨hpages, tree_pagesIn⟩⟩

/-! ## Batches of deletions -/

theorem path_eq_of_report_eq {path path' : Path} {deleted deleted' : Bool}
    (h : builder.report path deleted = builder.report path' deleted') : path = path' := by
  rw [report, report] at h
  split_ifs at h <;> simp_all

/-- Whether all changes of a batch say of content that is not there, a file or a directory, that it is
deleted. -/
def Deletions (builder : Builder) (site : FileTree) (changes : List Change) : Prop :=
  ∀ change ∈ changes, ∃ file path, builder.IsPathOf file path ∧ ¬ file.IsHidden ∧
    site.get? (builder.placeOf site file) = none ∧ change = builder.report path true

/-- Whether a batch says that a file is deleted. -/
def Deletes (builder : Builder) (changes : List Change) (file : ContentName) : Prop :=
  ∃ path, builder.IsPathOf file path ∧ builder.report path true ∈ changes

/-- Whether a page lies beside metadata that a batch says is deleted. -/
structure Revisits (builder : Builder) (site : FileTree) (changes : List Change) (page : ContentName) :
    Prop where
  isPage : builder.IsPageName page
  isSome : (site.file? (builder.placeOf site page)).isSome
  beside : ∃ file, builder.Deletes changes file ∧ builder.IsSidecarName file ∧
    page.directory = file.directory

/-- Whether no page beside deleted metadata ends a rebuild, or has its output where the output of a
deleted file was, or below. -/
structure Endures (builder : Builder) (site : FileTree) (changes : List Change) : Prop where
  composes : ∀ page tree path text e, builder.Revisits site changes page →
    SameOutside (builder.outputPlace site) site tree → builder.LeadsTo path page →
    tree.readText path = .ok text →
    (Compose.compose (builder.setting tree) text (.file path)).result = .error e → ¬ e.isFatal
  apart : ∀ page file, builder.Revisits site changes page → builder.Deletes changes file →
    ¬ builder.outputNames file <+: builder.outputNames page

/-- Whether a rebuild for a batch succeeds and leaves no output of what the batch says is deleted, or
of what lay below it. -/
def Applies (builder : Builder) (site : FileTree) (changes : List Change) : Prop :=
  ∃ result after, (builder.rebuild (Scope.ofChanges changes)).Gives site (result, builder) after ∧
    ∀ file other, builder.Deletes changes file → file.names <+: other.names →
      after.file? (builder.outputPlaceOf after other) = none

/-- Whether a batch names whatever has an output below what it says is deleted, and no output of that
is a directory. -/
structure Covers (builder : Builder) (site : FileTree) (changes : List Change) : Prop where
  not_directory : ∀ file, builder.Deletes changes file → ¬ builder.IsSidecarName file →
    site.get? (builder.outputPlaceOf site file) ≠ some .directory
  named : ∀ file other, builder.Deletes changes file → file.names <+: other.names →
    (site.file? (builder.outputPlaceOf site other)).isSome →
      ∃ named, builder.Deletes changes named ∧ ¬ builder.IsSidecarName named ∧
        builder.outputNames named = builder.outputNames other

namespace Deletions

variable (h : builder.Deletions site changes)

include h

theorem tells : builder.Tells changes := by
  intro change hmem
  obtain ⟨file, path, hpath, hshown, -, rfl⟩ := h change hmem
  exact ⟨file, path, true, hpath, Or.inr hshown, rfl⟩

/-- What is deleted is not hidden, and not there. -/
theorem get?_eq_none (hfile : builder.Deletes changes file) :
    ¬ file.IsHidden ∧ site.get? (builder.placeOf site file) = none := by
  obtain ⟨path, hpath, hmem⟩ := hfile
  obtain ⟨other, path', hpath', hshown, hnone, hsame⟩ := h _ hmem
  obtain rfl := path_eq_of_report_eq hsame
  obtain rfl := hpath.unique hpath'
  exact ⟨hshown, hnone⟩

/-- The tasks are to remove output, and to work on the pages beside metadata. -/
theorem cases_of_mem_tasks (hmem : task ∈ Change.tasks changes) :
    (∃ file path, builder.Deletes changes file ∧ ¬ builder.IsSidecarName file ∧
        builder.IsPathOf file path ∧ task = .remove path) ∨
      ∃ file directory, builder.Deletes changes file ∧ builder.IsSidecarName file ∧
        directory.components = builder.directoryComponents file ∧ task = .directory directory := by
  obtain ⟨before, change, after, hsplit, htask, -⟩ := Change.mem_tasks_iff.mp hmem
  have hchange : change ∈ changes := by simp [hsplit]
  obtain ⟨file, path, hpath, -, -, rfl⟩ := h change hchange
  have hdeletes : builder.Deletes changes file := ⟨path, hpath, hchange⟩
  by_cases hsidecar : builder.IsSidecarName file
  · obtain ⟨directory, hdirectory, hcomponents⟩ := task?_report_of_sidecar hpath hsidecar true
    exact Or.inr ⟨file, directory, hdeletes, hsidecar, hcomponents,
      Option.some.inj (htask.symm.trans hdirectory)⟩
  · rw [task?_report hpath hsidecar] at htask
    exact Or.inl ⟨file, path, hdeletes, hsidecar, hpath, (Option.some.inj htask).symm⟩

/-- The output of whatever is deleted is to be removed, unless that is metadata. -/
theorem exists_remove (hfile : builder.Deletes changes file) (hsidecar : ¬ builder.IsSidecarName file) :
    ∃ path, .remove path ∈ Change.tasks changes ∧ builder.LeadsTo path file := by
  obtain ⟨path, hpath, hmem⟩ := hfile
  obtain ⟨task, htask, hsame⟩ := Change.exists_mem_tasks hmem (task?_report hpath hsidecar true)
  obtain ⟨hkind, hcomponents⟩ := Task.sameTarget_iff.mp hsame
  rcases h.cases_of_mem_tasks htask with ⟨other, found, -, -, -, rfl⟩ | ⟨_, _, -, -, -, rfl⟩
  · exact ⟨found, htask, hcomponents.trans hpath.leadsTo⟩
  · simp [Task.isDirectory] at hkind

/-- What is made are pages beside metadata. -/
theorem exists_revisits {names : List String} (hmem : task ∈ Change.tasks changes)
    (hmakes : builder.Makes site names task) :
    ∃ page, builder.Revisits site changes page ∧ builder.outputNames page = names := by
  rcases h.cases_of_mem_tasks hmem with ⟨_, _, -, -, -, rfl⟩ | ⟨file, directory, hdeletes, hsidecar,
    hcomponents, rfl⟩
  · exact hmakes.elim
  · obtain ⟨page, hdirectory, hpage, hsome, hnames⟩ := hmakes
    exact ⟨page, ⟨hpage, hsome, file, hdeletes, hsidecar,
      eq_of_append_map_normal (hdirectory.symm.trans hcomponents)⟩, hnames⟩

end Deletions

/-! ## Rebuilds for deletions -/

section Rebuilds

variable (hseparate : builder.Separate site) (hsite : site.WellFormed)
  (hdirect : builder.paths.output.Direct) (hbatch : builder.Deletions site changes)
  (hpages : builder.Endures site changes)

include hseparate hsite hdirect hbatch hpages

omit hseparate hsite hdirect in
/-- Nothing is made where the output of deleted content was, or below. -/
private theorem not_isPrefix_of_makes (hfile : builder.Deletes changes file) :
    ∀ task ∈ Change.tasks changes, ∀ made, builder.Makes site made task →
      ¬ builder.outputNames file <+: made := by
  intro task hmem made hmakes
  obtain ⟨page, hrevisits, rfl⟩ := hbatch.exists_revisits hmem hmakes
  exact hpages.apart page file hrevisits hfile

omit hseparate hdirect in
/-- No page beside deleted metadata has the output of what was deleted, or lay below it. -/
private theorem outputNames_ne (hpage : builder.Revisits site changes page)
    (hfile : builder.Deletes changes file) (hle : file.names <+: other.names) :
    builder.outputNames page ≠ builder.outputNames other := by
  intro hsame
  have hdirectory : page.directory = other.directory := (List.append_inj' hsame rfl).1
  rcases List.prefix_concat_iff.mp hle with hnames | habove
  · obtain rfl := ContentName.names_injective hnames
    exact hpages.apart page file hpage hfile (hsame ▸ List.prefix_refl _)
  · have hthere := directory_of_names_isPrefix hsite.toClosed
      (isSome_get?_of_file? hpage.isSome) (hdirectory ▸ habove)
    simp [(hbatch.get?_eq_none hfile).2] at hthere

/-- The pages beside deleted metadata do not end a rebuild. -/
private theorem exists_gives_runDirectory {directory : Path}
    (h : builder.Reworks site (Change.tasks changes) site tree) (hfile : builder.Deletes changes file)
    (hsidecar : builder.IsSidecarName file) (hmem : .directory directory ∈ Change.tasks changes)
    (hcomponents : directory.components = builder.directoryComponents file) :
    ∃ result₁ tree₁,
      (builder.runTask templates renderer result (.directory directory)).Gives tree result₁ tree₁ := by
  have hbelow : ∀ task ∈ Change.tasks changes, builder.StaysBelow task :=
    fun task hmem ↦ hbatch.tells.staysBelow hmem
  obtain ⟨pages, hpagesIn⟩ : ∃ pages, (builder.pagesIn directory).Gives tree pages tree :=
    exists_gives_pagesIn
  have hstep (path : Path) (hpath : path ∈ pages) (result : BuildResult) (stage : FileTree)
      (hstage : builder.Reworks site (Change.tasks changes) site stage) :
      ∃ result₁ tree₁,
        (builder.notePage templates renderer result path).Gives stage result₁ tree₁ ∧
          builder.Reworks site (Change.tasks changes) site tree₁ := by
    have hclosed := (h.wellFormed hsite).toClosed
    have hvisits := visits_of_pagesIn hclosed hmem hpagesIn hpath
    obtain ⟨name, hname⟩ := components_of_pagesIn hclosed hpagesIn hpath
    have hpage : builder.LeadsTo path ⟨file.directory, name⟩ := by
      rw [leadsTo_iff, hname, hcomponents]
      rfl
    obtain ⟨output, houtput, -⟩ := hpage.exists_outputPath?_cases hseparate.outputText
    obtain ⟨result₁, tree₁, hgives⟩ :
        ∃ result₁ tree₁, (builder.notePage templates renderer result path).Gives stage result₁ tree₁ := by
      refine exists_gives_notePage (fun text e htext hcompose ↦ ?_) (by simp [houtput])
      refine hpages.composes _ stage path text e ⟨hpage.isPage_iff.mp hvisits.1, ?_, file, hfile,
        hsidecar, rfl⟩ hstage.alters.toSameOutside hpage htext hcompose
      rw [← hseparate.file?_placeOf hstage.alters.toSameOutside, ← hpage.placeOf_eq,
        file?_of_read (readText_eq_ok_iff.mp htext)]
      rfl
    exact ⟨result₁, tree₁, hgives, accumulates_reworks.trans hstage
      ((reworks_notePage hseparate hsite hdirect hbelow hstage hvisits).of_gives hgives)⟩
  obtain ⟨result₁, tree₁, hrest, -⟩ := exists_gives_foldlM hstep h
  refine ⟨result₁, tree₁, gives_bind.mpr ⟨pages, tree, hpagesIn, ?_⟩⟩
  rw [buildPages_eq_foldlM]
  exact hrest

/-- If no output of what is deleted is a directory, the rebuild succeeds. -/
private theorem exists_gives_runTasks (hnot : ∀ file, builder.Deletes changes file →
      ¬ builder.IsSidecarName file → site.get? (builder.outputPlaceOf site file) ≠ some .directory) :
    ∃ result₁ after, (builder.runTasks templates renderer (Change.tasks changes) result).Gives site
      result₁ after := by
  have hbelow : ∀ task ∈ Change.tasks changes, builder.StaysBelow task :=
    fun task hmem ↦ hbatch.tells.staysBelow hmem
  have hstep (task : Task) (hmem : task ∈ Change.tasks changes) (result : BuildResult)
      (tree : FileTree) (h : builder.Reworks site (Change.tasks changes) site tree) :
      ∃ result₁ tree₁, (builder.runTask templates renderer result task).Gives tree result₁ tree₁ ∧
        builder.Reworks site (Change.tasks changes) site tree₁ := by
    obtain ⟨result₁, tree₁, hgives⟩ : ∃ result₁ tree₁,
        (builder.runTask templates renderer result task).Gives tree result₁ tree₁ := by
      rcases hbatch.cases_of_mem_tasks hmem with ⟨file, path, hfile, hsidecar, hpath, rfl⟩ |
        ⟨file, directory, hfile, hsidecar, hcomponents, rfl⟩
      · have hnames : builder.outputNames file ≠ [] := by simp [outputNames]
        have hnone : tree.get? (builder.outputPlaceOf tree file) ≠ some .directory := by
          rw [outputPlaceOf_congr h.adds.current]
          rcases h.get?_cases hnames (not_isPrefix_of_makes hbatch hpages hfile) with hsame | ⟨-, hgone⟩
          · exact fun hdirectory ↦ hnot file hfile hsidecar (hsame ▸ hdirectory)
          · exact fun hdirectory ↦ by simp [outputPlaceOf, hgone] at hdirectory
        obtain ⟨done, tree₁, hremove⟩ := exists_gives_removeOutput (h.wellFormed hsite).toClosed hdirect
          hseparate.outputText hpath.leadsTo ((hbelow _ hmem).hasStem hpath.leadsTo) hsidecar hnone
        cases done with
        | true => exact ⟨_, tree₁, gives_bind.mpr ⟨_, _, hremove, gives_pure.mpr ⟨rfl, rfl⟩⟩⟩
        | false => exact ⟨_, tree₁, gives_bind.mpr ⟨_, _, hremove, gives_pure.mpr ⟨rfl, rfl⟩⟩⟩
      · exact exists_gives_runDirectory hseparate hsite hdirect hbatch hpages h hfile hsidecar hmem
          hcomponents
    exact ⟨result₁, tree₁, hgives, accumulates_reworks.trans h
      ((reworks_runTask hseparate hsite hdirect hbelow h hmem).of_gives hgives)⟩
  obtain ⟨result₁, after, hgives, -⟩ := exists_gives_foldlM hstep (accumulates_reworks.refl site)
  exact ⟨result₁, after, runTasks_eq_foldlM ▸ hgives⟩

/-- What a rebuild for deletions that succeeds leaves of the output of content: none of what is to be
removed, and all else but what is made. -/
private theorem file?_of_runTasks
    (hgives : (builder.runTasks templates renderer (Change.tasks changes) result).Gives site result₁
      after) :
    after.current = site.current ∧
    (∀ file, builder.Deletes changes file → ¬ builder.IsSidecarName file →
      site.get? (builder.outputPlaceOf site file) ≠ some .directory ∧
        after.get? (builder.outputPlaceOf site file) = none) ∧
    ∀ file other, builder.Deletes changes file → file.names <+: other.names →
      after.file? (builder.outputPlaceOf site other) = site.file? (builder.outputPlaceOf site other) ∨
        ∃ named, builder.Deletes changes named ∧ ¬ builder.IsSidecarName named ∧
          builder.outputNames named = builder.outputNames other := by
  have hbelow : ∀ task ∈ Change.tasks changes, builder.StaysBelow task :=
    fun task hmem ↦ hbatch.tells.staysBelow hmem
  have hreworks : builder.Reworks site (Change.tasks changes) site after :=
    (reworks_runTasks hseparate hsite hdirect hbelow (accumulates_reworks.refl site)
      (List.Subset.refl _)).of_gives hgives
  refine ⟨hreworks.adds.current, ?_, ?_⟩
  · intro file hfile hsidecar
    obtain ⟨path, hmem, hpath⟩ := hbatch.exists_remove hfile hsidecar
    exact get?_of_mem_remove hseparate hsite hdirect hbelow hmem hpath hsidecar
      (not_isPrefix_of_makes hbatch hpages hfile) hgives
  · intro file other hfile hle
    rcases hreworks.alters.below (builder.outputNames other) (by simp [outputNames]) with hsame |
      ⟨⟨task, hmem, hmakes⟩, -⟩ | ⟨⟨task, hmem, hdrops⟩, -⟩
    · exact Or.inl hsame
    · obtain ⟨page, hpage, hnames⟩ := hbatch.exists_revisits hmem hmakes
      exact absurd hnames (outputNames_ne hsite hbatch hpages hpage hfile hle)
    · rcases hbatch.cases_of_mem_tasks hmem with ⟨named, path, hnamed, hsidecar, hpath, rfl⟩ |
        ⟨_, _, -, -, -, rfl⟩
      · obtain ⟨found, hfound, -, hsame⟩ := hdrops
        obtain rfl := hfound.unique hpath.leadsTo
        exact Or.inr ⟨found, hnamed, hsidecar, hsame⟩
      · exact hdrops.elim

/-- A rebuild for deletions is applied completely exactly if the batch covers what it says is deleted. -/
theorem applies_iff_covers (hcache : builder.cache = some templates)
    (hrenderer : builder.renderer templates = .ok renderer) :
    builder.Applies site changes ↔ builder.Covers site changes := by
  have hscope := hbatch.tells.ofChanges_eq
  constructor
  · rintro ⟨result, after, hgives, hgone⟩
    rw [hscope] at hgives
    obtain ⟨-, renderer, -, hrun⟩ := exists_of_rebuild_files hcache hgives
    obtain ⟨hcurrent, hremoved, hkept⟩ := file?_of_runTasks hseparate hsite hdirect hbatch hpages hrun
    refine ⟨fun file hfile hsidecar ↦ (hremoved file hfile hsidecar).1,
      fun file other hfile hle hsome ↦ (hkept file other hfile hle).resolve_left fun hsame ↦ ?_⟩
    have hnone := hgone file other hfile hle
    rw [outputPlaceOf_congr hcurrent, hsame] at hnone
    simp [hnone] at hsome
  · intro hcovers
    obtain ⟨result, after, hrun⟩ : ∃ result after,
        (builder.runTasks templates renderer (Change.tasks changes) builder.noResult).Gives site
          result after :=
      exists_gives_runTasks hseparate hsite hdirect hbatch hpages hcovers.not_directory
    obtain ⟨hcurrent, hremoved, hkept⟩ := file?_of_runTasks hseparate hsite hdirect hbatch hpages hrun
    refine ⟨result, after, ?_, fun file other hfile hle ↦ ?_⟩
    · rw [hscope, rebuild_files hcache hrenderer]
      exact gives_bind.mpr ⟨_, _, hrun, gives_pure.mpr ⟨rfl, rfl⟩⟩
    rw [outputPlaceOf_congr hcurrent]
    have hnone (h : ∃ named, builder.Deletes changes named ∧ ¬ builder.IsSidecarName named ∧
        builder.outputNames named = builder.outputNames other) :
        after.file? (builder.outputPlaceOf site other) = none := by
      obtain ⟨named, hnamed, hsidecar, hsame⟩ := h
      have hgone := (hremoved named hnamed hsidecar).2
      rw [outputPlaceOf, hsame, ← outputPlaceOf] at hgone
      rw [FileTree.file?, hgone]
    rcases hkept file other hfile hle with hsame | hnamed
    · by_cases hsome : (site.file? (builder.outputPlaceOf site other)).isSome
      · exact hnone (hcovers.named file other hfile hle hsome)
      · rw [hsame]
        simpa using hsome
    · exact hnone hnamed

end Rebuilds

/-! ## Files alone -/

/-- A batch that names files alone covers them, after a full build that had no failures and has not
taken metadata for pages. -/
private theorem covers_of_files (hsite : site.WellFormed) (hdirect : builder.paths.output.Direct)
    (hhtml : (builder.registry.forExtension? "html").isSome)
    (hgives : builder.build.Gives site (first, builder) built) (hok : first.failures = [])
    (hedits : builder.Edits built later) (hbatch : builder.Deletions later changes)
    (hfiles : ∀ file, builder.Deletes changes file →
      (site.file? (builder.placeOf site file)).isSome ∧
        (builder.IsSidecarName file → ¬ builder.IsPageName file)) :
    builder.Covers later changes := by
  obtain ⟨walked, failed, -, hwalked, hmirrors⟩ :=
    exists_mirrors_of_gives_build hsite hdirect hhtml hgives
  have hfailed : failed = [] := by simpa [hok] using hmirrors.failures
  subst hfailed
  obtain ⟨-, -, -, -, hdirectories, -⟩ := gives_build.mp hgives
  have hgrounded := grounded_of_directoryError? hsite hdirectories
  have hcurrent : later.current = site.current := hedits.current.trans hmirrors.stage.current
  -- The output is still what the build has left.
  have houtput (other : ContentName) : (later.file? (builder.outputPlaceOf later other)).isSome ↔
      ∃ kept, builder.Taken walked [] kept ∧ builder.outputNames kept = builder.outputNames other := by
    rw [outputPlaceOf_congr hcurrent, hedits.file?]
    · exact hmirrors.output _ (by simp [outputNames])
    · rw [hmirrors.stage.contentPlace_eq]
      exact hgrounded.output_outside _
  refine ⟨fun file hfile hsidecar hdirectory ↦ ?_, fun file other hfile hle hsome ↦ ?_⟩
  · have htaken : builder.Taken walked [] file :=
      ⟨(hwalked file).mpr ⟨(hbatch.get?_eq_none hfile).1, (hfiles file hfile).1⟩, by simp,
        fun hskipped ↦ hsidecar hskipped.1⟩
    have hsome := (houtput file).mpr ⟨file, htaken, rfl⟩
    simp [file?_of_directory hdirectory] at hsome
  · obtain ⟨kept, hkept, hnames⟩ := (houtput other).mp hsome
    have hthere := (hwalked kept).mp hkept.mem
    have hdirectory : kept.directory = other.directory := (List.append_inj' hnames rfl).1
    obtain ⟨hfileThere, hmetadata⟩ := hfiles file hfile
    rcases List.prefix_concat_iff.mp hle with hsame | habove
    · obtain rfl := ContentName.names_injective hsame
      refine ⟨file, hfile, fun hsidecar ↦ hkept.not_skipped ?_, rfl⟩
      -- Metadata is no page, so that the output is its own.
      have hpage := hmetadata hsidecar
      obtain rfl := eq_of_outputNames_eq hhtml (isName_of_file? hsite.toClosed hthere.2)
        (ContentName.not_isHiddenName hthere.1) hpage hnames.symm
      exact ⟨hsidecar, hpage⟩
    · have hisDirectory := directory_of_names_isPrefix hsite.toClosed
        (isSome_get?_of_file? hthere.2) (hdirectory ▸ habove)
      simp [file?_of_directory hisDirectory] at hfileThere

/-- After a full build a batch that says of files and directories of content that they are deleted is
applied completely exactly if it names whatever has an output below what it names, and no output of
what it names is a directory. So it is for files alone, if the build had no failures and no metadata
is a page. Pages beside deleted metadata must not end the rebuild, nor have their output where the
output of deleted content was, or below. -/
theorem applies_iff (hsite : site.WellFormed) (hdirect : builder.paths.output.Direct)
    (hhtml : (builder.registry.forExtension? "html").isSome)
    (hgives : starter.build.Gives site (first, builder) built) (hlater : later.WellFormed)
    (hedits : builder.Edits built later) (hbatch : builder.Deletions later changes)
    (hpages : builder.Endures later changes) :
    (builder.Applies later changes ↔ builder.Covers later changes) ∧
      (first.failures = [] → (∀ file, builder.Deletes changes file →
          (site.file? (builder.placeOf site file)).isSome ∧
            (builder.IsSidecarName file → ¬ builder.IsPageName file)) →
        builder.Applies later changes) := by
  obtain ⟨hbuild, -⟩ := gives_build_of_starter hgives
  obtain ⟨templates, renderer, -, -, hdirectories, -, hrenderer, -, -, -, hcache⟩ :=
    gives_build.mp hbuild
  obtain ⟨walked, failed, -, -, hmirrors⟩ := exists_mirrors_of_gives_build hsite hdirect hhtml hbuild
  have hseparate : builder.Separate later :=
    (separate_of_directoryError? hsite.toClosed.currentName hdirectories).congr rfl
      (hedits.current.trans hmirrors.stage.current)
  have hcovers := applies_iff_covers hseparate hlater hdirect hbatch hpages
    (congrArg Builder.cache hcache) hrenderer
  exact ⟨hcovers, fun hok hfiles ↦ hcovers.mpr
    (covers_of_files hsite hdirect hhtml hbuild hok hedits hbatch hfiles)⟩

/-- A file of a flat site is deleted. -/
theorem applies_flat :
    (flat (some plainTemplates)).Applies (.flat [("b.txt", "b")] [("a.txt", "a"), ("b.txt", "b")])
      [.asset ⟨"origin/a.txt"⟩ true] := by
  have hbuild : (flat none).build.Gives (.flat [("a.txt", "a"), ("b.txt", "b")] [])
      (⟨⟨"public"⟩, 0, 2, 0, []⟩, flat (some plainTemplates))
      (.flat [("a.txt", "a"), ("b.txt", "b")] [("a.txt", "a"), ("b.txt", "b")]) := by
    have hfirst : ((flat none).noteAsset (flat none).noResult ⟨"origin/a.txt"⟩).Gives
        (.flat [("a.txt", "a"), ("b.txt", "b")] []) ⟨⟨"public"⟩, 0, 1, 0, []⟩
        (.flat [("a.txt", "a"), ("b.txt", "b")] [("a.txt", "a")]) := rfl
    have hsecond : ((flat none).noteAsset ⟨⟨"public"⟩, 0, 1, 0, []⟩ ⟨"origin/b.txt"⟩).Gives
        (.flat [("a.txt", "a"), ("b.txt", "b")] [("a.txt", "a")]) ⟨⟨"public"⟩, 0, 2, 0, []⟩
        (.flat [("a.txt", "a"), ("b.txt", "b")] [("a.txt", "a"), ("b.txt", "b")]) := rfl
    refine gives_build_of_walk (.flat [("a.txt", "a"), ("b.txt", "b")] [])
      [⟨"origin/a.txt"⟩, ⟨"origin/b.txt"⟩] (by decide) rfl rfl ?_ (by decide)
      (gives_bind.mpr ⟨_, _, hfirst, gives_bind.mpr ⟨_, _, hsecond, gives_pure.mpr ⟨rfl, rfl⟩⟩⟩)
    have hlist : (FileTree.flat [("a.txt", "a"), ("b.txt", "b")] []).list ⟨"origin"⟩ =
        .ok ["a.txt", "b.txt"] := rfl
    change FileTree.walk _ _ ⟨"origin"⟩ = _
    simp [FileTree.walk, FileTree.walkNames, hlist]
    rfl
  have hpath : (flat (some plainTemplates)).IsPathOf ⟨[], "a.txt"⟩
      (Path.join ⟨"origin"⟩ ⟨"a.txt"⟩) :=
    isPathOf_join (List.append_nil _).symm (by decide) (by decide)
  have hdeletes {file : ContentName}
      (h : (flat (some plainTemplates)).Deletes [.asset ⟨"origin/a.txt"⟩ true] file) :
      file = ⟨[], "a.txt"⟩ := by
    obtain ⟨path, hfile, hmem⟩ := h
    have hsame : (flat (some plainTemplates)).report path true =
        (flat (some plainTemplates)).report (Path.join ⟨"origin"⟩ ⟨"a.txt"⟩) true :=
      (List.mem_singleton.mp hmem).trans rfl
    obtain rfl := path_eq_of_report_eq hsame
    exact hfile.unique hpath
  have hplain : ¬ (flat (some plainTemplates)).IsSidecarName ⟨[], "a.txt"⟩ := by decide
  refine (applies_iff (wellFormed_flat (by decide) (by decide) (by decide))
    ⟨[], ["public"], rfl, by simp⟩ rfl hbuild (wellFormed_flat (by decide) (by decide) (by decide))
    edits_flat ?_ ⟨?_, ?_⟩).2 rfl ?_
  · intro change hmem
    obtain rfl := List.mem_singleton.mp hmem
    refine ⟨_, _, hpath, by decide, ?_, rfl⟩
    rw [Builder.placeOf, contentPlace_flat]
    rfl
  · rintro page tree path text e ⟨-, -, file, hfile, hsidecar, -⟩
    exact absurd (hdeletes hfile ▸ hsidecar) hplain
  · rintro page file ⟨-, -, beside, hbeside, hsidecar, -⟩
    exact absurd (hdeletes hbeside ▸ hsidecar) hplain
  · intro file hfile
    obtain rfl := hdeletes hfile
    exact ⟨by rw [Builder.placeOf, contentPlace_flat]; rfl, fun hsidecar ↦ absurd hsidecar hplain⟩

/-! ## A directory -/

/-- A file tree without a layout, with any content and output. -/
def nested (content output : List (Place × Entry)) : FileTree where
  entries := [(["template"], .directory), (["origin"], .directory), (["public"], .directory)] ++
    (content ++ output)
  current := []

/-- A file, and another one in a directory. -/
def nestedContent : List (Place × Entry) :=
  [(["origin", "b.txt"], .file (.text "b")), (["origin", "d"], .directory),
    (["origin", "d", "a.txt"], .file (.text "a"))]

/-- Their output. -/
def nestedOutput : List (Place × Entry) :=
  [(["public", "b.txt"], .file (.text "b")), (["public", "d"], .directory),
    (["public", "d", "a.txt"], .file (.text "a"))]

private theorem gives_build_nested : (flat none).build.Gives (nested nestedContent [])
    (⟨⟨"public"⟩, 0, 2, 0, []⟩, flat (some plainTemplates)) (nested nestedContent nestedOutput) := by
  have hfirst : ((flat none).noteAsset (flat none).noResult ⟨"origin/b.txt"⟩).Gives
      (nested nestedContent []) ⟨⟨"public"⟩, 0, 1, 0, []⟩
      (nested nestedContent (nestedOutput.take 1)) := rfl
  have hsecond : ((flat none).noteAsset ⟨⟨"public"⟩, 0, 1, 0, []⟩ ⟨"origin/d/a.txt"⟩).Gives
      (nested nestedContent (nestedOutput.take 1)) ⟨⟨"public"⟩, 0, 2, 0, []⟩
      (nested nestedContent nestedOutput) := rfl
  refine gives_build_of_walk (nested nestedContent []) [⟨"origin/b.txt"⟩, ⟨"origin/d/a.txt"⟩]
    (by decide) rfl rfl ?_ (by decide)
    (gives_bind.mpr ⟨_, _, hfirst, gives_bind.mpr ⟨_, _, hsecond, gives_pure.mpr ⟨rfl, rfl⟩⟩⟩)
  have hlist : (nested nestedContent []).list ⟨"origin"⟩ = .ok ["b.txt", "d"] := rfl
  have hbelow : (nested nestedContent []).list ⟨"origin/d"⟩ = .ok ["a.txt"] := rfl
  have hjoin : Path.join ⟨"origin"⟩ ⟨"b.txt"⟩ = ⟨"origin/b.txt"⟩ ∧
      Path.join ⟨"origin"⟩ ⟨"d"⟩ = ⟨"origin/d"⟩ ∧
      Path.join ⟨"origin/d"⟩ ⟨"a.txt"⟩ = ⟨"origin/d/a.txt"⟩ := ⟨rfl, rfl, rfl⟩
  have hhidden : isHiddenName "b.txt" = false ∧ isHiddenName "d" = false ∧
      isHiddenName "a.txt" = false := ⟨rfl, rfl, rfl⟩
  have hdirectory : (nested nestedContent []).isDirectory ⟨"origin/b.txt"⟩ = false ∧
      (nested nestedContent []).isDirectory ⟨"origin/d"⟩ = true ∧
      (nested nestedContent []).isDirectory ⟨"origin/d/a.txt"⟩ = false := ⟨rfl, rfl, rfl⟩
  change FileTree.walk _ 4 ⟨"origin"⟩ = _
  simp [FileTree.walk, FileTree.walkNames, hlist, hbelow, hjoin, hhidden, hdirectory]

/-- The directory and the other file are deleted. -/
def nestedChanges : List Change := [.asset ⟨"origin/d"⟩ true, .asset ⟨"origin/b.txt"⟩ true]

private theorem fails_rebuild_nested :
    ((flat (some plainTemplates)).rebuild (Scope.ofChanges nestedChanges)).Fails
      (nested [] nestedOutput) (.io .isDirectory) (nested [] nestedOutput) := by
  have hscope : Scope.ofChanges nestedChanges =
      .files [.remove ⟨"origin/d"⟩, .remove ⟨"origin/b.txt"⟩] := rfl
  have hremove : ((flat (some plainTemplates)).removeOutput ⟨"origin/d"⟩).Fails
      (nested [] nestedOutput) (.io .isDirectory) (nested [] nestedOutput) := rfl
  rw [hscope, rebuild_files rfl renderer_plainTemplates]
  exact fails_bind.mpr (Or.inl (fails_bind.mpr (Or.inl (fails_bind.mpr (Or.inl hremove)))))

/-- The removal of the output of a directory ends the rebuild, and the output of a file that is named
behind it stays, too. -/
theorem not_applies_nested :
    let builder := flat (some plainTemplates)
    let later := nested [] nestedOutput
    (flat none).build.Gives (nested nestedContent [])
        (⟨⟨"public"⟩, 0, 2, 0, []⟩, builder) (nested nestedContent nestedOutput) ∧
      [⟨⟨"origin/d"⟩, true⟩, ⟨⟨"origin/b.txt"⟩, true⟩].filterMap
        (Situation.flatWatch.classify later) = nestedChanges ∧
      builder.Deletions later nestedChanges ∧
      (builder.rebuild (Scope.ofChanges nestedChanges)).Fails later (.io .isDirectory) later ∧
      later.file? ["public", "d", "a.txt"] = some (.text "a") ∧
      later.file? ["public", "b.txt"] = some (.text "b") ∧ ¬ builder.Applies later nestedChanges := by
  refine ⟨gives_build_nested, rfl, ?_, fails_rebuild_nested, rfl, rfl, ?_⟩
  · have hpath {name : String} (hname : IsName name) : (flat (some plainTemplates)).IsPathOf ⟨[], name⟩
        (Path.join ⟨"origin"⟩ ⟨name⟩) :=
      isPathOf_join (List.append_nil _).symm (by decide) hname
    have hplace : (flat (some plainTemplates)).contentPlace (nested [] nestedOutput) = ["origin"] := rfl
    intro change hmem
    rcases List.mem_pair.mp hmem with rfl | rfl
    · exact ⟨⟨[], "d"⟩, _, hpath (by decide), by decide, by rw [Builder.placeOf, hplace]; rfl, rfl⟩
    · exact ⟨⟨[], "b.txt"⟩, _, hpath (by decide), by decide, by rw [Builder.placeOf, hplace]; rfl, rfl⟩
  · rintro ⟨result, after, hgives, -⟩
    cases congrArg Prod.fst (hgives.symm.trans fails_rebuild_nested)

end Builder

end StaticSite
