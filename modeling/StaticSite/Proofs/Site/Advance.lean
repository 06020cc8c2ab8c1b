import StaticSite.Proofs.Change.Tasks
import StaticSite.Proofs.Site.Agreement
import StaticSite.Proofs.Site.Sealed
import StaticSite.Proofs.Site.Tasks

/-!
# What work leaves of an output

On a site that does not change, every content file that is shown has one content that is due in its
output file (`Due.unique`). Work touches some output files and settles some of them; what it does not
touch stays, and what it settles has what is due (`Advance`). Of several pieces of work the last one
that touches an output file counts (`Advance.trans`). A task settles what it touches if it is right
about its file (`advance_runTask`), and a full build settles everything (`advance_build`).
-/

namespace StaticSite.Builder

open StaticSite.Path Build

variable {builder rebuilt : Builder} {site tree tree₁ tree₂ : FileTree} {file other : ContentName}
  {path directory : Path} {names : List String} {content : Content} {content? content?' : Option Content}
  {templates : ComposedTemplates} {renderer : Renderer} {result result₁ : BuildResult}
  {touches touches' settles settles' : List String → Prop} {task task' : Task} {tasks : List Task}

/-- Whether a content file has an output file: it is there and not hidden, and metadata only if it is
a page. -/
structure Shown (builder : Builder) (site : FileTree) (file : ContentName) : Prop where
  isSome : (site.file? (builder.placeOf site file)).isSome
  not_hidden : ¬ file.IsHidden
  isPage_or : builder.IsPageName file ∨ ¬ builder.IsSidecarName file

/-- What the output file of a content file holds, if it can be made. -/
def output? (builder : Builder) (site : FileTree) (templates : ComposedTemplates)
    (renderer : Renderer) (file : ContentName) : Option Content :=
  if builder.IsPageName file then
    (builder.pageHtml site templates renderer (builder.pathOf file)).toOption.map .text
  else site.file? (builder.placeOf site file)

/-- Whether a content, or its absence, is due in the output under names. -/
structure Due (builder : Builder) (site : FileTree) (templates : ComposedTemplates)
    (renderer : Renderer) (names : List String) (content? : Option Content) : Prop where
  made : ∀ content, content? = some content → ∃ file, builder.Shown site file ∧
    builder.outputNames file = names ∧ builder.output? site templates renderer file = some content
  isSome : ∀ file, builder.Shown site file → builder.outputNames file = names → content?.isSome

/-- Whether work has led to a stage on which the output files that it does not touch are as before,
and those that it settles hold what is due. -/
structure Advance (builder : Builder) (site : FileTree) (templates : ComposedTemplates)
    (renderer : Renderer) (tree tree₁ : FileTree) (touches settles : List String → Prop) :
    Prop where
  stage : builder.Stage site tree₁
  unchanged : ∀ names, ¬ touches names → tree₁.file? (builder.outputPlace site ++ names) =
    tree.file? (builder.outputPlace site ++ names)
  due : ∀ names, settles names → builder.Due site templates renderer names
    (tree₁.file? (builder.outputPlace site ++ names))

namespace Due

/-- Content files that do not share an output file leave one choice. -/
theorem unique (hapart : builder.Apart (builder.Shown site))
    (h : builder.Due site templates renderer names content?)
    (h' : builder.Due site templates renderer names content?') : content? = content?' := by
  cases content? with
  | none =>
    cases content?' with
    | none => rfl
    | some content =>
      obtain ⟨file, hshown, hnames, -⟩ := h'.made content rfl
      exact absurd (h.isSome file hshown hnames) (by simp)
  | some content =>
    obtain ⟨file, hshown, hnames, hcontent⟩ := h.made content rfl
    obtain ⟨content', rfl⟩ := Option.isSome_iff_exists.mp (h'.isSome file hshown hnames)
    obtain ⟨other, hother, hnames', hcontent'⟩ := h'.made content' rfl
    obtain rfl := hapart file other hshown hother (hnames.trans hnames'.symm)
    exact hcontent.symm.trans hcontent'

theorem of_output? (hshown : builder.Shown site file)
    (h : builder.output? site templates renderer file = some content) :
    builder.Due site templates renderer (builder.outputNames file) (some content) :=
  ⟨fun _ hsame ↦ ⟨file, hshown, rfl, h.trans hsame⟩, fun _ _ _ ↦ rfl⟩

theorem none (h : ∀ file, builder.Shown site file → builder.outputNames file ≠ names) :
    builder.Due site templates renderer names .none :=
  ⟨fun _ hsome ↦ by simp at hsome, fun file hshown hnames ↦ absurd hnames (h file hshown)⟩

end Due

namespace Advance

theorem refl (h : builder.Stage site tree) :
    builder.Advance site templates renderer tree tree (fun _ ↦ False) fun _ ↦ False :=
  ⟨h, fun _ _ ↦ rfl, fun _ ↦ False.elim⟩

theorem mono (h : builder.Advance site templates renderer tree tree₁ touches settles)
    (htouches : ∀ names, touches names → touches' names)
    (hsettles : ∀ names, settles' names → settles names) :
    builder.Advance site templates renderer tree tree₁ touches' settles' :=
  ⟨h.stage, fun names hnot ↦ h.unchanged names (mt (htouches names) hnot),
    fun names hsettled ↦ h.due names (hsettles names hsettled)⟩

/-- What the second work does not touch stays settled. -/
theorem trans (h : builder.Advance site templates renderer tree tree₁ touches settles)
    (h₁ : builder.Advance site templates renderer tree₁ tree₂ touches' settles') :
    builder.Advance site templates renderer tree tree₂ (fun names ↦ touches names ∨ touches' names)
      fun names ↦ settles' names ∨ settles names ∧ ¬ touches' names := by
  refine ⟨h₁.stage, fun names hnot ↦ ?_, fun names hsettled ↦ ?_⟩
  · rw [not_or] at hnot
    exact (h₁.unchanged names hnot.2).trans (h.unchanged names hnot.1)
  · rcases hsettled with hsettled | ⟨hsettled, hnot⟩
    · exact h₁.due names hsettled
    · rw [h₁.unchanged names hnot]
      exact h.due names hsettled

/-- A change to one output file. -/
theorem of_updates {right : Prop} (h : builder.Stage site tree)
    (hupdate : tree.Updates (builder.outputPlace site ++ names) content? tree₁)
    (hdue : right → builder.Due site templates renderer names content?) :
    builder.Advance site templates renderer tree tree₁ (· = names)
      fun other ↦ other = names ∧ right := by
  refine ⟨h.update hupdate, fun other hother ↦ ?_, ?_⟩
  · rw [hupdate.file?, if_neg (by simpa using hother)]
  · rintro other ⟨rfl, hright⟩
    rw [hupdate.file?, if_pos rfl]
    exact hdue hright

end Advance

/-! ## Work on lists -/

/-- Of several steps the last one that touches an output file counts, so they settle it if all that
touch it would. -/
theorem advance_foldlM {α : Type} {step : BuildResult → α → Build BuildResult} {items : List α}
    {touches right : α → List String → Prop}
    (hfailures : ∀ item result tree result₁ tree₁, (step result item).Gives tree result₁ tree₁ →
      result₁.failures = [] → result.failures = [])
    (hstep : ∀ item ∈ items, ∀ result tree result₁ tree₁, builder.Stage site tree →
      (step result item).Gives tree result₁ tree₁ → result₁.failures = [] →
        builder.Advance site templates renderer tree tree₁ (touches item)
          fun names ↦ touches item names ∧ right item names)
    (h : builder.Stage site tree) (hgives : (items.foldlM step result).Gives tree result₁ tree₁)
    (hok : result₁.failures = []) :
    builder.Advance site templates renderer tree tree₁
      (fun names ↦ ∃ item ∈ items, touches item names) fun names ↦
        (∃ item ∈ items, touches item names) ∧
          ∀ item ∈ items, touches item names → right item names := by
  induction items generalizing result tree with
  | nil =>
    obtain ⟨-, rfl⟩ := gives_pure.mp hgives
    exact (Advance.refl h).mono (fun _ ↦ False.elim) (by simp)
  | cons item items ih =>
    rw [List.foldlM_cons] at hgives
    obtain ⟨result₂, tree₂, hfirst, hrest⟩ := gives_bind.mp hgives
    have hadvance := hstep item List.mem_cons_self _ _ _ _ h hfirst
      (failures_of_foldlM hfailures hrest hok)
    refine (hadvance.trans (ih (fun item hmem ↦ hstep item (List.mem_cons_of_mem _ hmem))
      hadvance.stage hrest)).mono (fun names hnames ↦ by simpa using hnames) ?_
    rintro names ⟨⟨touching, hmem, htouches⟩, hright⟩
    by_cases hlater : ∃ item ∈ items, touches item names
    · exact .inl ⟨hlater, fun item hmem ↦ hright item (List.mem_cons_of_mem _ hmem)⟩
    · rcases List.mem_cons.mp hmem with rfl | hmem
      · exact .inr ⟨⟨htouches, hright touching List.mem_cons_self htouches⟩, hlater⟩
      · exact absurd ⟨touching, hmem, htouches⟩ hlater

/-! ## Work on single files -/

section Steps

variable (hsite : builder.Grounded site) (hsealed : builder.SealsPages site)
  (h : builder.Stage site tree)

include hsite h

/-- A file that is copied. -/
theorem advance_noteAsset (hpath : builder.IsPathOf file path) (hshown : ¬ file.IsHidden)
    (hsidecar : ¬ builder.IsSidecarName file) (hpage : ¬ builder.IsPageName file)
    (hgives : (builder.noteAsset result path).Gives tree result₁ tree₁)
    (hok : result₁.failures = []) :
    builder.Advance site templates renderer tree tree₁ (· = builder.outputNames file) fun names ↦
      names = builder.outputNames file ∧ (site.file? (builder.placeOf site file)).isSome := by
  obtain ⟨-, done, hwork⟩ := exists_of_gives_note hgives (fun _ ↦ rfl) hok
  by_cases hexists : (site.file? (builder.placeOf site file)).isSome
  · obtain ⟨content, hcontent, hupdate⟩ :=
      updates_copyAsset hsite h hpath ⟨hexists, hshown, hsidecar⟩ hwork
    refine .of_updates h hupdate fun _ ↦ .of_output? ⟨hexists, hshown, .inr hsidecar⟩ ?_
    rwa [output?, if_neg hpage]
  · -- What is missing is not copied.
    obtain ⟨found, tree₂, hfiles, hrest⟩ := gives_bind.mp hwork
    obtain ⟨rfl, rfl⟩ := gives_files.mp hfiles
    have hsame : tree₁ = tree := by
      split_ifs at hrest
      · exact (gives_pure.mp hrest).2.symm
      · obtain ⟨output, tree₃, houtput, hcopied⟩ := gives_bind.mp hrest
        obtain ⟨-, rfl⟩ := gives_outputPath.mp houtput
        obtain ⟨copied, tree₃, hcopy, -⟩ := gives_bind.mp hcopied
        obtain ⟨content, hcontent, -⟩ := updates_copyOutput hcopy
        rw [hpath.placeOf_eq, h.placeOf_eq, hsite.file?_placeOf h] at hcontent
        exact absurd (by rw [hcontent]; rfl) hexists
    subst hsame
    exact (Advance.refl h).mono (fun _ ↦ False.elim) fun _ hnames ↦ hexists hnames.2

/-- The output of a content file that is removed. -/
theorem advance_removeOutput (hdirect : builder.paths.output.Direct)
    (hpath : builder.IsPathOf file path) (hhidden : ¬ file.IsHidden)
    (hsidecar : ¬ builder.IsSidecarName file) {done : Bool}
    (hgives : (builder.removeOutput path).Gives tree done tree₁) :
    builder.Advance site templates renderer tree tree₁ (· = builder.outputNames file) fun names ↦
      names = builder.outputNames file ∧
        ∀ other, builder.Shown site other → builder.outputNames other ≠ builder.outputNames file :=
  .of_updates h (updates_removeOutput hsite h hdirect hpath hhidden hsidecar hgives) .none

include hsealed

/-- A page that is built. -/
theorem advance_notePage (hpath : builder.IsPathOf file path) (hisPage : builder.IsPageName file)
    (hhidden : ¬ file.IsHidden)
    (hgives : (builder.notePage templates renderer result path).Gives tree result₁ tree₁)
    (hok : result₁.failures = []) :
    builder.Advance site templates renderer tree tree₁ (· = builder.outputNames file)
      fun names ↦ names = builder.outputNames file ∧ True := by
  obtain ⟨-, done, hwork⟩ := exists_of_gives_note hgives (fun _ ↦ rfl) hok
  obtain ⟨built, tree₂, hbuild, hdone⟩ := gives_bind.mp hwork
  obtain ⟨-, rfl⟩ := gives_pure.mp hdone
  have hname := ContentName.not_isHiddenName hhidden
  obtain ⟨html, hhtml, hupdate⟩ := updates_buildPage hsite h hpath hname hbuild
  obtain ⟨hexists, hown⟩ := pageHtml_of_stage hsite hsealed h hpath hisPage hname hhtml
  refine .of_updates h hupdate fun _ ↦ .of_output? ⟨hexists, hhidden, .inl hisPage⟩ ?_
  rw [output?, if_pos hisPage, hown]
  rfl

end Steps

/-! ## Tasks -/

/-- Whether a task touches the output under names: that of the file or of a page of the directory that
the task is about. -/
def Touches (builder : Builder) (site : FileTree) (task : Task) (names : List String) : Prop :=
  ∃ file, builder.outputNames file = names ∧
    if task.isDirectory then builder.IsPageName file ∧
      (site.file? (builder.placeOf site file)).isSome ∧
        task.path.components = builder.directoryComponents file
    else task.path.components = builder.directoryComponents file ++ [.normal file.name]

/-- Whether a task is about content: a file that is not hidden, of the kind of the task, or a directory
without hidden pages. -/
def Concerns (builder : Builder) (site : FileTree) : Task → Prop
  | .page path => ∃ file, builder.IsPathOf file path ∧ ¬ file.IsHidden ∧ builder.IsPageName file
  | .asset path => ∃ file, builder.IsPathOf file path ∧ ¬ file.IsHidden ∧
      ¬ builder.IsSidecarName file ∧ ¬ builder.IsPageName file
  | .remove path => ∃ file, builder.IsPathOf file path ∧ ¬ file.IsHidden ∧
      ¬ builder.IsSidecarName file
  | .directory directory => ∃ names : List String,
      directory.components = builder.paths.content.components ++ names.map .normal ∧
        ∀ file : ContentName, file.directory = names → builder.IsPageName file →
          (site.file? (builder.placeOf site file)).isSome → ¬ file.IsHidden

/-- Whether a task is right about its file: a file to build or to copy is there, and the output that is
to be removed is that of no file. -/
def Right (builder : Builder) (site : FileTree) : Task → Prop
  | .page path => ∃ file, builder.IsPathOf file path ∧
      (site.file? (builder.placeOf site file)).isSome
  | .asset path => ∃ file, builder.IsPathOf file path ∧
      (site.file? (builder.placeOf site file)).isSome
  | .remove path => ∃ file, builder.IsPathOf file path ∧
      ∀ other, builder.Shown site other → builder.outputNames other ≠ builder.outputNames file
  | .directory _ => True

theorem Touches.of_sameTarget (h : builder.Touches site task names) (hsame : task'.sameTarget task) :
    builder.Touches site task' names := by
  obtain ⟨hkind, hcomponents⟩ := Task.sameTarget_iff.mp hsame
  obtain ⟨file, hnames, htouches⟩ := h
  refine ⟨file, hnames, ?_⟩
  rw [hkind, hcomponents]
  exact htouches

/-- A task about one file touches the output of this file. -/
theorem touches_iff_of_isPathOf (hpath : builder.IsPathOf file task.path)
    (hkind : task.isDirectory = false) :
    builder.Touches site task names ↔ names = builder.outputNames file := by
  constructor
  · rintro ⟨other, rfl, htouches⟩
    rw [hkind, if_neg (by simp)] at htouches
    rw [hpath.leadsTo.unique (leadsTo_iff.mpr htouches)]
  · rintro rfl
    refine ⟨file, rfl, ?_⟩
    rw [hkind, if_neg (by simp)]
    exact hpath.components

section Runs

variable (hsite : builder.Grounded site) (hsealed : builder.SealsPages site)
  (h : builder.Stage site tree)

include hsite hsealed h

/-- A task about the pages of a directory. -/
private theorem advance_runDirectory
    (hcomponents : directory.components = builder.paths.content.components ++ names.map .normal)
    (hshows : ∀ file : ContentName, file.directory = names → builder.IsPageName file →
      (site.file? (builder.placeOf site file)).isSome → ¬ file.IsHidden)
    (hgives : (builder.runTask templates renderer result (.directory directory)).Gives tree result₁
      tree₁) (hok : result₁.failures = []) :
    builder.Advance site templates renderer tree tree₁ (builder.Touches site (.directory directory))
      (builder.Touches site (.directory directory)) := by
  obtain ⟨pages, tree₂, hpages, hrest⟩ := gives_bind.mp hgives
  obtain ⟨rfl, hsound, hcomplete⟩ := mem_of_pagesIn hsite h hcomponents hpages
  rw [buildPages_eq_foldlM] at hrest
  have hadvance : builder.Advance site templates renderer tree₂ tree₁
      (fun outputs ↦ ∃ path ∈ pages, ∃ file, builder.IsPathOf file path ∧
        outputs = builder.outputNames file) fun outputs ↦
      (∃ path ∈ pages, ∃ file, builder.IsPathOf file path ∧ outputs = builder.outputNames file) ∧
        ∀ path ∈ pages, (∃ file, builder.IsPathOf file path ∧ outputs = builder.outputNames file) →
          True := by
    refine advance_foldlM (fun _ _ _ _ _ ↦ failures_of_notePage)
      (fun path hmem result tree result₁ tree₁ h hstep hok ↦ ?_) h hrest hok
    obtain ⟨file, hpath, hdirectory, hisPage, hexists⟩ := hsound path hmem
    refine (advance_notePage hsite hsealed h hpath hisPage
      (hshows file hdirectory hisPage hexists) hstep hok).mono
        (fun outputs houtputs ↦ ⟨file, hpath, houtputs⟩) ?_
    rintro outputs ⟨⟨other, hother, houtputs⟩, -⟩
    exact ⟨hother.unique hpath ▸ houtputs, trivial⟩
  refine hadvance.mono (fun outputs houtputs ↦ ?_) fun outputs htouches ↦ ⟨?_, fun _ _ _ ↦ trivial⟩
  · obtain ⟨path, hmem, file, hpath, rfl⟩ := houtputs
    obtain ⟨other, hother, rfl, hisPage, hexists⟩ := hsound path hmem
    obtain rfl := hother.unique hpath
    exact ⟨other, rfl, hisPage, hexists, hcomponents⟩
  · obtain ⟨file, rfl, hisPage, hexists, hsame⟩ := htouches
    have hdirectory : file.directory = names :=
      eq_of_append_map_normal (hsame.symm.trans hcomponents)
    obtain ⟨path, hmem, hpath⟩ := hcomplete file hdirectory hisPage hexists
    exact ⟨path, hmem, file, hpath, rfl⟩

/-- A task settles the output that it touches, if it is right. -/
theorem advance_runTask (hdirect : builder.paths.output.Direct)
    (hconcerns : builder.Concerns site task)
    (hgives : (builder.runTask templates renderer result task).Gives tree result₁ tree₁)
    (hok : result₁.failures = []) :
    builder.Advance site templates renderer tree tree₁ (builder.Touches site task) fun names ↦
      builder.Touches site task names ∧ builder.Right site task := by
  cases task with
  | page path =>
    obtain ⟨file, hpath, hhidden, hisPage⟩ := hconcerns
    have htouches (names : List String) : builder.Touches site (.page path) names ↔
        names = builder.outputNames file := touches_iff_of_isPathOf hpath rfl
    obtain ⟨found, tree₂, hfiles, hrest⟩ := gives_bind.mp hgives
    obtain ⟨rfl, rfl⟩ := gives_files.mp hfiles
    split_ifs at hrest with hentry
    · exact (advance_notePage hsite hsealed h hpath hisPage hhidden hrest hok).mono
        (fun names ↦ (htouches names).mpr) fun names hnames ↦ ⟨(htouches names).mp hnames.1, trivial⟩
    · obtain ⟨-, rfl⟩ := gives_pure.mp hrest
      refine (Advance.refl h).mono (fun _ ↦ False.elim) ?_
      rintro names ⟨-, other, hother, hexists⟩
      obtain rfl := hother.unique hpath
      obtain ⟨content, hcontent⟩ := Option.isSome_iff_exists.mp hexists
      have hread := (hsite.read_contentFile h hpath).mpr hcontent
      exact hentry (by simp [FileTree.hasEntry_of_read hread, hpath.isPage_iff.mpr hisPage])
  | asset path =>
    obtain ⟨file, hpath, hhidden, hsidecar, hpage⟩ := hconcerns
    have htouches (names : List String) : builder.Touches site (.asset path) names ↔
        names = builder.outputNames file := touches_iff_of_isPathOf hpath rfl
    refine (advance_noteAsset hsite h hpath hhidden hsidecar hpage hgives hok).mono
      (fun names ↦ (htouches names).mpr) ?_
    rintro names ⟨hnames, other, hother, hexists⟩
    exact ⟨(htouches names).mp hnames, hother.unique hpath ▸ hexists⟩
  | remove path =>
    obtain ⟨file, hpath, hhidden, hsidecar⟩ := hconcerns
    have htouches (names : List String) : builder.Touches site (.remove path) names ↔
        names = builder.outputNames file := touches_iff_of_isPathOf hpath rfl
    obtain ⟨done, hremove, -⟩ := exists_of_gives_remove hgives
    refine (advance_removeOutput hsite h hdirect hpath hhidden hsidecar hremove).mono
      (fun names ↦ (htouches names).mpr) ?_
    rintro names ⟨hnames, other, hother, hapart⟩
    exact ⟨(htouches names).mp hnames, hother.unique hpath ▸ hapart⟩
  | directory directory =>
    obtain ⟨names, hcomponents, hshows⟩ := hconcerns
    exact (advance_runDirectory hsite hsealed h hcomponents hshows hgives hok).mono
      (fun _ ↦ id) fun _ hnames ↦ hnames.1

/-- Tasks settle the output that they touch, if all that touch it are right. -/
theorem advance_runTasks (hdirect : builder.paths.output.Direct)
    (hconcerns : ∀ task ∈ tasks, builder.Concerns site task)
    (hgives : (builder.runTasks templates renderer tasks result).Gives tree result₁ tree₁)
    (hok : result₁.failures = []) :
    builder.Advance site templates renderer tree tree₁
      (fun names ↦ ∃ task ∈ tasks, builder.Touches site task names) fun names ↦
        (∃ task ∈ tasks, builder.Touches site task names) ∧
          ∀ task ∈ tasks, builder.Touches site task names → builder.Right site task := by
  rw [runTasks_eq_foldlM] at hgives
  exact advance_foldlM (fun _ _ _ _ _ ↦ failures_of_runTask)
    (fun task hmem _ _ _ _ h hstep hok ↦
      advance_runTask hsite hsealed h hdirect (hconcerns task hmem) hstep hok) h hgives hok

/-! ## Full builds -/

/-- A content file that a full build comes to. -/
private theorem advance_buildFile (hpath : builder.IsPathOf file path) (hhidden : ¬ file.IsHidden)
    (hexists : (site.file? (builder.placeOf site file)).isSome)
    (hgives : (if builder.registry.isPage path then builder.notePage templates renderer result path
      else builder.noteAsset result path).Gives tree result₁ tree₁)
    (hok : result₁.failures = []) :
    builder.Advance site templates renderer tree tree₁
      (fun names ↦ builder.Shown site file ∧ names = builder.outputNames file) fun names ↦
        (builder.Shown site file ∧ names = builder.outputNames file) ∧ True := by
  by_cases hisPage : builder.IsPageName file
  · rw [if_pos (hpath.isPage_iff.mpr hisPage)] at hgives
    exact (advance_notePage hsite hsealed h hpath hisPage hhidden hgives hok).mono
      (fun names hnames ↦ ⟨⟨hexists, hhidden, .inl hisPage⟩, hnames⟩)
      fun names hnames ↦ ⟨hnames.1.2, trivial⟩
  rw [if_neg (mt hpath.isPage_iff.mp hisPage)] at hgives
  by_cases hsidecar : builder.IsSidecarName file
  · obtain ⟨-, rfl⟩ := eq_of_noteAsset_sidecar hpath hsidecar hgives
    exact (Advance.refl h).mono (fun _ ↦ False.elim) fun names hnames ↦
      hnames.1.1.isPage_or.elim hisPage (absurd hsidecar)
  · exact (advance_noteAsset hsite h hpath hhidden hsidecar hisPage hgives hok).mono
      (fun names hnames ↦ ⟨⟨hexists, hhidden, .inr hsidecar⟩, hnames⟩)
      fun names hnames ↦ ⟨hnames.1.2, hexists⟩

/-- A full build at any stage settles the whole output. -/
theorem advance_build (hdirect : builder.paths.output.Direct)
    (hgives : builder.build.Gives tree (result, rebuilt) tree₁) (hok : result.failures = []) :
    ∃ templates renderer, rebuilt = { builder with cache := some templates } ∧
      builder.composeTemplates tree = .ok templates ∧ builder.renderer templates = .ok renderer ∧
      builder.Advance site templates renderer tree tree₁ (fun _ ↦ True) (· ≠ []) := by
  obtain ⟨templates, renderer, emptied, files, -, hcomposed, hrenderer, hprepare, hfiles, hbuild,
    rfl⟩ := gives_build.mp hgives
  obtain ⟨hstage, hempty⟩ :=
    stage_prepareOutput hsite h hdirect hprepare (passable_of_contentFiles hfiles)
  have hlists := lists_contentFiles hstage.closed hsite.contentText hfiles
  have hsame (file : ContentName) : emptied.file? (builder.placeOf emptied file) =
      site.file? (builder.placeOf site file) := by
    rw [hstage.placeOf_eq, hsite.file?_placeOf hstage]
  rw [buildFiles_eq_foldlM] at hbuild
  have hadvance : builder.Advance site templates renderer emptied tree₁
      (fun names ↦ ∃ path ∈ files, ∃ file, builder.IsPathOf file path ∧ builder.Shown site file ∧
        names = builder.outputNames file) fun names ↦
      (∃ path ∈ files, ∃ file, builder.IsPathOf file path ∧ builder.Shown site file ∧
        names = builder.outputNames file) ∧
        ∀ path ∈ files, (∃ file, builder.IsPathOf file path ∧ builder.Shown site file ∧
          names = builder.outputNames file) → True := by
    refine advance_foldlM (fun path result tree result₁ tree₁ hstep hok ↦ ?_)
      (fun path hmem result tree result₁ tree₁ h hstep hok ↦ ?_) hstage hbuild hok
    · split_ifs at hstep
      · exact failures_of_notePage hstep hok
      · exact failures_of_noteAsset hstep hok
    · obtain ⟨file, hpath, hhidden, hexists⟩ := hlists.sound path hmem
      rw [hsame] at hexists
      refine (advance_buildFile hsite hsealed h hpath hhidden hexists hstep hok).mono
        (fun names hnames ↦ ⟨file, hpath, hnames⟩) ?_
      rintro names ⟨⟨other, hother, hnames⟩, -⟩
      exact ⟨hother.unique hpath ▸ hnames, trivial⟩
  refine ⟨templates, renderer, rfl, hcomposed, hrenderer, hadvance.stage, fun _ hnot ↦
    absurd trivial hnot, fun names hnames ↦ ?_⟩
  by_cases hfile : ∃ path ∈ files, ∃ file, builder.IsPathOf file path ∧ builder.Shown site file ∧
      names = builder.outputNames file
  · exact hadvance.due names ⟨hfile, fun _ _ _ ↦ trivial⟩
  · -- No content file has its output here, and nothing was left here in the beginning.
    rw [hadvance.unchanged names hfile, hempty names hnames]
    refine .none fun file hshown houtputs ↦ hfile ?_
    obtain ⟨path, hmem, hpath⟩ :=
      hlists.complete file hshown.not_hidden (by rw [hsame]; exact hshown.isSome)
    exact ⟨path, hmem, file, hpath, hshown, houtputs.symm⟩

end Runs

end StaticSite.Builder
