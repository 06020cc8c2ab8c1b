import StaticSite.Proofs.Site.FullBuild

/-!
# Tasks on a site

A task that fits the site is progress on the output files that it works on (`progress_runTask`), and
so is a list of such tasks (`progress_runTasks`).
-/

namespace StaticSite.Builder

open StaticSite.Path Build

variable {builder : Builder} {base tree tree₁ : FileTree} {file : ContentName} {task : Task}
  {tasks : List Task} {path directory : Path} {pages : List Path} {names : List String}
  {templates : ComposedTemplates} {renderer : Renderer} {result result₁ : BuildResult}

/-- Whether a task asks for what a site has: a page or another file that is there, the removal of the
output of a file that is gone, or the pages of a directory of content. -/
def Fits (builder : Builder) (base : FileTree) : Task → Prop
  | .page path => ∃ file, builder.IsPathOf file path ∧ builder.Wanted base file ∧
      builder.IsPageName file
  | .asset path => ∃ file, builder.IsPathOf file path ∧ builder.Wanted base file ∧
      ¬ builder.IsPageName file
  | .remove path => ∃ file, builder.IsPathOf file path ∧ ¬ file.IsHidden ∧
      ¬ builder.IsSidecarName file ∧
        ∀ other, builder.Wanted base other → builder.outputNames other ≠ builder.outputNames file
  | .directory directory => ∃ names : List String,
      directory.components = builder.paths.content.components ++ names.map .normal

/-- Whether a task works on the output file under names. -/
def WorksOn (builder : Builder) (base : FileTree) : Task → List String → Prop
  | .page path, names => ∃ file, builder.IsPathOf file path ∧ builder.outputNames file = names
  | .asset path, names => ∃ file, builder.IsPathOf file path ∧ builder.outputNames file = names
  | .remove path, names => ∃ file, builder.IsPathOf file path ∧ builder.outputNames file = names
  | .directory directory, names => ∃ file, builder.Wanted base file ∧ builder.IsPageName file ∧
      directory.components = builder.directoryComponents file ∧ builder.outputNames file = names

/-- Whether no page is hidden. -/
def ShowsPages (builder : Builder) (base : FileTree) : Prop :=
  ∀ file, builder.IsPageName file → (base.file? (builder.placeOf base file)).isSome →
    ¬ file.IsHidden

theorem buildPages_eq_foldlM : builder.buildPages templates renderer pages result =
    pages.foldlM (builder.notePage templates renderer) result := by
  induction pages generalizing result with
  | nil => rfl
  | cons page pages ih => simp only [buildPages, List.foldlM_cons, ih]

theorem runTasks_eq_foldlM : builder.runTasks templates renderer tasks result =
    tasks.foldlM (builder.runTask templates renderer) result := by
  induction tasks generalizing result with
  | nil => rfl
  | cons task tasks ih => simp only [runTasks, List.foldlM_cons, ih]

/-- A task that removes output counts it, and does nothing else. -/
theorem exists_of_gives_remove
    (hgives : (builder.runTask templates renderer result (.remove path)).Gives tree result₁ tree₁) :
    ∃ done, (builder.removeOutput path).Gives tree done tree₁ ∧
      result₁.failures = result.failures := by
  obtain ⟨done, tree₂, hremove, hrest⟩ := gives_bind.mp hgives
  split_ifs at hrest
  · obtain ⟨rfl, rfl⟩ := gives_pure.mp hrest
    exact ⟨done, hremove, rfl⟩
  · obtain ⟨rfl, rfl⟩ := gives_pure.mp hrest
    exact ⟨done, hremove, rfl⟩

/-- A task keeps failures. -/
theorem failures_of_runTask
    (hgives : (builder.runTask templates renderer result task).Gives tree result₁ tree₁)
    (hok : result₁.failures = []) : result.failures = [] := by
  cases task with
  | page page =>
    obtain ⟨found, tree₂, -, hrest⟩ := gives_bind.mp hgives
    split_ifs at hrest
    · exact failures_of_notePage hrest hok
    · obtain ⟨rfl, -⟩ := gives_pure.mp hrest
      exact hok
  | directory directory =>
    obtain ⟨pages, tree₂, -, hrest⟩ := gives_bind.mp hgives
    rw [buildPages_eq_foldlM] at hrest
    exact failures_of_foldlM (fun _ _ _ _ _ ↦ failures_of_notePage) hrest hok
  | asset file => exact failures_of_noteAsset hgives hok
  | remove file =>
    obtain ⟨removed, -, hsame⟩ := exists_of_gives_remove hgives
    exact hsame ▸ hok

/-! ## The pages of a directory -/

/-- The search for pages has no effect. -/
theorem tree_pagesIn : (builder.pagesIn directory tree).2 = tree := by
  rw [pagesIn, run_bind]
  simp only [files]
  split_ifs
  · cases tree.list directory <;> rfl
  · rfl

/-- The pages in a directory are the files directly there that have the name of a page. -/
theorem mem_pagesIn_iff (hgives : (builder.pagesIn directory).Gives tree pages tree₁) :
    path ∈ pages ↔ tree.isDirectory directory ∧
      ∃ name, (tree.get? (tree.placeOf directory ++ [name])).isSome ∧
        path = directory.join ⟨name⟩ ∧ tree.isFile path ∧ builder.registry.isPage path := by
  obtain ⟨found, tree₂, hfiles, hrest⟩ := gives_bind.mp hgives
  obtain ⟨rfl, rfl⟩ := gives_files.mp hfiles
  split_ifs at hrest with hdirectory
  · split at hrest
    · exact absurd hrest not_gives_fail
    next listed hlist =>
    obtain ⟨rfl, -⟩ := gives_pure.mp hrest
    obtain ⟨-, -, -, rfl⟩ := FileTree.list_eq_ok_iff.mp hlist
    rw [Path.sorted, List.mem_mergeSort, List.mem_filter, List.mem_map, Bool.and_eq_true]
    simp only [FileTree.mem_namesIn_iff, hdirectory, true_and]
    constructor
    · rintro ⟨⟨name, hname, rfl⟩, hfile, hpage⟩
      exact ⟨name, hname, rfl, hfile, hpage⟩
    · rintro ⟨name, hname, rfl, hfile, hpage⟩
      exact ⟨⟨name, hname, rfl⟩, hfile, hpage⟩
  · obtain ⟨rfl, -⟩ := gives_pure.mp hrest
    simp [hdirectory]

section Directories

variable (hclosed : tree.Closed)

include hclosed

/-- The pages found in a directory lie there. -/
theorem components_of_pagesIn (hgives : (builder.pagesIn directory).Gives tree pages tree₁)
    (hmem : path ∈ pages) :
    ∃ name, path.components = directory.components ++ [.normal name] := by
  obtain ⟨hdirectory, name, hsome, rfl, -, -⟩ := (mem_pagesIn_iff hgives).mp hmem
  obtain ⟨entry, hentry⟩ := Option.isSome_iff_exists.mp hsome
  exact ⟨name, components_join_name (FileTree.isDirectory_iff.mp hdirectory).1
    (hclosed.isName _ _ hentry name (by simp))⟩

variable (hcontent : tree.Passable tree.current builder.paths.content.components)
  (htext : directory.text ≠ "")

include hcontent htext

/-- The directory of a content file is one. -/
private theorem isDirectory_of_isSome (hcomponents : directory.components =
      builder.paths.content.components ++ file.directory.map .normal)
    (hexists : (tree.file? (builder.placeOf tree file)).isSome) : tree.isDirectory directory := by
  obtain ⟨content, hfile⟩ := FileTree.isSome_file?_iff.mp hexists
  rw [Builder.placeOf, ContentName.names, ← List.append_assoc] at hfile
  have hplace : tree.placeOf directory = builder.contentPlace tree ++ file.directory :=
    FileTree.placeOf_of_components hcomponents
  rw [FileTree.isDirectory_iff, hplace, hcomponents, FileTree.passable_append]
  exact ⟨htext, ⟨hcontent, hclosed.passable_names hfile⟩, by
    simpa using hclosed.parent _ _ hfile⟩

/-- The pages directly in a directory of content are found there, hidden ones too. -/
theorem exists_mem_pagesIn_iff
    (hcomponents : directory.components = builder.paths.content.components ++ names.map .normal)
    (hgives : (builder.pagesIn directory).Gives tree pages tree₁) :
    (∀ path ∈ pages, ∃ file, builder.IsPathOf file path) ∧
      ∀ file, (∃ path ∈ pages, builder.IsPathOf file path) ↔ file.directory = names ∧
        builder.IsPageName file ∧ (tree.file? (builder.placeOf tree file)).isSome := by
  have hplace (name : String) : tree.placeOf directory ++ [name] =
      builder.placeOf tree ⟨names, name⟩ := by
    rw [FileTree.placeOf_of_components hcomponents, Builder.placeOf, ContentName.names,
      ← List.append_assoc]
    rfl
  have hpath {name : String} (hsome : (tree.get? (builder.placeOf tree ⟨names, name⟩)).isSome) :
      IsName name ∧ builder.IsPathOf ⟨names, name⟩ (directory.join ⟨name⟩) := by
    obtain ⟨entry, hentry⟩ := Option.isSome_iff_exists.mp hsome
    have hname : IsName name :=
      hclosed.isName _ _ hentry name (by simp [placeOf, ContentName.names])
    exact ⟨hname, isPathOf_join hcomponents htext hname⟩
  have hisFile {name : String} (hdirectory : tree.isDirectory directory) (hname : IsName name) :
      tree.isFile (directory.join ⟨name⟩) ↔
        (tree.file? (builder.placeOf tree ⟨names, name⟩)).isSome := by
    have hof : builder.IsPathOf ⟨names, name⟩ (directory.join ⟨name⟩) :=
      isPathOf_join hcomponents htext hname
    rw [FileTree.isFile_of_passable hof.isFilePath (components_join_name htext hname)
      (FileTree.isDirectory_iff.mp hdirectory).2.1, hof.placeOf_eq]
  constructor
  · intro path hmem
    obtain ⟨-, name, hsome, rfl, -, -⟩ := (mem_pagesIn_iff hgives).mp hmem
    exact ⟨_, (hpath (hplace name ▸ hsome)).2⟩
  · intro file
    constructor
    · rintro ⟨path, hmem, hof⟩
      obtain ⟨hdirectory, name, hsome, rfl, hfile, hpage⟩ := (mem_pagesIn_iff hgives).mp hmem
      obtain ⟨hname, hown⟩ := hpath (hplace name ▸ hsome)
      obtain rfl := hof.unique hown
      exact ⟨rfl, hown.isPage_iff.mp hpage, (hisFile hdirectory hname).mp hfile⟩
    · rintro ⟨rfl, hpage, hexists⟩
      have hdirectory := isDirectory_of_isSome hclosed hcontent htext hcomponents hexists
      have hsome := FileTree.isSome_get?_of_file? hexists
      obtain ⟨hname, hown⟩ := hpath hsome
      exact ⟨_, (mem_pagesIn_iff hgives).mpr ⟨hdirectory, file.name, by rwa [hplace], rfl,
        (hisFile hdirectory hname).mpr hexists, hown.isPage_iff.mpr hpage⟩, hown⟩

end Directories

section Steps

variable (hbase : builder.Grounded base) (h : builder.Stage base tree)

include hbase h

/-- At every stage the pages found in a directory of content are those of the site. -/
theorem mem_of_pagesIn
    (hcomponents : directory.components = builder.paths.content.components ++ names.map .normal)
    (hgives : (builder.pagesIn directory).Gives tree pages tree₁) : tree₁ = tree ∧
      (∀ path ∈ pages, ∃ file, builder.IsPathOf file path ∧ file.directory = names ∧
        builder.IsPageName file ∧ (base.file? (builder.placeOf base file)).isSome) ∧
      ∀ file, file.directory = names → builder.IsPageName file →
        (base.file? (builder.placeOf base file)).isSome →
          ∃ path ∈ pages, builder.IsPathOf file path := by
  have htext : directory.text ≠ "" := text_ne_empty_of_components hbase.contentText hcomponents
  obtain ⟨hsound, hmem⟩ := exists_mem_pagesIn_iff h.closed h.content htext hcomponents hgives
  simp only [h.placeOf_eq, hbase.file?_placeOf h] at hmem
  refine ⟨(gives_iff.mp hgives).2.symm.trans tree_pagesIn, fun path hpath ↦ ?_,
    fun file hnames hpage hexists ↦ (hmem file).mpr ⟨hnames, hpage, hexists⟩⟩
  obtain ⟨file, hof⟩ := hsound path hpath
  exact ⟨file, hof, (hmem file).mp ⟨path, hpath, hof⟩⟩

/-- After the removal of the output of a content file there is none. -/
theorem updates_removeOutput (hdirect : builder.paths.output.Direct)
    (hpath : builder.IsPathOf file path) (hhidden : ¬ file.IsHidden)
    (hsidecar : ¬ builder.IsSidecarName file) {done : Bool}
    (hgives : (builder.removeOutput path).Gives tree done tree₁) :
    tree.Updates (builder.outputPlace base ++ builder.outputNames file) none tree₁ := by
  obtain ⟨output, houtput, hfile, hcomponents, hplace⟩ :=
    exists_output hbase h hpath (ContentName.not_isHiddenName hhidden)
  rcases cases_of_gives_removeOutput hgives with ⟨-, rfl, hnone⟩ | ⟨-, -, found, hsame, hremove⟩
  · obtain ⟨found, hsame, hentry⟩ := hnone.resolve_left (mt hpath.isSidecar_iff.mp hsidecar)
    obtain rfl := Option.some.inj (houtput.symm.trans hsame)
    rw [← hplace]
    refine .of_none (by_contra fun hsome ↦ hentry ?_)
    obtain ⟨content, hcontent⟩ := Option.ne_none_iff_exists'.mp hsome
    obtain ⟨lead, names, houtputs, hlead⟩ := hdirect
    have hsplit : output.components =
        [] ++ (lead ++ (names ++ builder.outputNames file).map .normal) := by
      rw [hcomponents, houtputs, List.map_append, List.append_assoc, List.nil_append]
    refine FileTree.hasEntry_of_read ((h.closed.read_eq_ok_iff hsplit hlead trivial ?_).mpr
      ⟨hfile, hcontent⟩)
    simp [outputNames]
  · obtain rfl := Option.some.inj (houtput.symm.trans hsame)
    rw [← hplace]
    exact FileTree.updates_removeFile hremove

/-- The building of the pages of a directory is progress on the pages of the site in it. -/
private theorem progress_runDirectory (hshows : builder.ShowsPages base)
    (hmetadata : builder.MetadataApart)
    (hcomponents : directory.components = builder.paths.content.components ++ names.map .normal)
    (hgives : (builder.runTask templates renderer result (.directory directory)).Gives tree result₁
      tree₁) (hok : result₁.failures = []) :
    builder.Progress base templates renderer tree tree₁
      (builder.WorksOn base (.directory directory)) := by
  obtain ⟨pages, tree₂, hpages, hrest⟩ := gives_bind.mp hgives
  obtain ⟨rfl, hsound, hcomplete⟩ := mem_of_pagesIn hbase h hcomponents hpages
  rw [buildPages_eq_foldlM] at hrest
  have hwanted {file : ContentName} (hpage : builder.IsPageName file)
      (hsome : (base.file? (builder.placeOf base file)).isSome) : builder.Wanted base file :=
    ⟨hsome, hshows file hpage hsome, fun hsidecar ↦ hmetadata.not_isPageName hsidecar hpage⟩
  have hprogress : builder.Progress base templates renderer tree₂ tree₁ fun outputs ↦
      ∃ path ∈ pages, ∃ file, builder.IsPathOf file path ∧ builder.outputNames file = outputs := by
    refine progress_foldlM (fun _ _ _ _ _ ↦ failures_of_notePage)
      (fun path hmem result tree result₁ tree₁ h hstep hok ↦ ?_) h hrest hok
    obtain ⟨file, hpath, -, hpage, hsome⟩ := hsound path hmem
    refine (progress_notePage hbase h hpath (hwanted hpage hsome) hpage hstep hok).mono ?_
    rintro outputs ⟨other, hother, rfl⟩
    rw [hpath.unique hother]
  refine hprogress.mono ?_
  rintro outputs ⟨file, hfile, hpage, hdirectory, houtputs⟩
  have hsame : file.directory = names :=
    eq_of_append_map_normal (hdirectory.symm.trans hcomponents)
  obtain ⟨path, hmem, hpath⟩ := hcomplete file hsame hpage hfile.isSome
  exact ⟨path, hmem, file, hpath, houtputs⟩

/-- A task that fits the site and adds no failure is progress. -/
theorem progress_runTask (hdirect : builder.paths.output.Direct)
    (hshows : builder.ShowsPages base) (hmetadata : builder.MetadataApart) (hfits : builder.Fits base task)
    (hgives : (builder.runTask templates renderer result task).Gives tree result₁ tree₁)
    (hok : result₁.failures = []) :
    builder.Progress base templates renderer tree tree₁ (builder.WorksOn base task) := by
  have hmono {file : ContentName} {path : Path} (hpath : builder.IsPathOf file path) :
      ∀ names, (∃ other, builder.IsPathOf other path ∧ builder.outputNames other = names) →
        names = builder.outputNames file := by
    rintro names ⟨other, hother, rfl⟩
    rw [hpath.unique hother]
  cases task with
  | page path =>
    obtain ⟨file, hpath, hwanted, hpage⟩ := hfits
    obtain ⟨content, hcontent⟩ := Option.isSome_iff_exists.mp hwanted.isSome
    have hentry : tree.hasEntry path :=
      FileTree.hasEntry_of_read ((hbase.read_contentFile h hpath).mpr hcontent)
    obtain ⟨found, tree₂, hfiles, hrest⟩ := gives_bind.mp hgives
    obtain ⟨rfl, rfl⟩ := gives_files.mp hfiles
    rw [if_pos (by simp [hentry, hpath.isPage_iff.mpr hpage])] at hrest
    exact (progress_notePage hbase h hpath hwanted hpage hrest hok).mono (hmono hpath)
  | asset path =>
    obtain ⟨file, hpath, hwanted, hpage⟩ := hfits
    exact (progress_noteAsset hbase h hpath hwanted hpage hgives hok).mono (hmono hpath)
  | remove path =>
    obtain ⟨file, hpath, hhidden, hsidecar, hunwanted⟩ := hfits
    obtain ⟨done, hremove, -⟩ := exists_of_gives_remove hgives
    have hupdate := updates_removeOutput hbase h hdirect hpath hhidden hsidecar hremove
    exact (Progress.of_removed h hupdate hunwanted).mono (hmono hpath)
  | directory directory =>
    obtain ⟨names, hnames⟩ := hfits
    exact progress_runDirectory hbase h hshows hmetadata hnames hgives hok

end Steps

/-- Tasks that fit the site and add no failure are progress on all that they work on. -/
theorem progress_runTasks (hbase : builder.Grounded base)
    (hdirect : builder.paths.output.Direct) (hshows : builder.ShowsPages base)
    (hmetadata : builder.MetadataApart) (h : builder.Stage base tree)
    (hfits : ∀ task ∈ tasks, builder.Fits base task)
    (hgives : (builder.runTasks templates renderer tasks result).Gives tree result₁ tree₁)
    (hok : result₁.failures = []) :
    builder.Progress base templates renderer tree tree₁
      fun names ↦ ∃ task ∈ tasks, builder.WorksOn base task names := by
  rw [runTasks_eq_foldlM] at hgives
  exact progress_foldlM (fun _ _ _ _ _ ↦ failures_of_runTask)
    (fun task hmem _ _ _ _ h hstep hok ↦
      progress_runTask hbase h hdirect hshows hmetadata (hfits task hmem) hstep hok) h hgives hok

end StaticSite.Builder
