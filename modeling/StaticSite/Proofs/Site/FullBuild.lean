import StaticSite.Proofs.Site.Progress
import StaticSite.Proofs.Site.Walk

/-!
# Full builds

A full build that adds no failure leaves the output of its site: for every content file that is
neither hidden nor metadata a file with what belongs there, and no other file (`upToDate_build`).
-/

namespace StaticSite.Builder

open StaticSite.Path Build

variable {builder rebuilt : Builder} {base tree tree₁ : FileTree} {file other : ContentName}
  {path : Path} {files : List Path} {templates : ComposedTemplates} {renderer : Renderer}
  {result result₁ : BuildResult}

/-- Whether metadata files have a name, which is not that of a page. -/
structure MetadataApart (builder : Builder) : Prop where
  isName : IsName builder.config.metadataFile
  not_page : ¬ builder.registry.isPage ⟨builder.config.metadataFile⟩

/-- Whether a tree holds the output of a site. -/
structure UpToDate (builder : Builder) (base : FileTree) (templates : ComposedTemplates)
    (renderer : Renderer) (tree : FileTree) : Prop where
  grounded : builder.Grounded base
  composed : builder.composeTemplates base = .ok templates
  ofLayout : builder.renderer templates = .ok renderer
  stage : builder.Stage base tree
  settled : ∀ names ≠ [], builder.Settled base templates renderer tree names

theorem MetadataApart.not_isPageName (h : builder.MetadataApart)
    (hsidecar : builder.IsSidecarName file) : ¬ builder.IsPageName file := by
  rw [IsPageName, hsidecar]
  exact h.not_page

/-! ## An empty output directory -/

/-- A directory at the place of the output path is one that the path finds. -/
private theorem hasEntry_output (hclosed : tree.Closed) (htext : builder.paths.output.text ≠ "")
    (hdirect : builder.paths.output.Direct)
    (h : tree.get? (builder.outputPlace tree) = some .directory) :
    tree.hasEntry builder.paths.output := by
  obtain ⟨lead, names, hsplit, hlead⟩ := hdirect
  have hpassable : tree.Passable tree.current builder.paths.output.components := by
    have hplace : builder.outputPlace tree = FileTree.placeFrom tree.current lead ++ names := by
      rw [outputPlace, FileTree.placeOf, hsplit, FileTree.placeFrom_append_names]
    rw [hplace] at h
    rw [hsplit, FileTree.passable_append]
    refine ⟨FileTree.passable_of_notMem hlead, ?_⟩
    rcases List.eq_nil_or_concat' names with rfl | ⟨names, name, rfl⟩
    · trivial
    · rw [← List.append_assoc] at h
      rw [List.map_append, FileTree.passable_append, FileTree.placeFrom_names, List.map_singleton,
        FileTree.passable_name]
      exact ⟨hclosed.passable_names h, h⟩
  have hlookup := FileTree.lookup_eq_directory_iff.mpr ⟨htext, hpassable, rfl, h⟩
  rw [FileTree.hasEntry, hlookup]
  rfl

/-- A prepared output directory holds no file, and the build has come to another stage if it still
finds the content. -/
theorem stage_prepareOutput (hbase : builder.Grounded base) (h : builder.Stage base tree)
    (hdirect : builder.paths.output.Direct) {done : Unit}
    (hgives : builder.prepareOutput.Gives tree done tree₁)
    (hcontent : tree₁.Passable tree₁.current builder.paths.content.components) :
    builder.Stage base tree₁ ∧
      ∀ names ≠ [], tree₁.file? (builder.outputPlace base ++ names) = none := by
  have hplace : builder.outputPlace tree = builder.outputPlace base := h.outputPlace_eq
  obtain ⟨found, tree₂, hfiles, hrest⟩ := gives_bind.mp hgives
  obtain ⟨rfl, rfl⟩ := gives_files.mp hfiles
  by_cases hentry : tree.hasEntry builder.paths.output
  · rw [if_pos hentry] at hrest
    have hempty := gives_change.mp hrest
    obtain ⟨hcurrent, -, hget⟩ := FileTree.get?_of_emptyDirectory hempty
    refine ⟨⟨hcurrent.trans h.current, h.closed.emptyDirectory hempty, hcontent,
      fun place houtside ↦ ?_⟩, fun names hnames ↦ ?_⟩
    · rw [← h.file? place houtside, FileTree.file?, hget, if_neg, FileTree.file?]
      rw [FileTree.isBelow_iff]
      exact fun hbelow ↦ houtside (hplace ▸ hbelow.1)
    · rw [← hplace, FileTree.file?, hget, if_pos]
      rw [FileTree.isBelow_iff]
      exact ⟨List.prefix_append _ _, by simpa [outputPlace] using hnames⟩
  · rw [if_neg hentry] at hrest
    have hextends := FileTree.extends_ensureDirectory (gives_ensureDirectory.mp hrest)
    refine ⟨h.extend hextends, fun names hnames ↦ ?_⟩
    rw [hextends.file?, ← hplace]
    by_contra hsome
    obtain ⟨content, hcontent⟩ := Option.ne_none_iff_exists'.mp hsome
    rw [FileTree.file?_eq_some_iff] at hcontent
    exact hentry (hasEntry_output h.closed hbase.outputText hdirect
      (h.closed.directory_of_isPrefix hcontent (List.prefix_append _ _) (by simpa using hnames)))

/-! ## All content files -/

theorem buildFiles_eq_foldlM : builder.buildFiles templates renderer files result =
    files.foldlM (fun result path ↦
      if builder.registry.isPage path then builder.notePage templates renderer result path
      else builder.noteAsset result path) result := by
  induction files generalizing result with
  | nil => rfl
  | cons path files ih =>
    simp only [buildFiles, List.foldlM_cons, ih]
    split_ifs <;> rfl

/-- Work on content files that adds no failure is progress on all of them. -/
theorem progress_buildFiles (hbase : builder.Grounded base) (hmetadata : builder.MetadataApart)
    (h : builder.Stage base tree)
    (hfiles : ∀ path ∈ files, ∃ file, builder.IsPathOf file path ∧ ¬ file.IsHidden ∧
      (base.file? (builder.placeOf base file)).isSome)
    (hgives : (builder.buildFiles templates renderer files result).Gives tree result₁ tree₁)
    (hok : result₁.failures = []) :
    builder.Progress base templates renderer tree tree₁ fun names ↦ ∃ path ∈ files, ∃ file,
      builder.IsPathOf file path ∧ builder.Wanted base file ∧ builder.outputNames file = names := by
  rw [buildFiles_eq_foldlM] at hgives
  refine progress_foldlM (fun path result tree result₁ tree₁ hstep hok ↦ ?_)
    (fun path hmem result tree result₁ tree₁ h hstep hok ↦ ?_) h hgives hok
  · split_ifs at hstep
    · exact failures_of_notePage hstep hok
    · exact failures_of_noteAsset hstep hok
  · obtain ⟨file, hpath, hhidden, hsome⟩ := hfiles path hmem
    by_cases hsidecar : builder.IsSidecarName file
    · rw [if_neg (mt hpath.isPage_iff.mp (hmetadata.not_isPageName hsidecar))] at hstep
      obtain ⟨-, rfl⟩ := eq_of_noteAsset_sidecar hpath hsidecar hstep
      refine (Progress.refl h).mono ?_
      rintro names ⟨other, hother, hwanted, -⟩
      exact hwanted.not_sidecar (hpath.unique hother ▸ hsidecar)
    · have hwanted : builder.Wanted base file := ⟨hsome, hhidden, hsidecar⟩
      have hmono : ∀ names, (∃ other, builder.IsPathOf other path ∧ builder.Wanted base other ∧
          builder.outputNames other = names) → names = builder.outputNames file := by
        rintro names ⟨other, hother, -, rfl⟩
        rw [hpath.unique hother]
      by_cases hpage : builder.IsPageName file
      · rw [if_pos (hpath.isPage_iff.mpr hpage)] at hstep
        exact (progress_notePage hbase h hpath hwanted hpage hstep hok).mono hmono
      · rw [if_neg (mt hpath.isPage_iff.mp hpage)] at hstep
        exact (progress_noteAsset hbase h hpath hwanted hpage hstep hok).mono hmono

/-- What it takes for a full build to succeed. -/
theorem gives_build : builder.build.Gives tree (result, rebuilt) tree₁ ↔
    ∃ templates renderer emptied files, builder.directoryError? tree = none ∧
      builder.composeTemplates tree = .ok templates ∧ builder.renderer templates = .ok renderer ∧
      builder.prepareOutput.Gives tree () emptied ∧
      emptied.contentFiles builder.paths.content = .ok files ∧
      (builder.buildFiles templates renderer files builder.noResult).Gives emptied result tree₁ ∧
      rebuilt = { builder with cache := some templates } := by
  rw [build, gives_bind]
  constructor
  · rintro ⟨found, tree, hfiles, hgives⟩
    obtain ⟨rfl, rfl⟩ := gives_files.mp hfiles
    split at hgives
    · exact absurd hgives not_gives_fail
    next hdirectories =>
    split at hgives
    · exact absurd hgives not_gives_fail
    next templates hcomposed =>
    split at hgives
    · exact absurd hgives not_gives_fail
    next renderer hrenderer =>
    obtain ⟨done, emptied, hprepare, hgives⟩ := gives_bind.mp hgives
    obtain ⟨found, tree, hfiles, hgives⟩ := gives_bind.mp hgives
    obtain ⟨rfl, rfl⟩ := gives_files.mp hfiles
    split at hgives
    · exact absurd hgives not_gives_fail
    next files hfiles =>
    obtain ⟨built, tree, hbuild, hdone⟩ := gives_bind.mp hgives
    obtain ⟨hsame, rfl⟩ := gives_pure.mp hdone
    obtain ⟨rfl, rfl⟩ := Prod.mk.inj hsame
    exact ⟨templates, renderer, emptied, files, hdirectories, hcomposed, hrenderer, hprepare, hfiles,
      hbuild, rfl⟩
  · rintro ⟨templates, renderer, emptied, files, hdirectories, hcomposed, hrenderer, hprepare, hfiles,
      hbuild, rfl⟩
    refine ⟨tree, tree, gives_files.mpr ⟨rfl, rfl⟩, ?_⟩
    simp only [hdirectories, hcomposed, hrenderer]
    refine gives_bind.mpr ⟨(), emptied, hprepare, gives_bind.mpr
      ⟨emptied, emptied, gives_files.mpr ⟨rfl, rfl⟩, ?_⟩⟩
    simp only [hfiles]
    exact gives_bind.mpr ⟨result, tree₁, hbuild, gives_pure.mpr ⟨rfl, rfl⟩⟩

/-- A full build without failures leaves the output of its site. -/
theorem upToDate_build (hbase : base.WellFormed) (hdirect : builder.paths.output.Direct)
    (hmetadata : builder.MetadataApart)
    (hgives : builder.build.Gives base (result, rebuilt) tree) (hok : result.failures = []) :
    ∃ templates renderer, rebuilt = { builder with cache := some templates } ∧
      builder.UpToDate base templates renderer tree := by
  obtain ⟨templates, renderer, emptied, files, hdirectories, hcomposed, hrenderer, hprepare, hfiles,
    hbuild, rfl⟩ := gives_build.mp hgives
  have hgrounded := grounded_of_directoryError? hbase hdirectories
  obtain ⟨hstage, hempty⟩ := stage_prepareOutput hgrounded hgrounded.stage hdirect hprepare
    (passable_of_contentFiles hfiles)
  have hlists := lists_contentFiles hstage.closed hgrounded.contentText hfiles
  have hsame (file : ContentName) : emptied.file? (builder.placeOf emptied file) =
      base.file? (builder.placeOf base file) := by
    rw [hstage.placeOf_eq, hgrounded.file?_placeOf hstage]
  have hprogress := progress_buildFiles hgrounded hmetadata hstage (fun path hmem ↦ by
    simpa only [hsame] using hlists.sound path hmem) hbuild hok
  refine ⟨templates, renderer, rfl, hgrounded, hcomposed, hrenderer, hprogress.stage,
    fun names hnames ↦ ?_⟩
  rcases hprogress.settled names with hsettled | ⟨hunchanged, huntouched⟩
  · exact hsettled
  · -- No content file has its output here, and nothing was here in the beginning.
    rw [hempty names hnames] at hunchanged
    refine ⟨by simp [hunchanged], fun file hwanted hfile ↦ absurd ?_ huntouched⟩
    obtain ⟨path, hmem, hpath⟩ :=
      hlists.complete file hwanted.not_hidden (by rw [hsame]; exact hwanted.isSome)
    exact ⟨path, hmem, file, hpath, hwanted, hfile⟩

end StaticSite.Builder
