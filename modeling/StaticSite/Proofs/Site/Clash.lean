import Mathlib.Data.Set.Card
import StaticSite.Proofs.Site.Advance
import StaticSite.Proofs.Site.Consistency
import StaticSite.Proofs.Site.Frame
import StaticSite.Proofs.Site.Mirror

/-!
# Content files with one output file

Content files have output files of their own, but for pages: those of one directory share their output
file if they have the same name up to the extension and the same extension in the output
(`outputNames_eq_iff`). A full build does not tell such a clash. It counts the files that it builds and
copies, and so the output directory holds fewer files than were counted, and the removal of one page
deletes the output of the other (`clashes_build`, `build_twins`).
-/

namespace StaticSite.Builder

open StaticSite.Path Build FileTree

variable {builder rebuilt starter : Builder} {site built later tree : FileTree} {file other : ContentName}
  {path : Path} {names : List String} {walked : List ContentName} {changes : List Change}
  {task : Task} {tasks : List Task} {result : BuildResult}

/-! ## Clashes -/

/-- Whether two files are pages of one directory that have the same name up to the extension, and the
same extension in the output. -/
structure Clashes (builder : Builder) (file other : ContentName) : Prop where
  ne : file ≠ other
  directory : file.directory = other.directory
  isPage : builder.IsPageName file
  isPage' : builder.IsPageName other
  stem : (splitName file.name.toList).1 = (splitName other.name.toList).1
  extension : outputExtension file.name = outputExtension other.name

/-- Where HTML files are pages, files that are not hidden share their output file only if they
clash. -/
theorem outputNames_eq_iff (hhtml : (builder.registry.forExtension? "html").isSome)
    (hname : IsName file.name) (hshown : ¬ isHiddenName file.name) (hname' : IsName other.name)
    (hshown' : ¬ isHiddenName other.name) :
    builder.outputNames file = builder.outputNames other ↔
      file = other ∨ builder.Clashes file other := by
  have hpages (hpage : builder.IsPageName file) (hpage' : builder.IsPageName other) :
      builder.outputNames file = builder.outputNames other ↔ file.directory = other.directory ∧
        (splitName file.name.toList).1 = (splitName other.name.toList).1 ∧
          outputExtension file.name = outputExtension other.name := by
    rw [← outputName_eq_iff hname (hasStem_of_not_isHiddenName hshown) hname'
      (hasStem_of_not_isHiddenName hshown'), outputNames, outputNames,
      if_pos (show builder.registry.isPage ⟨file.name⟩ from hpage),
      if_pos (show builder.registry.isPage ⟨other.name⟩ from hpage')]
    constructor
    · intro hsame
      obtain ⟨hdirectory, hlast⟩ := List.append_inj' hsame rfl
      exact ⟨hdirectory, List.singleton_inj.mp hlast⟩
    · rintro ⟨hdirectory, hlast⟩
      rw [hdirectory, hlast]
  constructor
  · intro hsame
    by_cases hpage : builder.IsPageName file
    · by_cases hpage' : builder.IsPageName other
      · obtain ⟨hdirectory, hstem, hextension⟩ := (hpages hpage hpage').mp hsame
        by_cases hne : file = other
        · exact Or.inl hne
        · exact Or.inr ⟨hne, hdirectory, hpage, hpage', hstem, hextension⟩
      · exact Or.inl (eq_of_outputNames_eq hhtml hname hshown hpage' hsame.symm).symm
    · exact Or.inl (eq_of_outputNames_eq hhtml hname' hshown' hpage hsame)
  · rintro (rfl | hclashes)
    · rfl
    · exact (hpages hclashes.isPage hclashes.isPage').mpr
        ⟨hclashes.directory, hclashes.stem, hclashes.extension⟩

/-- Content that is there has a name. -/
theorem isName_of_file? (hclosed : tree.Closed)
    (h : (tree.file? (builder.placeOf tree file)).isSome) : IsName file.name :=
  isName_of_isSome hclosed h file.name (List.mem_append_right _ List.mem_cons_self)

/-- Files that are shown share their output file only if they clash. -/
theorem Shown.outputNames_eq_iff (hhtml : (builder.registry.forExtension? "html").isSome)
    (hclosed : tree.Closed) (h : builder.Shown tree file) (h' : builder.Shown tree other) :
    builder.outputNames file = builder.outputNames other ↔
      file = other ∨ builder.Clashes file other :=
  Builder.outputNames_eq_iff hhtml (isName_of_file? hclosed h.isSome)
    (ContentName.not_isHiddenName h.not_hidden) (isName_of_file? hclosed h'.isSome)
    (ContentName.not_isHiddenName h'.not_hidden)

/-! ## Counts -/

/-- The files in the output directory, by the names that lead to them. -/
def outputFiles (builder : Builder) (tree : FileTree) : Set (List String) :=
  {names | names ≠ [] ∧ (tree.file? (builder.outputPlace tree ++ names)).isSome}

section Counts

variable (hdistinct : walked.Nodup)
  (hwalked : ∀ file, file ∈ walked ↔
    ¬ file.IsHidden ∧ (site.file? (builder.placeOf site file)).isSome)

include hwalked

/-- The files that are built or copied are those that have been walked through but for metadata. -/
private theorem setOf_shown : {file | builder.Shown site file} =
    ↑((walked.filter fun file ↦ !decide (builder.IsSkipped file)).toFinset) := by
  ext file
  simp only [Set.mem_ofPred_eq, List.coe_toFinset, List.mem_filter, hwalked, Bool.not_eq_true',
    decide_eq_false_iff_not]
  constructor
  · rintro ⟨hsome, hhidden, hpage⟩
    exact ⟨⟨hhidden, hsome⟩, fun hskipped ↦ hpage.elim hskipped.2 (absurd hskipped.1)⟩
  · rintro ⟨⟨hhidden, hsome⟩, hskipped⟩
    refine ⟨hsome, hhidden, ?_⟩
    by_contra hnot
    rw [not_or, not_not] at hnot
    exact hskipped ⟨hnot.2, hnot.1⟩

include hdistinct

/-- A build without failures counts the files that it builds or copies. -/
private theorem Mirrors.ncard_shown (h : builder.Mirrors site walked [] result built)
    (hok : result.failures = []) :
    {file | builder.Shown site file}.ncard = result.pages + result.assets := by
  rw [setOf_shown hwalked, Set.ncard_coe_finset,
    List.toFinset_card_of_nodup (hdistinct.filter _)]
  have hcount := h.count
  have hall := List.length_eq_length_filter_add (l := walked) (builder.IsSkipped ·)
  simp only [hok, List.length_nil] at hcount
  omega

omit hdistinct in
/-- The output directory holds their output files. -/
private theorem Mirrors.outputFiles_eq (h : builder.Mirrors site walked [] result built) :
    builder.outputFiles built = builder.outputNames '' {file | builder.Shown site file} := by
  ext names
  rw [outputFiles, Set.mem_ofPred_eq, setOf_shown hwalked, h.stage.outputPlace_eq]
  simp only [List.coe_toFinset, Set.mem_image, Set.mem_ofPred_eq, List.mem_filter, Bool.not_eq_true',
    decide_eq_false_iff_not]
  constructor
  · rintro ⟨hnames, hsome⟩
    obtain ⟨file, htaken, rfl⟩ := (h.output names hnames).mp hsome
    exact ⟨file, ⟨htaken.mem, htaken.not_skipped⟩, rfl⟩
  · rintro ⟨file, ⟨hmem, hskipped⟩, rfl⟩
    have hnames : builder.outputNames file ≠ [] := by simp [outputNames]
    exact ⟨hnames, (h.output _ hnames).mpr ⟨file, ⟨hmem, by simp, hskipped⟩, rfl⟩⟩

end Counts

/-- A build without failures leaves at most as many output files as it counts, and fewer if files
clash. -/
private theorem ncard_outputFiles (hsite : site.WellFormed) (hdirect : builder.paths.output.Direct)
    (hhtml : (builder.registry.forExtension? "html").isSome)
    (hgives : builder.build.Gives site (result, rebuilt) built) (hok : result.failures = []) :
    (builder.outputFiles built).ncard ≤ result.pages + result.assets ∧
      ((builder.outputFiles built).ncard = result.pages + result.assets ↔
        {file | builder.Shown site file}.Pairwise fun file other ↦ ¬ builder.Clashes file other) := by
  obtain ⟨walked, failed, hordered, hwalked, hmirrors⟩ :=
    exists_mirrors_of_gives_build hsite hdirect hhtml hgives
  have hfailed : failed = [] := by simpa [hok] using hmirrors.failures
  subst hfailed
  have hdistinct : walked.Nodup := hordered.imp fun hlt hsame ↦ (hsame ▸ hlt).false
  have hfinite : {file | builder.Shown site file}.Finite := by
    rw [setOf_shown hwalked]
    exact Finset.finite_toSet _
  rw [hmirrors.outputFiles_eq hwalked, ← hmirrors.ncard_shown hdistinct hwalked hok,
    Set.ncard_image_iff hfinite]
  refine ⟨Set.ncard_image_le hfinite, fun hinjective file hfile other hother hne hclashes ↦ hne ?_,
    fun hapart file hfile other hother hsame ↦ ?_⟩
  · exact hinjective hfile hother
      ((Shown.outputNames_eq_iff hhtml hsite.toClosed hfile hother).mpr (Or.inr hclashes))
  · by_contra hne
    refine hapart hfile hother hne ?_
    exact ((Shown.outputNames_eq_iff hhtml hsite.toClosed hfile hother).mp hsame).resolve_left hne

/-! ## Removals -/

/-- A rebuild for changes to content deletes the output of a file that is there only if the file itself
is said to be deleted, or another one that it clashes with. -/
private theorem exists_removed (hseparate : builder.Separate later) (hclosed : later.Closed)
    (hhtml : (builder.registry.forExtension? "html").isSome) (hcache : builder.cache.isSome)
    (htells : builder.Tells changes)
    (hthere : (later.file? (builder.placeOf later file)).isSome)
    (hbefore : (later.file? (builder.outputPlaceOf later file)).isSome)
    (hafter : (builder.rebuild (Scope.ofChanges changes) later).2.file?
      (builder.outputPlaceOf later file) = none) :
    ∃ removed path, builder.IsPathOf removed path ∧ .remove path ∈ Change.tasks changes ∧
      (removed = file ∨ builder.Clashes removed file) := by
  rw [htells.ofChanges_eq] at hafter
  have halters := alters_rebuild hseparate hclosed hcache fun task hmem ↦ htells.staysBelow hmem
  rcases halters.below (builder.outputNames file) (by simp [outputNames]) with hsame |
    ⟨-, hwritten⟩ | ⟨⟨task, hmem, hdrops⟩, -⟩
  · rw [outputPlaceOf, ← hsame, ← outputPlaceOf, hafter] at hbefore
    simp at hbefore
  · rw [← outputPlaceOf, hafter] at hwritten
    simp at hwritten
  · cases task with
    | remove path =>
      obtain ⟨removed, hpath, -, hhidden⟩ := htells.exists_of_remove hmem
      obtain ⟨found, hfound, -, hsame⟩ := hdrops
      obtain rfl := hfound.unique hpath.leadsTo
      have hname := isName_of_file? hclosed hthere
      have hshown : ¬ file.IsHidden :=
        mt (isHidden_of_outputNames_eq hname hpath.isName hsame.symm) hhidden
      exact ⟨found, path, hpath, hmem, (outputNames_eq_iff hhtml hpath.isName
        (ContentName.not_isHiddenName hhidden) hname (ContentName.not_isHiddenName hshown)).mp hsame⟩
    | page path => exact hdrops.elim
    | asset path => exact hdrops.elim
    | directory path => exact hdrops.elim

/-- A full build that succeeds does so again with the templates it has left. -/
theorem gives_build_of_starter (hgives : starter.build.Gives site (result, builder) built) :
    builder.build.Gives site (result, builder) built ∧ builder.cache.isSome := by
  obtain ⟨templates, -, -, -, -, -, -, -, -, -, hbuilder⟩ := gives_build.mp hgives
  have hbuild : builder.build = starter.build := by
    rw [hbuilder]
    exact build_withCache starter (some templates)
  rw [hbuild, hbuilder]
  rw [hbuilder] at hgives
  exact ⟨hgives, rfl⟩

/-- After a full build without failures, the files that were built or copied have output files of
their own, but for pages that clash. The output directory holds as many files as were counted exactly
if none do. A later rebuild for changes to content, whatever comes of it, deletes the output of a file
that is there only if the last change to this file says that it is deleted, or the last one to a page
that it clashes with. -/
theorem clashes_build (hsite : site.WellFormed)
    (hhtml : (builder.registry.forExtension? "html").isSome)
    (hgives : starter.build.Gives site (result, builder) built) (hok : result.failures = []) :
    (∀ file other, builder.Shown site file → builder.Shown site other →
      (builder.outputNames file = builder.outputNames other ↔
        file = other ∨ builder.Clashes file other)) ∧
    (builder.paths.output.Direct →
      (builder.outputFiles built).ncard ≤ result.pages + result.assets ∧
        ((builder.outputFiles built).ncard = result.pages + result.assets ↔
          {file | builder.Shown site file}.Pairwise fun file other ↦
            ¬ builder.Clashes file other)) ∧
    ∀ later changes, later.Closed → later.current = site.current → builder.Tells changes →
      ∀ file, (later.file? (builder.placeOf later file)).isSome →
        (later.file? (builder.outputPlaceOf later file)).isSome →
        (builder.rebuild (Scope.ofChanges changes) later).2.file?
          (builder.outputPlaceOf later file) = none →
        ∃ removed path, builder.IsPathOf removed path ∧ .remove path ∈ Change.tasks changes ∧
          (removed = file ∨ builder.Clashes removed file) := by
  obtain ⟨hbuild, hcache⟩ := gives_build_of_starter hgives
  refine ⟨fun file other hshown hshown' ↦
      Shown.outputNames_eq_iff hhtml hsite.toClosed hshown hshown',
    fun hdirect ↦ ncard_outputFiles hsite hdirect hhtml hbuild hok,
    fun later changes hclosed hcurrent htells file hthere hbefore hafter ↦ ?_⟩
  obtain ⟨-, -, -, -, hdirectories, -, -, -, -, -, -⟩ := gives_build.mp hbuild
  have hseparate : builder.Separate later :=
    (separate_of_directoryError? hsite.toClosed.currentName hdirectories).congr rfl hcurrent
  exact exists_removed hseparate hclosed hhtml hcache htells hthere hbefore hafter

/-! ## Two pages with one output file -/

/-- Two pages that differ in their extension alone. -/
def twins : List (String × String) := [("a.html", "H"), ("a.md", "M")]

/-- The output that they share. -/
def twinOutput : List (String × String) := [("a.html", "<p>M</p>\n")]

/-- Both are built. -/
theorem gives_build_twins : (flat none).build.Gives (.flat twins [])
    (⟨⟨"public"⟩, 2, 0, 0, []⟩, flat (some plainTemplates)) (.flat twins twinOutput) := by
  have hhtml : (flat none).pageHtml (.flat twins []) plainTemplates .identity ⟨"origin/a.html"⟩ =
      .ok "H" :=
    pageHtml_of_fillMarkers rfl rfl rfl rfl (Marker.isPlain_of_not_mem (by decide)) rfl
  have hbody : Format.markdown.convert "M" = "<p>M</p>\n" := by cbv
  have hmarkdown : (flat none).pageHtml (.flat twins [("a.html", "H")]) plainTemplates .identity
      ⟨"origin/a.md"⟩ = .ok "<p>M</p>\n" :=
    pageHtml_of_convert rfl rfl rfl rfl (Marker.isPlain_of_not_mem (by decide)) hbody
      (Renderer.renderPage_identity rfl)
  have hbuild : ((flat none).buildFiles plainTemplates .identity [⟨"origin/a.html"⟩, ⟨"origin/a.md"⟩]
      (flat none).noResult).Gives (.flat twins []) ⟨⟨"public"⟩, 2, 0, 0, []⟩
        (.flat twins twinOutput) :=
    gives_bind.mpr ⟨_, _, gives_notePage_of_writeOutput hhtml rfl rfl,
      gives_bind.mpr ⟨_, _, gives_notePage_of_writeOutput hmarkdown rfl rfl,
        gives_pure.mpr ⟨rfl, rfl⟩⟩⟩
  refine gives_build_of_walk (.flat twins []) [⟨"origin/a.html"⟩, ⟨"origin/a.md"⟩] (by decide) rfl rfl
    ?_ (by decide) hbuild
  have hlist : (FileTree.flat twins []).list ⟨"origin"⟩ = .ok ["a.html", "a.md"] := rfl
  change FileTree.walk _ _ ⟨"origin"⟩ = _
  simp [FileTree.walk, FileTree.walkNames, hlist]
  rfl

/-- The page in Markdown is deleted. -/
private theorem gives_rebuild_twins :
    ((flat (some plainTemplates)).rebuild (Scope.ofChanges [.page ⟨"origin/a.md"⟩ true])).Gives
      (.flat [("a.html", "H")] twinOutput)
      (⟨⟨"public"⟩, 0, 0, 1, []⟩, flat (some plainTemplates)) (.flat [("a.html", "H")] []) := by
  have hscope : Scope.ofChanges [.page ⟨"origin/a.md"⟩ true] = .files [.remove ⟨"origin/a.md"⟩] :=
    rfl
  have hrun : ((flat (some plainTemplates)).runTasks plainTemplates .identity
      [.remove ⟨"origin/a.md"⟩] (flat (some plainTemplates)).noResult).Gives
        (.flat [("a.html", "H")] twinOutput) ⟨⟨"public"⟩, 0, 0, 1, []⟩ (.flat [("a.html", "H")] []) :=
    rfl
  rw [hscope, rebuild_files rfl renderer_plainTemplates]
  exact gives_bind.mpr ⟨_, _, hrun, gives_pure.mpr ⟨rfl, rfl⟩⟩

/-- The output directory of a flat site holds its texts. -/
theorem outputFiles_flat {cache : Option ComposedTemplates} {content output : List (String × String)} :
    (flat cache).outputFiles (.flat content output) ⊆ {names | ∃ item ∈ output, names = [item.1]} := by
  rintro names ⟨-, hsome⟩
  obtain ⟨found, hfound⟩ := Option.isSome_iff_exists.mp hsome
  rw [outputPlace_flat] at hfound
  rcases FileTree.exists_of_file?_flat hfound with ⟨item, -, hplace, -⟩ | ⟨item, hitem, hplace, -⟩
  · exact absurd (List.cons.inj hplace).1 (by decide)
  · exact ⟨item, hitem, (List.cons.inj hplace).2⟩

private theorem outputFiles_twins :
    (flat (some plainTemplates)).outputFiles (.flat twins twinOutput) = {["a.html"]} := by
  refine Set.Subset.antisymm (outputFiles_flat.trans ?_) ?_
  · rintro names ⟨item, hitem, rfl⟩
    obtain rfl := List.mem_singleton.mp hitem
    rfl
  · rintro names rfl
    exact ⟨by simp, rfl⟩

private theorem shown_twins {name : String} (h : name = "a.html" ∨ name = "a.md") :
    (flat (some plainTemplates)).Shown (.flat twins []) ⟨[], name⟩ := by
  rcases h with rfl | rfl
  · exact ⟨rfl, by decide, Or.inl (by decide)⟩
  · exact ⟨rfl, by decide, Or.inl (by decide)⟩

/-- The output directory holds less than was counted, and one page goes with the other. -/
theorem clashes_build_twins :
    (flat (some plainTemplates)).Clashes ⟨[], "a.html"⟩ ⟨[], "a.md"⟩ ∧
      ((flat (some plainTemplates)).outputFiles (.flat twins twinOutput)).ncard ≤ 2 ∧
      ∃ removed path, (flat (some plainTemplates)).IsPathOf removed path ∧
        .remove path ∈ Change.tasks [.page ⟨"origin/a.md"⟩ true] ∧
        (removed = ⟨[], "a.html"⟩ ∨
          (flat (some plainTemplates)).Clashes removed ⟨[], "a.html"⟩) := by
  obtain ⟨houtputs, hcount, hremoved⟩ := clashes_build
    (wellFormed_flat (by decide) (by decide) (by decide)) rfl gives_build_twins rfl
  have hdirect : (flat (some plainTemplates)).paths.output.Direct := ⟨[], ["public"], rfl, by simp⟩
  have hpath : (flat (some plainTemplates)).IsPathOf ⟨[], "a.md"⟩
      (Path.join ⟨"origin"⟩ ⟨"a.md"⟩) :=
    isPathOf_join (List.append_nil _).symm (by decide) (by decide)
  refine ⟨?_, (hcount hdirect).1, hremoved (.flat [("a.html", "H")] twinOutput) _
    (wellFormed_flat (by decide) (by decide) (by decide)).toClosed rfl ?_ _ rfl rfl ?_⟩
  · exact ((houtputs _ _ (shown_twins (Or.inl rfl)) (shown_twins (Or.inr rfl))).mp rfl).resolve_left
      (by decide)
  · intro change hmem
    obtain rfl := List.mem_singleton.mp hmem
    exact ⟨_, _, true, hpath, Or.inr (by decide), rfl⟩
  · rw [(gives_iff.mp gives_rebuild_twins).2]
    rfl

/-- A file that no build has left. -/
def staleTree (more : List (Place × Entry)) : FileTree where
  entries := (FileTree.flat [("a.txt", "a")] [("stale.txt", "old")]).entries ++ more
  current := []

/-- What a build adds. -/
def staleMore : List (Place × Entry) :=
  [(["x"], .directory), (["public", "a.txt"], .file (.text "a"))]

private theorem gives_build_stale : (crossing none).build.Gives (staleTree [])
    (⟨⟨"x/../public"⟩, 0, 1, 0, []⟩, crossing (some plainTemplates)) (staleTree staleMore) := by
  refine gives_build_of_walk (staleTree [(["x"], .directory)]) [⟨"origin/a.txt"⟩] (by decide) rfl rfl
    ?_ (by decide) rfl
  have hlist : (staleTree [(["x"], .directory)]).list ⟨"origin"⟩ = .ok ["a.txt"] := rfl
  change FileTree.walk _ _ ⟨"origin"⟩ = _
  simp [FileTree.walk, FileTree.walkNames, hlist]
  rfl

private theorem outputFiles_stale : (crossing (some plainTemplates)).outputFiles
    (staleTree staleMore) = {["a.txt"], ["stale.txt"]} := by
  have hplace : (crossing (some plainTemplates)).outputPlace (staleTree staleMore) = ["public"] := rfl
  ext names
  rw [outputFiles, hplace]
  constructor
  · rintro ⟨hnames, hsome⟩
    obtain ⟨found, hfound⟩ := Option.isSome_iff_exists.mp hsome
    have hentry : names = ["stale.txt"] ∧ found = .text "old" ∨
        names = ["a.txt"] ∧ found = .text "a" := by
      simpa [staleTree, staleMore, FileTree.flat, textEntries] using
        mem_entries_of_get? (by simp) (file?_eq_some_iff.mp hfound)
    rcases hentry with ⟨rfl, -⟩ | ⟨rfl, -⟩
    · exact Or.inr rfl
    · exact Or.inl rfl
  · rintro (rfl | rfl)
    · exact ⟨by simp, rfl⟩
    · exact ⟨by simp, rfl⟩

/-- Two pages are counted that share one output file, and the removal of one deletes the output of the
other, which is there. Through a path that goes up behind a name a stale file stays, too. -/
theorem build_twins :
    let builder := flat (some plainTemplates)
    let site := FileTree.flat twins []
    let later := FileTree.flat [("a.html", "H")] twinOutput
    (flat none).build.Gives site (⟨⟨"public"⟩, 2, 0, 0, []⟩, builder) (.flat twins twinOutput) ∧
      builder.Shown site ⟨[], "a.html"⟩ ∧ builder.Shown site ⟨[], "a.md"⟩ ∧
      builder.outputNames ⟨[], "a.html"⟩ = builder.outputNames ⟨[], "a.md"⟩ ∧
      (builder.outputFiles (.flat twins twinOutput)).ncard = 1 ∧
      (builder.rebuild (Scope.ofChanges [.page ⟨"origin/a.md"⟩ true])).Gives later
        (⟨⟨"public"⟩, 0, 0, 1, []⟩, builder) (.flat [("a.html", "H")] []) ∧
      (later.file? (builder.placeOf later ⟨[], "a.html"⟩)).isSome ∧
      (crossing none).build.Gives (staleTree []) (⟨⟨"x/../public"⟩, 0, 1, 0, []⟩,
        crossing (some plainTemplates)) (staleTree staleMore) ∧
      ((crossing (some plainTemplates)).outputFiles (staleTree staleMore)).ncard = 2 := by
  refine ⟨gives_build_twins, shown_twins (Or.inl rfl), shown_twins (Or.inr rfl), rfl, ?_,
    gives_rebuild_twins, rfl, gives_build_stale, ?_⟩
  · rw [outputFiles_twins, Set.ncard_singleton]
  · rw [outputFiles_stale, Set.ncard_pair (by decide)]

end StaticSite.Builder
