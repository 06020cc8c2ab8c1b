import StaticSite.Proofs.Site.Flat

/-!
# Output that mirrors the content

A full build takes the content files in their order, and each of them ends as a page, as a copy, as a
failure or, where it is metadata alone, as nothing at all. What it has done is told by the files that
it is done with and those of them that have failed (`Mirrors`). At its end the output directory holds
the output files of those that have not failed, and nothing from before (`exists_mirrors_build`).
-/

namespace StaticSite.Builder

open StaticSite.Path Build

variable {builder rebuilt : Builder} {base tree tree₁ : FileTree} {file other : ContentName}
  {path : Path} {files : List Path} {templates : ComposedTemplates} {renderer : Renderer}
  {result result₁ : BuildResult} {done failed walked : List ContentName} {content : Content}

/-- Whether a content file has no part in the output, since it holds metadata and is no page. -/
def IsSkipped (builder : Builder) (file : ContentName) : Prop :=
  builder.IsSidecarName file ∧ ¬ builder.IsPageName file

instance (file : ContentName) : Decidable (builder.IsSkipped file) :=
  inferInstanceAs (Decidable (_ ∧ _))

/-- Whether a content file is among those of a list that have been built or copied. -/
structure Taken (builder : Builder) (done failed : List ContentName) (file : ContentName) :
    Prop where
  mem : file ∈ done
  not_failed : file ∉ failed
  not_skipped : ¬ builder.IsSkipped file

/-- Whether a build that is done with some content files, of which some have failed, has come to a
result and a tree that tell so. -/
structure Mirrors (builder : Builder) (base : FileTree) (done failed : List ContentName)
    (result : BuildResult) (tree : FileTree) : Prop where
  stage : builder.Stage base tree
  sublist : failed.Sublist done
  failures : List.Forall₂ (fun file failure ↦ builder.IsPathOf file failure.path) failed
    result.failures
  output : ∀ names ≠ [], (tree.file? (builder.outputPlace base ++ names)).isSome ↔
    ∃ file, builder.Taken done failed file ∧ builder.outputNames file = names
  copies : ∀ file, builder.Taken done failed file → ¬ builder.IsPageName file →
    tree.file? (builder.outputPlaceOf base file) = base.file? (builder.placeOf base file)
  count : result.pages + result.assets + result.failures.length +
    (done.filter (builder.IsSkipped ·)).length = done.length

/-- Where HTML files are pages, two files have different output files unless both are pages. -/
theorem eq_of_outputNames_eq (hhtml : (builder.registry.forExtension? "html").isSome)
    (hname : IsName other.name) (hhidden : ¬ isHiddenName other.name)
    (hpage : ¬ builder.IsPageName file)
    (h : builder.outputNames file = builder.outputNames other) : file = other := by
  obtain ⟨directory, name⟩ := file
  obtain ⟨directory', name'⟩ := other
  have hnot : ¬ builder.registry.isPage ⟨name⟩ := hpage
  obtain ⟨rfl, hlast⟩ := List.append_inj' h rfl
  simp only [if_neg hnot, List.singleton_inj] at hlast
  split_ifs at hlast with hother
  · rw [hlast] at hnot
    exact absurd (isPage_outputName hhtml hname (hasStem_of_not_isHiddenName hhidden) hother) hnot
  · rw [hlast]

/-- A build that is done with nothing has an empty output directory. -/
theorem mirrors_nil (h : builder.Stage base tree)
    (hempty : ∀ names ≠ [], tree.file? (builder.outputPlace base ++ names) = none) :
    builder.Mirrors base [] [] builder.noResult tree where
  stage := h
  sublist := .refl _
  failures := .nil
  output names hnames := by
    rw [hempty names hnames]
    refine iff_of_false (by simp) ?_
    rintro ⟨file, htaken, -⟩
    simpa using htaken.mem
  copies file htaken := by simpa using htaken.mem
  count := rfl

namespace Mirrors

variable (h : builder.Mirrors base done failed result tree) (hnew : file ∉ done)

include h hnew

/-- A file that has failed has no output file of its own. -/
theorem fail {e : BuildError} (hskipped : ¬ builder.IsSkipped file)
    (hpath : builder.IsPathOf file path) (hextends : tree.Extends tree₁) :
    builder.Mirrors base (done ++ [file]) (failed ++ [file])
      { result with failures := result.failures ++ [⟨path, e⟩] } tree₁ := by
  have htaken (other : ContentName) : builder.Taken (done ++ [file]) (failed ++ [file]) other ↔
      builder.Taken done failed other := by
    constructor
    · rintro ⟨hmem, hnot, hother⟩
      rw [List.mem_append, List.mem_singleton, not_or] at hnot
      rw [List.mem_append, List.mem_singleton] at hmem
      exact ⟨hmem.resolve_right hnot.2, hnot.1, hother⟩
    · rintro ⟨hmem, hnot, hother⟩
      refine ⟨List.mem_append_left _ hmem, ?_, hother⟩
      rw [List.mem_append, List.mem_singleton, not_or]
      exact ⟨hnot, fun hsame ↦ hnew (hsame ▸ hmem)⟩
  refine ⟨h.stage.extend hextends, h.sublist.append (.refl _),
    List.rel_append h.failures (.cons hpath .nil), fun names hnames ↦ ?_, fun other hother hpage ↦ ?_,
    ?_⟩
  · simp only [hextends.file?, h.output names hnames, htaken]
  · rw [hextends.file?, h.copies other ((htaken other).mp hother) hpage]
  · have hcount := h.count
    simp [hskipped]
    omega

/-- A file that is among those done and has not failed is one of the earlier ones or the new one. -/
private theorem taken_append (other : ContentName) :
    builder.Taken (done ++ [file]) failed other ↔
      builder.Taken done failed other ∨ other = file ∧ ¬ builder.IsSkipped file := by
  have hfile : file ∉ failed := fun hmem ↦ hnew (h.sublist.subset hmem)
  constructor
  · rintro ⟨hmem, hnot, hother⟩
    rcases List.mem_append.mp hmem with hmem | hmem
    · exact Or.inl ⟨hmem, hnot, hother⟩
    · obtain rfl := List.mem_singleton.mp hmem
      exact Or.inr ⟨rfl, hother⟩
  · rintro (⟨hmem, hnot, hother⟩ | ⟨rfl, hskipped⟩)
    · exact ⟨List.mem_append_left _ hmem, hnot, hother⟩
    · exact ⟨by simp, hfile, hskipped⟩

/-- A file that has no part in the output changes nothing. -/
theorem skip (hskipped : builder.IsSkipped file) :
    builder.Mirrors base (done ++ [file]) failed result tree := by
  have htaken (other : ContentName) : builder.Taken (done ++ [file]) failed other ↔
      builder.Taken done failed other := by
    simp [h.taken_append hnew, hskipped]
  refine ⟨h.stage, h.sublist.trans (List.sublist_append_left _ _), h.failures,
    fun names hnames ↦ ?_, fun other hother hpage ↦ h.copies other ((htaken other).mp hother) hpage,
    ?_⟩
  · simp only [h.output names hnames, htaken]
  · have hcount := h.count
    simp [hskipped]
    omega

/-- A file that has been built or copied has an output file. -/
theorem take (hskipped : ¬ builder.IsSkipped file)
    (hupdate : tree.Updates (builder.outputPlaceOf base file) (some content) tree₁)
    (hcopy : ¬ builder.IsPageName file → base.file? (builder.placeOf base file) = some content)
    (hapart : ∀ other ∈ done, ¬ builder.IsPageName other →
      builder.outputNames other ≠ builder.outputNames file)
    (hfailures : result₁.failures = result.failures)
    (hcount : result₁.pages + result₁.assets = result.pages + result.assets + 1) :
    builder.Mirrors base (done ++ [file]) failed result₁ tree₁ := by
  refine ⟨h.stage.update hupdate, h.sublist.trans (List.sublist_append_left _ _),
    hfailures ▸ h.failures, fun names hnames ↦ ?_, fun other hother hpage ↦ ?_, ?_⟩
  · rw [hupdate.file?, outputPlaceOf]
    simp only [h.taken_append hnew, List.append_cancel_left_eq]
    split_ifs with hsame
    · subst hsame
      simpa using ⟨file, Or.inr ⟨rfl, hskipped⟩, rfl⟩
    · rw [h.output names hnames]
      constructor
      · rintro ⟨other, hother, rfl⟩
        exact ⟨other, Or.inl hother, rfl⟩
      · rintro ⟨other, hother | ⟨rfl, -⟩, rfl⟩
        · exact ⟨other, hother, rfl⟩
        · exact absurd rfl hsame
  · rw [hupdate.file?]
    rcases (h.taken_append hnew other).mp hother with hother | ⟨rfl, -⟩
    · rw [if_neg, h.copies other hother hpage]
      exact fun hsame ↦ hapart other hother.mem hpage (List.append_cancel_left hsame)
    · rw [if_pos rfl, hcopy hpage]
  · have hold := h.count
    simp [hfailures, hskipped]
    omega

end Mirrors

/-! ## All content files -/

section Steps

variable (hbase : builder.Grounded base)
  (hhtml : (builder.registry.forExtension? "html").isSome)
  (h : builder.Mirrors base done failed result tree) (hnew : file ∉ done)
  (hpath : builder.IsPathOf file path) (hhidden : ¬ file.IsHidden)

include hbase hhtml h hnew hpath hhidden

/-- A page is built, or it fails. -/
private theorem exists_mirrors_notePage (hpage : builder.IsPageName file)
    (hgives : (builder.notePage templates renderer result path).Gives tree result₁ tree₁) :
    ∃ failed₁, builder.Mirrors base (done ++ [file]) failed₁ result₁ tree₁ := by
  have hskipped : ¬ builder.IsSkipped file := fun hskipped ↦ hskipped.2 hpage
  have hname := ContentName.not_isHiddenName hhidden
  rcases cases_of_gives_note hgives with ⟨hwork, rfl⟩ | ⟨hwork, rfl⟩ | ⟨e, hwork, rfl⟩
  · obtain ⟨built, tree₂, hbuild, hdone⟩ := gives_bind.mp hwork
    obtain ⟨-, rfl⟩ := gives_pure.mp hdone
    obtain ⟨html, -, hupdate⟩ := updates_buildPage hbase h.stage hpath hname hbuild
    refine ⟨failed, h.take hnew hskipped hupdate (absurd hpage) (fun other hmem hother hsame ↦ hnew ?_)
      rfl (by simp; omega)⟩
    exact eq_of_outputNames_eq hhtml hpath.isName hname hother hsame ▸ hmem
  · obtain ⟨built, tree₂, -, hdone⟩ := gives_bind.mp hwork
    simpa using (gives_pure.mp hdone).1
  · rcases fails_bind.mp hwork with hbuild | ⟨built, tree₂, -, hdone⟩
    · exact ⟨_, h.fail hnew hskipped hpath (extends_of_fails_buildPage hbuild)⟩
    · exact absurd hdone not_fails_pure

/-- Another file is copied, or it has no part in the output, or it fails. -/
private theorem exists_mirrors_noteAsset (hpage : ¬ builder.IsPageName file)
    (hsome : (base.file? (builder.placeOf base file)).isSome)
    (hgives : (builder.noteAsset result path).Gives tree result₁ tree₁) :
    ∃ failed₁, builder.Mirrors base (done ++ [file]) failed₁ result₁ tree₁ := by
  have hname := ContentName.not_isHiddenName hhidden
  by_cases hsidecar : builder.IsSidecarName file
  · obtain ⟨rfl, rfl⟩ := eq_of_noteAsset_sidecar hpath hsidecar hgives
    exact ⟨failed, h.skip hnew ⟨hsidecar, hpage⟩⟩
  have hskipped : ¬ builder.IsSkipped file := fun hskipped ↦ hsidecar hskipped.1
  rcases cases_of_gives_note hgives with ⟨hwork, rfl⟩ | ⟨hwork, rfl⟩ | ⟨e, hwork, rfl⟩
  · obtain ⟨content, hcontent, hupdate⟩ :=
      updates_copyAsset hbase h.stage hpath ⟨hsome, hhidden, hsidecar⟩ hwork
    refine ⟨failed, h.take hnew hskipped hupdate (fun _ ↦ hcontent)
      (fun other hmem hother hsame ↦ hnew ?_) rfl (by simp; omega)⟩
    exact eq_of_outputNames_eq hhtml hpath.isName hname hother hsame ▸ hmem
  · -- The file is still there, so there is something to copy.
    obtain ⟨content, hcontent⟩ := Option.isSome_iff_exists.mp hsome
    have hentry : tree.hasEntry path :=
      FileTree.hasEntry_of_read ((hbase.read_contentFile h.stage hpath).mpr hcontent)
    rcases cases_of_gives_copyAsset hwork with ⟨-, -, hnone⟩ | ⟨hdone, -⟩
    · exact absurd hnone (by simp [hentry, mt hpath.isSidecar_iff.mp hsidecar])
    · simp at hdone
  · exact ⟨_, h.fail hnew hskipped hpath (extends_of_fails_copyAsset hwork)⟩

end Steps

/-- A build that takes content files one by one mirrors all of them. -/
theorem exists_mirrors_buildFiles (hbase : builder.Grounded base)
    (hhtml : (builder.registry.forExtension? "html").isSome)
    (h : builder.Mirrors base done failed result tree)
    (hwalked : List.Forall₂ builder.IsPathOf walked files) (hdistinct : (done ++ walked).Nodup)
    (hfiles : ∀ file ∈ walked,
      ¬ file.IsHidden ∧ (base.file? (builder.placeOf base file)).isSome)
    (hgives : (builder.buildFiles templates renderer files result).Gives tree result₁ tree₁) :
    ∃ failed₁, builder.Mirrors base (done ++ walked) failed₁ result₁ tree₁ := by
  rw [buildFiles_eq_foldlM] at hgives
  induction hwalked generalizing done failed result tree with
  | nil =>
    obtain ⟨rfl, rfl⟩ := gives_pure.mp hgives
    exact ⟨failed, by rwa [List.append_nil]⟩
  | @cons file path walked files hpath hwalked ih =>
    obtain ⟨hhidden, hsome⟩ := hfiles file List.mem_cons_self
    have hnew : file ∉ done := fun hmem ↦
      (List.nodup_append.mp hdistinct).2.2 file hmem file List.mem_cons_self rfl
    rw [List.foldlM_cons] at hgives
    obtain ⟨result₂, tree₂, hstep, hrest⟩ := gives_bind.mp hgives
    have hmirrors : ∃ failed₁, builder.Mirrors base (done ++ [file]) failed₁ result₂ tree₂ := by
      by_cases hpage : builder.IsPageName file
      · rw [if_pos (hpath.isPage_iff.mpr hpage)] at hstep
        exact exists_mirrors_notePage hbase hhtml h hnew hpath hhidden hpage hstep
      · rw [if_neg (mt hpath.isPage_iff.mp hpage)] at hstep
        exact exists_mirrors_noteAsset hbase hhtml h hnew hpath hhidden hpage hsome hstep
    obtain ⟨failed₁, h₁⟩ := hmirrors
    have happend : done ++ file :: walked = done ++ [file] ++ walked := by simp
    rw [happend] at hdistinct ⊢
    exact ih h₁ hdistinct (fun other hmem ↦ hfiles other (List.mem_cons_of_mem _ hmem)) hrest

/-- Where HTML files are pages, a full build is done with all content files that are not hidden, and
mirrors them. -/
theorem exists_mirrors_of_gives_build (hbase : base.WellFormed)
    (hdirect : builder.paths.output.Direct)
    (hhtml : (builder.registry.forExtension? "html").isSome)
    (hgives : builder.build.Gives base (result, rebuilt) tree) :
    ∃ walked failed, walked.Pairwise (fun a b ↦ a.names < b.names) ∧
      (∀ file, file ∈ walked ↔
        ¬ file.IsHidden ∧ (base.file? (builder.placeOf base file)).isSome) ∧
      builder.Mirrors base walked failed result tree := by
  obtain ⟨templates, renderer, emptied, files, hdirectories, -, -, hprepare, hfiles, hbuild, -⟩ :=
    gives_build.mp hgives
  have hgrounded := grounded_of_directoryError? hbase hdirectories
  obtain ⟨hstage, hempty⟩ :=
    stage_prepareOutput hgrounded hgrounded.stage hdirect hprepare (passable_of_contentFiles hfiles)
  have hlists := lists_contentFiles hstage.closed hgrounded.contentText hfiles
  obtain ⟨walked, hwalked, hordered, hmem⟩ := hlists.exists_names
  have hmem (file : ContentName) : file ∈ walked ↔
      ¬ file.IsHidden ∧ (base.file? (builder.placeOf base file)).isSome := by
    rw [hmem, hstage.placeOf_eq, hgrounded.file?_placeOf hstage]
  have hdistinct : walked.Nodup := hordered.imp fun hlt hsame ↦ (hsame ▸ hlt).false
  obtain ⟨failed, hmirrors⟩ := exists_mirrors_buildFiles hgrounded hhtml (mirrors_nil hstage hempty)
    hwalked hdistinct (fun file ↦ (hmem file).mp) hbuild
  exact ⟨walked, failed, hordered, hmem, hmirrors⟩

/-- A full build mirrors the content: it is done with all content files that are not hidden, in the
order of their names, and the output directory holds what they make and nothing else. -/
theorem exists_mirrors_build (hbase : base.WellFormed) (hdirect : builder.paths.output.Direct)
    (hregistry : builder.registry = .standard)
    (hgives : builder.build.Gives base (result, rebuilt) tree) :
    ∃ walked failed, walked.Pairwise (fun a b ↦ a.names < b.names) ∧
      (∀ file, file ∈ walked ↔
        ¬ file.IsHidden ∧ (base.file? (builder.placeOf base file)).isSome) ∧
      builder.Mirrors base walked failed result tree := by
  have hhtml : (builder.registry.forExtension? "html").isSome := by
    rw [hregistry]
    rfl
  exact exists_mirrors_of_gives_build hbase hdirect hhtml hgives

/-- The file tree of a site with a file, a page that is no text and metadata, and with an output. -/
def mixed (output : List (Place × Entry)) : FileTree where
  entries := [(["template"], .directory), (["origin"], .directory),
    (["origin", "a.txt"], .file (.text "a")), (["origin", "b.html"], .file (.binary [255])),
    (["origin", "metadata.yaml"], .file (.text "")), (["public"], .directory)] ++ output
  current := []

/-- An output that an earlier build of the site has left. -/
def mixedBefore : FileTree := mixed [(["public", "b.html"], .file (.text "b"))]

/-- The output of the site. -/
def mixedAfter : FileTree := mixed [(["public", "a.txt"], .file (.text "a"))]

private theorem walk_mixed : (mixed []).walk ((mixed []).depth + 1) ⟨"origin"⟩ =
    .ok [⟨"origin/a.txt"⟩, ⟨"origin/b.html"⟩, ⟨"origin/metadata.yaml"⟩] := by
  have hlist : (mixed []).list ⟨"origin"⟩ = .ok ["a.txt", "b.html", "metadata.yaml"] := rfl
  simp [FileTree.walk, FileTree.walkNames, hlist]
  rfl

private theorem gives_build_mixed : (flat none).build.Gives mixedBefore
    (⟨⟨"public"⟩, 0, 1, 0, [⟨⟨"origin/b.html"⟩, .read ⟨"origin/b.html"⟩ .notText⟩]⟩,
      flat (some plainTemplates)) mixedAfter :=
  gives_build_of_walk (mixed []) _ (by decide) rfl rfl walk_mixed (by decide) rfl

/-- A file is copied, a page fails, and its output from an earlier build is gone. -/
theorem exists_mirrors_build_mixed :
    ∃ walked failed, walked.Pairwise (fun a b ↦ a.names < b.names) ∧
      (∀ file, file ∈ walked ↔
        ¬ file.IsHidden ∧ (mixedBefore.file? ((flat none).placeOf mixedBefore file)).isSome) ∧
      (flat none).Mirrors mixedBefore walked failed
        ⟨⟨"public"⟩, 0, 1, 0, [⟨⟨"origin/b.html"⟩, .read ⟨"origin/b.html"⟩ .notText⟩]⟩ mixedAfter :=
  exists_mirrors_build ⟨.of_entries (by decide) (by decide) (by decide), rfl⟩
    ⟨[], ["public"], rfl, by simp⟩ rfl gives_build_mixed

end StaticSite.Builder
