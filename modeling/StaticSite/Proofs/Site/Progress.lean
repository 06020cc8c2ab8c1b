import StaticSite.Proofs.Site.Page

/-!
# Progress of a build

Every content file that is neither hidden nor metadata has an output file, and `Made` says what this
file holds. A build makes progress from one stage to the next: it settles the output files that its
work is about and leaves all others as they are (`Progress`). The work on a page and on another file
are such steps (`progress_notePage`, `progress_noteAsset`).
-/

namespace StaticSite.Builder

open StaticSite.Path Build

variable {builder : Builder} {base tree tree₁ tree₂ : FileTree} {file : ContentName} {path : Path}
  {content : Content} {templates : ComposedTemplates} {renderer : Renderer} {names : List String}
  {touches touches₁ touches₂ : List String → Prop} {result result₁ : BuildResult}

/-- Whether a content file has an output file. -/
structure Wanted (builder : Builder) (base : FileTree) (file : ContentName) : Prop where
  isSome : (base.file? (builder.placeOf base file)).isSome
  not_hidden : ¬ file.IsHidden
  not_sidecar : ¬ builder.IsSidecarName file

/-- Whether the output file of a content file may hold a content: that of the file itself, or the
HTML that a page has at a stage of the build. -/
def Made (builder : Builder) (base : FileTree) (templates : ComposedTemplates) (renderer : Renderer)
    (file : ContentName) (content : Content) : Prop :=
  if builder.IsPageName file then
    ∃ tree page html, builder.Stage base tree ∧ builder.IsPathOf file page ∧
      builder.pageHtml tree templates renderer page = .ok html ∧ content = .text html
  else base.file? (builder.placeOf base file) = some content

/-- Whether a content belongs into the output under names. -/
def Belongs (builder : Builder) (base : FileTree) (templates : ComposedTemplates)
    (renderer : Renderer) (names : List String) (content : Content) : Prop :=
  ∃ file, builder.Wanted base file ∧ builder.outputNames file = names ∧
    builder.Made base templates renderer file content

/-- Whether the output under names is as it is meant to be: a file where a content file has its
output file, with a content that belongs there. -/
structure Settled (builder : Builder) (base : FileTree) (templates : ComposedTemplates)
    (renderer : Renderer) (tree : FileTree) (names : List String) : Prop where
  belongs : ∀ content, tree.file? (builder.outputPlace base ++ names) = some content →
    builder.Belongs base templates renderer names content
  isSome : ∀ file, builder.Wanted base file → builder.outputNames file = names →
    (tree.file? (builder.outputPlace base ++ names)).isSome

/-- Whether a build comes from one stage to another one on which the output is settled, or else
unchanged and not touched. -/
structure Progress (builder : Builder) (base : FileTree) (templates : ComposedTemplates)
    (renderer : Renderer) (tree tree₁ : FileTree) (touches : List String → Prop) : Prop where
  stage : builder.Stage base tree₁
  settled : ∀ names, builder.Settled base templates renderer tree₁ names ∨
    tree₁.file? (builder.outputPlace base ++ names) =
        tree.file? (builder.outputPlace base ++ names) ∧ ¬ touches names

theorem Settled.congr (h : builder.Settled base templates renderer tree names)
    (hsame : tree₁.file? (builder.outputPlace base ++ names) =
      tree.file? (builder.outputPlace base ++ names)) :
    builder.Settled base templates renderer tree₁ names :=
  ⟨fun content ↦ hsame ▸ h.belongs content, fun file ↦ hsame ▸ h.isSome file⟩

namespace Progress

theorem refl (h : builder.Stage base tree) :
    builder.Progress base templates renderer tree tree fun _ ↦ False :=
  ⟨h, fun _ ↦ Or.inr ⟨rfl, id⟩⟩

theorem mono (h : builder.Progress base templates renderer tree tree₁ touches)
    (hle : ∀ names, touches₁ names → touches names) :
    builder.Progress base templates renderer tree tree₁ touches₁ :=
  ⟨h.stage, fun names ↦ (h.settled names).imp_right fun hnames ↦ ⟨hnames.1, mt (hle names) hnames.2⟩⟩

theorem trans (h : builder.Progress base templates renderer tree tree₁ touches₁)
    (h₁ : builder.Progress base templates renderer tree₁ tree₂ touches₂) :
    builder.Progress base templates renderer tree tree₂
      fun names ↦ touches₁ names ∨ touches₂ names := by
  refine ⟨h₁.stage, fun names ↦ ?_⟩
  rcases h₁.settled names with hsettled | ⟨hsame₁, hnot₁⟩
  · exact Or.inl hsettled
  · rcases h.settled names with hsettled | ⟨hsame, hnot⟩
    · exact Or.inl (hsettled.congr hsame₁)
    · exact Or.inr ⟨hsame₁.trans hsame, not_or.mpr ⟨hnot, hnot₁⟩⟩

/-- A new file with a content that belongs there is progress. -/
theorem of_updates (h : builder.Stage base tree)
    (hupdate : tree.Updates (builder.outputPlace base ++ names) (some content) tree₁)
    (hbelongs : builder.Belongs base templates renderer names content) :
    builder.Progress base templates renderer tree tree₁ (· = names) := by
  refine ⟨h.update hupdate, fun other ↦ ?_⟩
  have hfile := hupdate.file? (builder.outputPlace base ++ other)
  by_cases hother : other = names
  · subst hother
    rw [if_pos rfl] at hfile
    refine Or.inl ⟨fun found hfound ↦ ?_, fun _ _ _ ↦ by rw [hfile]; rfl⟩
    rw [hfile] at hfound
    rwa [← Option.some.inj hfound]
  · rw [if_neg (by simpa using hother)] at hfile
    exact Or.inr ⟨hfile, hother⟩

/-- The absence of a file where no content file has its output file is progress. -/
theorem of_removed (h : builder.Stage base tree)
    (hupdate : tree.Updates (builder.outputPlace base ++ names) none tree₁)
    (hunwanted : ∀ file, builder.Wanted base file → builder.outputNames file ≠ names) :
    builder.Progress base templates renderer tree tree₁ (· = names) := by
  refine ⟨h.update hupdate, fun other ↦ ?_⟩
  have hfile := hupdate.file? (builder.outputPlace base ++ other)
  by_cases hother : other = names
  · subst hother
    rw [if_pos rfl] at hfile
    exact Or.inl ⟨by simp [hfile], fun file hwanted hnames ↦ absurd hnames (hunwanted file hwanted)⟩
  · rw [if_neg (by simpa using hother)] at hfile
    exact Or.inr ⟨hfile, hother⟩

end Progress

/-! ## Work on lists -/

section Runs

variable {α : Type} {step : BuildResult → α → Build BuildResult} {items : List α}
  (hfailures : ∀ item result tree result₁ tree₁, (step result item).Gives tree result₁ tree₁ →
    result₁.failures = [] → result.failures = [])

include hfailures

/-- Steps that keep failures keep them together. -/
theorem failures_of_foldlM (hgives : (items.foldlM step result).Gives tree result₁ tree₁)
    (hok : result₁.failures = []) : result.failures = [] := by
  induction items generalizing result tree with
  | nil =>
    obtain ⟨rfl, -⟩ := gives_pure.mp hgives
    exact hok
  | cons item items ih =>
    rw [List.foldlM_cons] at hgives
    obtain ⟨result₂, tree₂, hstep, hrest⟩ := gives_bind.mp hgives
    exact hfailures _ _ _ _ _ hstep (ih hrest)

/-- Steps each of which is progress are progress together. -/
theorem progress_foldlM {works : α → List String → Prop}
    (hstep : ∀ item ∈ items, ∀ result tree result₁ tree₁, builder.Stage base tree →
      (step result item).Gives tree result₁ tree₁ → result₁.failures = [] →
        builder.Progress base templates renderer tree tree₁ (works item))
    (h : builder.Stage base tree) (hgives : (items.foldlM step result).Gives tree result₁ tree₁)
    (hok : result₁.failures = []) : builder.Progress base templates renderer tree tree₁
      fun names ↦ ∃ item ∈ items, works item names := by
  induction items generalizing result tree with
  | nil =>
    obtain ⟨-, rfl⟩ := gives_pure.mp hgives
    exact (Progress.refl h).mono (by simp)
  | cons item items ih =>
    rw [List.foldlM_cons] at hgives
    obtain ⟨result₂, tree₂, hfirst, hrest⟩ := gives_bind.mp hgives
    have hprogress := hstep item List.mem_cons_self _ _ _ _ h hfirst
      (failures_of_foldlM hfailures hrest hok)
    refine (hprogress.trans (ih (fun item hmem ↦ hstep item (List.mem_cons_of_mem _ hmem))
      hprogress.stage hrest)).mono fun names hnames ↦ ?_
    simpa using hnames

end Runs

/-! ## Work on single files -/

theorem gives_outputPath {output : Path} :
    (builder.outputPath path).Gives tree output tree₁ ↔
      builder.outputPath? path = some output ∧ tree = tree₁ := by
  rw [outputPath]
  cases builder.outputPath? path with
  | none => simp
  | some found =>
    simp only [Option.some.injEq]
    exact gives_pure

theorem eq_of_fails_outputPath {e : BuildError}
    (h : (builder.outputPath path).Fails tree e tree₁) : tree₁ = tree := by
  rw [outputPath] at h
  split at h
  · exact absurd h not_fails_pure
  · exact (fails_fail.mp h).2.symm

/-- A page that is built has an HTML, which is written. -/
theorem exists_of_gives_buildPage {done : Unit}
    (h : (builder.buildPage templates renderer path).Gives tree done tree₁) :
    ∃ html output, builder.pageHtml tree templates renderer path = .ok html ∧
      builder.outputPath? path = some output ∧ (writeOutput output html).Gives tree () tree₁ := by
  obtain ⟨found, tree₂, hfiles, hrest⟩ := gives_bind.mp h
  obtain ⟨rfl, rfl⟩ := gives_files.mp hfiles
  split at hrest
  · exact absurd hrest not_gives_fail
  next html hhtml =>
    obtain ⟨output, tree₂, hfound, hwrite⟩ := gives_bind.mp hrest
    obtain ⟨houtput, rfl⟩ := gives_outputPath.mp hfound
    exact ⟨html, output, hhtml, houtput, hwrite⟩

/-- A file that is copied is copied from where it is; without one nothing is done. -/
theorem cases_of_gives_copyAsset {done : Bool}
    (h : (builder.copyAsset path).Gives tree done tree₁) :
    done = false ∧ tree₁ = tree ∧ (builder.isSidecar path ∨ ¬ tree.hasEntry path) ∨
      done = true ∧ ∃ output, builder.outputPath? path = some output ∧
        (copyOutput path output).Gives tree () tree₁ := by
  obtain ⟨found, tree₂, hfiles, hrest⟩ := gives_bind.mp h
  obtain ⟨rfl, rfl⟩ := gives_files.mp hfiles
  split_ifs at hrest with hnone
  · obtain ⟨rfl, rfl⟩ := gives_pure.mp hrest
    exact Or.inl ⟨rfl, rfl, by simpa using hnone⟩
  · obtain ⟨output, tree₂, hfound, hcopied⟩ := gives_bind.mp hrest
    obtain ⟨houtput, rfl⟩ := gives_outputPath.mp hfound
    obtain ⟨copied, tree₂, hcopy, hdone⟩ := gives_bind.mp hcopied
    obtain ⟨rfl, rfl⟩ := gives_pure.mp hdone
    exact Or.inr ⟨rfl, output, houtput, hcopy⟩

/-- An output that is deleted is a file; without one nothing is done. -/
theorem cases_of_gives_removeOutput {done : Bool}
    (h : (builder.removeOutput path).Gives tree done tree₁) :
    done = false ∧ tree₁ = tree ∧ (builder.isSidecar path ∨
        ∃ output, builder.outputPath? path = some output ∧ ¬ tree.hasEntry output) ∨
      done = true ∧ ¬ builder.isSidecar path ∧ ∃ output, builder.outputPath? path = some output ∧
        tree.removeFile output = .ok tree₁ := by
  rw [removeOutput] at h
  split_ifs at h with hsidecar
  · obtain ⟨rfl, rfl⟩ := gives_pure.mp h
    exact Or.inl ⟨rfl, rfl, Or.inl hsidecar⟩
  · obtain ⟨output, tree₂, hfound, hrest⟩ := gives_bind.mp h
    obtain ⟨houtput, rfl⟩ := gives_outputPath.mp hfound
    obtain ⟨found, tree₂, hfiles, hrest⟩ := gives_bind.mp hrest
    obtain ⟨rfl, rfl⟩ := gives_files.mp hfiles
    split_ifs at hrest with hentry
    · obtain ⟨removed, tree₂, hremove, hdone⟩ := gives_bind.mp hrest
      obtain ⟨rfl, rfl⟩ := gives_pure.mp hdone
      exact Or.inr ⟨rfl, hsidecar, output, houtput, gives_change.mp hremove⟩
    · obtain ⟨rfl, rfl⟩ := gives_pure.mp hrest
      exact Or.inl ⟨rfl, rfl, Or.inr ⟨output, houtput, hentry⟩⟩

/-- A removal that fails has no effect. -/
theorem eq_of_fails_removeOutput {e : BuildError}
    (h : (builder.removeOutput path).Fails tree e tree₁) : tree₁ = tree := by
  rw [removeOutput] at h
  split_ifs at h
  · exact absurd h not_fails_pure
  · rcases fails_bind.mp h with houtput | ⟨output, tree₂, houtput, hrest⟩
    · exact eq_of_fails_outputPath houtput
    obtain ⟨-, rfl⟩ := gives_outputPath.mp houtput
    rcases fails_bind.mp hrest with hfiles | ⟨found, tree₂, hfiles, hrest⟩
    · exact absurd hfiles not_fails_files
    obtain ⟨rfl, rfl⟩ := gives_files.mp hfiles
    split_ifs at hrest
    · rcases fails_bind.mp hrest with hremove | ⟨removed, tree₂, -, hdone⟩
      · obtain ⟨-, -, -, rfl⟩ := fails_change.mp hremove
        rfl
      · exact absurd hdone not_fails_pure
    · exact absurd hrest not_fails_pure

/-- Noted work has succeeded, had nothing to do, or failed with an error that does not end the
build. -/
theorem cases_of_gives_note {work : Build Bool} {count : BuildResult → BuildResult}
    (h : (note result path work count).Gives tree result₁ tree₁) :
    work.Gives tree true tree₁ ∧ result₁ = count result ∨
      work.Gives tree false tree₁ ∧ result₁ = result ∨
      ∃ e, work.Fails tree e tree₁ ∧
        result₁ = { result with failures := result.failures ++ [⟨path, e⟩] } := by
  obtain ⟨found, tree₂, hattempt, hrest⟩ := gives_bind.mp h
  obtain ⟨hfound, rfl⟩ := gives_attempt.mp hattempt
  cases found with
  | ok done =>
    have hwork : work.Gives tree done (work tree).2 := gives_iff.mpr ⟨hfound, rfl⟩
    cases done with
    | true =>
      obtain ⟨rfl, rfl⟩ := gives_pure.mp hrest
      exact Or.inl ⟨hwork, rfl⟩
    | false =>
      obtain ⟨rfl, rfl⟩ := gives_pure.mp hrest
      exact Or.inr (Or.inl ⟨hwork, rfl⟩)
  | error e =>
    simp only at hrest
    split_ifs at hrest
    · exact absurd hrest not_gives_fail
    · obtain ⟨rfl, rfl⟩ := gives_pure.mp hrest
      exact Or.inr (Or.inr ⟨e, fails_iff.mpr ⟨hfound, rfl⟩, rfl⟩)

/-- Noted work that adds no failure has succeeded. -/
theorem exists_of_gives_note {work : Build Bool} {count : BuildResult → BuildResult}
    (h : (note result path work count).Gives tree result₁ tree₁)
    (hcount : ∀ r, (count r).failures = r.failures) (hok : result₁.failures = []) :
    result.failures = [] ∧ ∃ done, work.Gives tree done tree₁ := by
  rcases cases_of_gives_note h with ⟨hwork, rfl⟩ | ⟨hwork, rfl⟩ | ⟨e, -, rfl⟩
  · exact ⟨by rwa [hcount] at hok, true, hwork⟩
  · exact ⟨hok, false, hwork⟩
  · simp at hok

/-- Work on a page keeps failures. -/
theorem failures_of_notePage
    (hgives : (builder.notePage templates renderer result path).Gives tree result₁ tree₁)
    (hok : result₁.failures = []) : result.failures = [] :=
  (exists_of_gives_note hgives (fun _ ↦ rfl) hok).1

/-- Work on another file keeps failures. -/
theorem failures_of_noteAsset
    (hgives : (builder.noteAsset result path).Gives tree result₁ tree₁)
    (hok : result₁.failures = []) : result.failures = [] :=
  (exists_of_gives_note hgives (fun _ ↦ rfl) hok).1

/-- Work on a page that fails leaves all files as they are. -/
theorem extends_of_fails_buildPage {e : BuildError}
    (h : (builder.buildPage templates renderer path).Fails tree e tree₁) : tree.Extends tree₁ := by
  rcases fails_bind.mp h with hfiles | ⟨found, tree₂, hfiles, hrest⟩
  · exact absurd hfiles not_fails_files
  obtain ⟨rfl, rfl⟩ := gives_files.mp hfiles
  split at hrest
  · obtain ⟨-, rfl⟩ := fails_fail.mp hrest
    exact .refl _
  · rcases fails_bind.mp hrest with houtput | ⟨output, tree₂, houtput, hwrite⟩
    · rw [eq_of_fails_outputPath houtput]
      exact .refl _
    · obtain ⟨-, rfl⟩ := gives_outputPath.mp houtput
      exact extends_of_fails_writeOutput hwrite

/-- Work on another file that fails leaves all files as they are. -/
theorem extends_of_fails_copyAsset {e : BuildError}
    (h : (builder.copyAsset path).Fails tree e tree₁) : tree.Extends tree₁ := by
  rcases fails_bind.mp h with hfiles | ⟨found, tree₂, hfiles, hrest⟩
  · exact absurd hfiles not_fails_files
  obtain ⟨rfl, rfl⟩ := gives_files.mp hfiles
  split_ifs at hrest
  · exact absurd hrest not_fails_pure
  · rcases fails_bind.mp hrest with houtput | ⟨output, tree₂, houtput, hcopied⟩
    · rw [eq_of_fails_outputPath houtput]
      exact .refl _
    · obtain ⟨-, rfl⟩ := gives_outputPath.mp houtput
      rcases fails_bind.mp hcopied with hcopy | ⟨copied, tree₂, -, hdone⟩
      · exact extends_of_fails_copyOutput hcopy
      · exact absurd hdone not_fails_pure

section Steps

variable (hbase : builder.Grounded base) (h : builder.Stage base tree)
  (hpath : builder.IsPathOf file path)

include hbase h hpath

/-- Where the output file of a content file lies. -/
theorem exists_output (hhidden : ¬ isHiddenName file.name) :
    ∃ output, builder.outputPath? path = some output ∧ output.IsFilePath ∧
      output.components =
        builder.paths.output.components ++ (builder.outputNames file).map .normal ∧
      tree.placeOf output = builder.outputPlace base ++ builder.outputNames file := by
  obtain ⟨output, houtput, hfile, hcomponents⟩ := hpath.leadsTo.exists_outputPath?
    hbase.outputText (hasStem_of_not_isHiddenName hhidden)
  refine ⟨output, houtput, hfile, hcomponents, ?_⟩
  rw [FileTree.placeOf_of_components hcomponents, ← h.outputPlace_eq]
  rfl

/-- A page that is built has its HTML for an output file. -/
theorem updates_buildPage (hhidden : ¬ isHiddenName file.name) {done : Unit}
    (hgives : (builder.buildPage templates renderer path).Gives tree done tree₁) :
    ∃ html, builder.pageHtml tree templates renderer path = .ok html ∧
      tree.Updates (builder.outputPlace base ++ builder.outputNames file) (some (.text html))
        tree₁ := by
  obtain ⟨output, houtput, -, -, hplace⟩ := exists_output hbase h hpath hhidden
  obtain ⟨html, found, hhtml, hsame, hwrite⟩ := exists_of_gives_buildPage hgives
  obtain rfl := Option.some.inj (houtput.symm.trans hsame)
  rw [← hplace]
  exact ⟨html, hhtml, updates_writeOutput hwrite⟩

/-- A file that is copied has its content for an output file. -/
theorem updates_copyAsset (hwanted : builder.Wanted base file) {done : Bool}
    (hgives : (builder.copyAsset path).Gives tree done tree₁) :
    ∃ content, base.file? (builder.placeOf base file) = some content ∧
      tree.Updates (builder.outputPlace base ++ builder.outputNames file) (some content) tree₁ := by
  obtain ⟨output, houtput, -, -, hplace⟩ :=
    exists_output hbase h hpath (ContentName.not_isHiddenName hwanted.not_hidden)
  obtain ⟨content, hcontent⟩ := Option.isSome_iff_exists.mp hwanted.isSome
  have hentry : tree.hasEntry path :=
    FileTree.hasEntry_of_read ((hbase.read_contentFile h hpath).mpr hcontent)
  have hsidecar : ¬ builder.isSidecar path := mt hpath.isSidecar_iff.mp hwanted.not_sidecar
  rcases cases_of_gives_copyAsset hgives with ⟨-, -, hnone⟩ | ⟨-, found, hsame, hcopy⟩
  · exact absurd hnone (by simp [hsidecar, hentry])
  obtain rfl := Option.some.inj (houtput.symm.trans hsame)
  obtain ⟨found, hfound, hupdate⟩ := updates_copyOutput hcopy
  rw [hpath.placeOf_eq, h.placeOf_eq, hbase.file?_placeOf h] at hfound
  rw [← hplace]
  exact ⟨found, hfound, hupdate⟩

/-- Work on a page that adds no failure is progress. -/
theorem progress_notePage (hwanted : builder.Wanted base file) (hpage : builder.IsPageName file)
    (hgives : (builder.notePage templates renderer result path).Gives tree result₁ tree₁)
    (hok : result₁.failures = []) :
    builder.Progress base templates renderer tree tree₁ (· = builder.outputNames file) := by
  obtain ⟨-, done, hwork⟩ := exists_of_gives_note hgives (fun _ ↦ rfl) hok
  obtain ⟨built, tree₂, hbuild, hdone⟩ := gives_bind.mp hwork
  obtain ⟨-, rfl⟩ := gives_pure.mp hdone
  obtain ⟨html, hhtml, hupdate⟩ :=
    updates_buildPage hbase h hpath (ContentName.not_isHiddenName hwanted.not_hidden) hbuild
  refine .of_updates h hupdate ⟨file, hwanted, rfl, ?_⟩
  rw [Made, if_pos hpage]
  exact ⟨tree, path, html, h, hpath, hhtml, rfl⟩

/-- Work on another file that adds no failure is progress. -/
theorem progress_noteAsset (hwanted : builder.Wanted base file) (hpage : ¬ builder.IsPageName file)
    (hgives : (builder.noteAsset result path).Gives tree result₁ tree₁)
    (hok : result₁.failures = []) :
    builder.Progress base templates renderer tree tree₁ (· = builder.outputNames file) := by
  obtain ⟨-, done, hwork⟩ := exists_of_gives_note hgives (fun _ ↦ rfl) hok
  obtain ⟨content, hcontent, hupdate⟩ := updates_copyAsset hbase h hpath hwanted hwork
  refine .of_updates h hupdate ⟨file, hwanted, rfl, ?_⟩
  rwa [Made, if_neg hpage]

end Steps

/-- Work on a metadata file changes nothing. -/
theorem eq_of_noteAsset_sidecar (hpath : builder.IsPathOf file path)
    (hsidecar : builder.IsSidecarName file)
    (hgives : (builder.noteAsset result path).Gives tree result₁ tree₁) :
    result₁ = result ∧ tree₁ = tree := by
  have hcopy : (builder.copyAsset path).Gives tree false tree := by
    refine gives_bind.mpr ⟨tree, tree, gives_files.mpr ⟨rfl, rfl⟩, ?_⟩
    rw [if_pos (by simp [hpath.isSidecar_iff.mpr hsidecar])]
    exact gives_pure.mpr ⟨rfl, rfl⟩
  exact hgives.unique (gives_bind.mpr ⟨.ok false, tree, gives_attempt.mpr (gives_iff.mp hcopy),
    gives_pure.mpr ⟨rfl, rfl⟩⟩)

end StaticSite.Builder
