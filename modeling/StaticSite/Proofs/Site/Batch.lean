import StaticSite.Proofs.Site.Advance
import StaticSite.Proofs.Site.Reports

/-!
# Batches of changes to a site

What a batch of changes says of a site that stays as it is: which output files its changes touch, and
whether its last change to a content file is right about that file. The tasks of a batch are about
content (`Notes.concerns`), and they are right where the batch is (`Notes.right`). Of two batches one
after another the later one has the last word on what it touches (`TruthfulAt.of_append_right`,
`TruthfulAt.of_append_left`).
-/

namespace StaticSite.Builder

open StaticSite.Path

variable {builder : Builder} {site : FileTree} {file : ContentName} {path : Path}
  {names : List String} {deleted : Bool} {task : Task} {changes later : List Change}

/-- Whether some change of a batch touches the output under names. -/
def TouchedBy (builder : Builder) (site : FileTree) (changes : List Change) (names : List String) :
    Prop :=
  ∃ change ∈ changes, ∃ task, Change.task? change = some task ∧ builder.Touches site task names

/-- Whether the last change of a batch to a content file is right about it: the file is said to be
deleted exactly if it is not there. -/
def Truthful (builder : Builder) (site : FileTree) (changes : List Change) (file : ContentName) :
    Prop :=
  ∀ path deleted before after, changes = before ++ builder.report path deleted :: after →
    builder.IsPathOf file path → ¬ builder.IsSidecarName file →
      (∀ path' deleted', builder.IsPathOf file path' → builder.report path' deleted' ∉ after) →
        (deleted ↔ site.file? (builder.placeOf site file) = none)

/-- Whether a batch is right about the content files whose output is under names. -/
def TruthfulAt (builder : Builder) (site : FileTree) (changes : List Change) (names : List String) :
    Prop :=
  ∀ file, builder.outputNames file = names → builder.Truthful site changes file

/-- Whether a batch holds changes to templates and to content alone, and of hidden files only to
metadata, in directories without hidden pages. -/
structure Notes (builder : Builder) (site : FileTree) (changes : List Change) : Prop where
  sound : ∀ change ∈ changes, (∃ path, change = .template path) ∨
    ∃ file path deleted, builder.IsPathOf file path ∧
      (builder.IsSidecarName file ∨ ¬ file.IsHidden) ∧ change = builder.report path deleted
  shows : ∀ file path deleted, builder.report path deleted ∈ changes → builder.IsPathOf file path →
    builder.IsSidecarName file → ∀ page : ContentName, page.directory = file.directory →
      builder.IsPageName page → (site.file? (builder.placeOf site page)).isSome → ¬ page.IsHidden

theorem touchedBy_append : builder.TouchedBy site (changes ++ later) names ↔
    builder.TouchedBy site changes names ∨ builder.TouchedBy site later names := by
  simp only [TouchedBy, List.mem_append, or_and_right, exists_or]

/-- The tasks of a batch touch what its changes touch. -/
theorem exists_mem_tasks_touches_iff :
    (∃ task ∈ Change.tasks changes, builder.Touches site task names) ↔
      builder.TouchedBy site changes names := by
  constructor
  · rintro ⟨task, hmem, htouches⟩
    obtain ⟨before, change, after, rfl, htask, -⟩ := Change.mem_tasks_iff.mp hmem
    exact ⟨change, by simp, task, htask, htouches⟩
  · rintro ⟨change, hmem, task, htask, htouches⟩
    obtain ⟨last, hlast, hsame⟩ := Change.exists_mem_tasks hmem htask
    exact ⟨last, hlast, htouches.of_sameTarget hsame⟩

/-- A change to a content file touches its output. -/
theorem touchedBy_of_report (hpath : builder.IsPathOf file path)
    (hsidecar : ¬ builder.IsSidecarName file) (hmem : builder.report path deleted ∈ changes) :
    builder.TouchedBy site changes (builder.outputNames file) := by
  have htask := task?_report hpath hsidecar deleted
  obtain ⟨htarget, hkind⟩ := target_of_task?_report hpath hsidecar htask
  exact ⟨_, hmem, _, htask, (touches_iff_of_isPathOf (by rwa [htarget]) hkind).mpr rfl⟩

theorem Reported.mono (hsub : changes ⊆ later) (h : builder.Reported changes file) :
    builder.Reported later file := by
  obtain ⟨hsidecar, path, deleted, hpath, hmem⟩ := h
  exact ⟨hsidecar, path, deleted, hpath, hsub hmem⟩

/-- The last change among later ones is the last one of all. -/
theorem TruthfulAt.of_append_right (h : builder.TruthfulAt site (changes ++ later) names) :
    builder.TruthfulAt site later names := by
  intro file hnames path deleted before after hsplit
  exact h file hnames path deleted (changes ++ before) after (by rw [hsplit, List.append_assoc])

/-- What later changes do not touch has its last change before them. -/
theorem TruthfulAt.of_append_left (h : builder.TruthfulAt site (changes ++ later) names)
    (hnot : ¬ builder.TouchedBy site later names) : builder.TruthfulAt site changes names := by
  rintro file rfl path deleted before after hsplit hpath hsidecar hlast
  refine h file rfl path deleted before (after ++ later) (by simp [hsplit]) hpath hsidecar
    fun path' deleted' hpath' hmem ↦ ?_
  rcases List.mem_append.mp hmem with hmem | hmem
  · exact hlast path' deleted' hpath' hmem
  · exact hnot (touchedBy_of_report hpath' hsidecar hmem)

namespace Notes

theorem mono (h : builder.Notes site changes) (hsub : later ⊆ changes) :
    builder.Notes site later :=
  ⟨fun change hmem ↦ h.sound change (hsub hmem),
    fun file path deleted hmem ↦ h.shows file path deleted (hsub hmem)⟩

variable (h : builder.Notes site changes)

include h

theorem config_notMem : .config ∉ changes := by
  intro hmem
  obtain ⟨path, hchange⟩ | ⟨file, path, deleted, -, -, hchange⟩ := h.sound _ hmem
  · simp at hchange
  · rw [report] at hchange
    split_ifs at hchange

theorem exists_of_mem_tasks (hmem : task ∈ Change.tasks changes) :
    ∃ file path deleted before after, changes = before ++ builder.report path deleted :: after ∧
      builder.IsPathOf file path ∧ (builder.IsSidecarName file ∨ ¬ file.IsHidden) ∧
      Change.task? (builder.report path deleted) = some task ∧
      ∀ later ∈ after, ∀ other, Change.task? later = some other → ¬ task.sameTarget other :=
  exists_report_of_mem_tasks (fun change hmem ↦ Or.inr (h.sound change hmem)) hmem

/-- The tasks of a batch are about content. -/
theorem concerns (hmem : task ∈ Change.tasks changes) : builder.Concerns site task := by
  obtain ⟨file, path, deleted, before, after, hsplit, hpath, hshown, htask, -⟩ :=
    h.exists_of_mem_tasks hmem
  by_cases hsidecar : builder.IsSidecarName file
  · obtain ⟨directory, hdirectory, hcomponents⟩ := task?_report_of_sidecar hpath hsidecar deleted
    obtain rfl := Option.some.inj (htask.symm.trans hdirectory)
    exact ⟨file.directory, hcomponents,
      h.shows file path deleted (by simp [hsplit]) hpath hsidecar⟩
  have hhidden : ¬ file.IsHidden := hshown.resolve_left hsidecar
  rw [task?_report hpath hsidecar] at htask
  obtain rfl := Option.some.inj htask
  split_ifs with hdeleted hpage
  · exact ⟨file, hpath, hhidden, hsidecar⟩
  · exact ⟨file, hpath, hhidden, hpath.isPage_iff.mp hpage⟩
  · exact ⟨file, hpath, hhidden, hsidecar, mt hpath.isPage_iff.mpr hpage⟩

/-- A task is right if the batch is, where no other file has its output. -/
theorem right (hapart : builder.Apart fun file ↦ builder.Shown site file ∨
      builder.Reported changes file) (hmem : task ∈ Change.tasks changes)
    (htouches : builder.Touches site task names)
    (htruthful : builder.TruthfulAt site changes names) : builder.Right site task := by
  obtain ⟨file, path, deleted, before, after, hsplit, hpath, -, htask, hlast⟩ :=
    h.exists_of_mem_tasks hmem
  by_cases hsidecar : builder.IsSidecarName file
  · obtain ⟨directory, hdirectory, -⟩ := task?_report_of_sidecar hpath hsidecar deleted
    obtain rfl := Option.some.inj (htask.symm.trans hdirectory)
    trivial
  obtain ⟨htarget, hkind⟩ := target_of_task?_report hpath hsidecar htask
  obtain rfl := (touches_iff_of_isPathOf (htarget ▸ hpath) hkind).mp htouches
  have htruth := htruthful file rfl path deleted before after hsplit hpath hsidecar
    fun _ deleted' hpath' ↦ report_notMem_of_last hpath hsidecar htask hlast hpath' deleted'
  rw [task?_report hpath hsidecar] at htask
  obtain rfl := Option.some.inj htask
  split_ifs with hdeleted hpage
  · refine ⟨file, hpath, fun other hshown hnames ↦ ?_⟩
    have hreported : builder.Reported changes file :=
      ⟨hsidecar, path, deleted, hpath, by simp [hsplit]⟩
    obtain rfl := hapart other file (Or.inl hshown) (Or.inr hreported) hnames
    simpa [htruth.mp hdeleted] using hshown.isSome
  · exact ⟨file, hpath, Option.isSome_iff_ne_none.mpr (mt htruth.mpr hdeleted)⟩
  · exact ⟨file, hpath, Option.isSome_iff_ne_none.mpr (mt htruth.mpr hdeleted)⟩

end Notes

end StaticSite.Builder
