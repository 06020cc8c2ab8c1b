import StaticSite.Proofs.Change.Tasks
import StaticSite.Proofs.Site.Agreement
import StaticSite.Proofs.Site.Tasks

/-!
# Reports of changes to the content

A batch of changes reports what was done to the content if it holds a change to every content file
that differs, and the last change to each file is truthful (`Reports`). Its tasks fit the new site
(`Reports.fits`), and they work on every output file whose content file has changed
(`Reports.exists_worksOn`).
-/

namespace StaticSite.Builder

open StaticSite.Path

variable {builder : Builder} {base base' : FileTree} {file other : ContentName} {path path' : Path}
  {deleted : Bool} {changes : List Change} {change : Change} {task : Task}

/-- The change to a content file at a path. -/
def report (builder : Builder) (path : Path) (deleted : Bool) : Change :=
  if builder.isSidecar path then .metadata path
  else if builder.registry.isPage path then .page path deleted
  else .asset path deleted

/-- Whether a batch of changes reports a content file that is no metadata. -/
def Reported (builder : Builder) (changes : List Change) (file : ContentName) : Prop :=
  ¬ builder.IsSidecarName file ∧
    ∃ path deleted, builder.IsPathOf file path ∧ builder.report path deleted ∈ changes

/-- Whether a batch of changes reports what was done to the content. Changes to templates and to the
configuration may stand among them. -/
structure Reports (builder : Builder) (base base' : FileTree) (changes : List Change) : Prop where
  sound : ∀ change ∈ changes, change = .config ∨ (∃ path, change = .template path) ∨
    ∃ file path deleted, builder.IsPathOf file path ∧
      (builder.IsSidecarName file ∨ ¬ file.IsHidden) ∧ change = builder.report path deleted
  complete : ∀ file, builder.IsSidecarName file ∨ ¬ file.IsHidden →
    base'.file? (builder.placeOf base' file) ≠ base.file? (builder.placeOf base file) →
      ∃ path deleted, builder.IsPathOf file path ∧ builder.report path deleted ∈ changes
  truthful : ∀ file path deleted before after,
    changes = before ++ builder.report path deleted :: after → builder.IsPathOf file path →
      ¬ builder.IsSidecarName file →
        (∀ path' deleted', builder.IsPathOf file path' → builder.report path' deleted' ∉ after) →
          (deleted ↔ base'.file? (builder.placeOf base' file) = none)

/-! ## Tasks of reports -/

theorem task?_report_of_sidecar (hpath : builder.IsPathOf file path)
    (hsidecar : builder.IsSidecarName file) (deleted : Bool) :
    ∃ directory, Change.task? (builder.report path deleted) = some (.directory directory) ∧
      directory.components = builder.directoryComponents file := by
  obtain ⟨directory, hparent, hcomponents⟩ := hpath.exists_parent?
  refine ⟨directory, ?_, hcomponents⟩
  rw [report, if_pos (hpath.isSidecar_iff.mpr hsidecar), Change.task?, hparent, Option.getD_some]

theorem task?_report (hpath : builder.IsPathOf file path)
    (hsidecar : ¬ builder.IsSidecarName file) (deleted : Bool) :
    Change.task? (builder.report path deleted) = some (if deleted then .remove path
      else if builder.registry.isPage path then .page path else .asset path) := by
  rw [report, if_neg (mt hpath.isSidecar_iff.mp hsidecar)]
  by_cases hpage : builder.registry.isPage path
  · simp only [hpage, if_true, Change.task?]
  · simp only [hpage, Change.task?]
    rfl

/-- The task of a change to a file that is no metadata is about its path. -/
theorem target_of_task?_report (hpath : builder.IsPathOf file path)
    (hsidecar : ¬ builder.IsSidecarName file)
    (htask : Change.task? (builder.report path deleted) = some task) :
    task.path = path ∧ task.isDirectory = false := by
  rw [task?_report hpath hsidecar] at htask
  obtain rfl := Option.some.inj htask
  split_ifs <;> exact ⟨rfl, rfl⟩

/-- Every task comes from a report. -/
theorem exists_report_of_mem_tasks
    (hsound : ∀ change ∈ changes, change = .config ∨ (∃ path, change = .template path) ∨
      ∃ file path deleted, builder.IsPathOf file path ∧
        (builder.IsSidecarName file ∨ ¬ file.IsHidden) ∧ change = builder.report path deleted)
    (hmem : task ∈ Change.tasks changes) :
    ∃ file path deleted before after, changes = before ++ builder.report path deleted :: after ∧
      builder.IsPathOf file path ∧ (builder.IsSidecarName file ∨ ¬ file.IsHidden) ∧
      Change.task? (builder.report path deleted) = some task ∧
      ∀ later ∈ after, ∀ other, Change.task? later = some other → ¬ task.sameTarget other := by
  obtain ⟨before, change, after, hsplit, htask, hlast⟩ := Change.mem_tasks_iff.mp hmem
  rcases hsound change (by simp [hsplit]) with rfl | ⟨path, rfl⟩ | ⟨file, path, deleted, hpath,
    hshown, rfl⟩
  · simp [Change.task?] at htask
  · simp [Change.task?] at htask
  · exact ⟨file, path, deleted, before, after, hsplit, hpath, hshown, htask, hlast⟩

/-- After the report that a task comes from, no other one is about its file. -/
theorem report_notMem_of_last {later : List Change} (hpath : builder.IsPathOf file path)
    (hsidecar : ¬ builder.IsSidecarName file)
    (htask : Change.task? (builder.report path deleted) = some task)
    (hlast : ∀ change ∈ later, ∀ other, Change.task? change = some other → ¬ task.sameTarget other)
    (hpath' : builder.IsPathOf file path') (deleted' : Bool) :
    builder.report path' deleted' ∉ later := by
  intro hmem
  obtain ⟨htarget, hnotDirectory⟩ := target_of_task?_report hpath hsidecar htask
  have hother := task?_report hpath' hsidecar deleted'
  obtain ⟨htarget', hnotDirectory'⟩ := target_of_task?_report hpath' hsidecar hother
  refine hlast _ hmem _ hother (Task.sameTarget_iff.mpr ⟨?_, ?_⟩)
  · rw [hnotDirectory, hnotDirectory']
  · rw [htarget, htarget', hpath.components_eq hpath']

namespace Reports

variable (h : builder.Reports base base' changes)

include h

theorem exists_of_mem_tasks (hmem : task ∈ Change.tasks changes) :
    ∃ file path deleted before after, changes = before ++ builder.report path deleted :: after ∧
      builder.IsPathOf file path ∧ (builder.IsSidecarName file ∨ ¬ file.IsHidden) ∧
      Change.task? (builder.report path deleted) = some task ∧
      ∀ later ∈ after, ∀ other, Change.task? later = some other → ¬ task.sameTarget other :=
  exists_report_of_mem_tasks h.sound hmem

/-- The tasks of a report fit the new site. -/
theorem fits (hapart : builder.Apart fun file ↦
      builder.Wanted base' file ∨ builder.Reported changes file)
    (hmem : task ∈ Change.tasks changes) : builder.Fits base' task := by
  obtain ⟨file, path, deleted, before, after, hsplit, hpath, hshown, htask, hlast⟩ :=
    h.exists_of_mem_tasks hmem
  by_cases hsidecar : builder.IsSidecarName file
  · obtain ⟨directory, hdirectory, hcomponents⟩ := task?_report_of_sidecar hpath hsidecar deleted
    obtain rfl := Option.some.inj (htask.symm.trans hdirectory)
    exact ⟨file.directory, hcomponents⟩
  have hhidden : ¬ file.IsHidden := hshown.resolve_left hsidecar
  have htruth := h.truthful file path deleted before after hsplit hpath hsidecar
    fun _ deleted' hpath' ↦ report_notMem_of_last hpath hsidecar htask hlast hpath' deleted'
  rw [task?_report hpath hsidecar] at htask
  cases deleted with
  | true =>
    obtain rfl := Option.some.inj htask
    refine ⟨file, hpath, hhidden, hsidecar, fun other hwanted hnames ↦ ?_⟩
    have hreported : builder.Reported changes file := ⟨hsidecar, path, true, hpath, by simp [hsplit]⟩
    obtain rfl := hapart other file (Or.inl hwanted) (Or.inr hreported) hnames
    simpa [htruth.mp rfl] using hwanted.isSome
  | false =>
    have hwanted : builder.Wanted base' file :=
      ⟨Option.isSome_iff_ne_none.mpr fun hnone ↦ by simpa using htruth.mpr hnone, hhidden, hsidecar⟩
    by_cases hpage : builder.registry.isPage path
    · simp only [hpage, if_true, Bool.false_eq_true, if_false] at htask
      obtain rfl := Option.some.inj htask
      exact ⟨file, hpath, hwanted, hpath.isPage_iff.mp hpage⟩
    · simp only [hpage, Bool.false_eq_true, if_false] at htask
      obtain rfl := Option.some.inj htask
      exact ⟨file, hpath, hwanted, mt hpath.isPage_iff.mpr hpage⟩

/-- A file that is reported has a task that works on its output file. -/
private theorem exists_worksOn_of_report (hpath : builder.IsPathOf file path)
    (hsidecar : ¬ builder.IsSidecarName file) (hmem : builder.report path deleted ∈ changes) :
    ∃ task ∈ Change.tasks changes, builder.WorksOn base' task (builder.outputNames file) := by
  have hown := task?_report hpath hsidecar deleted
  obtain ⟨last, hlast, hsame⟩ := Change.exists_mem_tasks hmem hown
  obtain ⟨htarget, hnotDirectory⟩ := target_of_task?_report hpath hsidecar hown
  obtain ⟨hkind, hcomponents⟩ := Task.sameTarget_iff.mp hsame
  rw [hnotDirectory] at hkind
  rw [htarget] at hcomponents
  obtain ⟨other, path', deleted', -, -, -, hpath', -, htask, -⟩ := h.exists_of_mem_tasks hlast
  have hsidecar' : ¬ builder.IsSidecarName other := by
    intro hother
    obtain ⟨directory, hdirectory, -⟩ := task?_report_of_sidecar hpath' hother deleted'
    rw [Option.some.inj (htask.symm.trans hdirectory)] at hkind
    simp [Task.isDirectory] at hkind
  obtain ⟨htarget', -⟩ := target_of_task?_report hpath' hsidecar' htask
  obtain rfl := hpath'.file_eq_of_same hpath (by rw [← htarget', hcomponents])
  rw [← htarget'] at hpath'
  refine ⟨last, hlast, ?_⟩
  cases last with
  | page found => exact ⟨other, hpath', rfl⟩
  | asset found => exact ⟨other, hpath', rfl⟩
  | remove found => exact ⟨other, hpath', rfl⟩
  | directory found => simp [Task.isDirectory] at hkind

/-- Some task works on the output file of every content file that does not stay the same. -/
theorem exists_worksOn (hwanted : builder.Wanted base file ∨ builder.Wanted base' file)
    (hkeeps : ¬ builder.Keeps base base' file) :
    ∃ task ∈ Change.tasks changes, builder.WorksOn base' task (builder.outputNames file) := by
  have hhidden : ¬ file.IsHidden := hwanted.elim Wanted.not_hidden Wanted.not_hidden
  have hsidecar : ¬ builder.IsSidecarName file := hwanted.elim Wanted.not_sidecar Wanted.not_sidecar
  by_cases hfile : base'.file? (builder.placeOf base' file) = base.file? (builder.placeOf base file)
  · -- The file is the same, so it is a page with other metadata.
    have hmetadata : builder.IsPageName file ∧
        base'.file? (builder.placeOf base' (builder.sidecarOf file)) ≠
          base.file? (builder.placeOf base (builder.sidecarOf file)) := by
      by_contra hnot
      exact hkeeps ⟨hfile, fun hpage ↦ by_contra fun hne ↦ hnot ⟨hpage, hne⟩⟩
    have hwanted' : builder.Wanted base' file :=
      hwanted.elim (fun hold ↦ ⟨hfile ▸ hold.isSome, hhidden, hsidecar⟩) id
    have hown : builder.IsSidecarName (builder.sidecarOf file) := rfl
    obtain ⟨path, deleted, hpath, hmem⟩ := h.complete _ (Or.inl hown) hmetadata.2
    obtain ⟨directory, htask, hdirectory⟩ :=
      task?_report_of_sidecar hpath hown deleted
    obtain ⟨last, hlast, hsame⟩ := Change.exists_mem_tasks hmem htask
    obtain ⟨hkind, hcomponents⟩ := Task.sameTarget_iff.mp hsame
    refine ⟨last, hlast, ?_⟩
    cases last with
    | directory found => exact ⟨file, hwanted', hmetadata.1, hcomponents.trans hdirectory, rfl⟩
    | page found => simp [Task.isDirectory] at hkind
    | asset found => simp [Task.isDirectory] at hkind
    | remove found => simp [Task.isDirectory] at hkind
  · obtain ⟨path, deleted, hpath, hmem⟩ := h.complete file (Or.inr hhidden) hfile
    exact h.exists_worksOn_of_report hpath hsidecar hmem

end Reports

/-! ## Changes to content alone -/

/-- Whether a batch holds changes to content files alone, and of hidden ones only to metadata. -/
def Tells (builder : Builder) (changes : List Change) : Prop :=
  ∀ change ∈ changes, ∃ file path deleted, builder.IsPathOf file path ∧
    (builder.IsSidecarName file ∨ ¬ file.IsHidden) ∧ change = builder.report path deleted

namespace Tells

variable (h : builder.Tells changes)

include h

/-- Such a batch asks for work on single files. -/
theorem ofChanges_eq : Scope.ofChanges changes = .files (Change.tasks changes) := by
  have hreport {path : Path} {deleted : Bool} : builder.report path deleted ≠ .config ∧
      ∀ found, builder.report path deleted ≠ .template found := by
    rw [report]
    split_ifs <;> simp
  refine Scope.ofChanges_of_content (fun hmem ↦ ?_) fun found hmem ↦ ?_
  · obtain ⟨file, path, deleted, -, -, hchange⟩ := h _ hmem
    exact hreport.1 hchange.symm
  · obtain ⟨file, path, deleted, -, -, hchange⟩ := h _ hmem
    exact hreport.2 found hchange.symm

theorem exists_of_mem_tasks (hmem : task ∈ Change.tasks changes) :
    ∃ file path deleted, builder.report path deleted ∈ changes ∧ builder.IsPathOf file path ∧
      (builder.IsSidecarName file ∨ ¬ file.IsHidden) ∧
      Change.task? (builder.report path deleted) = some task := by
  obtain ⟨file, path, deleted, before, after, hsplit, hpath, hshown, htask, -⟩ :=
    exists_report_of_mem_tasks (fun change hchange ↦ Or.inr (Or.inr (h change hchange))) hmem
  exact ⟨file, path, deleted, by simp [hsplit], hpath, hshown, htask⟩

/-- What is removed is a content file that is neither hidden nor metadata. -/
theorem exists_of_remove (hmem : .remove path ∈ Change.tasks changes) :
    ∃ file, builder.IsPathOf file path ∧ ¬ builder.IsSidecarName file ∧ ¬ file.IsHidden := by
  obtain ⟨file, found, deleted, -, hpath, hshown, htask⟩ := h.exists_of_mem_tasks hmem
  by_cases hsidecar : builder.IsSidecarName file
  · obtain ⟨directory, hdirectory, -⟩ := task?_report_of_sidecar hpath hsidecar deleted
    simp [hdirectory] at htask
  · rw [task?_report hpath hsidecar] at htask
    split_ifs at htask
    · obtain rfl : found = path := by simpa using htask
      exact ⟨file, hpath, hsidecar, hshown.resolve_left hsidecar⟩
    · simp at htask
    · simp at htask

end Tells

end StaticSite.Builder
