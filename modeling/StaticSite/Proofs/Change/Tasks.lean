import Mathlib.Data.List.Basic
import Mathlib.Data.List.Induction
import StaticSite.Change

/-!
# Tasks of a batch of changes

Of several changes with the same target only the last one leads to a task (`mem_tasks_iff`), and no
target is forgotten (`exists_mem_tasks`). What a batch asks for depends on whether the configuration
or a template is among its changes.
-/

namespace StaticSite

variable {a b c task : Task} {todo : List Task} {change : Change} {changes : List Change}
  {path : Path}

theorem Task.sameTarget_iff : a.sameTarget b ↔
    a.isDirectory = b.isDirectory ∧ a.path.components = b.path.components := by
  simp [sameTarget, Path.same]

@[simp] theorem Task.sameTarget_self (a : Task) : a.sameTarget a :=
  sameTarget_iff.mpr ⟨rfl, rfl⟩

theorem Task.sameTarget_comm : a.sameTarget b ↔ b.sameTarget a := by
  rw [sameTarget_iff, sameTarget_iff, eq_comm (b := b.isDirectory),
    eq_comm (b := b.path.components)]

theorem Task.sameTarget_trans (h : a.sameTarget b) (h' : b.sameTarget c) : a.sameTarget c := by
  rw [sameTarget_iff] at h h' ⊢
  exact ⟨h.1.trans h'.1, h.2.trans h'.2⟩

namespace Change

/-- Whether a task is the last one of a list with its target. -/
def IsLast (todo : List Task) (task : Task) : Prop :=
  ∃ before after, todo = before ++ task :: after ∧ ∀ later ∈ after, ¬ task.sameTarget later

theorem isLast_concat : IsLast (todo ++ [a]) task ↔
    task = a ∨ IsLast todo task ∧ ¬ task.sameTarget a := by
  constructor
  · rintro ⟨before, after, hsplit, hlast⟩
    rcases List.eq_nil_or_concat' after with rfl | ⟨after, last, rfl⟩
    · exact Or.inl (List.singleton_inj.mp (List.append_inj_right' hsplit rfl)).symm
    · rw [← List.cons_append, ← List.append_assoc] at hsplit
      obtain ⟨rfl, hlastTask⟩ := List.append_inj' hsplit rfl
      obtain rfl := List.singleton_inj.mp hlastTask
      refine Or.inr ⟨⟨before, after, rfl, fun later hmem ↦ ?_⟩, ?_⟩
      · exact hlast later (List.mem_append_left _ hmem)
      · exact hlast a (List.mem_append_right _ List.mem_cons_self)
  · rintro (rfl | ⟨⟨before, after, rfl, hlast⟩, hnot⟩)
    · exact ⟨todo, [], rfl, by simp⟩
    · refine ⟨before, after ++ [a], by simp, fun later hmem ↦ ?_⟩
      rcases List.mem_append.mp hmem with hmem | hmem
      · exact hlast later hmem
      · rwa [List.mem_singleton.mp hmem]

/-- A list of tasks keeps the last ones. -/
theorem mem_foldl_addTask : task ∈ todo.foldl addTask [] ↔ IsLast todo task := by
  induction todo using List.reverseRecOn with
  | nil => simp [IsLast]
  | append_singleton todo a ih =>
    rw [List.foldl_append, List.foldl_cons, List.foldl_nil, isLast_concat, ← ih, addTask,
      List.mem_append, List.mem_filter, List.mem_singleton, or_comm, Bool.not_eq_true']
    simp

theorem exists_isLast (h : task ∈ todo) : ∃ last, IsLast todo last ∧ last.sameTarget task := by
  induction todo using List.reverseRecOn with
  | nil => simp at h
  | append_singleton todo a ih =>
    by_cases hsame : a.sameTarget task
    · exact ⟨a, isLast_concat.mpr (Or.inl rfl), hsame⟩
    · have hmem : task ∈ todo := by
        rcases List.mem_append.mp h with hmem | hmem
        · exact hmem
        · rw [List.mem_singleton.mp hmem] at hsame
          exact absurd (Task.sameTarget_self a) hsame
      obtain ⟨last, hlast, htarget⟩ := ih hmem
      refine ⟨last, isLast_concat.mpr (Or.inr ⟨hlast, fun hother ↦ hsame ?_⟩), htarget⟩
      exact Task.sameTarget_trans (Task.sameTarget_comm.mp hother) htarget

/-- One task is the last one with a target. -/
theorem IsLast.eq_of_sameTarget {other : Task} (h : IsLast todo task) (h' : IsLast todo other)
    (hsame : task.sameTarget other) : task = other := by
  induction todo using List.reverseRecOn with
  | nil => simp [IsLast] at h
  | append_singleton todo a ih =>
    rcases isLast_concat.mp h with rfl | ⟨hlast, hnot⟩
    · rcases isLast_concat.mp h' with rfl | ⟨-, hnot⟩
      · rfl
      · exact absurd (Task.sameTarget_comm.mp hsame) hnot
    · rcases isLast_concat.mp h' with rfl | ⟨hlast', -⟩
      · exact absurd hsame hnot
      · exact ih hlast hlast'

/-- The tasks of a batch are those of the changes after which no other one has the same target. -/
theorem mem_tasks_iff : task ∈ tasks changes ↔
    ∃ before change after, changes = before ++ change :: after ∧ task? change = some task ∧
      ∀ later ∈ after, ∀ other, task? later = some other → ¬ task.sameTarget other := by
  rw [tasks, mem_foldl_addTask, IsLast]
  constructor
  · rintro ⟨before, after, hsplit, hlast⟩
    obtain ⟨front, rest, rfl, -, hrest⟩ := List.filterMap_eq_append_iff.mp hsplit
    obtain ⟨skipped, change, behind, rfl, -, hchange, rfl⟩ := List.filterMap_eq_cons_iff.mp hrest
    refine ⟨front ++ skipped, change, behind, by simp, hchange, fun later hmem other hother ↦ ?_⟩
    exact hlast other (List.mem_filterMap.mpr ⟨later, hmem, hother⟩)
  · rintro ⟨before, change, after, rfl, hchange, hlast⟩
    refine ⟨before.filterMap task?, after.filterMap task?, by simp [hchange], ?_⟩
    intro later hmem
    obtain ⟨found, hfound, hlater⟩ := List.mem_filterMap.mp hmem
    exact hlast found hfound later hlater

/-- Every change to content has its target among the tasks. -/
theorem exists_mem_tasks (h : change ∈ changes) (htask : task? change = some task) :
    ∃ last ∈ tasks changes, last.sameTarget task := by
  obtain ⟨last, hlast, hsame⟩ := exists_isLast (List.mem_filterMap.mpr ⟨change, h, htask⟩)
  exact ⟨last, mem_foldl_addTask.mpr hlast, hsame⟩

/-- A batch has one task with a target. -/
theorem eq_of_sameTarget {other : Task} (h : task ∈ tasks changes) (h' : other ∈ tasks changes)
    (hsame : task.sameTarget other) : task = other :=
  (mem_foldl_addTask.mp h).eq_of_sameTarget (mem_foldl_addTask.mp h') hsame

end Change

namespace Scope

/-- A change of the configuration asks for it to be loaded, whatever else has changed. -/
theorem ofChanges_of_config (h : .config ∈ changes) : ofChanges changes = .config :=
  if_pos (List.any_eq_true.mpr ⟨.config, h, by decide⟩)

theorem ofChanges_of_template (hconfig : .config ∉ changes) (h : .template path ∈ changes) :
    ofChanges changes = .full := by
  rw [ofChanges, if_neg (by simpa using hconfig), if_pos (List.any_eq_true.mpr ⟨_, h, rfl⟩)]

theorem ofChanges_of_content (hconfig : .config ∉ changes) (h : ∀ path, .template path ∉ changes) :
    ofChanges changes = .files (Change.tasks changes) := by
  rw [ofChanges, if_neg (by simpa using hconfig), if_neg]
  rw [List.any_eq_true]
  rintro ⟨change, hmem, htemplate⟩
  cases change with
  | template path => exact h path hmem
  | page path deleted => simp at htemplate
  | metadata path => simp at htemplate
  | asset path deleted => simp at htemplate
  | config => simp at htemplate

end Scope

end StaticSite
