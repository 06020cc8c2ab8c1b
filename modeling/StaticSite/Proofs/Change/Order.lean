import Mathlib.Data.List.Sort
import StaticSite.Proofs.Change.Tasks

/-!
# The order of tasks

What a batch of changes asks for, said by the positions of its changes. A position leads to a task
exactly if no later change has the same target (`IsLastAt`). Going over the changes one by one, each
step drops the positions whose target comes again and adds the new one at the end, so the tasks stay
in the order of their positions (`exists_positions`). There is just one list of tasks like this,
which is that of the batch (`Scope.ofChanges_eq_iff`).
-/

namespace StaticSite

/-- What a change or a task is about: a file, or the pages directly in a directory. Paths with the
same components are about the same place. -/
inductive Target where
  /-- A file. -/
  | file (place : List Component)
  /-- The pages directly in a directory. -/
  | directory (place : List Component)
  deriving DecidableEq, Repr

/-- What a task is about. -/
def Task.target : Task → Target
  | .page path => .file path.components
  | .asset path => .file path.components
  | .remove path => .file path.components
  | .directory path => .directory path.components

/-- What a change is about. A metadata file counts for the pages of its directory. -/
def Change.target? : Change → Option Target
  | .page path _ => some (.file path.components)
  | .asset path _ => some (.file path.components)
  | .metadata path => some (.directory (path.parent?.getD ⟨""⟩).components)
  | .template _ => none
  | .config => none

variable {a b task : Task} {change : Change} {changes : List Change} {i : ℕ}

theorem Task.sameTarget_iff_target : a.sameTarget b ↔ a.target = b.target := by
  rw [sameTarget_iff]
  cases a <;> cases b <;> simp [isDirectory, path, target]

namespace Change

theorem target?_eq (change : Change) : change.target? = (task? change).map Task.target := by
  cases change with
  | page path deleted => cases deleted <;> rfl
  | asset path deleted => cases deleted <;> rfl
  | metadata path => rfl
  | template path => rfl
  | config => rfl

/-- A change asks for a task at a position, and no later change is about the same. -/
def IsLastAt (changes : List Change) (i : ℕ) (task : Task) : Prop :=
  (∃ change, changes[i]? = some change ∧ task? change = some task) ∧
    ∀ j, i < j → ∀ later ∈ changes[j]?, later.target? ≠ some task.target

theorem IsLastAt.lt (h : IsLastAt changes i task) : i < changes.length := by
  obtain ⟨⟨found, hfound, -⟩, -⟩ := h
  exact (List.getElem?_eq_some_iff.mp hfound).1

theorem IsLastAt.unique {other : Task} (h : IsLastAt changes i task)
    (h' : IsLastAt changes i other) :
    task = other := by
  obtain ⟨⟨found, hfound, htask⟩, -⟩ := h
  obtain ⟨⟨found', hfound', hother⟩, -⟩ := h'
  obtain rfl := Option.some.inj (hfound.symm.trans hfound')
  exact Option.some.inj (htask.symm.trans hother)

theorem IsLastAt.target_ne {j : ℕ} {later : Task} (h : IsLastAt changes i task)
    (h' : IsLastAt changes j later) (hij : i < j) : task.target ≠ later.target := by
  obtain ⟨⟨found, hfound, hlater⟩, -⟩ := h'
  have hne := h.2 j hij found hfound
  rw [target?_eq, hlater, Option.map_some] at hne
  exact fun heq ↦ hne (congrArg some heq.symm)

/-- With one more change, the positions of other targets stay and the new one is added. -/
theorem isLastAt_concat : IsLastAt (changes ++ [change]) i task ↔
    IsLastAt changes i task ∧ change.target? ≠ some task.target ∨
      i = changes.length ∧ task? change = some task := by
  constructor
  · rintro ⟨⟨found, hfound, htask⟩, hlast⟩
    have hlength := (List.getElem?_eq_some_iff.mp hfound).1
    rw [List.length_append, List.length_singleton] at hlength
    rcases Nat.lt_succ_iff_lt_or_eq.mp hlength with hlt | rfl
    · rw [List.getElem?_append_left hlt] at hfound
      refine .inl ⟨⟨⟨found, hfound, htask⟩, fun j hj later hlater ↦ hlast j hj later ?_⟩,
        hlast changes.length hlt change (by simp)⟩
      rwa [List.getElem?_append_left (List.getElem?_eq_some_iff.mp hlater).1]
    · obtain rfl : change = found := by simpa using hfound
      exact .inr ⟨rfl, htask⟩
  · rintro (⟨h, hother⟩ | ⟨rfl, htask⟩)
    · obtain ⟨⟨found, hfound, htask⟩, hlast⟩ := h
      refine ⟨⟨found, ?_, htask⟩, fun j hj later hlater ↦ ?_⟩
      · rwa [List.getElem?_append_left (List.getElem?_eq_some_iff.mp hfound).1]
      · rcases Nat.lt_or_ge j changes.length with hlt | hge
        · rw [List.getElem?_append_left hlt] at hlater
          exact hlast j hj later hlater
        · rw [List.getElem?_append_right hge] at hlater
          obtain rfl : later = change := List.mem_singleton.mp (List.mem_of_getElem? hlater)
          exact hother
    · refine ⟨⟨change, by simp, htask⟩, fun j hj later hlater ↦ ?_⟩
      have hlength := (List.getElem?_eq_some_iff.mp hlater).1
      rw [List.length_append, List.length_singleton] at hlength
      omega

/-- The tasks of a batch belong to the positions of the last changes for their targets, and stand in
the order of these positions. -/
theorem exists_positions (changes : List Change) :
    ∃ tagged : List (ℕ × Task), tagged.map Prod.snd = tasks changes ∧
      (tagged.map Prod.fst).Pairwise (· < ·) ∧
      ∀ i task, (i, task) ∈ tagged ↔ IsLastAt changes i task := by
  induction changes using List.reverseRecOn with
  | nil => exact ⟨[], rfl, .nil, by simp [IsLastAt]⟩
  | append_singleton changes change ih =>
    obtain ⟨tagged, htasks, hsorted, hmem⟩ := ih
    have htarget := change.target?_eq
    cases htask : task? change with
    | none =>
      -- A change without a task leaves the positions as they are.
      rw [htask, Option.map_none] at htarget
      have hnext : tasks (changes ++ [change]) = tasks changes := by simp [tasks, htask]
      refine ⟨tagged, htasks.trans hnext.symm, hsorted, fun i task ↦ ?_⟩
      rw [hmem, isLastAt_concat, htarget, htask]
      simp
    | some added =>
      rw [htask, Option.map_some] at htarget
      have hnext : tasks (changes ++ [change]) = addTask (tasks changes) added := by
        simp [tasks, htask]
      refine ⟨tagged.filter (fun entry ↦ !entry.2.sameTarget added) ++ [(changes.length, added)],
        ?_, ?_, fun i task ↦ ?_⟩
      · rw [hnext, addTask, ← htasks, List.filter_map, List.map_append]
        rfl
      · rw [List.map_append, List.pairwise_append]
        refine ⟨hsorted.sublist (List.filter_sublist.map Prod.fst), List.pairwise_singleton _ _, ?_⟩
        intro i hi last hlast
        obtain ⟨⟨i, task⟩, hentry, rfl⟩ := List.mem_map.mp hi
        obtain rfl : last = changes.length := by simpa using hlast
        exact ((hmem i task).mp (List.mem_of_mem_filter hentry)).lt
      · rw [isLastAt_concat, ← hmem, htarget, htask, List.mem_append, List.mem_filter]
        simp only [Bool.not_eq_true', Bool.eq_false_iff, ne_eq, Task.sameTarget_iff_target,
          List.mem_singleton, Prod.mk.injEq, Option.some.injEq]
        rw [eq_comm (a := added.target), eq_comm (a := added)]

/-- There is one list of tasks in the order of the last positions. -/
theorem eq_tasks_iff {todo : List Task} : todo = tasks changes ↔
    ∃ tagged : List (ℕ × Task), tagged.map Prod.snd = todo ∧
      (tagged.map Prod.fst).Pairwise (· < ·) ∧
      ∀ i task, (i, task) ∈ tagged ↔ IsLastAt changes i task := by
  constructor
  · rintro rfl
    exact exists_positions changes
  · rintro ⟨tagged, rfl, hsorted, hmem⟩
    obtain ⟨other, htasks, hsorted', hmem'⟩ := exists_positions changes
    have hirrefl : Std.Irrefl fun a b : ℕ × Task ↦ a.1 < b.1 := ⟨fun a ↦ Nat.lt_irrefl a.1⟩
    have hantisymm : Std.Antisymm fun a b : ℕ × Task ↦ a.1 < b.1 :=
      ⟨fun a b hab hba ↦ absurd hab (Nat.lt_asymm hba)⟩
    have hsame : tagged = other :=
      (List.pairwise_map.mp hsorted).eq_of_mem_iff (List.pairwise_map.mp hsorted')
        fun entry ↦ (hmem entry.1 entry.2).trans (hmem' entry.1 entry.2).symm
    rw [hsame, htasks]

/-- No target is dealt with twice. -/
theorem nodup_target_tasks (changes : List Change) :
    ((tasks changes).map Task.target).Nodup := by
  obtain ⟨tagged, htasks, hsorted, hmem⟩ := exists_positions changes
  rw [← htasks, List.map_map]
  refine List.pairwise_map.mpr
    ((List.pairwise_map.mp hsorted).imp_of_mem fun hfirst hlater hlt ↦ ?_)
  exact ((hmem _ _).mp hfirst).target_ne ((hmem _ _).mp hlater) hlt

/-- The tasks are about what the changes are about. -/
theorem mem_target_tasks_iff {target : Target} : target ∈ (tasks changes).map Task.target ↔
    ∃ change ∈ changes, change.target? = some target := by
  rw [List.mem_map]
  constructor
  · rintro ⟨task, htask, rfl⟩
    obtain ⟨before, change, after, rfl, hchange, -⟩ := mem_tasks_iff.mp htask
    exact ⟨change, by simp, by rw [target?_eq, hchange, Option.map_some]⟩
  · rintro ⟨change, hmem, htarget⟩
    rw [target?_eq, Option.map_eq_some_iff] at htarget
    obtain ⟨task, htask, rfl⟩ := htarget
    obtain ⟨last, hlast, hsame⟩ := exists_mem_tasks hmem htask
    exact ⟨last, hlast, Task.sameTarget_iff_target.mp hsame⟩

end Change

namespace Scope

/-- What a batch of changes asks for. It asks for the configuration exactly if this has changed,
otherwise for a build of everything exactly if a template has, and otherwise for one task for each
file, and each directory of metadata, that its changes are about: the one of the last of these
changes, in the order of the positions of these last changes. -/
theorem ofChanges_eq_iff (changes : List Change) :
    (ofChanges changes = .config ↔ .config ∈ changes) ∧
    (ofChanges changes = .full ↔ .config ∉ changes ∧ ∃ path, .template path ∈ changes) ∧
    ∀ todo, (ofChanges changes = .files todo ↔
        .config ∉ changes ∧ (∀ path, .template path ∉ changes) ∧
          ∃ tagged : List (ℕ × Task), tagged.map Prod.snd = todo ∧
            (tagged.map Prod.fst).Pairwise (· < ·) ∧
            ∀ i task, (i, task) ∈ tagged ↔ Change.IsLastAt changes i task) ∧
      (ofChanges changes = .files todo → (todo.map Task.target).Nodup ∧
        ∀ target, target ∈ todo.map Task.target ↔
          ∃ change ∈ changes, change.target? = some target) := by
  by_cases hconfig : .config ∈ changes
  · have hscope := ofChanges_of_config hconfig
    rw [hscope]
    simp [hconfig]
  by_cases htemplate : ∃ path, .template path ∈ changes
  · obtain ⟨path, hpath⟩ := htemplate
    rw [ofChanges_of_template hconfig hpath]
    refine ⟨by simp [hconfig], by simpa [hconfig] using ⟨path, hpath⟩, fun todo ↦ ⟨?_, by simp⟩⟩
    exact iff_of_false (by simp) fun h ↦ h.2.1 path hpath
  · rw [not_exists] at htemplate
    rw [ofChanges_of_content hconfig htemplate]
    refine ⟨by simp [hconfig], by simp [htemplate], fun todo ↦ ⟨?_, ?_⟩⟩
    · rw [Scope.files.injEq, eq_comm, Change.eq_tasks_iff]
      exact ⟨fun h ↦ ⟨hconfig, htemplate, h⟩, fun h ↦ h.2.2⟩
    · rintro ⟨⟩
      exact ⟨Change.nodup_target_tasks changes, fun _ ↦ Change.mem_target_tasks_iff⟩

end Scope

end StaticSite
