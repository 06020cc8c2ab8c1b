import StaticSite.Proofs.FileTree.Update
import StaticSite.Site.Builder

/-!
# Work on file trees

What it means for a piece of work of a build to succeed, taken apart along its steps, and what the
pieces that write output files leave: one file with a new content (`updates_writeOutput`,
`updates_copyOutput`), or new directories alone where they fail.
-/

namespace StaticSite

open StaticSite.Path

theorem exists_of_map_eq_ok {ε α β : Type} {x : Except ε α} {f : α → β} {b : β}
    (h : x.map f = .ok b) : ∃ a, x = .ok a ∧ f a = b := by
  cases x with
  | error e => simp [Except.map] at h
  | ok a => exact ⟨a, rfl, by simpa [Except.map] using h⟩

namespace Build

variable {α β : Type} {tree tree₁ tree₂ : FileTree} {path source : Path}

/-- Whether work on a tree succeeds, with a result and the tree it leaves. -/
def Gives (work : Build α) (tree : FileTree) (result : α) (tree₁ : FileTree) : Prop :=
  work tree = ((.ok result, tree₁) : Except BuildError α × FileTree)

/-- Whether work on a tree fails, with an error and the tree it leaves. -/
def Fails (work : Build α) (tree : FileTree) (e : BuildError) (tree₁ : FileTree) : Prop :=
  work tree = ((.error e, tree₁) : Except BuildError α × FileTree)

theorem gives_iff {work : Build α} {result : α} :
    work.Gives tree result tree₁ ↔ (work tree).1 = .ok result ∧ (work tree).2 = tree₁ :=
  Prod.ext_iff

theorem fails_iff {work : Build α} {e : BuildError} :
    work.Fails tree e tree₁ ↔ (work tree).1 = .error e ∧ (work tree).2 = tree₁ :=
  Prod.ext_iff

/-- What work gives is decided by the tree that it begins with. -/
theorem Gives.unique {work : Build α} {result result' : α} (h : work.Gives tree result tree₁)
    (h' : work.Gives tree result' tree₂) : result = result' ∧ tree₁ = tree₂ := by
  obtain ⟨hresult, htree⟩ := Prod.mk.inj (h.symm.trans h')
  exact ⟨Except.ok.inj hresult, htree⟩

/-! ## Steps of work -/

theorem run_bind (work : Build α) (next : α → Build β) (tree : FileTree) :
    (work >>= next) tree =
      match work tree with
      | (.ok a, tree₁) => next a tree₁
      | (.error e, tree₁) => ((.error e, tree₁) : Except BuildError β × FileTree) := by
  have hrun : (work >>= next) tree = ExceptT.bindCont next (work tree).1 (work tree).2 := rfl
  rw [hrun]
  cases work tree with
  | mk found tree₁ => cases found <;> rfl

theorem gives_bind {work : Build α} {next : α → Build β} {result : β} :
    (work >>= next).Gives tree result tree₂ ↔
      ∃ a tree₁, work.Gives tree a tree₁ ∧ (next a).Gives tree₁ result tree₂ := by
  simp only [gives_iff, run_bind]
  cases hwork : work tree with
  | mk found tree₁ => cases found <;> simp

/-- Work fails with its first error. -/
theorem fails_bind {work : Build α} {next : α → Build β} {e : BuildError} :
    (work >>= next).Fails tree e tree₂ ↔ work.Fails tree e tree₂ ∨
      ∃ a tree₁, work.Gives tree a tree₁ ∧ (next a).Fails tree₁ e tree₂ := by
  simp only [gives_iff, fails_iff, run_bind]
  cases hwork : work tree with
  | mk found tree₁ => cases found <;> simp

theorem gives_pure {a result : α} :
    (pure a : Build α).Gives tree result tree₁ ↔ a = result ∧ tree = tree₁ := by
  have hrun : (pure a : Build α) tree = ((.ok a, tree) : Except BuildError α × FileTree) := rfl
  simp [gives_iff, hrun]

@[simp] theorem not_gives_fail {e : BuildError} {result : α} :
    ¬ (fail e : Build α).Gives tree result tree₁ := by
  simp [gives_iff, fail]

theorem fails_fail {e e' : BuildError} :
    (fail e : Build α).Fails tree e' tree₁ ↔ e = e' ∧ tree = tree₁ := by
  simp [fails_iff, fail]

@[simp] theorem not_fails_pure {a : α} {e : BuildError} :
    ¬ (pure a : Build α).Fails tree e tree₁ := by
  have hrun : (pure a : Build α) tree = ((.ok a, tree) : Except BuildError α × FileTree) := rfl
  simp [fails_iff, hrun]

@[simp] theorem not_fails_files {e : BuildError} : ¬ files.Fails tree e tree₁ := by
  simp [fails_iff, files]

@[simp] theorem not_fails_attempt {work : Build α} {e : BuildError} :
    ¬ (attempt work).Fails tree e tree₁ := by
  rw [fails_iff, attempt]
  cases work tree
  simp

theorem gives_files {found : FileTree} :
    files.Gives tree found tree₁ ↔ tree = found ∧ tree = tree₁ := by
  simp [gives_iff, files]

theorem gives_change {asError : FileFault → BuildError}
    {operation : FileTree → Except FileFault FileTree} {done : Unit} :
    (change asError operation).Gives tree done tree₁ ↔ operation tree = .ok tree₁ := by
  rw [gives_iff, change]
  cases operation tree <;> simp

theorem fails_change {asError : FileFault → BuildError}
    {operation : FileTree → Except FileFault FileTree} {e : BuildError} :
    (change asError operation).Fails tree e tree₁ ↔
      ∃ fault, operation tree = .error fault ∧ asError fault = e ∧ tree = tree₁ := by
  rw [fails_iff, change]
  cases operation tree <;> simp

theorem gives_attempt {work : Build α} {result : Except BuildError α} :
    (attempt work).Gives tree result tree₁ ↔ (work tree).1 = result ∧ (work tree).2 = tree₁ := by
  rw [gives_iff, attempt]
  cases work tree
  simp

theorem gives_ensureDirectory {asError : FileFault → BuildError} {done : Unit} :
    (ensureDirectory asError path).Gives tree done tree₁ ↔
      tree.ensureDirectory path = (tree₁, none) := by
  rw [gives_iff, ensureDirectory]
  cases tree.ensureDirectory path with
  | mk tree₂ fault => cases fault <;> simp

theorem fails_ensureDirectory {asError : FileFault → BuildError} {e : BuildError} :
    (ensureDirectory asError path).Fails tree e tree₁ ↔
      ∃ fault, tree.ensureDirectory path = (tree₁, some fault) ∧ asError fault = e := by
  rw [fails_iff, ensureDirectory]
  cases tree.ensureDirectory path with
  | mk tree₂ fault => cases fault <;> simp [and_comm]

/-! ## Output files -/

theorem extends_ensureParent {done : Unit} (h : (ensureParent path).Gives tree done tree₁) :
    tree.Extends tree₁ := by
  rw [ensureParent] at h
  split at h
  · exact FileTree.extends_ensureDirectory (gives_ensureDirectory.mp h)
  · obtain ⟨-, rfl⟩ := gives_pure.mp h
    exact .refl _

/-- An operation that fails in the directory of an output file leaves all files as they are. -/
private theorem extends_of_fails_inParent {asError : FileFault → BuildError}
    {operation : FileTree → Except FileFault FileTree} {e : BuildError}
    (h : (ensureParent path >>= fun _ ↦ change asError operation).Fails tree e tree₁) :
    tree.Extends tree₁ := by
  rcases fails_bind.mp h with hparent | ⟨made, tree₂, hparent, hchange⟩
  · rw [ensureParent] at hparent
    split at hparent
    · obtain ⟨fault, hensure, -⟩ := fails_ensureDirectory.mp hparent
      exact FileTree.extends_ensureDirectory hensure
    · exact absurd hparent not_fails_pure
  · obtain ⟨fault, -, -, rfl⟩ := fails_change.mp hchange
    exact extends_ensureParent hparent

theorem extends_of_fails_writeOutput {text : String} {e : BuildError}
    (h : (writeOutput path text).Fails tree e tree₁) : tree.Extends tree₁ :=
  extends_of_fails_inParent h

theorem extends_of_fails_copyOutput {e : BuildError}
    (h : (copyOutput source path).Fails tree e tree₁) : tree.Extends tree₁ :=
  extends_of_fails_inParent h

/-- A written output file has its text; all other files stay. -/
theorem updates_writeOutput {text : String} {done : Unit}
    (h : (writeOutput path text).Gives tree done tree₁) :
    tree.Updates (tree.placeOf path) (some (.text text)) tree₁ := by
  obtain ⟨made, tree₂, hparent, hwrite⟩ := gives_bind.mp h
  have hextends := extends_ensureParent hparent
  have hupdates := FileTree.updates_write (gives_change.mp hwrite)
  rw [FileTree.placeOf_congr hextends.current] at hupdates
  exact hextends.updates hupdates

/-- A copied output file has the content of its source; all other files stay. -/
theorem updates_copyOutput {done : Unit} (h : (copyOutput source path).Gives tree done tree₁) :
    ∃ content, tree.file? (tree.placeOf source) = some content ∧
      tree.Updates (tree.placeOf path) (some content) tree₁ := by
  obtain ⟨made, tree₂, hparent, hcopy⟩ := gives_bind.mp h
  have hextends := extends_ensureParent hparent
  obtain ⟨content, hcontent, hupdates⟩ := FileTree.updates_copy (gives_change.mp hcopy)
  rw [FileTree.placeOf_congr hextends.current] at hupdates hcontent
  exact ⟨content, by rw [← hextends.file?, hcontent], hextends.updates hupdates⟩

end Build

end StaticSite
