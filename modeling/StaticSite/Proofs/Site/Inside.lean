import StaticSite.Proofs.FileTree.Canonical
import StaticSite.Proofs.Site.Deletion
import StaticSite.Proofs.Site.Retention

/-!
# Work on files of the content

The output of a content file is found by its path below the directory of content; for any other path
work ends with an error that says so. Work on files that have an output does not, whatever else it
may end with (`staysInside_runTask`), and neither does a rebuild for them (`staysInside_rebuild`).
-/

namespace StaticSite

open StaticSite.Path FileTree

namespace Build

variable {α β : Type} {tree tree₁ : FileTree} {path : Path} {result : BuildResult}

/-! ## How work ends -/

/-- Whether work on a tree does not end with the error that a path lies outside of the content. -/
def StaysInside (work : Build α) (tree : FileTree) : Prop :=
  ∀ message tree₁, ¬ work.Fails tree (.io (.other message)) tree₁

theorem staysInside_pure {a : α} : (pure a : Build α).StaysInside tree :=
  fun _ _ ↦ not_fails_pure

theorem staysInside_bind {work : Build α} {next : α → Build β} (h : work.StaysInside tree)
    (hnext : ∀ a tree₁, work.Gives tree a tree₁ → (next a).StaysInside tree₁) :
    (work >>= next).StaysInside tree := by
  intro message tree₂ hfails
  rcases fails_bind.mp hfails with hwork | ⟨a, tree₁, hgives, hrest⟩
  · exact h message tree₂ hwork
  · exact hnext a tree₁ hgives message tree₂ hrest

theorem staysInside_files_bind {next : FileTree → Build β} (h : (next tree).StaysInside tree) :
    (files >>= next).StaysInside tree := by
  refine staysInside_bind (fun _ _ ↦ not_fails_files) fun found tree₁ hfiles ↦ ?_
  obtain ⟨rfl, rfl⟩ := gives_files.mp hfiles
  exact h

/-- Steps do not end so together if none of them does, and they keep what this takes. -/
theorem staysInside_foldlM {holds : FileTree → Prop} {step : BuildResult → α → Build BuildResult}
    {items : List α} (hstep : ∀ item ∈ items, ∀ result tree, holds tree →
      (step result item).StaysInside tree ∧
        ∀ result₁ tree₁, (step result item).Gives tree result₁ tree₁ → holds tree₁)
    (h : holds tree) : (items.foldlM step result).StaysInside tree := by
  induction items generalizing result tree with
  | nil => exact staysInside_pure
  | cons item items ih =>
    obtain ⟨hfirst, hkeeps⟩ := hstep item List.mem_cons_self result tree h
    rw [List.foldlM_cons]
    exact staysInside_bind hfirst fun result₁ tree₁ hgives ↦
      ih (fun item hmem ↦ hstep item (List.mem_cons_of_mem _ hmem)) (hkeeps result₁ tree₁ hgives)

/-- An error is noted as it is, if it ends the build. -/
theorem staysInside_note {work : Build Bool} {count : BuildResult → BuildResult}
    (h : work.StaysInside tree) : (Builder.note result path work count).StaysInside tree := by
  refine staysInside_bind (fun _ _ ↦ not_fails_attempt) fun found tree₁ hattempt ↦ ?_
  obtain ⟨hfound, rfl⟩ := gives_attempt.mp hattempt
  split
  · exact staysInside_pure
  · exact staysInside_pure
  next e =>
  split_ifs
  · intro message tree₂ hfails
    obtain ⟨rfl, -⟩ := fails_fail.mp hfails
    exact h message _ (fails_iff.mpr ⟨hfound, rfl⟩)
  · exact staysInside_pure

theorem staysInside_ensureParent : (ensureParent path).StaysInside tree := by
  intro message tree₁ hfails
  rw [ensureParent] at hfails
  split at hfails
  · obtain ⟨fault, -, herror⟩ := fails_ensureDirectory.mp hfails
    cases herror
  · exact not_fails_pure hfails

theorem staysInside_change {target : Path} {operation : FileTree → Except FileFault FileTree} :
    (change (.write target) operation).StaysInside tree := by
  intro message tree₁ hfails
  obtain ⟨fault, -, herror, -⟩ := fails_change.mp hfails
  cases herror

end Build

namespace Builder

open Build

variable {builder : Builder} {tree tree₁ : FileTree} {path : Path} {templates : ComposedTemplates}
  {renderer : Renderer} {result : BuildResult} {task : Task} {tasks : List Task}

/-! ## Work on files with an output -/

/-- A page without an HTML is no matter of where its file lies. -/
theorem ne_io_of_pageHtml {e : BuildError} {fault : FileFault}
    (h : builder.pageHtml tree templates renderer path = .error e) : e ≠ .io fault := by
  rw [pageHtml] at h
  split at h
  · obtain rfl := Except.error.inj h
    simp
  simp only at h
  split at h
  · obtain rfl := Except.error.inj h
    simp
  split at h
  · obtain rfl := Except.error.inj h
    simp
  · simp at h

section Output

variable (h : (builder.outputPath? path).isSome)

include h

theorem staysInside_outputPath : (builder.outputPath path).StaysInside tree := by
  obtain ⟨output, houtput⟩ := Option.isSome_iff_exists.mp h
  rw [outputPath, houtput]
  exact staysInside_pure

theorem staysInside_notePage :
    (builder.notePage templates renderer result path).StaysInside tree := by
  refine staysInside_note (staysInside_bind (staysInside_files_bind ?_) fun _ _ _ ↦
    staysInside_pure)
  split
  next e hhtml =>
    intro message tree₁ hfails
    obtain ⟨rfl, -⟩ := fails_fail.mp hfails
    exact ne_io_of_pageHtml hhtml rfl
  next html hhtml =>
    refine staysInside_bind (staysInside_outputPath h) fun output tree₁ _ ↦ ?_
    exact staysInside_bind staysInside_ensureParent fun _ _ _ ↦ staysInside_change

theorem staysInside_noteAsset : (builder.noteAsset result path).StaysInside tree := by
  refine staysInside_note (staysInside_files_bind ?_)
  split_ifs
  · exact staysInside_pure
  refine staysInside_bind (staysInside_outputPath h) fun output tree₁ _ ↦ ?_
  refine staysInside_bind (staysInside_bind staysInside_ensureParent fun _ _ _ ↦ ?_) fun _ _ _ ↦
    staysInside_pure
  exact staysInside_change

/-- What is there cannot be removed only if it is a directory. -/
theorem staysInside_removeOutput : (builder.removeOutput path).StaysInside tree := by
  rw [removeOutput]
  split_ifs
  · exact staysInside_pure
  refine staysInside_bind (staysInside_outputPath h) fun output tree₁ _ ↦ ?_
  refine staysInside_files_bind ?_
  split_ifs with hentry
  · refine staysInside_bind (fun message tree₂ hfails ↦ ?_) fun _ _ _ ↦ staysInside_pure
    obtain ⟨fault, hremove, herror, -⟩ := fails_change.mp hfails
    obtain ⟨place, entry, hlookup⟩ := exists_lookup_of_hasEntry hentry
    rw [removeFile, hlookup] at hremove
    cases entry with
    | directory =>
      obtain rfl := Except.error.inj hremove
      cases herror
    | file content => cases hremove
  · exact staysInside_pure

end Output

/-- A page without an output is said to lie outside of the content. -/
theorem fails_notePage {html : String} (h : builder.outputPath? path = none)
    (hhtml : builder.pageHtml tree templates renderer path = .ok html) :
    (builder.notePage templates renderer result path).Fails tree
      (.io (.other (path.text ++ " is outside the content directory"))) tree := by
  have hpage : (builder.buildPage templates renderer path).Fails tree
      (.io (.other (path.text ++ " is outside the content directory"))) tree := by
    refine fails_bind.mpr (Or.inr ⟨tree, tree, gives_files.mpr ⟨rfl, rfl⟩, ?_⟩)
    simp only [hhtml]
    refine fails_bind.mpr (Or.inl ?_)
    rw [outputPath, h]
    exact fails_fail.mpr ⟨rfl, rfl⟩
  refine fails_bind.mpr (Or.inr ⟨_, tree, gives_attempt.mpr (fails_iff.mp
    (fails_bind.mpr (Or.inl hpage))), ?_⟩)
  exact fails_fail.mpr ⟨rfl, rfl⟩

/-- Whether a task is about files that have an output. -/
def HasOutput (builder : Builder) : Task → Prop
  | .page path => (builder.outputPath? path).isSome
  | .asset path => (builder.outputPath? path).isSome
  | .remove path => (builder.outputPath? path).isSome
  | .directory directory => ∀ page name, page.components = directory.components ++ [.normal name] →
      (builder.outputPath? page).isSome

theorem staysInside_runTask (hclosed : tree.Closed) (h : builder.HasOutput task) :
    (builder.runTask templates renderer result task).StaysInside tree := by
  cases task with
  | page path =>
    refine staysInside_files_bind ?_
    split_ifs
    · exact staysInside_notePage h
    · exact staysInside_pure
  | asset path => exact staysInside_noteAsset h
  | remove path =>
    refine staysInside_bind (staysInside_removeOutput h) fun removed tree₁ _ ↦ ?_
    split_ifs
    · exact staysInside_pure
    · exact staysInside_pure
  | directory directory =>
    obtain ⟨found, hfound⟩ : ∃ pages, (builder.pagesIn directory).Gives tree pages tree :=
      exists_gives_pagesIn
    refine staysInside_bind (fun message tree₁ hfails ↦ ?_) fun pages tree₁ hpages ↦ ?_
    · rw [fails_iff, (gives_iff.mp hfound).1] at hfails
      cases hfails.1
    · obtain rfl : tree₁ = tree := (gives_iff.mp hpages).2.symm.trans tree_pagesIn
      have hstep : ∀ page ∈ pages, ∀ result tree, True →
          (builder.notePage templates renderer result page).StaysInside tree ∧
            ∀ result₁ tree₂, (builder.notePage templates renderer result page).Gives tree result₁
              tree₂ → True := by
        intro page hmem result tree _
        obtain ⟨name, hname⟩ := components_of_pagesIn hclosed hpages hmem
        exact ⟨staysInside_notePage (h page name hname), fun _ _ _ ↦ trivial⟩
      rw [buildPages_eq_foldlM]
      exact staysInside_foldlM hstep trivial

/-- A rebuild for files that have an output does not say of any that it lies outside of the
content. -/
theorem staysInside_rebuild (hclosed : tree.Closed) (hcache : builder.cache.isSome)
    (h : ∀ task ∈ tasks, builder.HasOutput task) :
    (builder.rebuild (.files tasks)).StaysInside tree := by
  obtain ⟨templates, hcache⟩ := Option.isSome_iff_exists.mp hcache
  cases hrenderer : builder.renderer templates with
  | error e =>
    unfold rebuild
    simp only [hcache, hrenderer]
    intro message tree₁ hfails
    obtain ⟨rfl, -⟩ := fails_fail.mp hfails
    rw [Builder.renderer] at hrenderer
    cases hlayout : Renderer.ofLayout templates.layout with
    | error e => simp [hlayout, Except.mapError] at hrenderer
    | ok renderer => simp [hlayout, Except.mapError] at hrenderer
  | ok renderer =>
    rw [rebuild_files hcache hrenderer]
    refine staysInside_bind ?_ fun _ _ _ ↦ staysInside_pure
    rw [runTasks_eq_foldlM]
    refine staysInside_foldlM (fun task hmem result tree hclosed ↦
      ⟨staysInside_runTask hclosed (h task hmem), fun result₁ tree₁ hgives ↦ ?_⟩) hclosed
    exact (retains_runTask.of_gives hgives).closed hclosed

end Builder

end StaticSite
