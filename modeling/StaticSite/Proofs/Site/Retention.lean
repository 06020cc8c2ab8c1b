import StaticSite.Proofs.Site.Frame

/-!
# What work on single files keeps

Wherever its output goes, work on content files takes no directory away and leaves the file tree in
order (`Retains`). So what could be found below directories before a rebuild for content can be found
after it, and the content that a full build has walked is still there at its end
(`isDirectory_content_of_build`).
-/

namespace StaticSite

namespace FileTree

variable {tree tree₁ tree₂ : FileTree} {place : Place} {content : Option Content} {path : Path}

/-- Whether a tree has become another one that has all its directories and is in order if it was. -/
structure Retains (tree tree₁ : FileTree) : Prop where
  current : tree₁.current = tree.current
  directory : ∀ place, tree.get? place = some .directory → tree₁.get? place = some .directory
  closed : tree.Closed → tree₁.Closed

namespace Retains

theorem refl (tree : FileTree) : Retains tree tree := ⟨rfl, fun _ h ↦ h, id⟩

theorem trans (h : Retains tree tree₁) (h₁ : Retains tree₁ tree₂) : Retains tree tree₂ where
  current := h₁.current.trans h.current
  directory place hplace := h₁.directory place (h.directory place hplace)
  closed := h₁.closed ∘ h.closed

theorem of_extends (h : tree.Extends tree₁) : Retains tree tree₁ :=
  ⟨h.current, h.directory, h.closed⟩

theorem of_updates (h : tree.Updates place content tree₁) : Retains tree tree₁ :=
  ⟨h.current, h.directory, h.closed⟩

/-- A path that leads to a directory still does. -/
theorem isDirectory (h : Retains tree tree₁) (hpath : tree.isDirectory path) :
    tree₁.isDirectory path := by
  obtain ⟨htext, hpassable, hget⟩ := isDirectory_iff.mp hpath
  rw [isDirectory_iff, h.current, placeOf_congr h.current]
  exact ⟨htext, hpassable.mono h.directory, h.directory _ hget⟩

end Retains

end FileTree

namespace Builder

open Build FileTree

variable {builder rebuilt : Builder} {tree tree₁ : FileTree} {path : Path} {files : List Path}
  {templates : ComposedTemplates} {renderer : Renderer} {result : BuildResult}

theorem accumulates_retains : Accumulates Retains := ⟨Retains.refl, Retains.trans⟩

theorem retains_notePage :
    (builder.notePage templates renderer result path).Leaves Retains tree := by
  refine leaves_note (leaves_bind accumulates_retains ?_ fun _ _ _ ↦
    leaves_pure accumulates_retains)
  refine leaves_of_cases (fun done tree₁ h ↦ ?_) fun e tree₁ h ↦
    .of_extends (extends_of_fails_buildPage h)
  obtain ⟨html, output, -, -, hwrite⟩ := exists_of_gives_buildPage h
  exact .of_updates (updates_writeOutput hwrite)

theorem retains_noteAsset : (builder.noteAsset result path).Leaves Retains tree := by
  refine leaves_note (leaves_of_cases (fun done tree₁ h ↦ ?_) fun e tree₁ h ↦
    .of_extends (extends_of_fails_copyAsset h))
  rcases cases_of_gives_copyAsset h with ⟨-, rfl, -⟩ | ⟨-, output, -, hcopy⟩
  · exact .refl _
  · obtain ⟨content, -, hupdate⟩ := updates_copyOutput hcopy
    exact .of_updates hupdate

theorem retains_removeOutput : (builder.removeOutput path).Leaves Retains tree := by
  refine leaves_of_cases (fun done tree₁ h ↦ ?_) fun e tree₁ h ↦ ?_
  · rcases cases_of_gives_removeOutput h with ⟨-, rfl, -⟩ | ⟨-, -, output, -, hremove⟩
    · exact .refl _
    · exact .of_updates (updates_removeFile hremove)
  · rw [eq_of_fails_removeOutput h]
    exact .refl _

theorem retains_buildFiles :
    (builder.buildFiles templates renderer files result).Leaves Retains tree := by
  rw [buildFiles_eq_foldlM]
  refine leaves_foldlM accumulates_retains (fun path _ result tree _ ↦ ?_) (.refl tree)
  split_ifs
  · exact retains_notePage
  · exact retains_noteAsset

theorem retains_runTask {task : Task} :
    (builder.runTask templates renderer result task).Leaves Retains tree := by
  cases task with
  | page path =>
    refine leaves_files_bind accumulates_retains ?_
    split_ifs
    · exact retains_notePage
    · exact leaves_pure accumulates_retains
  | asset path => exact retains_noteAsset
  | remove path =>
    refine leaves_bind accumulates_retains retains_removeOutput fun _ _ _ ↦ ?_
    split_ifs
    · exact leaves_pure accumulates_retains
    · exact leaves_pure accumulates_retains
  | directory directory =>
    refine leaves_bind accumulates_retains ?_ fun pages tree₁ _ ↦ ?_
    · rw [Leaves, tree_pagesIn]
      exact .refl tree
    · rw [buildPages_eq_foldlM]
      exact leaves_foldlM accumulates_retains (fun _ _ _ _ _ ↦ retains_notePage) (.refl tree₁)

/-- After a full build the directory of content is where it was. -/
theorem isDirectory_content_of_build (h : builder.build.Gives tree (result, rebuilt) tree₁) :
    tree₁.isDirectory builder.paths.content := by
  obtain ⟨templates, renderer, emptied, files, -, -, -, -, hfiles, hbuild, -⟩ := gives_build.mp h
  exact (retains_buildFiles.of_gives hbuild).isDirectory (isDirectory_of_contentFiles hfiles)

/-- A full build keeps the current directory and leaves the tree in order. -/
theorem current_of_build (hclosed : tree.Closed)
    (h : builder.build.Gives tree (result, rebuilt) tree₁) :
    tree₁.current = tree.current ∧ tree₁.Closed := by
  have hsame := ((alters_build hclosed).of_gives h).toSameOutside
  exact ⟨hsame.current, hsame.closed hclosed⟩

end Builder

end StaticSite
