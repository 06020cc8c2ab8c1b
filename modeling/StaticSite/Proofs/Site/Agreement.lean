import StaticSite.Proofs.Site.FullBuild

/-!
# Agreement of outputs

What a self-contained site has for the output file of a content file is determined by this file, its
metadata and the files outside of the content, if no two content files share an output file. So two
outputs, each as its site wants it, agree wherever the sites do (`Settled.file?_eq`).
-/

namespace StaticSite.Builder

open StaticSite.Path

variable {builder : Builder} {base base' tree tree' : FileTree} {file : ContentName}
  {content content' : Content} {templates : ComposedTemplates} {renderer : Renderer}
  {names : List String}

/-- Whether no two of some content files share an output file. -/
def Apart (builder : Builder) (files : ContentName → Prop) : Prop :=
  ∀ file other, files file → files other →
    builder.outputNames file = builder.outputNames other → file = other

/-- Whether a content file is the same in two file trees, and so is its metadata if it is a page. -/
structure Keeps (builder : Builder) (base base' : FileTree) (file : ContentName) : Prop where
  file? : base'.file? (builder.placeOf base' file) = base.file? (builder.placeOf base file)
  sidecar : builder.IsPageName file →
    base'.file? (builder.placeOf base' (builder.sidecarOf file)) =
      base.file? (builder.placeOf base (builder.sidecarOf file))

theorem Apart.mono {files files' : ContentName → Prop} (h : builder.Apart files)
    (hle : ∀ file, files' file → files file) : builder.Apart files' :=
  fun file other hfile hother ↦ h file other (hle file hfile) (hle other hother)

theorem Keeps.refl (builder : Builder) (base : FileTree) (file : ContentName) :
    builder.Keeps base base file :=
  ⟨rfl, fun _ ↦ rfl⟩

theorem Keeps.wanted_iff (h : builder.Keeps base base' file) :
    builder.Wanted base' file ↔ builder.Wanted base file := by
  constructor
  · exact fun hwanted ↦ ⟨h.file? ▸ hwanted.isSome, hwanted.not_hidden, hwanted.not_sidecar⟩
  · exact fun hwanted ↦ ⟨h.file? ▸ hwanted.isSome, hwanted.not_hidden, hwanted.not_sidecar⟩

/-- The site that a build relies on, and a revision of it. -/
structure Revision (builder : Builder) (base base' : FileTree) : Prop where
  before : builder.Grounded base
  after : builder.Grounded base'
  revises : builder.Revises base base'
  selfContained : builder.SelfContained base
  selfContained' : builder.SelfContained base'

section Agreement

variable (h : builder.Revision base base') (hmetadata : builder.MetadataApart)

include h hmetadata

/-- An unchanged content file has the same output file before and after a revision. -/
theorem Made.unique (hwanted : builder.Wanted base file) (hkeeps : builder.Keeps base base' file)
    (hmade : builder.Made base templates renderer file content)
    (hmade' : builder.Made base' templates renderer file content') : content = content' := by
  by_cases hpage : builder.IsPageName file
  · rw [Made, if_pos hpage] at hmade hmade'
    obtain ⟨tree, page, html, hstage, hpath, hhtml, rfl⟩ := hmade
    obtain ⟨tree', page', html', hstage', hpath', hhtml', rfl⟩ := hmade'
    have hkeepsPage : builder.KeepsPage base base' file :=
      ⟨hpage, ContentName.not_isHiddenName hwanted.not_hidden, hwanted.isSome, hkeeps.file?,
        hkeeps.sidecar hpage⟩
    rw [pageHtml_unique h.before h.after h.revises h.selfContained h.selfContained' hmetadata.isName
      hstage hstage' hpath hpath' hkeepsPage hhtml hhtml']
  · rw [Made, if_neg hpage] at hmade hmade'
    rw [hkeeps.file?, hmade] at hmade'
    exact Option.some.inj hmade'

/-- Two outputs, each as its site wants it, agree where the sites do. -/
theorem Settled.file?_eq
    (hapart : builder.Apart fun file ↦ builder.Wanted base file ∨ builder.Wanted base' file)
    (hkeeps : ∀ file, builder.outputNames file = names →
      builder.Wanted base file ∨ builder.Wanted base' file → builder.Keeps base base' file)
    (hsettled : builder.Settled base templates renderer tree names)
    (hsettled' : builder.Settled base' templates renderer tree' names) :
    tree'.file? (builder.outputPlace base' ++ names) =
      tree.file? (builder.outputPlace base ++ names) := by
  cases hcontent : tree.file? (builder.outputPlace base ++ names) with
  | some content =>
    obtain ⟨file, hwanted, hnames, hmade⟩ := hsettled.belongs content hcontent
    have hkeep := hkeeps file hnames (Or.inl hwanted)
    obtain ⟨content', hcontent'⟩ := Option.isSome_iff_exists.mp
      (hsettled'.isSome file (hkeep.wanted_iff.mpr hwanted) hnames)
    obtain ⟨other, hother, hnames', hmade'⟩ := hsettled'.belongs content' hcontent'
    obtain rfl := hapart file other (Or.inl hwanted) (Or.inr hother) (hnames.trans hnames'.symm)
    rw [hcontent', Made.unique h hmetadata hwanted hkeep hmade hmade']
  | none =>
    by_contra hsome
    obtain ⟨content', hcontent'⟩ := Option.ne_none_iff_exists'.mp hsome
    obtain ⟨file, hwanted, hnames, -⟩ := hsettled'.belongs content' hcontent'
    have hkeep := hkeeps file hnames (Or.inr hwanted)
    simpa [hcontent] using hsettled.isSome file (hkeep.wanted_iff.mp hwanted) hnames

end Agreement

end StaticSite.Builder
