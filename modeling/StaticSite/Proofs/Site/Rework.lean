import StaticSite.Proofs.Site.Frame

/-!
# What rebuilds leave at a place

Work on output files makes the directories above them. Where the output path has no `..` behind a
name, these lie above the output directory, or in it on the way to the output files (`Adds`). So a
rebuild that makes nothing at a place of the output directory, or below it, leaves what is there, or
has deleted a file there (`Reworks.get?_cases`). What it is told to remove is gone afterwards, and was
no directory (`get?_of_mem_remove`).
-/

namespace StaticSite

open StaticSite.Path

namespace FileTree

variable {tree tree₁ tree₂ : FileTree} {place target : Place} {content : Option Content}
  {makes : List String → Prop}

/-- Whether a tree has become another one with new directories only above a directory, and in it on
the way to what some names lead to. -/
structure Adds (place : Place) (makes : List String → Prop) (tree tree₁ : FileTree) : Prop where
  current : tree₁.current = tree.current
  keeps : ∀ other, tree.get? other = some .directory → tree₁.get? other = some .directory
  added : ∀ other, tree₁.get? other = some .directory → tree.get? other = some .directory ∨
    other <+: place ∨ ∃ names made, other = place ++ names ∧ names <+: made ∧ makes made

namespace Adds

theorem refl : Adds place makes tree tree := ⟨rfl, fun _ ↦ id, fun _ ↦ Or.inl⟩

theorem trans (h : Adds place makes tree tree₁) (h₁ : Adds place makes tree₁ tree₂) :
    Adds place makes tree tree₂ where
  current := h₁.current.trans h.current
  keeps other hother := h₁.keeps other (h.keeps other hother)
  added other hother := (h₁.added other hother).elim (h.added other) Or.inr

/-- A change to one file adds no directory. -/
theorem of_updates (h : tree.Updates target content tree₁)
    (hadded : ∀ other, tree₁.get? other = some .directory → tree.get? other = some .directory) :
    Adds place makes tree tree₁ :=
  ⟨h.current, h.directory, fun other hother ↦ Or.inl (hadded other hother)⟩

end Adds

end FileTree

namespace Builder

open Build FileTree

variable {builder rebuilt : Builder} {site after tree tree₁ tree₂ : FileTree} {place : Place}
  {file : ContentName} {path output : Path} {front : List Component} {names : List String}
  {task : Task} {tasks todo : List Task} {templates : ComposedTemplates} {renderer : Renderer}
  {result result₁ : BuildResult} {makes : List String → Prop} {done : Bool}

/-! ## The way to an output file -/

/-- The way to an output file leads through directories that are there, then to the output directory,
and then down from there. -/
theorem placeFrom_cases (htree : tree.WellFormed) (hdirect : builder.paths.output.Direct)
    (hfront : front <+: builder.paths.output.components ++ names.map .normal) :
    tree.get? (placeFrom tree.current front) = some .directory ∨
      placeFrom tree.current front <+: builder.outputPlace tree ∨
      ∃ more ≠ [], more <+: names ∧
        placeFrom tree.current front = builder.outputPlace tree ++ more := by
  obtain ⟨lead, outs, houtput, hlead⟩ := hdirect
  have hplace : builder.outputPlace tree = placeFrom tree.current lead ++ outs := by
    rw [outputPlace, FileTree.placeOf, houtput, placeFrom_append_names]
  rw [houtput, List.append_assoc, ← List.map_append] at hfront
  rcases List.prefix_or_prefix_of_prefix hfront (List.prefix_append lead _) with hup | ⟨rest, rfl⟩
  · -- Going up from the current directory one stays in directories that are there.
    exact Or.inl (directory_of_isPrefix htree.toClosed htree.current
      (placeFrom_isPrefix fun name hmem ↦ hlead name (hup.subset hmem)))
  rw [List.prefix_append_right_inj, List.prefix_map_iff] at hfront
  obtain ⟨down, hdown, rfl⟩ := hfront
  rw [placeFrom_append_names, hplace]
  rcases List.prefix_or_prefix_of_prefix hdown (List.prefix_append outs names) with hle | ⟨more, rfl⟩
  · exact Or.inr (Or.inl ((List.prefix_append_right_inj _).mpr hle))
  rcases eq_or_ne more [] with rfl | hmore
  · exact Or.inr (Or.inl (by rw [List.append_nil]))
  · exact Or.inr (Or.inr ⟨more, hmore, (List.prefix_append_right_inj _).mp hdown,
      (List.append_assoc ..).symm⟩)

/-- The directory of an output file lies on the way to it. -/
private theorem exists_names_of_output (hcontent : builder.paths.content.text ≠ "")
    (houtput : builder.paths.output.text ≠ "") (hbelow : builder.Below path)
    (hpath : builder.outputPath? path = some output) :
    ∃ names, (∀ directory, output.parent? = some directory →
        directory.components <+: builder.paths.output.components ++ names.map .normal) ∧
      (names ≠ [] → ∃ file, builder.LeadsTo path file ∧ names <+: builder.outputNames file) := by
  rcases output_cases hcontent houtput hbelow hpath with hself | ⟨file, hfile, hown | ⟨-, hup⟩⟩
  · refine ⟨[], fun directory hparent ↦ ?_, by simp⟩
    rw [List.map_nil, List.append_nil, ← hself]
    exact components_parent?_isPrefix hparent
  · refine ⟨builder.outputNames file, fun directory hparent ↦ ?_,
      fun _ ↦ ⟨file, hfile, List.prefix_refl _⟩⟩
    rw [← hown]
    exact components_parent?_isPrefix hparent
  · refine ⟨file.directory, fun directory hparent ↦ ?_,
      fun _ ↦ ⟨file, hfile, List.prefix_append _ _⟩⟩
    obtain ⟨found, hfound, hcomponents⟩ := exists_parent? hup (by simp)
    obtain rfl := Option.some.inj (hparent.symm.trans hfound)
    rw [hcomponents]

theorem accumulates_adds : Accumulates (Adds place makes) := ⟨fun _ ↦ .refl, .trans⟩

private theorem leaves_outputPath_bind {α : Type} {related : FileTree → FileTree → Prop}
    (hrelated : Accumulates related) {next : Path → Build α}
    (hnext : ∀ output, builder.outputPath? path = some output → (next output).Leaves related tree) :
    (builder.outputPath path >>= next).Leaves related tree := by
  refine leaves_bind hrelated ?_ fun output tree₁ h ↦ ?_
  · refine leaves_of_cases (fun _ _ h ↦ ?_) fun _ _ h ↦ ?_
    · exact (gives_outputPath.mp h).2 ▸ hrelated.refl tree
    · exact eq_of_fails_outputPath h ▸ hrelated.refl tree
  · obtain ⟨hpath, rfl⟩ := gives_outputPath.mp h
    exact hnext output hpath

section Steps

variable (htree : tree.WellFormed) (hdirect : builder.paths.output.Direct)

include htree hdirect

private theorem adds_ensureParent
    (hnames : ∀ directory, output.parent? = some directory →
      directory.components <+: builder.paths.output.components ++ names.map .normal)
    (hmakes : names ≠ [] → ∃ made, names <+: made ∧ makes made) :
    (ensureParent output).Leaves (Adds (builder.outputPlace tree) makes) tree := by
  rw [ensureParent]
  split
  · next directory hparent =>
    have hadds {fault : Option FileFault} {tree₁ : FileTree}
        (hensure : tree.ensureDirectory directory = (tree₁, fault)) :
        Adds (builder.outputPlace tree) makes tree tree₁ := by
      have hextends := extends_ensureDirectory hensure
      refine ⟨hextends.current, hextends.directory, fun other hother ↦ ?_⟩
      rcases directory_of_ensureDirectory hensure hother with hold | ⟨front, hfront, rfl⟩
      · exact Or.inl hold
      refine (placeFrom_cases htree hdirect (hfront.trans (hnames _ hparent))).imp_right
        (Or.imp_right ?_)
      rintro ⟨more, hnil, hmore, hsame⟩
      obtain ⟨made, hmade, hmakes⟩ := hmakes fun hempty ↦ hnil (by simpa [hempty] using hmore)
      exact ⟨more, made, hsame, hmore.trans hmade, hmakes⟩
    refine leaves_of_cases (fun _ _ h ↦ hadds (gives_ensureDirectory.mp h)) fun _ _ h ↦ ?_
    obtain ⟨fault, hensure, -⟩ := fails_ensureDirectory.mp h
    exact hadds hensure
  · exact leaves_pure accumulates_adds

variable (hcontent : builder.paths.content.text ≠ "") (houtput : builder.paths.output.text ≠ "")
  (hbelow : builder.Below path)

include hcontent houtput hbelow

/-- An operation in the directory of an output file adds this directory and those above it, if it adds
none itself. -/
private theorem adds_inParent {asError : FileFault → BuildError}
    {operation : FileTree → Except FileFault FileTree}
    (hpath : builder.outputPath? path = some output)
    (hmakes : ∀ file, builder.LeadsTo path file → makes (builder.outputNames file))
    (hoperation : ∀ tree₁ tree₂, operation tree₁ = .ok tree₂ →
      Adds (builder.outputPlace tree) makes tree₁ tree₂) :
    (ensureParent output >>= fun _ ↦ change asError operation).Leaves
      (Adds (builder.outputPlace tree) makes) tree := by
  obtain ⟨names, hnames, hmade⟩ := exists_names_of_output hcontent houtput hbelow hpath
  refine leaves_bind accumulates_adds (adds_ensureParent htree hdirect hnames fun hnil ↦ ?_)
    fun _ tree₁ _ ↦ leaves_of_cases (fun _ tree₂ h ↦ hoperation _ _ (gives_change.mp h)) fun _ _ h ↦ ?_
  · obtain ⟨file, hfile, hle⟩ := hmade hnil
    exact ⟨_, hle, hmakes file hfile⟩
  · obtain ⟨-, -, -, rfl⟩ := fails_change.mp h
    exact .refl

theorem adds_buildPage (hmakes : ∀ file, builder.LeadsTo path file →
      (tree.file? (builder.placeOf tree file)).isSome → makes (builder.outputNames file)) :
    (builder.buildPage templates renderer path).Leaves (Adds (builder.outputPlace tree) makes) tree := by
  refine leaves_files_bind accumulates_adds ?_
  split
  · exact leaves_fail accumulates_adds
  next html hhtml =>
  obtain ⟨text, -, -, htext, -⟩ := exists_of_pageHtml hhtml
  refine leaves_outputPath_bind accumulates_adds fun output hpath ↦
    adds_inParent htree hdirect hcontent houtput hbelow hpath (fun file hfile ↦ hmakes file hfile ?_)
      fun _ _ h ↦ .of_updates (updates_write h) fun _ ↦ directory_of_write h
  rw [← hfile.placeOf_eq, file?_of_read (readText_eq_ok_iff.mp htext)]
  rfl

theorem adds_copyAsset (hmakes : ∀ file, builder.LeadsTo path file →
      (tree.get? (builder.placeOf tree file)).isSome → makes (builder.outputNames file)) :
    (builder.copyAsset path).Leaves (Adds (builder.outputPlace tree) makes) tree := by
  refine leaves_files_bind accumulates_adds ?_
  split_ifs with hnone
  · exact leaves_pure accumulates_adds
  obtain ⟨-, hentry⟩ : builder.isSidecar path = false ∧ tree.hasEntry path = true := by
    simpa using hnone
  refine leaves_outputPath_bind accumulates_adds fun output hpath ↦
    leaves_bind accumulates_adds ?_ fun _ _ _ ↦ leaves_pure accumulates_adds
  refine adds_inParent htree hdirect hcontent houtput hbelow hpath (fun file hfile ↦ hmakes file hfile ?_)
    fun tree₁ tree₂ h ↦ ?_
  · rw [← hfile.placeOf_eq]
    exact isSome_get?_of_hasEntry hentry
  · obtain ⟨content, -, hwrite⟩ := exists_write_of_copy h
    exact .of_updates (updates_write hwrite) fun _ ↦ directory_of_write hwrite

omit htree hdirect hcontent houtput hbelow in
theorem adds_removeOutput : (builder.removeOutput path).Leaves (Adds place makes) tree := by
  refine leaves_of_cases (fun _ _ h ↦ ?_) fun _ _ h ↦ ?_
  · rcases cases_of_gives_removeOutput h with ⟨-, rfl, -⟩ | ⟨-, -, output, -, hremove⟩
    · exact .refl
    · refine .of_updates (updates_removeFile hremove) fun other hother ↦ ?_
      rw [get?_of_removeFile hremove] at hother
      split_ifs at hother
      exact hother
  · exact eq_of_fails_removeOutput h ▸ .refl

end Steps

/-! ## Rebuilds -/

/-- Whether a rebuild with tasks on a site may have turned a tree into another one. -/
structure Reworks (builder : Builder) (site : FileTree) (tasks : List Task) (tree tree₁ : FileTree) :
    Prop where
  alters : Alters (builder.outputPlace site) (fun names ↦ ∃ task ∈ tasks, builder.Makes site names task)
    (fun names ↦ ∃ task ∈ tasks, builder.Drops names task) tree tree₁
  adds : Adds (builder.outputPlace site) (fun names ↦ ∃ task ∈ tasks, builder.Makes site names task)
    tree tree₁

theorem accumulates_reworks : Accumulates (builder.Reworks site tasks) where
  refl tree := ⟨accumulates_alters.refl tree, .refl⟩
  trans h h₁ := ⟨h.alters.trans h₁.alters, h.adds.trans h₁.adds⟩

namespace Reworks

/-- Where nothing is made, neither there nor below, all stays, or a file is deleted. -/
theorem get?_cases (h : builder.Reworks site tasks tree tree₁) (hnames : names ≠ [])
    (hmakes : ∀ task ∈ tasks, ∀ made, builder.Makes site made task → ¬ names <+: made) :
    tree₁.get? (builder.outputPlace site ++ names) = tree.get? (builder.outputPlace site ++ names) ∨
      (∃ task ∈ tasks, builder.Drops names task) ∧
        tree₁.get? (builder.outputPlace site ++ names) = none := by
  have hdirectory : tree₁.get? (builder.outputPlace site ++ names) = some .directory ↔
      tree.get? (builder.outputPlace site ++ names) = some .directory := by
    refine ⟨fun hnew ↦ ?_, h.adds.keeps _⟩
    rcases h.adds.added _ hnew with hold | habove | ⟨more, made, hsame, hle, task, hmem, hmade⟩
    · exact hold
    · exact absurd (by simpa using habove.length_le) (mt List.length_eq_zero_iff.mp hnames)
    · rw [List.append_cancel_left_eq] at hsame
      exact absurd (hsame ▸ hle) (hmakes task hmem made hmade)
  rcases h.alters.below names hnames with hsame | ⟨⟨task, hmem, hmade⟩, -⟩ | ⟨hdrops, hnone⟩
  · exact Or.inl (get?_eq_of_file? hsame hdirectory)
  · exact absurd (List.prefix_refl _) (hmakes task hmem names hmade)
  · by_cases hnew : tree₁.get? (builder.outputPlace site ++ names) = some .directory
    · exact Or.inl (hnew.trans (hdirectory.mp hnew).symm)
    · exact Or.inr ⟨hdrops, get?_eq_none_of_file? hnone hnew⟩

theorem wellFormed (h : builder.Reworks site tasks site tree) (hsite : site.WellFormed) :
    tree.WellFormed where
  toClosed := h.alters.closed hsite.toClosed
  current := by
    rw [h.adds.current]
    exact h.adds.keeps _ hsite.current

/-- The content stays as it is. -/
theorem get?_placeOf (h : builder.Reworks site tasks site tree) (hseparate : builder.Separate site)
    (file : ContentName) :
    tree.get? (builder.placeOf tree file) = site.get? (builder.placeOf site file) := by
  have hfile := hseparate.file?_placeOf h.alters.toSameOutside file
  rw [placeOf_file_congr h.adds.current] at hfile ⊢
  refine get?_eq_of_file? hfile ⟨fun hnew ↦ ?_, h.adds.keeps _⟩
  rcases h.adds.added _ hnew with hold | habove | ⟨names, -, hsame, -⟩
  · exact hold
  · exact absurd ((List.prefix_append _ _).trans habove) hseparate.content_notPrefix
  · exact absurd (hsame ▸ List.prefix_append _ _) (hseparate.outside file)

end Reworks

section Tasks

variable (hseparate : builder.Separate site) (hsite : site.WellFormed)
  (hdirect : builder.paths.output.Direct) (hbelow : ∀ task ∈ tasks, builder.StaysBelow task)

include hseparate hsite hdirect hbelow

theorem reworks_notePage (h : builder.Reworks site tasks site tree) (hvisits : builder.Visits tasks path) :
    (builder.notePage templates renderer result path).Leaves (builder.Reworks site tasks) tree := by
  have hmakes (file : ContentName) (hfile : builder.LeadsTo path file)
      (hsome : (site.file? (builder.placeOf site file)).isSome) :
      ∃ task ∈ tasks, builder.Makes site (builder.outputNames file) task := hvisits.makes hfile hsome
  have hplace : builder.outputPlace tree = builder.outputPlace site := placeOf_congr h.adds.current
  refine .mk (alters_notePage hseparate hsite.toClosed h.alters.toSameOutside (hvisits.below hbelow)
    hmakes) (leaves_note (leaves_bind accumulates_adds ?_ fun _ _ _ ↦ leaves_pure accumulates_adds))
  rw [← hplace]
  refine adds_buildPage (h.wellFormed hsite) hdirect hseparate.contentText hseparate.outputText
    (hvisits.below hbelow) fun file hfile hsome ↦ hmakes file hfile ?_
  rwa [hseparate.file?_placeOf h.alters.toSameOutside] at hsome

theorem reworks_noteAsset (h : builder.Reworks site tasks site tree) (hmem : .asset path ∈ tasks) :
    (builder.noteAsset result path).Leaves (builder.Reworks site tasks) tree := by
  have hmakes (file : ContentName) (hfile : builder.LeadsTo path file)
      (hsome : (site.get? (builder.placeOf site file)).isSome) :
      ∃ task ∈ tasks, builder.Makes site (builder.outputNames file) task :=
    ⟨_, hmem, file, hfile, hsome, rfl⟩
  have hplace : builder.outputPlace tree = builder.outputPlace site := placeOf_congr h.adds.current
  refine .mk (alters_noteAsset hseparate hsite.toClosed h.alters.toSameOutside (hbelow _ hmem)
    fun file hfile hsome ↦ hmakes file hfile (isSome_get?_of_file? hsome)) (leaves_note ?_)
  rw [← hplace]
  refine adds_copyAsset (h.wellFormed hsite) hdirect hseparate.contentText hseparate.outputText
    (hbelow _ hmem) fun file hfile hsome ↦ hmakes file hfile ?_
  rwa [h.get?_placeOf hseparate] at hsome

omit hsite hdirect in
theorem reworks_removeOutput (h : builder.Reworks site tasks site tree) (hmem : .remove path ∈ tasks) :
    (builder.removeOutput path).Leaves (builder.Reworks site tasks) tree :=
  .mk (alters_removeTask hseparate h.alters.toSameOutside (hbelow _ hmem) hmem) adds_removeOutput

theorem reworks_runTask (h : builder.Reworks site tasks site tree) (hmem : task ∈ tasks) :
    (builder.runTask templates renderer result task).Leaves (builder.Reworks site tasks) tree :=
  leaves_runTask accumulates_reworks (fun h ↦ (h.wellFormed hsite).toClosed)
    (fun _ _ _ hvisits _ _ h ↦ reworks_notePage hseparate hsite hdirect hbelow h hvisits)
    (fun _ hmem _ _ h ↦ reworks_noteAsset hseparate hsite hdirect hbelow h hmem)
    (fun _ hmem _ h ↦ reworks_removeOutput hseparate hbelow h hmem) hmem h

/-- Some tasks of a rebuild rework a tree together. -/
theorem reworks_runTasks (h : builder.Reworks site tasks site tree) (hsub : todo ⊆ tasks) :
    (builder.runTasks templates renderer todo result).Leaves (builder.Reworks site tasks) tree := by
  rw [runTasks_eq_foldlM]
  exact leaves_foldlM accumulates_reworks (fun task hmem result tree h ↦
    reworks_runTask hseparate hsite hdirect hbelow h (hsub hmem)) h

end Tasks

/-! ## Removals -/

section Removals

variable (hclosed : tree.Closed) (hdirect : builder.paths.output.Direct)
  (houtput : builder.paths.output.text ≠ "") (hfile : builder.LeadsTo path file)
  (hstem : HasStem file.name)

include hclosed hdirect houtput hfile hstem

/-- The output path of a content file leads to what lies at its place. -/
private theorem exists_output_hasEntry_iff :
    ∃ output, builder.outputPath? path = some output ∧
      tree.placeOf output = builder.outputPlaceOf tree file ∧
      (tree.hasEntry output ↔ (tree.get? (builder.outputPlaceOf tree file)).isSome) := by
  obtain ⟨output, hpath, hisFile, hcomponents⟩ := hfile.exists_outputPath? houtput hstem
  obtain ⟨lead, outs, houts, hlead⟩ := hdirect
  have hplace : tree.placeOf output = builder.outputPlaceOf tree file :=
    FileTree.placeOf_of_components hcomponents
  have hsplit : output.components = lead ++ (outs ++ builder.outputNames file).map .normal := by
    rw [hcomponents, houts, List.map_append, List.append_assoc]
  exact ⟨output, hpath, hplace, hplace ▸ hclosed.hasEntry_iff hisFile hsplit hlead⟩

variable (hsidecar : ¬ builder.IsSidecarName file)

include hsidecar

/-- After a removal that succeeds nothing is left. -/
theorem get?_of_removeOutput (hgives : (builder.removeOutput path).Gives tree done tree₁) :
    tree₁.get? (builder.outputPlaceOf tree file) = none := by
  obtain ⟨output, hpath, hplace, hentry⟩ :=
    exists_output_hasEntry_iff hclosed hdirect houtput hfile hstem
  rcases cases_of_gives_removeOutput hgives with ⟨-, rfl, hnone⟩ | ⟨-, -, found, hfound, hremove⟩
  · obtain ⟨found, hfound, hnone⟩ := hnone.resolve_left (mt hfile.isSidecar_iff.mp hsidecar)
    obtain rfl := Option.some.inj (hpath.symm.trans hfound)
    simpa using mt hentry.mpr hnone
  · obtain rfl := Option.some.inj (hpath.symm.trans hfound)
    rw [get?_of_removeFile hremove, if_pos hplace.symm]

/-- A removal succeeds where the output is no directory. -/
theorem exists_gives_removeOutput
    (hnot : tree.get? (builder.outputPlaceOf tree file) ≠ some .directory) :
    ∃ done tree₁, (builder.removeOutput path).Gives tree done tree₁ := by
  obtain ⟨output, hpath, hplace, hentry⟩ :=
    exists_output_hasEntry_iff hclosed hdirect houtput hfile hstem
  rw [removeOutput, if_neg (mt hfile.isSidecar_iff.mp hsidecar)]
  by_cases hthere : tree.hasEntry output
  · obtain ⟨tree₁, hremove⟩ := exists_removeFile hthere (hplace ▸ hnot)
    refine ⟨true, tree₁, gives_bind.mpr ⟨output, tree, gives_outputPath.mpr ⟨hpath, rfl⟩,
      gives_bind.mpr ⟨tree, tree, gives_files.mpr ⟨rfl, rfl⟩, ?_⟩⟩⟩
    rw [if_pos hthere]
    exact gives_bind.mpr ⟨(), tree₁, gives_change.mpr hremove, gives_pure.mpr ⟨rfl, rfl⟩⟩
  · refine ⟨false, tree, gives_bind.mpr ⟨output, tree, gives_outputPath.mpr ⟨hpath, rfl⟩,
      gives_bind.mpr ⟨tree, tree, gives_files.mpr ⟨rfl, rfl⟩, ?_⟩⟩⟩
    rw [if_neg hthere]
    exact gives_pure.mpr ⟨rfl, rfl⟩

end Removals

/-- After tasks that succeed nothing is left of an output that one of them removes, if none makes
anything there or below, and there was no directory before. -/
theorem get?_of_mem_remove (hseparate : builder.Separate site) (hsite : site.WellFormed)
    (hdirect : builder.paths.output.Direct) (hbelow : ∀ task ∈ tasks, builder.StaysBelow task)
    (hmem : .remove path ∈ tasks) (hfile : builder.LeadsTo path file)
    (hsidecar : ¬ builder.IsSidecarName file)
    (hmakes : ∀ task ∈ tasks, ∀ made, builder.Makes site made task →
      ¬ builder.outputNames file <+: made)
    (hgives : (builder.runTasks templates renderer tasks result).Gives site result₁ after) :
    site.get? (builder.outputPlaceOf site file) ≠ some .directory ∧
      after.get? (builder.outputPlaceOf site file) = none := by
  obtain ⟨before, rest, hsplit⟩ := List.append_of_mem hmem
  have hfirst : before ⊆ tasks := hsplit ▸ List.subset_append_left _ _
  have hlast : rest ⊆ tasks := fun task htask ↦ by simp [hsplit, htask]
  rw [runTasks_eq_foldlM, hsplit, List.foldlM_append] at hgives
  obtain ⟨result₂, tree₂, hbefore, hrest⟩ := gives_bind.mp hgives
  rw [List.foldlM_cons] at hrest
  obtain ⟨result₃, tree₃, hremove, hrest⟩ := gives_bind.mp hrest
  rw [← runTasks_eq_foldlM] at hbefore hrest
  obtain ⟨done, hremove, -⟩ := exists_of_gives_remove hremove
  have h₂ : builder.Reworks site tasks site tree₂ :=
    (reworks_runTasks hseparate hsite hdirect hbelow (accumulates_reworks.refl site)
      hfirst).of_gives hbefore
  have h₃ : builder.Reworks site tasks tree₂ tree₃ :=
    (reworks_removeOutput hseparate hbelow h₂ hmem).of_gives hremove
  have h₄ : builder.Reworks site tasks tree₃ after :=
    (reworks_runTasks hseparate hsite hdirect hbelow (accumulates_reworks.trans h₂ h₃)
      hlast).of_gives hrest
  have hgone := get?_of_removeOutput (h₂.wellFormed hsite).toClosed hdirect hseparate.outputText hfile
    ((hbelow _ hmem).hasStem hfile) hsidecar hremove
  rw [outputPlaceOf_congr h₂.adds.current] at hgone
  refine ⟨fun hdirectory ↦ ?_, ?_⟩
  · have hstays := h₃.adds.keeps _ (h₂.adds.keeps _ hdirectory)
    simp [hgone] at hstays
  · have hnames : builder.outputNames file ≠ [] := by simp [outputNames]
    exact (h₄.get?_cases hnames hmakes).elim (·.trans hgone) And.right

end Builder

end StaticSite
