import StaticSite.Proofs.Site.Rebuild

/-!
# What builds may change

Work alters a directory if all files elsewhere stay as they are and those below it are new ones under
some names or gone from under others (`Alters`), however the work ends. A full build alters the output
directory, and writes there what content files have for output that are not hidden (`alters_build`). A
rebuild that works on single files writes and deletes what its tasks say (`alters_rebuild`), as long as
the files do not lie above the directory of content.
-/

namespace StaticSite

open StaticSite.Path

namespace FileTree

variable {tree tree₁ tree₂ : FileTree} {place target : Place} {content : Option Content} {path : Path}
  {names : List String} {writes removes writes' removes' : List String → Prop}

/-- Whether a tree has become another one that has the same files outside of a directory. -/
structure SameOutside (place : Place) (tree tree₁ : FileTree) : Prop where
  current : tree₁.current = tree.current
  closed : tree.Closed → tree₁.Closed
  file? : ∀ other, ¬ place <+: other → tree₁.file? other = tree.file? other

namespace SameOutside

theorem refl : SameOutside place tree tree := ⟨rfl, id, fun _ _ ↦ rfl⟩

theorem trans (h : SameOutside place tree tree₁) (h₁ : SameOutside place tree₁ tree₂) :
    SameOutside place tree tree₂ where
  current := h₁.current.trans h.current
  closed := h₁.closed ∘ h.closed
  file? other hother := (h₁.file? other hother).trans (h.file? other hother)

theorem of_extends (h : tree.Extends tree₁) : SameOutside place tree tree₁ :=
  ⟨h.current, h.closed, fun other _ ↦ h.file? other⟩

theorem of_updates (h : tree.Updates target content tree₁) (htarget : place <+: target) :
    SameOutside place tree tree₁ := by
  refine ⟨h.current, h.closed, fun other hother ↦ ?_⟩
  rw [h.file?, if_neg]
  rintro rfl
  exact hother htarget

theorem of_emptyDirectory (h : tree.emptyDirectory path = .ok tree₁) :
    SameOutside (tree.placeOf path) tree tree₁ := by
  obtain ⟨hcurrent, -, hget⟩ := get?_of_emptyDirectory h
  refine ⟨hcurrent, fun hclosed ↦ hclosed.emptyDirectory h, fun other hother ↦ ?_⟩
  rw [FileTree.file?, FileTree.file?, hget, if_neg]
  rw [isBelow_iff]
  exact fun hbelow ↦ hother hbelow.1

end SameOutside

/-- Whether a tree has become another one that has the same files outside of a directory, and below it
new ones under some names and none any more under others. -/
structure Alters (place : Place) (writes removes : List String → Prop) (tree tree₁ : FileTree) : Prop
    extends SameOutside place tree tree₁ where
  below : ∀ names ≠ [], tree₁.file? (place ++ names) = tree.file? (place ++ names) ∨
    writes names ∧ (tree₁.file? (place ++ names)).isSome ∨
      removes names ∧ tree₁.file? (place ++ names) = none

namespace Alters

theorem of_extends (h : tree.Extends tree₁) : Alters place writes removes tree tree₁ :=
  ⟨.of_extends h, fun _ _ ↦ Or.inl (h.file? _)⟩

theorem trans (h : Alters place writes removes tree tree₁)
    (h₁ : Alters place writes removes tree₁ tree₂) : Alters place writes removes tree tree₂ := by
  refine ⟨h.toSameOutside.trans h₁.toSameOutside, fun names hnames ↦ ?_⟩
  rcases h₁.below names hnames with hsame | hchanged
  · rw [hsame]
    exact h.below names hnames
  · exact Or.inr hchanged

theorem mono (h : Alters place writes removes tree tree₁)
    (hwrites : ∀ names, writes names → writes' names)
    (hremoves : ∀ names, removes names → removes' names) :
    Alters place writes' removes' tree tree₁ :=
  ⟨h.toSameOutside, fun names hnames ↦ (h.below names hnames).imp_right fun hchanged ↦
    hchanged.imp (And.imp_left (hwrites names)) (And.imp_left (hremoves names))⟩

/-- A change to one file. -/
theorem of_updates (h : tree.Updates (place ++ names) content tree₁)
    (hwrites : names ≠ [] → content.isSome → writes names)
    (hremoves : names ≠ [] → content = none → removes names) :
    Alters place writes removes tree tree₁ := by
  refine ⟨.of_updates h (List.prefix_append _ _), fun other hother ↦ ?_⟩
  rw [h.file?]
  split_ifs with hsame
  · obtain rfl := List.append_cancel_left hsame
    cases content with
    | none => exact Or.inr (Or.inr ⟨hremoves hother rfl, rfl⟩)
    | some content => exact Or.inr (Or.inl ⟨hwrites hother rfl, rfl⟩)
  · exact Or.inl rfl

theorem of_emptyDirectory (h : tree.emptyDirectory path = .ok tree₁) (hremoves : ∀ names, removes names) :
    Alters (tree.placeOf path) writes removes tree tree₁ := by
  refine ⟨.of_emptyDirectory h, fun names hnames ↦ Or.inr (Or.inr ⟨hremoves names, ?_⟩)⟩
  obtain ⟨-, -, hget⟩ := get?_of_emptyDirectory h
  rw [FileTree.file?, hget, if_pos]
  rw [isBelow_iff]
  exact ⟨List.prefix_append _ _, by simpa using hnames⟩

end Alters

end FileTree

namespace Build

open FileTree

variable {α β : Type} {work : Build α} {next : α → Build β} {tree tree₁ : FileTree} {place : Place}
  {path source : Path} {related : FileTree → FileTree → Prop} {result : BuildResult}

/-- Whether a relation between trees leads on from one to the next. -/
structure Accumulates (related : FileTree → FileTree → Prop) : Prop where
  refl : ∀ tree, related tree tree
  trans : ∀ {tree tree₁ tree₂}, related tree tree₁ → related tree₁ tree₂ → related tree tree₂

theorem accumulates_alters {writes removes : List String → Prop} :
    Accumulates (Alters place writes removes) :=
  ⟨fun tree ↦ .of_extends (.refl tree), .trans⟩

/-- Whether work on a tree, however it ends, leaves a tree that is in a relation to it. -/
def Leaves (work : Build α) (related : FileTree → FileTree → Prop) (tree : FileTree) : Prop :=
  related tree (work tree).2

/-- Whether work on a tree, however it ends, leaves the same files outside of a directory. -/
def Within (work : Build α) (place : Place) (tree : FileTree) : Prop :=
  SameOutside place tree (work tree).2

theorem Leaves.within {writes removes : List String → Prop}
    (h : work.Leaves (Alters place writes removes) tree) : work.Within place tree :=
  h.toSameOutside

theorem Leaves.of_gives (h : work.Leaves related tree) {a : α} (hgives : work.Gives tree a tree₁) :
    related tree tree₁ :=
  (gives_iff.mp hgives).2 ▸ h

theorem leaves_of_cases (hgives : ∀ a tree₁, work.Gives tree a tree₁ → related tree tree₁)
    (hfails : ∀ e tree₁, work.Fails tree e tree₁ → related tree tree₁) :
    work.Leaves related tree := by
  rw [Leaves]
  cases hwork : work tree with
  | mk found tree₁ =>
    cases found with
    | error e => exact hfails e tree₁ hwork
    | ok a => exact hgives a tree₁ hwork

/-- What is noted of work on a file has no effect. -/
theorem leaves_note {work : Build Bool} {count : BuildResult → BuildResult}
    (h : work.Leaves related tree) : (Builder.note result path work count).Leaves related tree := by
  have hsame : (Builder.note result path work count tree).2 = (work tree).2 := by
    rw [Builder.note, run_bind, attempt]
    cases work tree with
    | mk found tree₁ =>
      rcases found with e | _ | _
      · simp only
        split_ifs <;> rfl
      · rfl
      · rfl
  rw [Leaves, hsame]
  exact h

section Steps

variable (hrelated : Accumulates related)

include hrelated

theorem leaves_pure {a : α} : (pure a : Build α).Leaves related tree :=
  hrelated.refl tree

theorem leaves_fail {e : BuildError} : (fail e : Build α).Leaves related tree :=
  hrelated.refl tree

theorem leaves_bind (h : work.Leaves related tree)
    (hnext : ∀ a tree₁, work.Gives tree a tree₁ → (next a).Leaves related tree₁) :
    (work >>= next).Leaves related tree := by
  rw [Leaves, run_bind]
  rw [Leaves] at h
  cases hwork : work tree with
  | mk found tree₁ =>
    rw [hwork] at h
    cases found with
    | error e => exact h
    | ok a => exact hrelated.trans h (hnext a tree₁ hwork)

theorem leaves_files_bind {next : FileTree → Build β} (h : (next tree).Leaves related tree) :
    (files >>= next).Leaves related tree := by
  refine leaves_bind hrelated (hrelated.refl tree) fun found tree₁ hfiles ↦ ?_
  obtain ⟨rfl, rfl⟩ := gives_files.mp hfiles
  exact h

/-- Steps that begin where the ones before have come to. -/
theorem leaves_foldlM {step : BuildResult → α → Build BuildResult} {items : List α} {site : FileTree}
    (hstep : ∀ item ∈ items, ∀ result tree, related site tree → (step result item).Leaves related tree)
    (h : related site tree) : (items.foldlM step result).Leaves related tree := by
  induction items generalizing result tree with
  | nil => exact leaves_pure hrelated
  | cons item items ih =>
    rw [List.foldlM_cons]
    have hfirst := hstep item List.mem_cons_self result tree h
    exact leaves_bind hrelated hfirst fun _ _ hgives ↦
      ih (fun item hmem ↦ hstep item (List.mem_cons_of_mem _ hmem))
        (hrelated.trans h (hfirst.of_gives hgives))

end Steps

/-! ## Output files -/

/-- Whatever is written to a path that goes up at its end meets a directory. -/
private theorem directory_of_ensureParent {front : List Component} (hclosed : tree₁.Closed)
    (hfront : front ≠ []) (hcomponents : path.components = front ++ [.parent]) {done : Unit}
    (h : (ensureParent path).Gives tree done tree₁) :
    tree₁.get? (tree₁.placeOf path) = some .directory := by
  obtain ⟨directory, hparent, rfl⟩ := exists_parent? hcomponents (by simp)
  have hsame := (extends_ensureParent h).current
  rw [ensureParent, hparent] at h
  have htext : directory.text ≠ "" := text_ne_empty hfront
  have hdirectory := get?_of_ensureDirectory (gives_ensureDirectory.mp h) htext
  have hplace : tree₁.placeOf path = (tree.placeOf directory).dropLast := by
    rw [placeOf, hcomponents, placeFrom_append, hsame]
    rfl
  rw [hplace]
  exact hclosed.parent _ _ hdirectory

/-- Nothing can be written to such a path. -/
theorem not_gives_writeOutput {front : List Component} {text : String} (hclosed : tree.Closed)
    (hfront : front ≠ []) (hcomponents : path.components = front ++ [.parent]) {done : Unit} :
    ¬ (writeOutput path text).Gives tree done tree₁ := by
  intro h
  obtain ⟨made, tree₂, hparent, hwrite⟩ := gives_bind.mp h
  exact not_directory_of_write (gives_change.mp hwrite)
    (directory_of_ensureParent ((extends_ensureParent hparent).closed hclosed) hfront hcomponents
      hparent)

theorem not_gives_copyOutput {front : List Component} (hclosed : tree.Closed)
    (hfront : front ≠ []) (hcomponents : path.components = front ++ [.parent]) {done : Unit} :
    ¬ (copyOutput source path).Gives tree done tree₁ := by
  intro h
  obtain ⟨made, tree₂, hparent, hcopy⟩ := gives_bind.mp h
  obtain ⟨written, -, hwrite⟩ := exists_write_of_copy (gives_change.mp hcopy)
  exact not_directory_of_write hwrite
    (directory_of_ensureParent ((extends_ensureParent hparent).closed hclosed) hfront hcomponents
      hparent)

end Build

namespace Builder

open Build FileTree

variable {builder : Builder} {site tree tree₁ : FileTree} {place : Place} {file : ContentName}
  {path output directory : Path} {files pages : List Path} {task : Task} {tasks : List Task}
  {templates : ComposedTemplates} {renderer : Renderer} {result : BuildResult} {scope : Scope}
  {writes removes : List String → Prop} {changes : List Change}

/-- Whether a tree is in order and the output directory lies at a place in it. -/
structure Stands (builder : Builder) (place : Place) (tree : FileTree) : Prop where
  closed : tree.Closed
  place : builder.outputPlace tree = place

/-- Whether a path does not go up from the directory of content, and is not a page in its place. -/
structure Below (builder : Builder) (path : Path) : Prop where
  down : ∀ rest, path.components = builder.paths.content.components ++ rest → .parent ∉ rest
  self : path.components = builder.paths.content.components → ¬ builder.registry.isPage path

theorem LeadsTo.below (h : builder.LeadsTo path file) : builder.Below path where
  down rest hrest hparent := by
    rw [← List.append_cancel_left (h.symm.trans hrest)] at hparent
    simp at hparent
  self hsame := by
    rw [h] at hsame
    simp [ContentName.names] at hsame

/-- What lies directly in a directory of content is led to from there. -/
theorem LeadsTo.directory_eq {name : String} (h : builder.LeadsTo path file)
    (hname : path.components = directory.components ++ [.normal name]) :
    directory.components = builder.directoryComponents file :=
  (List.append_inj' (hname.symm.trans h.components_eq) rfl).1

section Texts

variable (hcontent : builder.paths.content.text ≠ "") (houtput : builder.paths.output.text ≠ "")

include hcontent houtput

/-- The output of what does not lie above the directory of content is the output directory itself, or
the output file of a content file, but for pages whose name is an extension behind two dots. -/
theorem output_cases (hbelow : builder.Below path) (hpath : builder.outputPath? path = some output) :
    output.components = builder.paths.output.components ∨
      ∃ file, builder.LeadsTo path file ∧
        (output.components =
            builder.paths.output.components ++ (builder.outputNames file).map .normal ∨
          ¬ HasStem file.name ∧ output.components =
            builder.paths.output.components ++ file.directory.map .normal ++ [.parent]) := by
  obtain ⟨moved, hmoved, rfl⟩ := Option.map_eq_some_iff.mp hpath
  obtain ⟨relative, hrelative, -⟩ := Option.map_eq_some_iff.mp hmoved
  obtain ⟨rest, hrest, -, hsteps⟩ := exists_of_relativeTo? hcontent hrelative
  obtain ⟨names, rfl⟩ := exists_names_of_isStep hsteps (hbelow.down rest hrest)
  rcases List.eq_nil_or_concat' names with rfl | ⟨directory, name, rfl⟩
  · obtain ⟨found, hfound, hcomponents, -⟩ := exists_rebase? hrest hsteps houtput
    obtain rfl := Option.some.inj (hmoved.symm.trans hfound)
    left
    rw [if_neg (hbelow.self (by simpa using hrest))]
    simpa using hcomponents
  · have hfile : builder.LeadsTo path ⟨directory, name⟩ := hrest
    obtain ⟨found, hfound, hcases⟩ := hfile.exists_outputPath?_cases houtput
    obtain rfl := Option.some.inj (hpath.symm.trans hfound)
    exact Or.inr ⟨_, hfile, hcases.imp_left And.right⟩

/-- The output of such a path lies in the output directory, unless it goes up at its end. -/
theorem output_place (hbelow : builder.Below path) (hpath : builder.outputPath? path = some output) :
    (∃ names, tree.placeOf output = builder.outputPlace tree ++ names ∧
        (names ≠ [] → ∃ file, builder.LeadsTo path file ∧ builder.outputNames file = names)) ∨
      (∃ file, builder.LeadsTo path file ∧ ¬ HasStem file.name) ∧
        ∃ front, front ≠ [] ∧ output.components = front ++ [.parent] := by
  rcases output_cases hcontent houtput hbelow hpath with hself | ⟨file, hfile, hown | ⟨hstem, hup⟩⟩
  · refine Or.inl ⟨[], ?_, fun hnil ↦ absurd rfl hnil⟩
    rw [FileTree.placeOf, hself, List.append_nil]
    rfl
  · refine Or.inl ⟨builder.outputNames file, ?_, fun _ ↦ ⟨file, hfile, rfl⟩⟩
    exact FileTree.placeOf_of_components hown
  · refine Or.inr ⟨⟨file, hfile, hstem⟩, _, ?_, hup⟩
    rw [Ne, List.append_eq_nil_iff, components_eq_nil_iff]
    exact fun hnil ↦ houtput hnil.1

variable (hclosed : tree.Closed) (hbelow : builder.Below path)

include hclosed hbelow

/-- Work on a page writes its output file, if the page is there. -/
theorem alters_buildPage (hwrites : ∀ file, builder.LeadsTo path file →
      (tree.file? (builder.placeOf tree file)).isSome → writes (builder.outputNames file)) :
    (builder.buildPage templates renderer path).Leaves
      (Alters (builder.outputPlace tree) writes removes) tree := by
  refine leaves_of_cases (fun done tree₁ h ↦ ?_) fun e tree₁ h ↦
    .of_extends (extends_of_fails_buildPage h)
  obtain ⟨html, output, hhtml, hpath, hwrite⟩ := exists_of_gives_buildPage h
  rcases output_place hcontent houtput hbelow hpath with ⟨names, hplace, hnames⟩ |
    ⟨-, front, hfront, hup⟩
  · refine .of_updates (hplace ▸ updates_writeOutput hwrite) (fun hne _ ↦ ?_) (by simp)
    obtain ⟨file, hfile, rfl⟩ := hnames hne
    refine hwrites file hfile ?_
    obtain ⟨text, -, -, htext, -⟩ := exists_of_pageHtml hhtml
    rw [← hfile.placeOf_eq, file?_of_read (readText_eq_ok_iff.mp htext)]
    rfl
  · exact absurd hwrite (not_gives_writeOutput hclosed hfront hup)

/-- Work on another file writes its output file, if the file is there. -/
theorem alters_copyAsset (hwrites : ∀ file, builder.LeadsTo path file →
      (tree.file? (builder.placeOf tree file)).isSome → writes (builder.outputNames file)) :
    (builder.copyAsset path).Leaves (Alters (builder.outputPlace tree) writes removes) tree := by
  refine leaves_of_cases (fun done tree₁ h ↦ ?_) fun e tree₁ h ↦
    .of_extends (extends_of_fails_copyAsset h)
  rcases cases_of_gives_copyAsset h with ⟨-, rfl, -⟩ | ⟨-, output, hpath, hcopy⟩
  · exact .of_extends (.refl _)
  rcases output_place hcontent houtput hbelow hpath with ⟨names, hplace, hnames⟩ |
    ⟨-, front, hfront, hup⟩
  · obtain ⟨content, hsource, hupdate⟩ := updates_copyOutput hcopy
    refine .of_updates (hplace ▸ hupdate) (fun hne _ ↦ ?_) (by simp)
    obtain ⟨file, hfile, rfl⟩ := hnames hne
    refine hwrites file hfile ?_
    rw [← hfile.placeOf_eq, hsource]
    rfl
  · exact absurd hcopy (not_gives_copyOutput hclosed hfront hup)

omit hclosed in
/-- The removal of the output of a file deletes its output file. -/
theorem alters_removeOutput (hstem : ∀ file, builder.LeadsTo path file → HasStem file.name)
    (hremoves : ∀ file, builder.LeadsTo path file → ¬ builder.IsSidecarName file →
      removes (builder.outputNames file)) :
    (builder.removeOutput path).Leaves (Alters (builder.outputPlace tree) writes removes) tree := by
  refine leaves_of_cases (fun done tree₁ h ↦ ?_) fun e tree₁ h ↦ ?_
  · rcases cases_of_gives_removeOutput h with ⟨-, rfl, -⟩ | ⟨-, hsidecar, output, hpath, hremove⟩
    · exact .of_extends (.refl _)
    rcases output_place hcontent houtput hbelow hpath with ⟨names, hplace, hnames⟩ |
      ⟨⟨file, hfile, hnot⟩, -⟩
    · refine .of_updates (hplace ▸ updates_removeFile hremove) (by simp) fun hne _ ↦ ?_
      obtain ⟨file, hfile, rfl⟩ := hnames hne
      exact hremoves file hfile (mt hfile.isSidecar_iff.mpr hsidecar)
    · exact absurd (hstem file hfile) hnot
  · rw [eq_of_fails_removeOutput h]
    exact .of_extends (.refl _)

end Texts

/-! ## Full builds -/

/-- Where the directories are apart, content files stay as they are while the output is altered. -/
theorem Separate.file?_placeOf (hseparate : builder.Separate site)
    (h : SameOutside (builder.outputPlace site) site tree) (file : ContentName) :
    tree.file? (builder.placeOf tree file) = site.file? (builder.placeOf site file) := by
  rw [placeOf_file_congr h.current, h.file? _ (hseparate.outside file)]

section Notes

variable (hseparate : builder.Separate site) (hclosed : site.Closed)
  (h : SameOutside (builder.outputPlace site) site tree) (hbelow : builder.Below path)
  (hwrites : ∀ file, builder.LeadsTo path file →
    (site.file? (builder.placeOf site file)).isSome → writes (builder.outputNames file))

include hseparate hclosed h hbelow hwrites

theorem alters_notePage : (builder.notePage templates renderer result path).Leaves
    (Alters (builder.outputPlace site) writes removes) tree := by
  have hplace : builder.outputPlace tree = builder.outputPlace site := placeOf_congr h.current
  refine leaves_note (leaves_bind accumulates_alters ?_ fun _ _ _ ↦ leaves_pure accumulates_alters)
  rw [← hplace]
  refine alters_buildPage hseparate.contentText hseparate.outputText (h.closed hclosed) hbelow
    fun file hfile hsome ↦ hwrites file hfile ?_
  rwa [hseparate.file?_placeOf h] at hsome

theorem alters_noteAsset : (builder.noteAsset result path).Leaves
    (Alters (builder.outputPlace site) writes removes) tree := by
  have hplace : builder.outputPlace tree = builder.outputPlace site := placeOf_congr h.current
  refine leaves_note ?_
  rw [← hplace]
  refine alters_copyAsset hseparate.contentText hseparate.outputText (h.closed hclosed) hbelow
    fun file hfile hsome ↦ hwrites file hfile ?_
  rwa [hseparate.file?_placeOf h] at hsome

end Notes

/-- Whether names lead to the output file of a content file that is there and not hidden. -/
def Shows (builder : Builder) (site : FileTree) (names : List String) : Prop :=
  ∃ file : ContentName, ¬ file.IsHidden ∧ (site.file? (builder.placeOf site file)).isSome ∧
    builder.outputNames file = names

private theorem alters_prepareOutput (hremoves : ∀ names, removes names) :
    builder.prepareOutput.Leaves (Alters (builder.outputPlace tree) writes removes) tree := by
  refine leaves_files_bind accumulates_alters ?_
  split_ifs
  · refine leaves_of_cases (fun done tree₁ h ↦ ?_) fun e tree₁ h ↦ ?_
    · exact .of_emptyDirectory (gives_change.mp h) hremoves
    · obtain ⟨-, -, -, rfl⟩ := fails_change.mp h
      exact .of_extends (.refl _)
  · refine leaves_of_cases (fun done tree₁ h ↦ ?_) fun e tree₁ h ↦ ?_
    · exact .of_extends (extends_ensureDirectory (gives_ensureDirectory.mp h))
    · obtain ⟨fault, hensure, -⟩ := fails_ensureDirectory.mp h
      exact .of_extends (extends_ensureDirectory hensure)

/-- A full build, whether it succeeds or not, alters the output directory, and what it writes there is
the output of content files that are not hidden. -/
theorem alters_build (hclosed : tree.Closed) : builder.build.Leaves
    (Alters (builder.outputPlace tree) (builder.Shows tree) fun _ ↦ True) tree := by
  refine leaves_files_bind accumulates_alters ?_
  split
  · exact leaves_fail accumulates_alters
  next hdirectories =>
  have hseparate := separate_of_directoryError? hclosed.currentName hdirectories
  split
  · exact leaves_fail accumulates_alters
  split
  · exact leaves_fail accumulates_alters
  have hprepare : builder.prepareOutput.Leaves
      (Alters (builder.outputPlace tree) (builder.Shows tree) fun _ ↦ True) tree :=
    alters_prepareOutput fun _ ↦ trivial
  refine leaves_bind accumulates_alters hprepare fun _ emptied hgives ↦ ?_
  have hemptied := hprepare.of_gives hgives
  refine leaves_files_bind accumulates_alters ?_
  split
  · exact leaves_fail accumulates_alters
  next files hfiles =>
  have hlists := lists_contentFiles (hemptied.closed hclosed) hseparate.contentText hfiles
  refine leaves_bind accumulates_alters ?_ fun _ _ _ ↦ leaves_pure accumulates_alters
  rw [buildFiles_eq_foldlM]
  refine leaves_foldlM accumulates_alters (fun path hmem result stage hstage ↦ ?_) hemptied
  obtain ⟨file, hpath, hhidden, hsome⟩ := hlists.sound path hmem
  have hwrites (other : ContentName) (hother : builder.LeadsTo path other)
      (hexists : (tree.file? (builder.placeOf tree other)).isSome) :
      builder.Shows tree (builder.outputNames other) := by
    obtain rfl := hother.unique hpath.leadsTo
    exact ⟨other, hhidden, hexists, rfl⟩
  split_ifs
  · exact alters_notePage hseparate hclosed hstage.toSameOutside hpath.leadsTo.below hwrites
  · exact alters_noteAsset hseparate hclosed hstage.toSameOutside hpath.leadsTo.below hwrites

/-- A full build, whether it succeeds or not, changes files in the output directory alone. -/
theorem within_build (h : builder.Stands place tree) : builder.build.Within place tree := by
  rw [← h.place]
  exact (alters_build h.closed).within

/-- A full build that may not be has no effect at all. -/
theorem build_of_directoryError? {e : BuildError} (h : builder.directoryError? tree = some e) :
    builder.build.Fails tree e tree := by
  refine fails_bind.mpr (Or.inr ⟨tree, tree, gives_files.mpr ⟨rfl, rfl⟩, ?_⟩)
  simp only [h]
  exact fails_fail.mpr ⟨rfl, rfl⟩

/-! ## Rebuilds -/

/-- Whether a task is about files below the directory of content. -/
def StaysBelow (builder : Builder) : Task → Prop
  | .page path => builder.Below path
  | .asset path => builder.Below path
  | .remove path => builder.Below path ∧ ∀ names name, path.components =
      builder.paths.content.components ++ (names ++ [.normal name]) → HasStem name
  | .directory directory => ∀ path name,
      path.components = directory.components ++ [.normal name] → builder.Below path

/-- What a batch of changes to content asks for is about files below the directory of content. -/
theorem Tells.staysBelow (h : builder.Tells changes) (hmem : task ∈ Change.tasks changes) :
    builder.StaysBelow task := by
  obtain ⟨file, path, deleted, -, hpath, hshown, htask⟩ := h.exists_of_mem_tasks hmem
  by_cases hsidecar : builder.IsSidecarName file
  · obtain ⟨directory, hdirectory, hcomponents⟩ := task?_report_of_sidecar hpath hsidecar deleted
    obtain rfl := Option.some.inj (htask.symm.trans hdirectory)
    intro beside name hbeside
    have hfound : builder.LeadsTo beside ⟨file.directory, name⟩ := by
      rw [LeadsTo, hbeside, hcomponents, directoryComponents, ContentName.names, List.map_append,
        List.append_assoc]
      rfl
    exact hfound.below
  · rw [task?_report hpath hsidecar] at htask
    obtain rfl := Option.some.inj htask
    split_ifs
    · refine ⟨hpath.leadsTo.below, fun names name hname ↦ ?_⟩
      rw [← List.append_assoc] at hname
      obtain ⟨-, hlast⟩ := List.append_inj' (hname.symm.trans hpath.leadsTo.components_eq) rfl
      obtain rfl : name = file.name := by simpa using hlast
      exact hasStem_of_not_isHiddenName
        (ContentName.not_isHiddenName (hshown.resolve_left hsidecar))
    · exact hpath.leadsTo.below
    · exact hpath.leadsTo.below

/-- Whether a task makes the output under names of something that is there in the content. -/
def Makes (builder : Builder) (site : FileTree) (names : List String) : Task → Prop
  | .page path => ∃ file, builder.LeadsTo path file ∧
      (site.file? (builder.placeOf site file)).isSome ∧ builder.outputNames file = names
  | .asset path => ∃ file, builder.LeadsTo path file ∧
      (site.get? (builder.placeOf site file)).isSome ∧ builder.outputNames file = names
  | .directory directory => ∃ file, directory.components = builder.directoryComponents file ∧
      builder.IsPageName file ∧ (site.file? (builder.placeOf site file)).isSome ∧
        builder.outputNames file = names
  | .remove _ => False

/-- Whether a task deletes the output under names. -/
def Drops (builder : Builder) (names : List String) : Task → Prop
  | .remove path => ∃ file, builder.LeadsTo path file ∧ ¬ builder.IsSidecarName file ∧
      builder.outputNames file = names
  | .page _ => False
  | .asset _ => False
  | .directory _ => False

/-- Whether some task asks for work on a page. -/
def Visits (builder : Builder) (tasks : List Task) (path : Path) : Prop :=
  builder.registry.isPage path ∧ (.page path ∈ tasks ∨
    ∃ directory name, .directory directory ∈ tasks ∧
      path.components = directory.components ++ [.normal name])

/-- The pages found in a directory are worked on. -/
theorem visits_of_pagesIn (hclosed : tree.Closed) (hmem : .directory directory ∈ tasks)
    (hpages : (builder.pagesIn directory).Gives tree pages tree₁) (hpath : path ∈ pages) :
    builder.Visits tasks path := by
  obtain ⟨name, hname⟩ := components_of_pagesIn hclosed hpages hpath
  obtain ⟨-, -, -, -, -, hpage⟩ := (mem_pagesIn_iff hpages).mp hpath
  exact ⟨hpage, Or.inr ⟨directory, name, hmem, hname⟩⟩

section Related

variable {related : FileTree → FileTree → Prop} (hrelated : Accumulates related)
  (hclosed : ∀ {tree}, related site tree → tree.Closed)
  (hpage : ∀ templates renderer path, builder.Visits tasks path → ∀ result tree, related site tree →
    (builder.notePage templates renderer result path).Leaves related tree)
  (hasset : ∀ path, .asset path ∈ tasks → ∀ result tree, related site tree →
    (builder.noteAsset result path).Leaves related tree)
  (hremove : ∀ path, .remove path ∈ tasks → ∀ tree, related site tree →
    (builder.removeOutput path).Leaves related tree)

include hrelated hclosed hpage hasset hremove

theorem leaves_runTask (hmem : task ∈ tasks) (h : related site tree) :
    (builder.runTask templates renderer result task).Leaves related tree := by
  cases task with
  | page path =>
    refine leaves_files_bind hrelated ?_
    split_ifs with hwanted
    · exact hpage _ _ path ⟨(Bool.and_eq_true_iff.mp hwanted).2, Or.inl hmem⟩ result tree h
    · exact leaves_pure hrelated
  | asset path => exact hasset path hmem result tree h
  | remove path =>
    refine leaves_bind hrelated (hremove path hmem tree h) fun _ _ _ ↦ ?_
    split_ifs
    · exact leaves_pure hrelated
    · exact leaves_pure hrelated
  | directory directory =>
    refine leaves_bind hrelated ?_ fun pages tree₁ hpages ↦ ?_
    · rw [Leaves, tree_pagesIn]
      exact hrelated.refl tree
    obtain rfl : tree₁ = tree := (gives_iff.mp hpages).2.symm.trans tree_pagesIn
    rw [buildPages_eq_foldlM]
    refine leaves_foldlM hrelated (fun path hpath result stage hstage ↦ ?_) (hrelated.refl tree₁)
    exact hpage _ _ path (visits_of_pagesIn (hclosed h) hmem hpages hpath) result stage
      (hrelated.trans h hstage)

/-- What work on single files does together is what it does file by file. -/
theorem leaves_runTasks (h : related site tree) :
    (builder.runTasks templates renderer tasks result).Leaves related tree := by
  rw [runTasks_eq_foldlM]
  exact leaves_foldlM hrelated (fun task hmem result tree h ↦
    leaves_runTask hrelated hclosed hpage hasset hremove hmem h) h

theorem leaves_rebuild (hcache : builder.cache.isSome) :
    (builder.rebuild (.files tasks)).Leaves related site := by
  obtain ⟨templates, hcache⟩ := Option.isSome_iff_exists.mp hcache
  cases hrenderer : builder.renderer templates with
  | error e =>
    unfold rebuild
    simp only [hcache, hrenderer]
    exact leaves_fail hrelated
  | ok renderer =>
    rw [rebuild_files hcache hrenderer]
    exact leaves_bind hrelated
      (leaves_runTasks hrelated hclosed hpage hasset hremove (hrelated.refl site)) fun _ _ _ ↦
      leaves_pure hrelated

end Related

theorem Visits.below (h : builder.Visits tasks path)
    (hbelow : ∀ task ∈ tasks, builder.StaysBelow task) : builder.Below path := by
  obtain ⟨-, hmem | ⟨directory, name, hmem, hname⟩⟩ := h
  · exact hbelow _ hmem
  · exact hbelow _ hmem path name hname

theorem Visits.makes (h : builder.Visits tasks path) (hfile : builder.LeadsTo path file)
    (hsome : (site.file? (builder.placeOf site file)).isSome) :
    ∃ task ∈ tasks, builder.Makes site (builder.outputNames file) task := by
  obtain ⟨hpage, hmem | ⟨directory, name, hmem, hname⟩⟩ := h
  · exact ⟨_, hmem, file, hfile, hsome, rfl⟩
  · exact ⟨_, hmem, file, hfile.directory_eq hname, hfile.isPage_iff.mp hpage, hsome, rfl⟩

/-- What is removed has a name with a stem. -/
theorem StaysBelow.hasStem (h : builder.StaysBelow (.remove path)) (hfile : builder.LeadsTo path file) :
    HasStem file.name := by
  refine h.2 (file.directory.map .normal) file.name ?_
  rw [hfile.components_eq, List.append_assoc]

theorem alters_removeTask (hseparate : builder.Separate site)
    (h : SameOutside (builder.outputPlace site) site tree) (hbelow : builder.StaysBelow (.remove path))
    (hmem : .remove path ∈ tasks) : (builder.removeOutput path).Leaves
      (Alters (builder.outputPlace site) writes fun names ↦ ∃ task ∈ tasks, builder.Drops names task)
      tree := by
  have hplace : builder.outputPlace tree = builder.outputPlace site := placeOf_congr h.current
  rw [← hplace]
  exact alters_removeOutput hseparate.contentText hseparate.outputText hbelow.1
    (fun _ hfile ↦ hbelow.hasStem hfile) fun file hfile hsidecar ↦ ⟨_, hmem, file, hfile, hsidecar, rfl⟩

/-- A rebuild that works on single files, whether it succeeds or not, alters the output directory as
its tasks say. -/
theorem alters_rebuild (hseparate : builder.Separate site) (hclosed : site.Closed)
    (hcache : builder.cache.isSome) (hbelow : ∀ task ∈ tasks, builder.StaysBelow task) :
    (builder.rebuild (.files tasks)).Leaves
      (Alters (builder.outputPlace site) (fun names ↦ ∃ task ∈ tasks, builder.Makes site names task)
        fun names ↦ ∃ task ∈ tasks, builder.Drops names task) site :=
  leaves_rebuild accumulates_alters (fun h ↦ h.closed hclosed)
    (fun _ _ _ hvisits _ _ h ↦ alters_notePage hseparate hclosed h.toSameOutside (hvisits.below hbelow)
      fun _ hfile hsome ↦ hvisits.makes hfile hsome)
    (fun _ hmem _ _ h ↦ alters_noteAsset hseparate hclosed h.toSameOutside (hbelow _ hmem)
      fun file hfile hsome ↦ ⟨_, hmem, file, hfile, isSome_get?_of_file? hsome, rfl⟩)
    (fun _ hmem _ h ↦ alters_removeTask hseparate h.toSameOutside (hbelow _ hmem) hmem) hcache

/-- A rebuild, whether it succeeds or not, changes files in the output directory alone, if it builds
everything or its tasks are about files below the directory of content. -/
theorem within_rebuild (h : builder.Stands place tree)
    (hseparate : builder.cache.isSome → builder.Separate tree)
    (htasks : builder.Separate tree →
      ∀ tasks, scope = .files tasks → ∀ task ∈ tasks, builder.StaysBelow task) :
    (builder.rebuild scope).Within place tree := by
  cases scope with
  | full =>
    rw [rebuild_full]
    exact within_build h
  | config =>
    rw [rebuild_config]
    exact within_build h
  | files tasks =>
    cases hcache : builder.cache with
    | none =>
      rw [rebuild_of_noCache hcache]
      exact within_build h
    | some templates =>
      have hsome : builder.cache.isSome := by simp [hcache]
      rw [← h.place]
      exact (alters_rebuild (hseparate hsome) h.closed hsome
        (htasks (hseparate hsome) tasks rfl)).within

end Builder

end StaticSite
