import StaticSite.Proofs.Path.Output
import StaticSite.Proofs.Site.Work

/-!
# Content files by their names

A content file is known by the names that lead to it from the directory of content, however its path
is written. Its place, whether it is a page, its metadata file and its output file depend on these
names alone (`exists_outputPath?`).
-/

namespace StaticSite

open StaticSite.Path

/-- The names that lead to a file from the directory of content. -/
structure ContentName where
  /-- The names of the directories. -/
  directory : List String
  /-- The name of the file. -/
  name : String
  deriving DecidableEq, Repr

namespace ContentName

/-- All names, that of the file last. -/
def names (file : ContentName) : List String := file.directory ++ [file.name]

theorem names_injective {file other : ContentName} (h : file.names = other.names) :
    file = other := by
  obtain ⟨directory, name⟩ := file
  obtain ⟨directory', name'⟩ := other
  obtain ⟨rfl, hname⟩ := List.append_inj' h rfl
  obtain rfl := List.singleton_inj.mp hname
  rfl

/-- Whether the file or a directory above it is hidden. -/
def IsHidden (file : ContentName) : Prop := ∃ name ∈ file.names, isHiddenName name

instance (file : ContentName) : Decidable file.IsHidden :=
  inferInstanceAs (Decidable (∃ name ∈ file.names, isHiddenName name))

theorem not_isHiddenName {file : ContentName} (h : ¬ file.IsHidden) : ¬ isHiddenName file.name :=
  fun hname ↦ h ⟨file.name, by simp [names], hname⟩

end ContentName

namespace Builder

variable {builder : Builder} {tree : FileTree} {file : ContentName} {path : Path}

/-- Whether a path is that of a content file. -/
structure IsPathOf (builder : Builder) (file : ContentName) (path : Path) : Prop where
  isFilePath : path.IsFilePath
  components : path.components =
    (builder.paths.content.components ++ file.directory.map .normal) ++ [.normal file.name]

/-- Whether a content file is a page. -/
def IsPageName (builder : Builder) (file : ContentName) : Prop :=
  builder.registry.isPage ⟨file.name⟩

/-- Whether a content file holds metadata. -/
def IsSidecarName (builder : Builder) (file : ContentName) : Prop :=
  file.name = builder.config.metadataFile

instance (file : ContentName) : Decidable (builder.IsPageName file) :=
  inferInstanceAs (Decidable (_ = true))

instance (file : ContentName) : Decidable (builder.IsSidecarName file) :=
  inferInstanceAs (Decidable (_ = _))

/-- The place of the directory of content. -/
def contentPlace (builder : Builder) (tree : FileTree) : Place :=
  tree.placeOf builder.paths.content

/-- The place of the output directory. -/
def outputPlace (builder : Builder) (tree : FileTree) : Place := tree.placeOf builder.paths.output

/-- The place of a content file. -/
def placeOf (builder : Builder) (tree : FileTree) (file : ContentName) : Place :=
  builder.contentPlace tree ++ file.names

/-- The names that lead to the output file of a content file from the output directory. -/
def outputNames (builder : Builder) (file : ContentName) : List String :=
  file.directory ++
    [if builder.registry.isPage ⟨file.name⟩ then outputName file.name else file.name]

/-- The place of the output file of a content file. -/
def outputPlaceOf (builder : Builder) (tree : FileTree) (file : ContentName) : Place :=
  builder.outputPlace tree ++ builder.outputNames file

/-- The places of content files and of their output files depend on the current directory alone. -/
theorem placeOf_file_congr {tree₁ : FileTree} (h : tree₁.current = tree.current) :
    builder.placeOf tree₁ file = builder.placeOf tree file := by
  rw [Builder.placeOf, contentPlace, FileTree.placeOf_congr h]
  rfl

theorem outputPlaceOf_congr {tree₁ : FileTree} (h : tree₁.current = tree.current) :
    builder.outputPlaceOf tree₁ file = builder.outputPlaceOf tree file := by
  rw [outputPlaceOf, outputPlace, FileTree.placeOf_congr h]
  rfl

/-- The metadata file that goes with a content file. -/
def sidecarOf (builder : Builder) (file : ContentName) : ContentName :=
  ⟨file.directory, builder.config.metadataFile⟩

theorem eq_of_append_map_normal {front : List Component} {names names' : List String}
    (h : front ++ names.map .normal = front ++ names'.map .normal) : names = names' := by
  refine List.map_injective_iff.mpr (fun a b hab ↦ ?_) (List.append_cancel_left h)
  simpa using hab

/-- Whether a path leads to a content file, even if it is not written as the path of a file. -/
def LeadsTo (builder : Builder) (path : Path) (file : ContentName) : Prop :=
  path.components = builder.paths.content.components ++ file.names.map .normal

theorem leadsTo_iff : builder.LeadsTo path file ↔ path.components =
    (builder.paths.content.components ++ file.directory.map .normal) ++ [.normal file.name] := by
  rw [LeadsTo, ContentName.names, List.map_append, ← List.append_assoc]
  rfl

namespace LeadsTo

variable (h : builder.LeadsTo path file)

include h

theorem components_eq : path.components =
    (builder.paths.content.components ++ file.directory.map .normal) ++ [.normal file.name] :=
  leadsTo_iff.mp h

theorem isStep : ∀ c ∈ file.directory.map Component.normal ++ [.normal file.name], IsStep c := by
  intro c hmem
  have hall : c ∈ path.components := by
    rw [h.components_eq, List.append_assoc]
    exact List.mem_append_right _ hmem
  obtain ⟨name, rfl⟩ : ∃ name, c = .normal name := by
    rcases List.mem_append.mp hmem with hmem | hmem
    · obtain ⟨name, -, rfl⟩ := List.mem_map.mp hmem
      exact ⟨name, rfl⟩
    · exact ⟨_, List.mem_singleton.mp hmem⟩
  exact isName_of_mem_components hall

theorem isName : IsName file.name := by
  have hmem : .normal file.name ∈ path.components := by simp [h.components_eq]
  exact isName_of_mem_components hmem

theorem isPage_iff : builder.registry.isPage path ↔ builder.IsPageName file := by
  rw [isPage_eq builder.registry h.components_eq h.isName, IsPageName]

theorem isSidecar_iff : builder.isSidecar path ↔ builder.IsSidecarName file := by
  rw [isSidecar, fileName?_eq h.components_eq, IsSidecarName]
  simp

theorem placeOf_eq : tree.placeOf path = builder.placeOf tree file :=
  FileTree.placeOf_of_components h

/-- What the output of a content file is, if its name is any; without a stem it may go up at its
end. -/
theorem exists_outputPath?_cases (houtput : builder.paths.output.text ≠ "") :
    ∃ output, builder.outputPath? path = some output ∧
      ((HasStem file.name → output.IsFilePath) ∧ output.components =
          builder.paths.output.components ++ (builder.outputNames file).map .normal ∨
        ¬ HasStem file.name ∧ output.components =
          builder.paths.output.components ++ file.directory.map .normal ++ [.parent]) := by
  have hsplit : path.components = builder.paths.content.components ++
      (file.directory.map .normal ++ [.normal file.name]) := by
    rw [h.components_eq, List.append_assoc]
  obtain ⟨moved, hmoved, hcomponents, hfile⟩ := exists_rebase? hsplit h.isStep houtput
  have hmovedFile := hfile _ _ rfl
  rw [← List.append_assoc] at hcomponents
  refine ⟨_, by rw [outputPath?, hmoved]; rfl, ?_⟩
  rw [outputNames, List.map_append, List.map_singleton, ← List.append_assoc,
    ← isPage_eq builder.registry h.components_eq h.isName]
  split_ifs
  · rcases components_outputPage_cases hmovedFile hcomponents with ⟨hparent, hstem⟩ | hnew
    · exact Or.inr ⟨hstem, hparent⟩
    · exact Or.inl ⟨isFilePath_outputPage hmovedFile hcomponents, hnew⟩
  · exact Or.inl ⟨fun _ ↦ hmovedFile, hcomponents⟩

/-- The output file of a content file lies in the output directory where the content file lies in
the directory of content; a page gets the name of an HTML file. -/
theorem exists_outputPath? (houtput : builder.paths.output.text ≠ "") (hstem : HasStem file.name) :
    ∃ output, builder.outputPath? path = some output ∧ output.IsFilePath ∧
      output.components =
        builder.paths.output.components ++ (builder.outputNames file).map .normal := by
  obtain ⟨output, hpath, ⟨hfile, hcomponents⟩ | ⟨hnot, -⟩⟩ := h.exists_outputPath?_cases houtput
  · exact ⟨output, hpath, hfile hstem, hcomponents⟩
  · exact absurd hstem hnot

theorem unique {other : ContentName} (h' : builder.LeadsTo path other) : file = other :=
  ContentName.names_injective (eq_of_append_map_normal (h.symm.trans h'))

end LeadsTo

namespace IsPathOf

variable (h : builder.IsPathOf file path)

include h

theorem leadsTo : builder.LeadsTo path file :=
  leadsTo_iff.mpr h.components

theorem isName : IsName file.name :=
  h.leadsTo.isName

theorem isPage_iff : builder.registry.isPage path ↔ builder.IsPageName file :=
  h.leadsTo.isPage_iff

theorem forPath?_eq : builder.registry.forPath? path = builder.registry.forPath? ⟨file.name⟩ :=
  Path.forPath?_eq builder.registry h.components h.isName

theorem isSidecar_iff : builder.isSidecar path ↔ builder.IsSidecarName file :=
  h.leadsTo.isSidecar_iff

theorem placeOf_eq : tree.placeOf path = builder.placeOf tree file :=
  h.leadsTo.placeOf_eq

/-- The directory of a content file. -/
theorem exists_parent? : ∃ directory, path.parent? = some directory ∧
    directory.components =
      builder.paths.content.components ++ file.directory.map .normal :=
  Path.exists_parent? h.components (by simp)

theorem exists_relativeTo? : ∃ relative, path.relativeTo? builder.paths.content = some relative ∧
    relative.IsFilePath ∧ relative.components = file.directory.map .normal ++ [.normal file.name] := by
  have hsplit : path.components = builder.paths.content.components ++
      (file.directory.map .normal ++ [.normal file.name]) := by
    rw [h.components, List.append_assoc]
  obtain ⟨relative, hrelative, -, hcomponents, hfile⟩ :=
    Path.exists_relativeTo? hsplit (by simp) h.leadsTo.isStep
  exact ⟨relative, hrelative, hfile _ _ rfl, hcomponents⟩

end IsPathOf

/-- Paths of one place are those of one file. -/
theorem IsPathOf.file_eq_of_same {other : ContentName} {path' : Path}
    (hpath : builder.IsPathOf file path) (hpath' : builder.IsPathOf other path')
    (hsame : path.components = path'.components) : file = other :=
  hpath.leadsTo.unique (hsame.trans hpath'.leadsTo)

theorem IsPathOf.unique {other : ContentName} (h : builder.IsPathOf file path)
    (h' : builder.IsPathOf other path) : file = other :=
  h.file_eq_of_same h' rfl

/-- A name in a directory of content gives the path of a content file. -/
theorem isPathOf_join {directory : Path} {names : List String} {name : String}
    (hdirectory : directory.components =
      builder.paths.content.components ++ names.map .normal)
    (htext : directory.text ≠ "") (hname : IsName name) :
    builder.IsPathOf ⟨names, name⟩ (directory.join ⟨name⟩) :=
  ⟨isFilePath_join_name htext hname, by rw [components_join_name htext hname, hdirectory]⟩

/-- The metadata file of a page is a content file in the directory of the page. -/
theorem IsPathOf.metadataFile (h : builder.IsPathOf file path)
    (hcontent : builder.paths.content.text ≠ "") (hname : IsName builder.config.metadataFile) :
    builder.IsPathOf (builder.sidecarOf file) (path.metadataFile builder.config.metadataFile) := by
  obtain ⟨directory, hparent, hcomponents⟩ := h.exists_parent?
  rw [Path.metadataFile, hparent]
  exact isPathOf_join hcomponents (text_ne_empty_of_components hcontent hcomponents) hname

/-! ## Hidden output files -/

/-- Content is hidden if its output file is, provided that this has a name. -/
theorem isHidden_iff_of_outputNames {names : List String} {last : String} (hname : IsName file.name)
    (houtput : builder.outputNames file = names ++ [last]) (hlast : IsName last) :
    file.IsHidden ↔ ∃ name ∈ names ++ [last], isHiddenName name := by
  obtain ⟨directory, name⟩ := file
  obtain ⟨rfl, hown⟩ := List.append_inj' houtput rfl
  have hsame : isHiddenName last = isHiddenName name := by
    rw [← List.singleton_inj.mp hown] at hlast ⊢
    split_ifs at hlast ⊢
    · exact isHiddenName_outputName hname hlast
    · rfl
  simp [ContentName.IsHidden, ContentName.names, hsame]

/-- The output file of content that is not hidden has a name. -/
theorem exists_outputNames_of_not_isHidden (hname : IsName file.name) (hshown : ¬ file.IsHidden) :
    ∃ last, builder.outputNames file = file.directory ++ [last] ∧ IsName last := by
  refine ⟨_, rfl, ?_⟩
  split_ifs
  · exact isName_outputName hname
      (hasStem_of_not_isHiddenName (ContentName.not_isHiddenName hshown))
  · exact hname

/-- Content that shares its output file with hidden content is hidden. -/
theorem isHidden_of_outputNames_eq {other : ContentName} (hname : IsName file.name)
    (hname' : IsName other.name) (hsame : builder.outputNames file = builder.outputNames other)
    (hhidden : file.IsHidden) : other.IsHidden := by
  by_contra hshown
  obtain ⟨last, houtput, hlast⟩ := exists_outputNames_of_not_isHidden hname' hshown
  rw [isHidden_iff_of_outputNames hname (hsame.trans houtput) hlast,
    ← isHidden_iff_of_outputNames hname' houtput hlast] at hhidden
  exact hshown hhidden

end Builder

end StaticSite
