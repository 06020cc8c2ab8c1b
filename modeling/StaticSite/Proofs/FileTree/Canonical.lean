import StaticSite.Proofs.FileTree.Update

/-!
# Canonical paths

The canonical path of what can be found is that of its place, whatever the path was that led there
(`canonicalOr_eq_pathOf`), so it depends on the current directory alone. An absolute path without
`..` has the components of its canonical path (`components_pathOf_placeOf`), and the directory of a
canonical path is canonical (`parent?_pathOf`).
-/

namespace StaticSite

namespace Path

variable {path directory : Path} {name : String}

/-- The components of an absolute path begin with the root. -/
theorem exists_components_of_isAbsolute (h : path.isAbsolute) :
    ∃ steps, path.components = .root :: steps := by
  obtain ⟨rest, htext⟩ := isAbsolute_eq_true_iff.mp h
  obtain ⟨first, others, hrest⟩ := List.exists_cons_of_ne_nil (Text.splitOn_ne_nil '/' rest)
  have hfields : path.fields = [] :: first :: others := by
    rw [fields, htext, Text.splitOn, if_pos rfl, hrest]
  exact ⟨_, by rw [components_eq, hfields]; rfl⟩

/-- A path whose components begin with the root is absolute. -/
theorem isAbsolute_of_components {steps : List Component} (h : path.components = .root :: steps) :
    path.isAbsolute := by
  have hlead : leadOf path.fields = some ⟨.root, 0, 1⟩ := by
    rw [components_eq] at h
    cases hlead : leadOf path.fields with
    | none =>
      rw [hlead] at h
      have hfields : path.fields.filterMap componentOf? = .root :: steps := h
      exact absurd (hfields ▸ List.mem_cons_self) path.root_notMem_fields
    | some lead =>
      rcases component_leadOf hlead with rfl | rfl
      · rfl
      · rw [hlead] at h
        cases (List.cons.inj h).1
  unfold leadOf at hlead
  split at hlead
  · next first rest hfields =>
    have htext := text_eq_joinWith path
    rw [hfields] at htext
    exact isAbsolute_eq_true_iff.mpr ⟨_, htext⟩
  · cases Option.some.inj hlead
  · cases hlead

theorem text_ne_empty_of_isAbsolute (h : path.isAbsolute) : path.text ≠ "" := by
  obtain ⟨steps, hsteps⟩ := exists_components_of_isAbsolute h
  exact text_ne_empty (by rw [hsteps]; exact List.cons_ne_nil _ _)

/-- What lies under an absolute directory has an absolute path. -/
theorem isAbsolute_join (h : directory.isAbsolute) : (directory.join path).isAbsolute := by
  obtain ⟨rest, htext⟩ := isAbsolute_eq_true_iff.mp h
  rw [join]
  split_ifs with hpath
  · exact hpath
  split
  · next hnone => simp [htext] at hnone
  · exact isAbsolute_eq_true_iff.mpr ⟨rest ++ path.text.toList, by simp [htext]⟩
  · exact isAbsolute_eq_true_iff.mpr ⟨rest ++ '/' :: path.text.toList, by simp [htext]⟩

/-- A path that is that of a directory with one more name behind it has the directory for parent, if
the directory ends in a name as well. -/
theorem parent?_of_fields (hdirectory : directory.IsFilePath)
    (h : path.fields = directory.fields ++ [name.toList]) (hname : IsName name) :
    path.parent? = some directory := by
  obtain ⟨before, last, hfields, hlast⟩ := hdirectory
  have hlead : leadOf path.fields = leadOf directory.fields := by
    rw [h, hfields]
    cases before with
    | nil =>
      have hcomponent := componentOf?_name hlast
      rw [List.nil_append, List.singleton_append, leadOf_cons_of_component hcomponent,
        leadOf_cons_of_component hcomponent]
    | cons first before =>
      rw [List.append_assoc]
      exact leadOf_append (List.cons_ne_nil _ _) _ _ _ _
  have hparts : path.parts =
      directory.parts ++ partsFrom (Text.ended '/' directory.fields).length [name.toList] := by
    rw [parts_eq, parts_eq, hlead, h, partsFrom_append, List.append_assoc, Nat.zero_add]
  obtain ⟨front, hfront⟩ := List.getLast?_eq_some_iff.mp (getLast?_parts hfields hlast)
  have htext : path.text.toList = directory.text.toList ++ '/' :: name.toList := by
    rw [text_eq_joinWith path, text_eq_joinWith directory, h, Text.joinWith_append (by simp), hfields,
      Text.joinWith_append (by simp)]
    simp [Text.ended, Text.joinWith]
  rw [parent?, hparts, hfront, partsFrom_cons, componentOf?_name hname]
  simp [partsFrom, slice, htext]

end Path

namespace FileTree

open StaticSite.Path

variable {tree tree₁ : FileTree} {path : Path} {place : Place} {entry : Entry} {name : String}

theorem isAbsolute_pathOf (place : Place) : (pathOf place).isAbsolute :=
  isAbsolute_eq_true_iff.mpr ⟨(String.intercalate "/" place).toList, by simp [pathOf]⟩

/-- An absolute path that does not go up is written as that of its place. -/
theorem components_pathOf_placeOf (h : path.isAbsolute) (hparent : .parent ∉ path.components) :
    (pathOf (tree.placeOf path)).components = path.components := by
  obtain ⟨steps, hsteps⟩ := exists_components_of_isAbsolute h
  rw [hsteps, List.mem_cons, not_or] at hparent
  have hcomponents : path.components = [.root] ++ steps := hsteps
  obtain ⟨names, rfl⟩ := exists_names_of_isStep
    (isStep_of_components hcomponents (by simp)) hparent.2
  have hplace : tree.placeOf path = names := by
    rw [placeOf, hsteps]
    exact placeFrom_names [] names
  have hnames : ∀ name ∈ names, IsName name := by
    intro name hname
    have hmem : .normal name ∈ path.components := by
      rw [hsteps]
      exact List.mem_cons_of_mem _ (List.mem_map_of_mem hname)
    exact isName_of_mem_components hmem
  rw [hplace, components_pathOf hnames, hsteps]

/-- The directory of the path of a place is the path of the place above. -/
theorem parent?_pathOf (h : ∀ other ∈ place ++ [name], IsName other) :
    (pathOf (place ++ [name])).parent? = some (pathOf place) := by
  have hname : IsName name := h name (by simp)
  rcases List.eq_nil_or_concat' place with rfl | ⟨front, last, rfl⟩
  · have hfields : (pathOf [name]).fields = [] :: [name.toList] :=
      fields_pathOf h (by simp)
    have hparts : (pathOf [name]).parts = ⟨.root, 0, 1⟩ :: partsFrom 1 [name.toList] := by
      rw [parts_eq, hfields, partsFrom_cons]
      rfl
    rw [List.nil_append, parent?, hparts, partsFrom_cons, componentOf?_name hname]
    simp [partsFrom, slice, pathOf]
  · have hplace : ∀ other ∈ front ++ [last], IsName other := fun other hmem ↦
      h other (List.mem_append_left _ hmem)
    refine parent?_of_fields (isFilePath_pathOf hplace) ?_ hname
    rw [fields_pathOf h (by simp), fields_pathOf hplace (by simp)]
    simp

theorem canonicalOr_eq (h : tree.lookup path = .ok (place, entry)) :
    tree.canonicalOr path = pathOf place := by
  rw [canonicalOr, canonical?, h]
  rfl

theorem exists_lookup_of_hasEntry (h : tree.hasEntry path) :
    ∃ place entry, tree.lookup path = .ok (place, entry) := by
  rw [hasEntry] at h
  cases hlookup : tree.lookup path with
  | error fault => rw [hlookup] at h; cases h
  | ok found => exact ⟨found.1, found.2, rfl⟩

theorem hasEntry_of_isDirectory (h : tree.isDirectory path) : tree.hasEntry path := by
  rw [isDirectory] at h
  split at h
  · next place hlookup => rw [hasEntry, hlookup]; rfl
  · cases h

/-- The canonical path of what is found is that of its place. -/
theorem canonicalOr_eq_pathOf (h : tree.hasEntry path) :
    tree.canonicalOr path = pathOf (tree.placeOf path) := by
  obtain ⟨place, entry, hlookup⟩ := exists_lookup_of_hasEntry h
  rw [canonicalOr_eq hlookup, placeOf_of_locate (lookup_eq_ok_iff.mp hlookup).1]

theorem canonicalOr_eq_self (h : ¬ tree.hasEntry path) : tree.canonicalOr path = path := by
  rw [canonicalOr, canonical?]
  cases hlookup : tree.lookup path with
  | error fault => rfl
  | ok found =>
    rw [hasEntry, hlookup] at h
    exact absurd rfl h

theorem isAbsolute_canonicalOr (h : path.isAbsolute) : (tree.canonicalOr path).isAbsolute := by
  by_cases hentry : tree.hasEntry path
  · rw [canonicalOr_eq_pathOf hentry]
    exact isAbsolute_pathOf _
  · rwa [canonicalOr_eq_self hentry]

/-- The path of a place is canonical, whether anything lies there or not. -/
theorem canonicalOr_pathOf (h : ∀ name ∈ place, IsName name) :
    tree.canonicalOr (pathOf place) = pathOf place := by
  by_cases hentry : tree.hasEntry (pathOf place)
  · rw [canonicalOr_eq_pathOf hentry, placeOf_pathOf h]
  · exact canonicalOr_eq_self hentry

/-- What is found in two trees has one canonical path. -/
theorem canonicalOr_congr (hcurrent : tree₁.current = tree.current) (h : tree.hasEntry path)
    (h₁ : tree₁.hasEntry path) : tree₁.canonicalOr path = tree.canonicalOr path := by
  rw [canonicalOr_eq_pathOf h, canonicalOr_eq_pathOf h₁, placeOf_congr hcurrent]

end FileTree

end StaticSite
