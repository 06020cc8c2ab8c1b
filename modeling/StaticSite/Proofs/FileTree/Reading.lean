import StaticSite.Proofs.FileTree.Place

/-!
# Reading file trees

In a tree whose files all lie in directories, a path that goes up first and then only down reads the
file at the place it names, however it is written (`read_eq_ok_iff`). So what such a path reads
depends on this place alone.
-/

namespace StaticSite.FileTree

open StaticSite.Path

variable {tree : FileTree} {path : Path} {start place : Place} {components front lead : List Component}
  {name : String} {names : List String} {content : Content} {entry : Entry}

/-- Whether a tree holds one entry at a place, and all that it holds lies in directories and has the
names of files, as the current directory has. -/
structure Closed (tree : FileTree) : Prop where
  distinct : (tree.entries.map Prod.fst).Nodup
  isName : ∀ place entry, tree.get? place = some entry → ∀ name ∈ place, IsName name
  parent : ∀ place entry, tree.get? place = some entry → tree.get? place.dropLast = some .directory
  currentName : ∀ name ∈ tree.current, IsName name

/-- Whether, moreover, the current directory is there. -/
structure WellFormed (tree : FileTree) : Prop extends tree.Closed where
  current : tree.get? tree.current = some .directory

@[simp] theorem get?_nil (tree : FileTree) : tree.get? [] = some .directory := rfl

@[simp] theorem file?_nil (tree : FileTree) : tree.file? [] = none := rfl

theorem file?_of_directory (h : tree.get? place = some .directory) : tree.file? place = none := by
  rw [file?, h]

theorem isSome_get?_of_file? (h : (tree.file? place).isSome) : (tree.get? place).isSome := by
  obtain ⟨content, hget⟩ := isSome_file?_iff.mp h
  exact Option.isSome_of_eq_some hget

/-- What lies at a place is known by its file and by whether it is a directory. -/
theorem get?_eq_of_file? {tree₁ : FileTree} (hfile : tree₁.file? place = tree.file? place)
    (hdirectory : tree₁.get? place = some .directory ↔ tree.get? place = some .directory) :
    tree₁.get? place = tree.get? place := by
  refine Option.ext fun entry ↦ ?_
  cases entry with
  | directory => exact hdirectory
  | file content => rw [← file?_eq_some_iff, hfile, file?_eq_some_iff]

theorem get?_eq_none_of_file? (hfile : tree.file? place = none)
    (hdirectory : tree.get? place ≠ some .directory) : tree.get? place = none := by
  refine Option.eq_none_iff_forall_ne_some.mpr fun entry hget ↦ ?_
  cases entry with
  | directory => exact hdirectory hget
  | file content => simp [file?_eq_some_iff.mpr hget] at hfile

/-! ## Lookups -/

theorem lookup_eq_ok_iff : tree.lookup path = .ok (place, entry) ↔
    tree.locate path = .ok place ∧ tree.get? place = some entry := by
  rw [lookup]
  cases hlocate : tree.locate path with
  | error fault => simp
  | ok found =>
    cases hget : tree.get? found with
    | none =>
      have hne : found = place → tree.get? place ≠ some entry := by
        rintro rfl
        simp [hget]
      simpa [hget] using hne
    | some other =>
      have hsame : found = place → (tree.get? place = some entry ↔ other = entry) := by
        rintro rfl
        simp [hget]
      simpa [hget] using fun h ↦ (hsame h).symm

/-- The way to a directory is passable, and so is the directory. -/
theorem lookup_eq_directory_iff : tree.lookup path = .ok (place, .directory) ↔
    path.text ≠ "" ∧ tree.Passable tree.current path.components ∧ place = tree.placeOf path ∧
      tree.get? place = some .directory := by
  rw [lookup_eq_ok_iff]
  by_cases hpath : path.IsFilePath
  · obtain ⟨before, name, hfields, hname⟩ := id hpath
    obtain ⟨components, hcomponents⟩ := components_of_fields hfields hname
    have htext : path.text ≠ "" := text_ne_empty (by simp [hcomponents])
    rw [locate_eq_ok_iff hpath hcomponents, hcomponents, passable_append, passable_name]
    have hplace : placeFrom tree.current components ++ [name] = tree.placeOf path := by
      rw [placeOf, hcomponents, placeFrom_append]
      rfl
    rw [hplace]
    constructor
    · rintro ⟨⟨hpassable, rfl⟩, hget⟩
      exact ⟨htext, ⟨hpassable, hget⟩, rfl, hget⟩
    · rintro ⟨-, ⟨hpassable, -⟩, rfl, hget⟩
      exact ⟨⟨hpassable, rfl⟩, hget⟩
  · rw [locate_eq_ok_iff_of_not hpath, and_assoc, and_assoc]

theorem isDirectory_iff : tree.isDirectory path ↔
    path.text ≠ "" ∧ tree.Passable tree.current path.components ∧
      tree.get? (tree.placeOf path) = some .directory := by
  have hlookup : tree.isDirectory path ↔ ∃ place, tree.lookup path = .ok (place, .directory) := by
    rw [isDirectory]
    split
    · next place h => simp [h]
    · next hnot => simpa using fun place h ↦ hnot place h
  simp [hlookup, lookup_eq_directory_iff]

/-- A name in a directory leads to a directory if one lies under that name. -/
theorem isDirectory_join_name {directory : Path} (hdirectory : tree.isDirectory directory)
    (hname : IsName name) : tree.isDirectory (directory.join ⟨name⟩) ↔
      tree.get? (tree.placeOf directory ++ [name]) = some .directory := by
  obtain ⟨htext, hpassable, -⟩ := isDirectory_iff.mp hdirectory
  have hcomponents := components_join_name htext hname
  have htext' : (directory.join ⟨name⟩).text ≠ "" := text_ne_empty (by simp [hcomponents])
  rw [isDirectory_iff, placeOf_join_name htext hname, hcomponents, passable_append, passable_name]
  exact ⟨fun h ↦ h.2.2, fun h ↦ ⟨htext', ⟨hpassable, h⟩, h⟩⟩

theorem list_eq_ok_iff {listed : List String} : tree.list path = .ok listed ↔
    path.text ≠ "" ∧ tree.Passable tree.current path.components ∧
      tree.get? (tree.placeOf path) = some .directory ∧
      tree.namesIn (tree.placeOf path) = listed := by
  have hlookup : tree.list path = .ok listed ↔
      ∃ place, tree.lookup path = .ok (place, .directory) ∧ tree.namesIn place = listed := by
    rw [list]
    split
    · next fault h => simp [h]
    · next place content h => simp [h]
    · next place h => simp [h]
  simp [hlookup, lookup_eq_directory_iff, and_assoc]

theorem read_eq_ok_iff_lookup : tree.read path = .ok content ↔
    ∃ place, tree.lookup path = .ok (place, .file content) := by
  rw [read]
  split
  · next fault h => simp [h]
  · next place h => simp [h]
  · next place found h => simp [h]

theorem hasEntry_of_read (h : tree.read path = .ok content) : tree.hasEntry path := by
  obtain ⟨place, hlookup⟩ := read_eq_ok_iff_lookup.mp h
  rw [hasEntry, hlookup]
  rfl

/-- A path leads to something only if it lies at the place of the path. -/
theorem isSome_get?_of_hasEntry (h : tree.hasEntry path) :
    (tree.get? (tree.placeOf path)).isSome := by
  rw [hasEntry] at h
  cases hlookup : tree.lookup path with
  | error fault => simp [hlookup, Except.isOk, Except.toBool] at h
  | ok found =>
    obtain ⟨hlocate, hget⟩ := lookup_eq_ok_iff.mp hlookup
    rw [← placeOf_of_locate hlocate, hget]
    rfl

/-- What a path reads lies at the place of the path. -/
theorem file?_of_read (h : tree.read path = .ok content) :
    tree.file? (tree.placeOf path) = some content := by
  obtain ⟨place, hlookup⟩ := read_eq_ok_iff_lookup.mp h
  obtain ⟨hlocate, hget⟩ := lookup_eq_ok_iff.mp hlookup
  rwa [file?_eq_some_iff, ← placeOf_of_locate hlocate]

theorem isFile_iff_lookup :
    tree.isFile path ↔ ∃ place content, tree.lookup path = .ok (place, .file content) := by
  rw [isFile]
  split
  · next place content h => simp [h]
  · next h => simpa using fun place content ↦ h place content

/-- No path is that of a file and of a directory. -/
theorem isDirectory_of_isFile (h : tree.isFile path) : tree.isDirectory path = false := by
  obtain ⟨place, content, hlookup⟩ := isFile_iff_lookup.mp h
  rw [isDirectory, hlookup]

/-- A file lies at the place of its path. -/
theorem isSome_file?_of_isFile (h : tree.isFile path) : (tree.file? (tree.placeOf path)).isSome := by
  obtain ⟨place, content, hlookup⟩ := isFile_iff_lookup.mp h
  rw [file?_of_read (read_eq_ok_iff_lookup.mpr ⟨place, hlookup⟩)]
  rfl

section FilePath

variable (hpath : path.IsFilePath) (hcomponents : path.components = components ++ [.normal name])
  (hpassable : tree.Passable tree.current components)

include hpath hcomponents hpassable

theorem lookup_of_passable : tree.lookup path = .ok (place, entry) ↔
    place = tree.placeOf path ∧ tree.get? place = some entry := by
  rw [lookup_eq_ok_iff, locate_eq_ok_iff hpath hcomponents]
  simp [hpassable]

theorem read_of_passable : tree.read path = .ok content ↔
    tree.file? (tree.placeOf path) = some content := by
  simp [read_eq_ok_iff_lookup, lookup_of_passable hpath hcomponents hpassable, file?_eq_some_iff]

theorem isFile_of_passable : tree.isFile path ↔ (tree.file? (tree.placeOf path)).isSome := by
  rw [isFile, lookup, (locate_eq_ok_iff hpath hcomponents).mpr ⟨hpassable, rfl⟩, file?]
  cases hget : tree.get? (tree.placeOf path) with
  | none => simp [hget]
  | some entry => cases entry <;> simp [hget]

end FilePath

/-! ## Closed trees -/

private theorem mem_of_find? {entries : List (Place × Entry)} (h : find? place entries = some entry) :
    (place, entry) ∈ entries := by
  induction entries with
  | nil => simp [find?] at h
  | cons first rest ih =>
    obtain ⟨p, other⟩ := first
    rw [find?] at h
    split_ifs at h with hp
    · rw [hp, Option.some.inj h]
      exact List.mem_cons_self
    · exact List.mem_cons_of_mem _ (ih h)

/-- Below the root only what is among the entries is found. -/
theorem mem_entries_of_get? (hplace : place ≠ []) (h : tree.get? place = some entry) :
    (place, entry) ∈ tree.entries := by
  rw [get?, if_neg hplace] at h
  exact mem_of_find? h

/-- A tree is closed if its entries have places of their own, lie in directories and have the names
of files. -/
theorem Closed.of_entries (hdistinct : (tree.entries.map Prod.fst).Nodup)
    (h : ∀ item ∈ tree.entries,
      (∀ name ∈ item.1, IsName name) ∧ tree.get? item.1.dropLast = some .directory)
    (hcurrent : ∀ name ∈ tree.current, IsName name) : tree.Closed := by
  refine ⟨hdistinct, ?_, ?_, hcurrent⟩
  · intro place entry hget name hname
    exact (h _ (mem_entries_of_get? (List.ne_nil_of_mem hname) hget)).1 name hname
  · intro place entry hget
    by_cases hplace : place = []
    · rw [hplace]
      rfl
    · exact (h _ (mem_entries_of_get? hplace hget)).2

/-- What lies above something is a directory. -/
theorem Closed.directory_of_isPrefix (h : tree.Closed) {above below : Place}
    (hbelow : tree.get? below = some entry) (hbegins : above <+: below) (hne : above ≠ below) :
    tree.get? above = some .directory := by
  obtain ⟨names, rfl⟩ := hbegins
  induction names using List.reverseRecOn generalizing entry with
  | nil => simp at hne
  | append_singleton names name ih =>
    have hparent := h.parent _ _ hbelow
    rw [← List.append_assoc, List.dropLast_concat] at hparent
    by_cases hnil : names = []
    · simpa [hnil] using hparent
    · exact ih hparent (by simpa using hnil)

/-- Something lies wherever the way to something leads. -/
theorem Closed.isSome_of_isPrefix (h : tree.Closed) {above below : Place}
    (hbelow : tree.get? below = some entry) (hbegins : above <+: below) :
    (tree.get? above).isSome := by
  by_cases hsame : above = below
  · exact Option.isSome_of_eq_some (hsame ▸ hbelow)
  · exact Option.isSome_of_eq_some (h.directory_of_isPrefix hbelow hbegins hsame)

/-- The way down to something is passable. -/
theorem Closed.passable_names (h : tree.Closed) (hget : tree.get? (start ++ names ++ [name]) = some entry) :
    tree.Passable start (names.map .normal) := by
  induction names using List.reverseRecOn generalizing name entry with
  | nil => trivial
  | append_singleton names last ih =>
    have hdirectory := h.parent _ _ hget
    rw [List.dropLast_concat, ← List.append_assoc] at hdirectory
    rw [List.map_append, passable_append]
    refine ⟨ih hdirectory, ?_⟩
    rw [List.map_singleton, passable_name, placeFrom_names]
    exact hdirectory

/-- What lies at a place is found by the path of the place. -/
theorem Closed.lookup_pathOf (h : tree.Closed) (hget : tree.get? place = some entry) :
    tree.lookup (pathOf place) = .ok (place, entry) := by
  have hnames := h.isName _ _ hget
  have hcomponents := components_pathOf hnames
  rcases List.eq_nil_or_concat' place with rfl | ⟨front, name, rfl⟩
  · exact lookup_eq_ok_iff.mpr ⟨rfl, hget⟩
  rw [List.map_append, List.map_singleton, ← List.cons_append] at hcomponents
  have hdown : tree.get? ([] ++ front ++ [name]) = some entry := hget
  have hpassable : tree.Passable tree.current (.root :: front.map .normal) :=
    ⟨by simp, h.passable_names hdown⟩
  exact (lookup_of_passable (isFilePath_pathOf hnames) hcomponents hpassable).mpr
    ⟨(placeOf_pathOf hnames).symm, hget⟩

/-- The path of a file that goes up first and then only down leads to what lies at its place. -/
theorem Closed.hasEntry_iff (h : tree.Closed) (hpath : path.IsFilePath)
    (hcomponents : path.components = lead ++ names.map .normal)
    (hlead : ∀ name, .normal name ∉ lead) :
    tree.hasEntry path ↔ (tree.get? (tree.placeOf path)).isSome := by
  refine ⟨isSome_get?_of_hasEntry, fun hsome ↦ ?_⟩
  obtain ⟨entry, hget⟩ := Option.isSome_iff_exists.mp hsome
  obtain ⟨before, last, hfields, hname⟩ := id hpath
  obtain ⟨front, hfront⟩ := components_of_fields hfields hname
  rcases List.eq_nil_or_concat' names with rfl | ⟨names, name, rfl⟩
  · have hmem : .normal last ∈ path.components := by simp [hfront]
    rw [hcomponents, List.map_nil, List.append_nil] at hmem
    exact absurd hmem (hlead last)
  rw [List.map_append, List.map_singleton, ← List.append_assoc] at hcomponents
  have hplace : tree.placeOf path = placeFrom tree.current lead ++ names ++ [name] := by
    rw [placeOf, hcomponents, placeFrom_append, placeFrom_append_names]
    rfl
  have hpassable : tree.Passable tree.current (lead ++ names.map .normal) :=
    passable_append.mpr ⟨passable_of_notMem hlead, h.passable_names (hplace ▸ hget)⟩
  have hlookup := (lookup_of_passable hpath hcomponents hpassable).mpr ⟨rfl, hget⟩
  rw [hasEntry, hlookup]
  rfl

/-- A path that, behind a passable front, goes up and then only down reads the file at its place. -/
theorem Closed.read_eq_ok_iff (h : tree.Closed)
    (hcomponents : path.components = front ++ (lead ++ names.map .normal))
    (hlead : ∀ name, .normal name ∉ lead) (hpassable : tree.Passable tree.current front)
    (hnames : names = [] → tree.file? (tree.placeOf path) = none) :
    tree.read path = .ok content ↔
      path.IsFilePath ∧ tree.file? (tree.placeOf path) = some content := by
  have hplace : tree.placeOf path =
      placeFrom (placeFrom tree.current front) lead ++ names := by
    rw [placeOf, hcomponents, placeFrom_append, placeFrom_append_names]
  have hfront : tree.Passable tree.current (front ++ lead) :=
    passable_append.mpr ⟨hpassable, passable_of_notMem hlead⟩
  constructor
  · intro hread
    have hfile := file?_of_read hread
    refine ⟨by_contra fun hpath ↦ ?_, hfile⟩
    -- Such a path leads to a directory, or it goes up to the very end.
    rcases List.eq_nil_or_concat' names with rfl | ⟨names, name, rfl⟩
    · simp [hnames rfl] at hfile
    · obtain ⟨place, hlookup⟩ := read_eq_ok_iff_lookup.mp hread
      obtain ⟨hlocate, hget⟩ := lookup_eq_ok_iff.mp hlookup
      obtain ⟨-, hall, rfl⟩ := (locate_eq_ok_iff_of_not hpath).mp hlocate
      rw [hcomponents, ← List.append_assoc, List.map_append, ← List.append_assoc,
        passable_append, List.map_singleton, passable_name, placeFrom_append, placeFrom_append,
        placeFrom_names] at hall
      have hlast := hall.2
      rw [List.append_assoc, ← hplace, hget] at hlast
      simp at hlast
  · rintro ⟨hpath, hfile⟩
    rcases List.eq_nil_or_concat' names with rfl | ⟨names, name, rfl⟩
    · simp [hnames rfl] at hfile
    · have hget := file?_eq_some_iff.mp hfile
      rw [hplace, ← List.append_assoc] at hget
      have hsplit : path.components = (front ++ lead ++ names.map .normal) ++ [.normal name] := by
        rw [hcomponents]
        simp
      refine (read_of_passable hpath hsplit ?_).mpr hfile
      rw [passable_append, placeFrom_append]
      exact ⟨hfront, h.passable_names hget⟩

end StaticSite.FileTree
