import StaticSite.Proofs.Path.Order
import StaticSite.Proofs.Site.Stage

/-!
# Walks through the content

A walk through the content that succeeds finds the paths of all content files that are not hidden,
and nothing else, each of them once and in the order of their names (`lists_contentFiles`).
-/

namespace StaticSite

open StaticSite.Path

namespace FileTree

variable {tree : FileTree} {place : Place} {name : String}

private theorem find?_isSome_iff {entries : List (Place × Entry)} :
    (find? place entries).isSome ↔ ∃ entry, (place, entry) ∈ entries := by
  induction entries with
  | nil => simp [find?]
  | cons first rest ih =>
    obtain ⟨p, entry⟩ := first
    by_cases hp : p = place
    · simp only [find?, hp, if_true, Option.isSome_some, true_iff]
      exact ⟨entry, List.mem_cons_self⟩
    · rw [find?, if_neg hp, ih]
      simp [Ne.symm hp]

/-- The name that a place has in a directory. -/
private theorem nameIn_eq_some_iff {directory : Place} : (if directory.isPrefixOf place then
      match place.drop directory.length with
      | [name] => some name
      | _ => none
    else none) = some name ↔ place = directory ++ [name] := by
  constructor
  · intro h
    split_ifs at h with hbegins
    split at h
    · next last hdrop =>
      obtain rfl := Option.some.inj h
      obtain ⟨rest, rfl⟩ := List.isPrefixOf_iff_prefix.mp hbegins
      rw [List.drop_left] at hdrop
      rw [hdrop]
    · simp at h
  · rintro rfl
    simp

/-- The names in a directory are those under which something lies there. -/
theorem mem_namesIn_iff : name ∈ tree.namesIn place ↔ (tree.get? (place ++ [name])).isSome := by
  rw [get?, if_neg (by simp), find?_isSome_iff, namesIn]
  simp only [List.mem_filterMap, Prod.exists]
  constructor
  · rintro ⟨found, entry, hmem, hname⟩
    exact ⟨entry, nameIn_eq_some_iff.mp hname ▸ hmem⟩
  · rintro ⟨entry, hmem⟩
    exact ⟨place ++ [name], entry, hmem, nameIn_eq_some_iff.mpr rfl⟩

/-- The next name on the way to something stands in the directory. -/
theorem Closed.mem_namesIn {rest : List String} {entry : Entry} (h : tree.Closed)
    (hget : tree.get? (place ++ name :: rest) = some entry) : name ∈ tree.namesIn place :=
  mem_namesIn_iff.mpr (h.isSome_of_isPrefix hget ⟨rest, by simp⟩)

theorem Closed.isName_of_mem_namesIn (h : tree.Closed) (hmem : name ∈ tree.namesIn place) :
    IsName name := by
  obtain ⟨entry, hget⟩ := Option.isSome_iff_exists.mp (mem_namesIn_iff.mp hmem)
  exact h.isName _ _ hget name (by simp)

/-- No name stands in a directory twice. -/
theorem Closed.nodup_namesIn (h : tree.Closed) : (tree.namesIn place).Nodup := by
  have hentries : tree.entries.Pairwise fun a b ↦ a.1 ≠ b.1 := List.pairwise_map.mp h.distinct
  rw [namesIn, List.Nodup, List.pairwise_filterMap]
  refine hentries.imp fun {a b} hne name hname name' hname' hsame ↦ hne ?_
  rw [nameIn_eq_some_iff.mp hname, nameIn_eq_some_iff.mp hname', hsame]

/-- No place of a tree lies deeper than its depth. -/
theorem length_le_depth (h : (tree.get? place).isSome) : place.length ≤ tree.depth := by
  have hfold (entries : List (Place × Entry)) (start : Nat) :
      start ≤ entries.foldl (fun d e ↦ max d e.1.length) start ∧
        ∀ e ∈ entries, e.1.length ≤ entries.foldl (fun d e ↦ max d e.1.length) start := by
    induction entries generalizing start with
    | nil => simp
    | cons first entries ih =>
      obtain ⟨hstart, hrest⟩ := ih (max start first.1.length)
      simp only [List.foldl_cons, List.forall_mem_cons]
      exact ⟨(le_max_left _ _).trans hstart, (le_max_right _ _).trans hstart, hrest⟩
  by_cases hnil : place = []
  · simp [hnil]
  · rw [get?, if_neg hnil, find?_isSome_iff] at h
    obtain ⟨entry, hmem⟩ := h
    exact (hfold tree.entries 0).2 _ hmem

/-- If no walk into a directory below fails, the walk through the entries does not. -/
private theorem exists_walkNames {depth : Nat} {directory : Path} {listed : List String}
    (hlisted : ∀ name ∈ listed, IsName name)
    (hwalk : ∀ name, IsName name → tree.isDirectory (directory.join ⟨name⟩) →
      ∃ files, tree.walk depth (directory.join ⟨name⟩) = .ok files) :
    ∃ files, tree.walkNames depth directory listed = .ok files := by
  induction listed with
  | nil => exact ⟨[], by rw [walkNames]⟩
  | cons name listed ih =>
    obtain ⟨hname, hlisted⟩ := List.forall_mem_cons.mp hlisted
    obtain ⟨more, hmore⟩ := ih hlisted
    rw [walkNames]
    by_cases hhidden : isHiddenName name
    · exact ⟨more, by rw [if_pos hhidden, hmore]⟩
    obtain ⟨here, hhere⟩ : ∃ here, (if tree.isDirectory (directory.join ⟨name⟩) then
        tree.walk depth (directory.join ⟨name⟩) else .ok [directory.join ⟨name⟩]) = .ok here := by
      split_ifs with hbelow
      · exact hwalk name hname hbelow
      · exact ⟨_, rfl⟩
    refine ⟨here ++ more, ?_⟩
    rw [if_neg hhidden]
    simp only [hhere, hmore]

/-- A walk into directories that are not too deep for it does not fail. -/
private theorem exists_walk {depth : Nat} {directory : Path} (hclosed : tree.Closed)
    (hdirectory : tree.isDirectory directory)
    (hdepth : tree.depth < (tree.placeOf directory).length + depth) :
    ∃ files, tree.walk depth directory = .ok files := by
  obtain ⟨htext, hpassable, hget⟩ := isDirectory_iff.mp hdirectory
  induction depth generalizing directory with
  | zero => exact absurd (length_le_depth (Option.isSome_of_eq_some hget)) (by omega)
  | succ depth ih =>
    rw [walk, list_eq_ok_iff.mpr ⟨htext, hpassable, hget, rfl⟩]
    refine exists_walkNames (fun name ↦ hclosed.isName_of_mem_namesIn) fun name hname hbelow ↦ ?_
    obtain ⟨htext', hpassable', hget'⟩ := isDirectory_iff.mp hbelow
    refine ih hbelow ?_ htext' hpassable' hget'
    rw [placeOf_join_name htext hname, List.length_append, List.length_singleton]
    omega

/-- A walk through a directory does not fail. -/
theorem Closed.exists_contentFiles {directory : Path} (h : tree.Closed)
    (hdirectory : tree.isDirectory directory) : ∃ files, tree.contentFiles directory = .ok files := by
  obtain ⟨files, hfiles⟩ : ∃ files, tree.walk (tree.depth + 1) directory = .ok files :=
    exists_walk h hdirectory (by omega)
  exact ⟨Path.sorted files, by rw [contentFiles, hfiles]; rfl⟩

end FileTree

namespace Builder

variable {builder : Builder} {base tree : FileTree} {file : ContentName} {path directory : Path}
  {names listed : List String} {files : List Path}

/-- Whether some paths are those of the content files below a directory that are not hidden from
there on, the next name being one of a list, each of them once. -/
structure Finds (builder : Builder) (tree : FileTree) (names listed : List String)
    (files : List Path) : Prop where
  sound : ∀ path ∈ files, ∃ file name rest, file.names = names ++ name :: rest ∧ name ∈ listed ∧
    builder.IsPathOf file path ∧ (∀ n ∈ name :: rest, ¬ isHiddenName n) ∧
      (tree.file? (builder.placeOf tree file)).isSome
  complete : ∀ file name rest, file.names = names ++ name :: rest → name ∈ listed →
    (∀ n ∈ name :: rest, ¬ isHiddenName n) →
      (tree.file? (builder.placeOf tree file)).isSome → ∃ path ∈ files, builder.IsPathOf file path
  distinct : files.Pairwise fun a b ↦ a.components ≠ b.components

theorem Finds.nil : builder.Finds tree names [] [] :=
  ⟨by simp, by simp, .nil⟩

/-- The files below the first name come before those below the others. -/
theorem Finds.cons {name : String} {here more : List Path} (hname : name ∉ listed)
    (hhere : builder.Finds tree names [name] here) (hmore : builder.Finds tree names listed more) :
    builder.Finds tree names (name :: listed) (here ++ more) := by
  refine ⟨?_, ?_, List.pairwise_append.mpr ⟨hhere.distinct, hmore.distinct, ?_⟩⟩
  · intro path hpath
    rcases List.mem_append.mp hpath with hpath | hpath
    · obtain ⟨file, found, rest, hfile, hfound, hrest⟩ := hhere.sound path hpath
      exact ⟨file, found, rest, hfile, List.mem_cons.mpr (Or.inl (List.mem_singleton.mp hfound)),
        hrest⟩
    · obtain ⟨file, found, rest, hfile, hfound, hrest⟩ := hmore.sound path hpath
      exact ⟨file, found, rest, hfile, List.mem_cons_of_mem _ hfound, hrest⟩
  · intro file found rest hfile hfound hhidden hsome
    rcases List.mem_cons.mp hfound with rfl | hfound
    · obtain ⟨path, hpath, hof⟩ :=
        hhere.complete file found rest hfile List.mem_cons_self hhidden hsome
      exact ⟨path, List.mem_append_left _ hpath, hof⟩
    · obtain ⟨path, hpath, hof⟩ := hmore.complete file found rest hfile hfound hhidden hsome
      exact ⟨path, List.mem_append_right _ hpath, hof⟩
  · intro path hpath path' hpath' hsame
    obtain ⟨file, found, rest, hfile, hfound, hof, -⟩ := hhere.sound path hpath
    obtain ⟨file', found', rest', hfile', hfound', hof', -⟩ := hmore.sound path' hpath'
    obtain rfl := hof.file_eq_of_same hof' hsame
    obtain ⟨rfl, -⟩ := List.cons.inj (List.append_cancel_left (hfile.symm.trans hfile'))
    exact hname (List.mem_singleton.mp hfound ▸ hfound')

/-- Nothing is found under a hidden name. -/
theorem Finds.skip {name : String} (hname : name ∉ listed) (hhidden : isHiddenName name)
    (hmore : builder.Finds tree names listed files) :
    builder.Finds tree names (name :: listed) files := by
  have hnil : builder.Finds tree names [name] [] := by
    refine ⟨by simp, fun file found rest _ hfound hnot ↦ ?_, .nil⟩
    rw [List.mem_singleton.mp hfound] at hnot
    exact absurd hhidden (hnot name List.mem_cons_self)
  exact hnil.cons hname hmore

section Entries

variable {name : String} (hclosed : tree.Closed)

include hclosed

/-- What is found under the name of a file is this file. -/
theorem Finds.of_file {content : Content}
    (hcomponents : directory.components =
      builder.paths.content.components ++ names.map .normal)
    (htext : directory.text ≠ "") (hhidden : ¬ isHiddenName name)
    (hget : tree.get? (builder.contentPlace tree ++ names ++ [name]) = some (.file content)) :
    builder.Finds tree names [name] [directory.join ⟨name⟩] := by
  have hname : IsName name := hclosed.isName _ _ hget name (by simp)
  have hpath : builder.IsPathOf ⟨names, name⟩ (directory.join ⟨name⟩) :=
    isPathOf_join hcomponents htext hname
  refine ⟨?_, ?_, List.pairwise_singleton _ _⟩
  · intro path hmem
    obtain rfl := List.mem_singleton.mp hmem
    refine ⟨⟨names, name⟩, name, [], rfl, List.mem_cons_self, hpath, by simpa using hhidden, ?_⟩
    rw [Builder.placeOf, ContentName.names, ← List.append_assoc, FileTree.file?, hget]
    rfl
  · intro file found rest hfile hfound hnot hsome
    obtain rfl := List.mem_singleton.mp hfound
    obtain ⟨other, hother⟩ := FileTree.isSome_file?_iff.mp hsome
    rw [Builder.placeOf, hfile] at hother
    rcases List.eq_nil_or_concat' rest with rfl | ⟨rest, last, rfl⟩
    · refine ⟨_, List.mem_cons_self, ?_⟩
      obtain ⟨own, last⟩ := file
      obtain ⟨rfl, hlast⟩ := List.append_inj' (show own ++ [last] = names ++ [found] from hfile) rfl
      obtain rfl : last = found := by simpa using hlast
      exact hpath
    · -- Nothing lies below a file.
      have hdirectory : tree.get? (builder.contentPlace tree ++ names ++ [found]) =
          some .directory :=
        hclosed.directory_of_isPrefix hother ⟨rest ++ [last], by simp⟩ (by simp)
      rw [hget] at hdirectory
      simp at hdirectory

/-- What is found under the name of a directory is what is found in this directory. -/
theorem Finds.of_directory (hhidden : ¬ isHiddenName name)
    (hget : tree.get? (builder.contentPlace tree ++ names ++ [name]) = some .directory)
    (hfinds : builder.Finds tree (names ++ [name])
      (tree.namesIn (builder.contentPlace tree ++ (names ++ [name]))) files) :
    builder.Finds tree names [name] files := by
  refine ⟨?_, ?_, hfinds.distinct⟩
  · intro path hmem
    obtain ⟨file, found, rest, hfile, -, hpath, hnot, hsome⟩ := hfinds.sound path hmem
    refine ⟨file, name, found :: rest, by rw [hfile]; simp, List.mem_cons_self, hpath, ?_, hsome⟩
    exact List.forall_mem_cons.mpr ⟨hhidden, hnot⟩
  · intro file found rest hfile hfound hnot hsome
    obtain rfl := List.mem_singleton.mp hfound
    obtain ⟨content, hplace⟩ := FileTree.isSome_file?_iff.mp hsome
    rw [Builder.placeOf, hfile] at hplace
    cases rest with
    | nil =>
      rw [← List.append_assoc, hget] at hplace
      simp at hplace
    | cons next rest =>
      rw [show names ++ found :: next :: rest = names ++ [found] ++ next :: rest by simp,
        ← List.append_assoc] at hplace
      exact hfinds.complete file next rest (by rw [hfile]; simp) (hclosed.mem_namesIn hplace)
        (fun n hn ↦ hnot n (List.mem_cons_of_mem _ hn)) hsome

end Entries

private theorem finds_walkNames {depth : Nat} (hclosed : tree.Closed)
    (hwalk : ∀ directory names files, directory.components =
        builder.paths.content.components ++ names.map .normal → directory.text ≠ "" →
      tree.walk depth directory = .ok files →
        builder.Finds tree names (tree.namesIn (builder.contentPlace tree ++ names)) files)
    (hcomponents : directory.components =
      builder.paths.content.components ++ names.map .normal)
    (hdirectory : tree.isDirectory directory)
    (hlisted : ∀ name ∈ listed, name ∈ tree.namesIn (builder.contentPlace tree ++ names))
    (hdistinct : listed.Nodup) (h : tree.walkNames depth directory listed = .ok files) :
    builder.Finds tree names listed files := by
  induction listed generalizing files with
  | nil =>
    rw [FileTree.walkNames] at h
    obtain rfl := Except.ok.inj h
    exact .nil
  | cons name listed ih =>
    have hrest := fun name hname ↦ hlisted name (List.mem_cons_of_mem _ hname)
    obtain ⟨hnot, hdistinct⟩ := List.nodup_cons.mp hdistinct
    rw [FileTree.walkNames] at h
    by_cases hhidden : isHiddenName name
    · rw [if_pos hhidden] at h
      exact (ih hrest hdistinct h).skip hnot hhidden
    rw [if_neg hhidden] at h
    have hmem := hlisted name List.mem_cons_self
    have hname := hclosed.isName_of_mem_namesIn hmem
    obtain ⟨entry, hget⟩ := Option.isSome_iff_exists.mp (FileTree.mem_namesIn_iff.mp hmem)
    have htext := (FileTree.isDirectory_iff.mp hdirectory).1
    have hjoin : (directory.join ⟨name⟩).components =
        builder.paths.content.components ++ (names ++ [name]).map .normal := by
      rw [components_join_name htext hname, hcomponents]
      simp
    have hbelow : tree.isDirectory (directory.join ⟨name⟩) ↔ entry = .directory := by
      have hplace : tree.placeOf directory = builder.contentPlace tree ++ names :=
        FileTree.placeOf_of_components hcomponents
      rw [FileTree.isDirectory_join_name hdirectory hname, hplace, hget, Option.some.injEq]
    simp only at h
    cases hhere : (if tree.isDirectory (directory.join ⟨name⟩) then
        tree.walk depth (directory.join ⟨name⟩) else .ok [directory.join ⟨name⟩]) with
    | error e => simp [hhere] at h
    | ok here =>
      simp only [hhere] at h
      split at h
      · simp at h
      next more hmore =>
        obtain rfl := Except.ok.inj h
        refine .cons hnot ?_ (ih hrest hdistinct hmore)
        by_cases hentryDirectory : entry = .directory
        · rw [if_pos (hbelow.mpr hentryDirectory)] at hhere
          exact .of_directory hclosed hhidden (hentryDirectory ▸ hget)
            (hwalk _ _ _ hjoin (text_ne_empty (by simp [hjoin])) hhere)
        · rw [if_neg (mt hbelow.mp hentryDirectory)] at hhere
          obtain rfl := Except.ok.inj hhere
          cases entry with
          | directory => exact absurd rfl hentryDirectory
          | file content => exact .of_file hclosed hcomponents htext hhidden hget

/-- A walk finds the content files below a directory that are not hidden from there on. -/
private theorem finds_walk {depth : Nat} (hclosed : tree.Closed)
    (hcomponents : directory.components =
      builder.paths.content.components ++ names.map .normal)
    (htext : directory.text ≠ "") (h : tree.walk depth directory = .ok files) :
    builder.Finds tree names (tree.namesIn (builder.contentPlace tree ++ names)) files := by
  induction depth generalizing directory names files with
  | zero => simp [FileTree.walk] at h
  | succ depth ih =>
    rw [FileTree.walk] at h
    split at h
    · simp at h
    next listed hlist =>
      obtain ⟨-, hpassable, hget, rfl⟩ := FileTree.list_eq_ok_iff.mp hlist
      have hdirectory := FileTree.isDirectory_iff.mpr ⟨htext, hpassable, hget⟩
      have hplace : tree.placeOf directory = builder.contentPlace tree ++ names :=
        FileTree.placeOf_of_components hcomponents
      rw [hplace] at h
      exact finds_walkNames hclosed (fun _ _ _ hcomponents htext h ↦ ih hcomponents htext h)
        hcomponents hdirectory (fun _ hname ↦ hname) hclosed.nodup_namesIn h

/-- Whether some paths are those of the content files that are not hidden, in their order. -/
structure Lists (builder : Builder) (tree : FileTree) (files : List Path) : Prop where
  sound : ∀ path ∈ files, ∃ file, builder.IsPathOf file path ∧ ¬ file.IsHidden ∧
    (tree.file? (builder.placeOf tree file)).isSome
  complete : ∀ file, ¬ file.IsHidden → (tree.file? (builder.placeOf tree file)).isSome →
    ∃ path ∈ files, builder.IsPathOf file path
  ordered : files.Pairwise fun a b ↦ a.precedes b

/-- A walk that succeeds begins at a directory. -/
theorem isDirectory_of_contentFiles (h : tree.contentFiles directory = .ok files) :
    tree.isDirectory directory := by
  rw [FileTree.contentFiles] at h
  obtain ⟨found, hwalk, -⟩ := exists_of_map_eq_ok h
  rw [FileTree.walk] at hwalk
  split at hwalk
  · simp at hwalk
  next listed hlist =>
    obtain ⟨htext, hpassable, hget, -⟩ := FileTree.list_eq_ok_iff.mp hlist
    exact FileTree.isDirectory_iff.mpr ⟨htext, hpassable, hget⟩

theorem passable_of_contentFiles (h : tree.contentFiles directory = .ok files) :
    tree.Passable tree.current directory.components :=
  (FileTree.isDirectory_iff.mp (isDirectory_of_contentFiles h)).2.1

/-- A walk through the content finds the content files that are not hidden, in their order. -/
theorem lists_contentFiles (hclosed : tree.Closed) (htext : builder.paths.content.text ≠ "")
    (h : tree.contentFiles builder.paths.content = .ok files) : builder.Lists tree files := by
  rw [FileTree.contentFiles] at h
  obtain ⟨found, hwalk, rfl⟩ := exists_of_map_eq_ok h
  have hfinds : builder.Finds tree [] (tree.namesIn (builder.contentPlace tree ++ [])) found :=
    finds_walk hclosed (List.append_nil _).symm htext hwalk
  have hmem (path : Path) : path ∈ Path.sorted found ↔ path ∈ found := List.mem_mergeSort
  refine ⟨?_, ?_, pairwise_sorted hfinds.distinct⟩
  · intro path hpath
    obtain ⟨file, name, rest, hfile, -, hof, hnot, hsome⟩ :=
      hfinds.sound path ((hmem path).mp hpath)
    refine ⟨file, hof, ?_, hsome⟩
    rintro ⟨hidden, hmem, hhidden⟩
    rw [hfile] at hmem
    exact hnot hidden hmem hhidden
  · intro file hnot hsome
    obtain ⟨content, hget⟩ := FileTree.isSome_file?_iff.mp hsome
    obtain ⟨name, rest, hfile⟩ := List.exists_cons_of_ne_nil
      (show file.names ≠ [] by simp [ContentName.names])
    have hlisted : name ∈ tree.namesIn (builder.contentPlace tree ++ []) := by
      rw [Builder.placeOf, hfile] at hget
      rw [List.append_nil]
      exact hclosed.mem_namesIn hget
    obtain ⟨path, hpath, hof⟩ := hfinds.complete file name rest hfile hlisted
      (fun n hn hhidden ↦ hnot ⟨n, hfile ▸ hn, hhidden⟩) hsome
    exact ⟨path, (hmem path).mpr hpath, hof⟩

/-- Paths of content files in their order have names in the order of names. -/
private theorem exists_names_of_ordered (hfiles : ∀ path ∈ files, ∃ file, builder.IsPathOf file path)
    (hordered : files.Pairwise fun a b ↦ a.precedes b) : ∃ walked : List ContentName,
      List.Forall₂ builder.IsPathOf walked files ∧ walked.Pairwise (fun a b ↦ a.names < b.names) ∧
        ∀ file, file ∈ walked ↔ ∃ path ∈ files, builder.IsPathOf file path := by
  induction files with
  | nil => exact ⟨[], .nil, .nil, by simp⟩
  | cons path files ih =>
    obtain ⟨hfirst, hordered⟩ := List.pairwise_cons.mp hordered
    obtain ⟨file, hpath⟩ := hfiles path List.mem_cons_self
    obtain ⟨walked, hwalked, hnames, hmem⟩ :=
      ih (fun path hmem ↦ hfiles path (List.mem_cons_of_mem _ hmem)) hordered
    refine ⟨file :: walked, .cons hpath hwalked, List.pairwise_cons.mpr ⟨?_, hnames⟩, fun other ↦ ?_⟩
    · intro other hother
      obtain ⟨path', hpath', hof⟩ := (hmem other).mp hother
      exact (precedes_iff_names hpath.leadsTo hof.leadsTo).mp (hfirst path' hpath')
    · have hsame : builder.IsPathOf other path ↔ other = file :=
        ⟨fun hof ↦ hof.unique hpath, fun hother ↦ hother ▸ hpath⟩
      simp [hmem, hsame]

/-- The files found have names, in the order of the names. -/
theorem Lists.exists_names (h : builder.Lists tree files) : ∃ walked : List ContentName,
    List.Forall₂ builder.IsPathOf walked files ∧ walked.Pairwise (fun a b ↦ a.names < b.names) ∧
      ∀ file, file ∈ walked ↔ ¬ file.IsHidden ∧ (tree.file? (builder.placeOf tree file)).isSome := by
  obtain ⟨walked, hwalked, hnames, hmem⟩ := exists_names_of_ordered
    (fun path hpath ↦ (h.sound path hpath).imp fun _ hof ↦ hof.1) h.ordered
  refine ⟨walked, hwalked, hnames, fun file ↦ (hmem file).trans ⟨?_, fun hfile ↦ ?_⟩⟩
  · rintro ⟨path, hpath, hof⟩
    obtain ⟨other, hother, hfile⟩ := h.sound path hpath
    rwa [hof.unique hother]
  · exact h.complete file hfile.1 hfile.2

end Builder

end StaticSite
