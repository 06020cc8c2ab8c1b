import StaticSite.FileTree.Access
import StaticSite.Proofs.Path.Normal

/-!
# Places of paths

A path names a place by its components alone (`placeOf`), whatever the tree holds; the tree only
decides whether the way there is passable. `locate_eq_ok_iff` says this for the paths of files, and
`read_eq_ok_iff` says what a file tree answers to a path that goes up first and then only down.
-/

namespace StaticSite.FileTree

open StaticSite.Path

variable {tree : FileTree} {path : Path} {start place : Place} {components front : List Component}
  {name : String} {names : List String}

/-- The place to which a component leads from another one. -/
def stepFrom (place : Place) : Component → Place
  | .root => []
  | .current => place
  | .parent => place.dropLast
  | .normal name => place ++ [name]

/-- The place to which components lead. -/
def placeFrom (start : Place) (components : List Component) : Place :=
  components.foldl stepFrom start

/-- The place that a path names, by its text alone. -/
def placeOf (tree : FileTree) (path : Path) : Place := placeFrom tree.current path.components

/-- Whether all names on a way are those of directories. -/
def Passable (tree : FileTree) (start : Place) : List Component → Prop
  | [] => True
  | c :: rest =>
    (∀ name, c = .normal name → tree.get? (start ++ [name]) = some .directory) ∧
      Passable tree (stepFrom start c) rest

/-- The content of the file at a place. -/
def file? (tree : FileTree) (place : Place) : Option Content :=
  match tree.get? place with
  | some (.file content) => some content
  | _ => none

theorem file?_eq_some_iff {content : Content} :
    tree.file? place = some content ↔ tree.get? place = some (.file content) := by
  rw [file?]
  split
  · next h => simp [h]
  · next h => simpa using h content

theorem isSome_file?_iff : (tree.file? place).isSome ↔
    ∃ content, tree.get? place = some (.file content) := by
  simp only [Option.isSome_iff_exists, file?_eq_some_iff]

theorem placeFrom_append (start : Place) (front components : List Component) :
    placeFrom start (front ++ components) = placeFrom (placeFrom start front) components :=
  List.foldl_append

theorem placeFrom_names (start : Place) (names : List String) :
    placeFrom start (names.map .normal) = start ++ names := by
  induction names generalizing start with
  | nil => simp [placeFrom]
  | cons name names ih =>
    have hrest := ih (start ++ [name])
    simp only [placeFrom, List.map_cons, List.foldl_cons, stepFrom] at hrest ⊢
    rw [hrest, List.append_assoc, List.singleton_append]

/-- Names behind other components lead down. -/
theorem placeFrom_append_names (start : Place) (front : List Component) (names : List String) :
    placeFrom start (front ++ names.map .normal) = placeFrom start front ++ names := by
  rw [placeFrom_append, placeFrom_names]

/-- A path that goes on behind a directory with names leads down from the directory. -/
theorem placeOf_of_components {directory : Path}
    (h : path.components = directory.components ++ names.map .normal) :
    tree.placeOf path = tree.placeOf directory ++ names := by
  rw [placeOf, h, placeFrom_append_names]
  rfl

theorem placeOf_join_name {directory : Path} (hdirectory : directory.text ≠ "")
    (hname : IsName name) : tree.placeOf (directory.join ⟨name⟩) = tree.placeOf directory ++ [name] :=
  placeOf_of_components (components_join_name hdirectory hname)

/-- The names on a way are those of the place where it begins and of its components. -/
theorem isName_of_mem_placeFrom (hstart : ∀ name ∈ start, IsName name)
    (hcomponents : ∀ name, .normal name ∈ components → IsName name)
    (hmem : name ∈ placeFrom start components) : IsName name := by
  induction components generalizing start with
  | nil => exact hstart name hmem
  | cons c components ih =>
    refine @ih (stepFrom start c) (fun other hother ↦ ?_)
      (fun other hother ↦ hcomponents other (List.mem_cons_of_mem _ hother)) hmem
    cases c with
    | root => simp [stepFrom] at hother
    | current => exact hstart other hother
    | parent => exact hstart other (List.mem_of_mem_dropLast hother)
    | normal last =>
      rcases List.mem_append.mp hother with hother | hother
      · exact hstart other hother
      · obtain rfl := List.mem_singleton.mp hother
        exact hcomponents other List.mem_cons_self

theorem passable_append :
    tree.Passable start (front ++ components) ↔
      tree.Passable start front ∧ tree.Passable (placeFrom start front) components := by
  induction front generalizing start with
  | nil => simp [Passable, placeFrom]
  | cons c front ih =>
    simp only [List.cons_append, Passable, ih, and_assoc]
    rfl

theorem passable_name : tree.Passable start [.normal name] ↔
    tree.get? (start ++ [name]) = some .directory := by
  simp [Passable]

/-- A way without names is passable. -/
theorem passable_of_notMem (h : ∀ name, .normal name ∉ components) :
    tree.Passable start components := by
  induction components generalizing start with
  | nil => trivial
  | cons c components ih =>
    refine ⟨fun name hname ↦ absurd List.mem_cons_self (hname ▸ h name), ih fun name hmem ↦ ?_⟩
    exact h name (List.mem_cons_of_mem _ hmem)

/-! ## Following paths -/

private theorem follow_cons (field : List Char) {rest : List (List Char)} (hrest : rest ≠ []) :
    tree.follow start (field :: rest) = .ok place ↔
      tree.Passable start ((componentOf? field).toList) ∧
        tree.follow (placeFrom start (componentOf? field).toList) rest = .ok place := by
  by_cases hempty : field = []
  · simp [follow, componentOf?, hempty, Passable, placeFrom]
  by_cases hdot : field = ['.']
  · simp [follow, componentOf?, hdot, Passable, placeFrom]
  by_cases hdots : field = ['.', '.']
  · simp [follow, componentOf?, hdots, Passable, placeFrom, stepFrom]
  · have hcomponent : componentOf? field = some (.normal (String.ofList field)) := by
      simp [componentOf?, hempty, hdot, hdots]
    rw [hcomponent, Option.toList_some, passable_name]
    simp only [follow, if_neg hrest]
    cases tree.get? (start ++ [String.ofList field]) with
    | none => simp
    | some entry => cases entry <;> simp [placeFrom, stepFrom]

private theorem follow_append (before : List (List Char)) {rest : List (List Char)}
    (hrest : rest ≠ []) :
    tree.follow start (before ++ rest) = .ok place ↔
      tree.Passable start (before.filterMap componentOf?) ∧
        tree.follow (placeFrom start (before.filterMap componentOf?)) rest = .ok place := by
  induction before generalizing start with
  | nil => simp [Passable, placeFrom]
  | cons field before ih =>
    have hsplit : (field :: before).filterMap componentOf? =
        (componentOf? field).toList ++ before.filterMap componentOf? := by
      cases h : componentOf? field <;> simp [h]
    rw [List.cons_append, follow_cons field (by simp [hrest]), ih, hsplit, passable_append,
      placeFrom_append, and_assoc]

/-- The way to a file leads through directories, and then its name may be missing. -/
private theorem follow_name (before : List (List Char)) (hname : IsName name) :
    tree.follow start (before ++ [name.toList]) = .ok place ↔
      tree.Passable start (before.filterMap componentOf?) ∧
        place = placeFrom start ((before ++ [name.toList]).filterMap componentOf?) := by
  have hcomponent := componentOf?_name hname
  have hlast (directory : Place) :
      tree.follow directory [name.toList] = .ok (directory ++ [name]) := by
    have hfield := hcomponent
    rw [componentOf?] at hfield
    split_ifs at hfield with hnone hdots
    · simp at hfield
    · rw [not_or] at hnone
      simp [follow, hnone.1, hnone.2]
  rw [follow_append before (by simp), hlast, List.filterMap_append, placeFrom_append]
  simp [hcomponent, placeFrom, stepFrom, eq_comm]

/-- The way that does not end in a name leads through directories only. -/
private theorem follow_other (before : List (List Char)) {last : List Char}
    (h : ∀ name, componentOf? last ≠ some (.normal name)) :
    tree.follow start (before ++ [last]) = .ok place ↔
      tree.Passable start ((before ++ [last]).filterMap componentOf?) ∧
        place = placeFrom start ((before ++ [last]).filterMap componentOf?) := by
  have hlast (directory : Place) : tree.follow directory [last] =
      .ok (placeFrom directory ([last].filterMap componentOf?)) := by
    by_cases hempty : last = []
    · simp [follow, componentOf?, hempty, placeFrom]
    by_cases hdot : last = ['.']
    · simp [follow, componentOf?, hdot, placeFrom]
    by_cases hdots : last = ['.', '.']
    · simp [follow, componentOf?, hdots, placeFrom, stepFrom]
    · exact absurd (by simp [componentOf?, hempty, hdot, hdots]) (h (String.ofList last))
  have hpassable (directory : Place) :
      tree.Passable directory ([last].filterMap componentOf?) := by
    refine passable_of_notMem fun name hmem ↦ ?_
    obtain ⟨field, hfield, hname⟩ := List.mem_filterMap.mp hmem
    rw [List.mem_singleton.mp hfield] at hname
    exact h name hname
  rw [follow_append before (by simp), hlast, List.filterMap_append, passable_append,
    placeFrom_append]
  simp [hpassable, eq_comm]

/-- Where the following of a path begins. -/
private theorem locate_eq (path : Path) (hpath : path.text ≠ "") :
    ∃ start, tree.locate path = tree.follow start path.fields ∧
      (∀ components, placeFrom tree.current
        (((leadOf path.fields).map Part.component).toList ++ components) =
          placeFrom start components) ∧
      ∀ components, tree.Passable tree.current
        (((leadOf path.fields).map Part.component).toList ++ components) ↔
          tree.Passable start components := by
  by_cases habsolute : path.isAbsolute
  · obtain ⟨rest, htext⟩ := isAbsolute_eq_true_iff.mp habsolute
    obtain ⟨first, more, hrest⟩ := List.exists_cons_of_ne_nil (Text.splitOn_ne_nil '/' rest)
    have hfields : path.fields = [] :: first :: more := by
      rw [fields, htext, Text.splitOn, if_pos rfl, hrest]
    have hlead : leadOf path.fields = some ⟨.root, 0, 1⟩ := by rw [hfields]; rfl
    refine ⟨[], ?_, fun components ↦ by rw [hlead]; rfl, fun components ↦ ?_⟩
    · rw [locate, htext, hfields, follow]
      simp only [hrest]
    · rw [hlead]
      simp [Passable, stepFrom]
  · refine ⟨tree.current, ?_, fun components ↦ ?_, fun components ↦ ?_⟩
    · rw [locate, fields]
      split
      · next h => exact absurd (by simpa using h) hpath
      · next rest h => exact absurd (isAbsolute_eq_true_iff.mpr ⟨rest, h⟩) habsolute
      · rfl
    · rcases leadOf_fields_of_relative habsolute with hlead | hlead <;> rw [hlead] <;> rfl
    · rcases leadOf_fields_of_relative habsolute with hlead | hlead <;> rw [hlead] <;>
        simp [Passable, stepFrom]

/-- The path of a file is located where its directory is passable. -/
theorem locate_eq_ok_iff (hpath : path.IsFilePath)
    (hcomponents : path.components = components ++ [.normal name]) :
    tree.locate path = .ok place ↔
      tree.Passable tree.current components ∧ place = tree.placeOf path := by
  obtain ⟨before, hfields, hname⟩ := fields_of_components hpath hcomponents
  have htext : path.text ≠ "" := text_ne_empty (by simp [hcomponents])
  obtain ⟨start, hlocate, hplace, hpassable⟩ := tree.locate_eq path htext
  have hsplit := hcomponents
  have hlast : [name.toList].filterMap componentOf? = [.normal name] := by
    simp [componentOf?_name hname]
  rw [components_eq, hfields, List.filterMap_append, hlast, ← List.append_assoc] at hsplit
  rw [hlocate, hfields, follow_name before hname, ← hpassable, ← hplace, ← hfields,
    ← components_eq, placeOf, ← List.append_cancel_right hsplit, hfields]

/-- Another path is located where it is passable as a whole. -/
theorem locate_eq_ok_iff_of_not (hpath : ¬ path.IsFilePath) :
    tree.locate path = .ok place ↔
      path.text ≠ "" ∧ tree.Passable tree.current path.components ∧ place = tree.placeOf path := by
  by_cases htext : path.text = ""
  · simp [locate, htext]
  obtain ⟨start, hlocate, hplace, hpassable⟩ := tree.locate_eq path htext
  obtain ⟨before, last, hfields⟩ := (List.eq_nil_or_concat' path.fields).resolve_left
    path.fields_ne_nil
  have hlast (name : String) : componentOf? last ≠ some (.normal name) := by
    intro hname
    have hmem : last ∈ path.fields := by simp [hfields]
    obtain ⟨rfl, hisName⟩ := componentOf?_eq_normal (notMem_of_mem_fields hmem) hname
    exact hpath ⟨before, name, hfields, hisName⟩
  rw [hlocate, hfields, follow_other before hlast, ← hpassable, ← hplace, ← hfields,
    ← components_eq, placeOf]
  simp [htext]

theorem placeOf_of_locate (h : tree.locate path = .ok place) : place = tree.placeOf path := by
  by_cases hpath : path.IsFilePath
  · obtain ⟨before, name, hfields, hname⟩ := id hpath
    obtain ⟨components, hcomponents⟩ := components_of_fields hfields hname
    exact ((locate_eq_ok_iff hpath hcomponents).mp h).2
  · exact ((locate_eq_ok_iff_of_not hpath).mp h).2.2

/-! ## Paths from the root -/

private theorem foldl_step (place : Place) (h : .root ∉ components) :
    components.foldl Trail.step ⟨true, (place.map .normal).reverse⟩ =
      ⟨true, ((placeFrom place components).map .normal).reverse⟩ := by
  induction components generalizing place with
  | nil => rfl
  | cons c components ih =>
    rw [List.mem_cons, not_or] at h
    have hstep : Trail.step ⟨true, (place.map .normal).reverse⟩ c =
        ⟨true, ((stepFrom place c).map .normal).reverse⟩ := by
      cases c with
      | root => exact absurd rfl h.1
      | current => rfl
      | normal name => simp [Trail.step, stepFrom]
      | parent =>
        rcases List.eq_nil_or_concat' place with rfl | ⟨place, last, rfl⟩ <;>
          simp [Trail.step, stepFrom]
    rw [List.foldl_cons, hstep, ih _ h.2]
    rfl

private theorem pathOf_eq (place : Place) : pathOf place =
    ⟨"/" ++ String.intercalate "/" ((place.map Component.normal).map Component.text)⟩ := by
  simp [pathOf, Function.comp_def, Component.text]

private theorem isStep_of_names (h : ∀ name ∈ place, IsName name) :
    ∀ c ∈ place.map Component.normal, IsStep c := by
  intro c hc
  obtain ⟨name, hname, rfl⟩ := List.mem_map.mp hc
  exact h name hname

/-- The path of a place has the root and the names of the place for components. -/
theorem components_pathOf (h : ∀ name ∈ place, IsName name) :
    (pathOf place).components = .root :: place.map .normal := by
  rw [pathOf_eq]
  exact components_ofRootSteps (isStep_of_names h)

theorem placeOf_pathOf (h : ∀ name ∈ place, IsName name) : tree.placeOf (pathOf place) = place := by
  rw [placeOf, components_pathOf h]
  exact placeFrom_names [] place

theorem fields_pathOf (h : ∀ name ∈ place, IsName name) (hne : place ≠ []) :
    (pathOf place).fields = [] :: place.map String.toList := by
  rw [pathOf_eq, fields_ofRootSteps (isStep_of_names h) (by simpa)]
  simp [Component.text]

theorem isFilePath_pathOf (h : ∀ other ∈ place ++ [name], IsName other) :
    (pathOf (place ++ [name])).IsFilePath := by
  refine ⟨[] :: place.map String.toList, name, ?_, h name (by simp)⟩
  rw [fields_pathOf h (by simp)]
  simp

/-- The absolute path of a path has the names of its place for components. -/
theorem components_absolute (h : ∀ name ∈ tree.current, IsName name) (hpath : path.text ≠ "") :
    (tree.absolute path).components = .root :: (tree.placeOf path).map .normal := by
  have hcurrent : tree.currentPath.components = .root :: tree.current.map .normal :=
    components_pathOf h
  have hroot := path.root_notMem_fields
  have hjoin : ∃ rest, (tree.currentPath.join path).components = .root :: rest ∧
      .root ∉ rest ∧ placeFrom [] rest = tree.placeOf path := by
    by_cases habsolute : path.isAbsolute
    · have hlead : leadOf path.fields = some ⟨.root, 0, 1⟩ := by
        obtain ⟨rest, htext⟩ := isAbsolute_eq_true_iff.mp habsolute
        obtain ⟨first, more, hrest⟩ := List.exists_cons_of_ne_nil (Text.splitOn_ne_nil '/' rest)
        rw [fields, htext, Text.splitOn, if_pos rfl, hrest]
        rfl
      refine ⟨path.fields.filterMap componentOf?, ?_, hroot, ?_⟩
      · rw [join, if_pos habsolute, components_eq, hlead]
        rfl
      · rw [placeOf, components_eq, hlead]
        rfl
    · refine ⟨tree.current.map .normal ++ path.fields.filterMap componentOf?, ?_, ?_, ?_⟩
      · rw [components_join habsolute (text_ne_empty (by simp [hcurrent])), hcurrent]
        rfl
      · simpa using hroot
      · rw [placeFrom_append, placeFrom_names, placeOf, components_eq, List.nil_append]
        rcases leadOf_fields_of_relative habsolute with hlead | hlead <;> rw [hlead] <;> rfl
  obtain ⟨rest, hcomponents, hrest, hplace⟩ := hjoin
  have htrail : Trail.ofComponents (tree.currentPath.join path).components =
      ⟨true, ((tree.placeOf path).map .normal).reverse⟩ := by
    have hsteps := foldl_step [] hrest
    rw [hcomponents, ← hplace]
    exact hsteps
  have hnames : ∀ c ∈ (tree.placeOf path).map Component.normal, IsStep c := by
    obtain ⟨ups, names, hreverse, hrooted, hisName⟩ := isNormal_ofComponents (tree.currentPath.join path)
    rw [htrail] at hreverse hrooted
    rw [hrooted rfl, List.reverse_reverse] at hreverse
    intro c hc
    rw [hreverse] at hc
    obtain ⟨name, hname, rfl⟩ := List.mem_map.mp hc
    exact hisName name hname
  rw [absolute, if_neg (by simpa using hpath), Path.normalize, htrail, Trail.toPath]
  simp only [if_true, List.reverse_reverse]
  exact components_ofRootSteps hnames

end StaticSite.FileTree
