import StaticSite.Path.Normal
import StaticSite.Proofs.Text.Split

/-!
# Parts of paths

The fields of a path are what stands between its slashes. Its components come from the fields, one
by one, and only the first fields tell whether the path begins at the root or at the current
directory (`components_eq`). The positions of the parts cut the path at its fields (`fields_slice`).

A path whose last field is a name is one that a file may have. The last component of another path
may be a name as well, but only a directory answers to such a path.
-/

namespace StaticSite.Path

variable {path : Path} {field : List Char} {pieces before after : List (List Char)}
  {name : String}

/-- Whether a text may be the name of a file. -/
def IsName (name : String) : Prop := name ≠ "" ∧ name ≠ "." ∧ name ≠ ".." ∧ '/' ∉ name.toList

instance (name : String) : Decidable (IsName name) := inferInstanceAs (Decidable (_ ∧ _))

/-- Whether a component is `..` or a name. -/
def IsStep : Component → Prop
  | .parent => True
  | .normal name => IsName name
  | _ => False

/-- What stands between the slashes of a path. -/
def fields (path : Path) : List (List Char) := Text.splitOn '/' path.text.toList

/-- Whether the last field of a path is a name. -/
def IsFilePath (path : Path) : Prop :=
  ∃ before name, path.fields = before ++ [name.toList] ∧ IsName name

/-- The component that a field is, wherever the field stands. -/
def componentOf? (field : List Char) : Option Component :=
  if field = [] ∨ field = ['.'] then none
  else if field = ['.', '.'] then some .parent
  else some (.normal (String.ofList field))

/-- The part that the first fields are on account of where they stand. -/
def leadOf : List (List Char) → Option Part
  | [] :: _ :: _ => some ⟨.root, 0, 1⟩
  | ['.'] :: _ => some ⟨.current, 0, 1⟩
  | _ => none

theorem fields_ne_nil (path : Path) : path.fields ≠ [] := Text.splitOn_ne_nil _ _

theorem notMem_of_mem_fields (h : field ∈ path.fields) : '/' ∉ field :=
  Text.notMem_of_mem_splitOn h

theorem text_eq_joinWith (path : Path) :
    path.text.toList = Text.joinWith ['/'] path.fields := (Text.joinWith_splitOn _ _).symm

theorem componentOf?_name (h : IsName name) : componentOf? name.toList = some (.normal name) := by
  obtain ⟨hempty, hdot, hdots, -⟩ := h
  have hne (other : List Char) (hother : name ≠ String.ofList other) : name.toList ≠ other := by
    rintro rfl
    exact hother (by simp)
  rw [componentOf?, if_neg, if_neg (hne _ hdots), String.ofList_toList]
  rw [not_or]
  exact ⟨hne _ hempty, hne _ hdot⟩

/-- A field that is a name is the text of this name. -/
theorem componentOf?_eq_normal (hslash : '/' ∉ field)
    (h : componentOf? field = some (.normal name)) : field = name.toList ∧ IsName name := by
  rw [componentOf?] at h
  split_ifs at h with hnone hdots
  · simp at h
  rw [Option.some.injEq, Component.normal.injEq] at h
  subst h
  rw [not_or] at hnone
  have hne (other : List Char) (hother : field ≠ other) :
      String.ofList field ≠ String.ofList other := fun heq ↦
    hother (by simpa using congrArg String.toList heq)
  exact ⟨by simp, hne [] hnone.1, hne ['.'] hnone.2, hne ['.', '.'] hdots, by simpa using hslash⟩

theorem isStep_of_componentOf? {c : Component} (hslash : '/' ∉ field)
    (h : componentOf? field = some c) : IsStep c := by
  cases c with
  | root => rw [componentOf?] at h; split_ifs at h <;> simp at h
  | current => rw [componentOf?] at h; split_ifs at h <;> simp at h
  | parent => trivial
  | normal name => exact (componentOf?_eq_normal hslash h).2

/-- Steps that are not `..` are names. -/
theorem exists_names_of_isStep {components : List Component} (h : ∀ c ∈ components, IsStep c)
    (hparent : .parent ∉ components) : ∃ names : List String, components = names.map .normal := by
  induction components with
  | nil => exact ⟨[], rfl⟩
  | cons c components ih =>
    obtain ⟨hc, h⟩ := List.forall_mem_cons.mp h
    rw [List.mem_cons, not_or] at hparent
    obtain ⟨names, rfl⟩ := ih h hparent.2
    cases c with
    | root => exact hc.elim
    | current => exact hc.elim
    | parent => exact absurd rfl hparent.1
    | normal name => exact ⟨name :: names, rfl⟩

/-! ## Positions -/

theorem partsFrom_cons (position : Nat) (field : List Char) (pieces : List (List Char)) :
    partsFrom position (field :: pieces) =
      ((componentOf? field).map fun c ↦ ⟨c, position, position + field.length⟩).toList
        ++ partsFrom (position + field.length + 1) pieces := by
  by_cases hempty : field = []
  · simp [partsFrom, componentOf?, hempty]
  by_cases hdot : field = ['.']
  · simp [partsFrom, componentOf?, hdot]
  by_cases hdots : field = ['.', '.']
  · simp [partsFrom, componentOf?, hdots]
  · simp [partsFrom, componentOf?, hempty, hdot, hdots]

/-- Whatever follows, fields take up their characters and a slash for each of them. -/
theorem partsFrom_append (position : Nat) (before after : List (List Char)) :
    partsFrom position (before ++ after) =
      partsFrom position before
        ++ partsFrom (position + (Text.ended '/' before).length) after := by
  induction before generalizing position with
  | nil => simp [partsFrom, Text.ended]
  | cons field before ih =>
    rw [List.cons_append, partsFrom_cons, partsFrom_cons, ih, List.append_assoc]
    congr 3
    simp [Text.ended]
    omega

/-- A part stands at one of the fields. -/
theorem exists_field_of_partsFrom {position : Nat} {parts rest : List Part} {part : Part}
    (h : partsFrom position pieces = parts ++ part :: rest) :
    ∃ before field after, pieces = before ++ field :: after ∧
      partsFrom position before = parts ∧ componentOf? field = some part.component ∧
      part.start = position + (Text.ended '/' before).length ∧
      part.stop = part.start + field.length ∧ partsFrom (part.stop + 1) after = rest := by
  induction pieces generalizing position parts with
  | nil => simp [partsFrom] at h
  | cons field pieces ih =>
    rw [partsFrom_cons] at h
    have hstep {parts : List Part}
        (h : partsFrom (position + field.length + 1) pieces = parts ++ part :: rest) :
        ∃ before field' after, field :: pieces = field :: before ++ field' :: after ∧
          partsFrom (position + field.length + 1) before = parts ∧
          componentOf? field' = some part.component ∧
          part.start = position + (Text.ended '/' (field :: before)).length ∧
          part.stop = part.start + field'.length ∧ partsFrom (part.stop + 1) after = rest := by
      obtain ⟨before, field', after, rfl, hparts, hcomponent, hstart, hstop, hrest⟩ := ih h
      refine ⟨before, field', after, rfl, hparts, hcomponent, ?_, hstop, hrest⟩
      rw [hstart]
      simp [Text.ended]
      omega
    cases hc : componentOf? field with
    | none =>
      rw [hc] at h
      obtain ⟨before, field', after, hfields, hparts, hrest⟩ := hstep (by simpa using h)
      exact ⟨field :: before, field', after, hfields, by simp [partsFrom_cons, hc, hparts], hrest⟩
    | some c =>
      rw [hc] at h
      cases parts with
      | nil =>
        simp only [Option.map_some, Option.toList_some, List.singleton_append, List.nil_append,
          List.cons.injEq] at h
        obtain ⟨rfl, hrest⟩ := h
        exact ⟨[], field, pieces, rfl, rfl, hc, by simp [Text.ended], rfl, hrest⟩
      | cons first parts =>
        simp only [Option.map_some, Option.toList_some, List.cons_append, List.cons.injEq] at h
        obtain ⟨rfl, h⟩ := h
        obtain ⟨before, field', after, hfields, hparts, hrest⟩ := hstep h
        exact ⟨field :: before, field', after, hfields, by simp [partsFrom_cons, hc, hparts],
          hrest⟩

theorem map_component_partsFrom (position : Nat) (pieces : List (List Char)) :
    (partsFrom position pieces).map Part.component = pieces.filterMap componentOf? := by
  induction pieces generalizing position with
  | nil => rfl
  | cons field pieces ih =>
    rw [partsFrom_cons, List.map_append, ih]
    cases hc : componentOf? field <;> simp [hc]

theorem parts_eq (path : Path) :
    path.parts = (leadOf path.fields).toList ++ partsFrom 0 path.fields := by
  obtain ⟨first, rest, h⟩ := List.exists_cons_of_ne_nil path.fields_ne_nil
  rw [parts, ← fields, h]
  by_cases hempty : first = []
  · cases rest with
    | nil => simp [hempty, leadOf, partsFrom]
    | cons next rest => simp [hempty, leadOf, partsFrom_cons, componentOf?]
  by_cases hdot : first = ['.']
  · simp [hdot, leadOf, partsFrom_cons, componentOf?]
  · simp [hempty, hdot, leadOf]

/-- The components are those of the fields, behind the one that the first fields are. -/
theorem components_eq (path : Path) :
    path.components =
      ((leadOf path.fields).map Part.component).toList ++ path.fields.filterMap componentOf? := by
  rw [components, parts_eq, List.map_append, map_component_partsFrom]
  cases leadOf path.fields <;> rfl

/-- The names among the components are names of files. -/
theorem isName_of_mem_components (h : .normal name ∈ path.components) : IsName name := by
  rw [components_eq, List.mem_append] at h
  rcases h with h | h
  · exfalso
    obtain ⟨first, rest, hfields⟩ := List.exists_cons_of_ne_nil path.fields_ne_nil
    rw [hfields] at h
    unfold leadOf at h
    split at h <;> simp at h
  · obtain ⟨field, hmem, hname⟩ := List.mem_filterMap.mp h
    exact (componentOf?_eq_normal (notMem_of_mem_fields hmem) hname).2

/-- Only the first component may be no step. -/
theorem isStep_of_components {front rest : List Component} (h : path.components = front ++ rest)
    (hfront : front ≠ []) : ∀ c ∈ rest, IsStep c := by
  intro c hmem
  have hfields : c ∈ path.fields.filterMap componentOf? := by
    obtain ⟨first, front, rfl⟩ := List.exists_cons_of_ne_nil hfront
    rw [components_eq] at h
    cases hlead : leadOf path.fields with
    | none =>
      have hall : path.fields.filterMap componentOf? = first :: front ++ rest := by
        simpa [hlead] using h
      simp [hall, hmem]
    | some lead =>
      rw [hlead] at h
      have hall : path.fields.filterMap componentOf? = front ++ rest := (List.cons.inj h).2
      simp [hall, hmem]
  obtain ⟨field, hfield, hcomponent⟩ := List.mem_filterMap.mp hfields
  exact isStep_of_componentOf? (notMem_of_mem_fields hfield) hcomponent

/-! ## Slices -/

/-- A path that is joined from pieces without slashes has them as its fields. -/
theorem fields_joinWith (hne : pieces ≠ []) (h : ∀ piece ∈ pieces, '/' ∉ piece) :
    fields ⟨String.ofList (Text.joinWith ['/'] pieces)⟩ = pieces := by
  rw [fields, String.toList_ofList, Text.splitOn_joinWith hne h]

/-- A slice from the first character of a field to the last one of another has the fields between
them. -/
theorem fields_slice {between : List (List Char)} (h : path.fields = before ++ between ++ after)
    (hne : between ≠ []) :
    (path.slice (Text.ended '/' before).length
      ((Text.ended '/' before).length + (Text.joinWith ['/'] between).length)).fields = between := by
  have hslash : ∀ piece ∈ between, '/' ∉ piece := fun piece hmem ↦ by
    have hpiece : piece ∈ path.fields := by simp [h, hmem]
    exact notMem_of_mem_fields hpiece
  obtain ⟨rest, hrest⟩ := Text.joinWith_isPrefix (c := '/') hne after
  have htext : path.text.toList =
      Text.ended '/' before ++ (Text.joinWith ['/'] between ++ rest) := by
    rw [text_eq_joinWith, h, List.append_assoc, Text.joinWith_append (by simp [hne]), hrest]
  rw [slice, htext, List.take_length_add_append, List.drop_left, List.take_left]
  exact fields_joinWith hne hslash

end StaticSite.Path
