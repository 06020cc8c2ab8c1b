import StaticSite.Proofs.Path.Parts

/-!
# Components of derived paths

What the operations on paths do to components: a path under a directory has the components of both
(`components_join`), the directory of a path has all components but the last (`components_parent?`),
and a path relative to a directory has those behind the ones of the directory
(`exists_relativeTo?`).
-/

namespace StaticSite.Path

variable {path directory : Path} {field : List Char} {before after : List (List Char)}
  {name : String}

/-! ## The first fields -/

theorem leadOf_append (h : before ≠ []) (first other : List Char) (rest more : List (List Char)) :
    leadOf (before ++ first :: rest) = leadOf (before ++ other :: more) := by
  cases before with
  | nil => exact absurd rfl h
  | cons field before =>
    by_cases hempty : field = []
    · cases before <;> simp [leadOf, hempty]
    by_cases hdot : field = ['.']
    · simp [leadOf, hdot]
    · simp [leadOf, hempty, hdot]

theorem leadOf_cons_of_component {component : Component} {rest : List (List Char)}
    (h : componentOf? field = some component) : leadOf (field :: rest) = none := by
  have hempty : field ≠ [] := by
    rintro rfl
    simp [componentOf?] at h
  have hdot : field ≠ ['.'] := by
    rintro rfl
    simp [componentOf?] at h
  simp [leadOf, hempty, hdot]

theorem isAbsolute_eq_true_iff : path.isAbsolute ↔ ∃ rest, path.text.toList = '/' :: rest := by
  rw [isAbsolute]
  split
  · next c rest h => simp [h]
  · next h => simp [h]

/-- A path that does not begin at the root has only names and dots for its first component. -/
theorem leadOf_fields_of_relative (h : ¬ path.isAbsolute) :
    leadOf path.fields = none ∨ leadOf path.fields = some ⟨.current, 0, 1⟩ := by
  obtain ⟨first, rest, hfields⟩ := List.exists_cons_of_ne_nil path.fields_ne_nil
  rw [hfields]
  by_cases hempty : first = []
  · cases rest with
    | nil => simp [leadOf, hempty]
    | cons next rest =>
      refine absurd (isAbsolute_eq_true_iff.mpr ⟨Text.joinWith ['/'] (next :: rest), ?_⟩) h
      rw [text_eq_joinWith, hfields, hempty, Text.joinWith_cons (by simp)]
      rfl
  by_cases hdot : first = ['.']
  · simp [leadOf, hdot]
  · simp [leadOf, hempty, hdot]

/-! ## Files -/

/-- A path that a file may have ends in a component that is a name. -/
theorem components_of_fields (h : path.fields = before ++ [name.toList]) (hname : IsName name) :
    ∃ directory, path.components = directory ++ [.normal name] := by
  rw [components_eq, h, List.filterMap_append]
  simp [componentOf?_name hname, ← List.append_assoc]

theorem fields_of_components {components : List Component} (h : path.IsFilePath)
    (hc : path.components = components ++ [.normal name]) :
    ∃ before, path.fields = before ++ [name.toList] ∧ IsName name := by
  obtain ⟨before, last, hfields, hlast⟩ := h
  obtain ⟨front, hfront⟩ := components_of_fields hfields hlast
  obtain ⟨-, hsame⟩ := List.append_inj' (hfront.symm.trans hc) rfl
  obtain rfl : last = name := by simpa using hsame
  exact ⟨before, hfields, hlast⟩

theorem fields_name (h : IsName name) : fields ⟨name⟩ = [name.toList] :=
  Text.splitOn_of_notMem h.2.2.2

theorem not_isAbsolute_name (h : IsName name) : ¬ isAbsolute ⟨name⟩ := by
  rw [isAbsolute_eq_true_iff]
  rintro ⟨rest, hrest⟩
  exact h.2.2.2 (by simp [hrest])

/-- Only the empty path has no components. -/
theorem components_eq_nil_iff : path.components = [] ↔ path.text = "" := by
  constructor
  · intro h
    have htext := text_eq_joinWith path
    obtain ⟨first, rest, hfields⟩ := List.exists_cons_of_ne_nil path.fields_ne_nil
    rw [components_eq, hfields] at h
    by_cases hempty : first = []
    · cases rest with
      | nil => simpa [hfields, hempty, Text.joinWith] using htext
      | cons next rest => simp [hempty, leadOf] at h
    by_cases hdot : first = ['.']
    · simp [hdot, leadOf] at h
    · by_cases hdots : first = ['.', '.'] <;> simp [componentOf?, hempty, hdot, hdots] at h
  · intro h
    obtain ⟨text⟩ := path
    obtain rfl : text = "" := h
    rfl

theorem text_ne_empty (h : path.components ≠ []) : path.text ≠ "" :=
  mt components_eq_nil_iff.mpr h

/-- What leads on from a path that is not empty is not empty. -/
theorem text_ne_empty_of_components {front : Path} {rest : List Component} (hfront : front.text ≠ "")
    (h : path.components = front.components ++ rest) : path.text ≠ "" := by
  refine text_ne_empty ?_
  rw [h, Ne, List.append_eq_nil_iff, components_eq_nil_iff]
  exact fun hnil ↦ hfront hnil.1

/-! ## Paths under a directory -/

private theorem exists_fields_join {relative : Path} (hrelative : ¬ relative.isAbsolute)
    (hdirectory : directory.text ≠ "") :
    ∃ before, before ≠ [] ∧ (directory.join relative).fields = before ++ relative.fields ∧
      before.filterMap componentOf? = directory.fields.filterMap componentOf? ∧
      leadOf (before ++ relative.fields) = leadOf directory.fields := by
  obtain ⟨first, rest, hfields⟩ := List.exists_cons_of_ne_nil relative.fields_ne_nil
  rw [join, if_neg hrelative]
  rcases List.eq_nil_or_concat' directory.text.toList with hnil | ⟨front, last, hlast⟩
  · exact absurd (by simpa using hnil) hdirectory
  by_cases hslash : last = '/'
  · -- The slash at the end of the directory is the separator.
    subst hslash
    have hsplit : directory.fields = Text.splitOn '/' front ++ [[]] := by
      rw [fields, hlast, Text.splitOn_append_separator]
      rfl
    refine ⟨Text.splitOn '/' front, Text.splitOn_ne_nil _ _, ?_, ?_, ?_⟩
    · simp [hlast, fields, Text.splitOn_append_separator]
    · simp [hsplit, componentOf?]
    · rw [hsplit, hfields]
      exact leadOf_append (Text.splitOn_ne_nil _ _) _ _ _ _
  · have htext : (directory.text ++ "/" ++ relative.text).toList =
        directory.text.toList ++ '/' :: relative.text.toList := by simp
    refine ⟨directory.fields, directory.fields_ne_nil, ?_, rfl, ?_⟩
    · rw [fields, fields, fields, ← Text.splitOn_append_separator, ← htext]
      simp [hlast]
    · obtain ⟨head, tail, hhead⟩ := List.exists_cons_of_ne_nil directory.fields_ne_nil
      cases tail with
      | cons next tail =>
        rw [hhead, hfields]
        exact leadOf_append (List.cons_ne_nil head []) _ _ _ _
      | nil =>
        have hne : head ≠ [] := by
          rintro rfl
          exact hdirectory (by simpa [hhead, Text.joinWith] using text_eq_joinWith directory)
        by_cases hdot : head = ['.'] <;> simp [hhead, leadOf, hne, hdot]

/-- A relative path under a directory has the components of the directory and its own, without the
dot at its front. -/
theorem components_join {relative : Path} (hrelative : ¬ relative.isAbsolute)
    (hdirectory : directory.text ≠ "") :
    (directory.join relative).components =
      directory.components ++ relative.fields.filterMap componentOf? := by
  obtain ⟨before, -, hfields, hbefore, hlead⟩ := exists_fields_join hrelative hdirectory
  rw [components_eq, hfields, hlead, List.filterMap_append, hbefore, ← List.append_assoc,
    ← components_eq]

theorem isFilePath_join {relative : Path} (hrelative : ¬ relative.isAbsolute)
    (hdirectory : directory.text ≠ "") :
    (directory.join relative).IsFilePath ↔ relative.IsFilePath := by
  obtain ⟨before, -, hfields, -, -⟩ := exists_fields_join hrelative hdirectory
  constructor
  · rintro ⟨front, name, hname, hisName⟩
    obtain ⟨own, last, hlast⟩ := (List.eq_nil_or_concat' relative.fields).resolve_left
      relative.fields_ne_nil
    rw [hfields, hlast, ← List.append_assoc] at hname
    obtain ⟨-, hsame⟩ := List.append_inj' hname rfl
    exact ⟨own, name, hlast.trans (by rw [hsame]), hisName⟩
  · rintro ⟨front, name, hname, hisName⟩
    exact ⟨before ++ front, name, by rw [hfields, hname, List.append_assoc], hisName⟩

theorem components_join_name (hdirectory : directory.text ≠ "") (hname : IsName name) :
    (directory.join ⟨name⟩).components = directory.components ++ [.normal name] := by
  rw [components_join (not_isAbsolute_name hname) hdirectory, fields_name hname]
  simp [componentOf?_name hname]

theorem isFilePath_name (hname : IsName name) : IsFilePath ⟨name⟩ :=
  ⟨[], name, fields_name hname, hname⟩

theorem isFilePath_join_name (hdirectory : directory.text ≠ "") (hname : IsName name) :
    (directory.join ⟨name⟩).IsFilePath :=
  (isFilePath_join (not_isAbsolute_name hname) hdirectory).mpr (isFilePath_name hname)

/-! ## Paths relative to a directory -/

theorem beginsWith_append (components more : List Component) :
    beginsWith (components ++ more) components := by
  induction components with
  | nil => cases more <;> rfl
  | cons c components ih => simp [beginsWith, ih]

theorem beginsWith_eq_true_iff {components start : List Component} :
    beginsWith components start ↔ start <+: components := by
  constructor
  · intro h
    induction start generalizing components with
    | nil => exact List.nil_prefix
    | cons c start ih =>
      cases components with
      | nil => simp [beginsWith] at h
      | cons d components =>
        simp only [beginsWith, Bool.and_eq_true, beq_iff_eq] at h
        exact List.cons_prefix_cons.mpr ⟨h.1.symm, ih h.2⟩
  · rintro ⟨more, rfl⟩
    exact beginsWith_append _ _

theorem component_leadOf {part : Part} (h : leadOf after = some part) :
    part = ⟨.root, 0, 1⟩ ∨ part = ⟨.current, 0, 1⟩ := by
  unfold leadOf at h
  split at h
  · exact Or.inl (by simpa using h.symm)
  · exact Or.inr (by simpa using h.symm)
  · simp at h

/-- The parts from a step on stand at fields. -/
private theorem exists_partsFrom_of_parts {parts rest : List Part} {part : Part}
    (h : path.parts = parts ++ part :: rest) (hpart : IsStep part.component) :
    ∃ parts, partsFrom 0 path.fields = parts ++ part :: rest := by
  rw [parts_eq] at h
  cases hlead : leadOf path.fields with
  | none => exact ⟨parts, by simpa [hlead] using h⟩
  | some lead =>
    rw [hlead] at h
    cases parts with
    | nil =>
      obtain rfl : lead = part := by simpa using (List.cons.inj h).1
      rcases component_leadOf hlead with rfl | rfl
      · exact hpart.elim
      · exact hpart.elim
    | cons first parts => exact ⟨parts, (List.cons.inj h).2⟩

theorem getLast?_parts (h : path.fields = before ++ [name.toList]) (hname : IsName name) :
    path.parts.getLast? =
      some ⟨.normal name, (Text.ended '/' before).length, path.text.toList.length⟩ := by
  have hlength : path.text.toList.length =
      (Text.ended '/' before).length + name.toList.length := by
    rw [text_eq_joinWith, h, Text.joinWith_append (by simp), List.length_append]
    rfl
  rw [parts_eq, h, partsFrom_append, partsFrom_cons, componentOf?_name hname, hlength]
  simp [partsFrom]

theorem not_isAbsolute_of_fields {component : Component} {rest : List (List Char)}
    (h : path.fields = field :: rest) (hfield : componentOf? field = some component) :
    ¬ path.isAbsolute := by
  rw [isAbsolute_eq_true_iff]
  rintro ⟨text, htext⟩
  obtain rfl : field = [] := by
    simp only [fields, htext, Text.splitOn, if_true, List.cons.injEq] at h
    exact h.1.symm
  simp [componentOf?] at hfield

/-- The text from one part of a path to the end of a later one has the fields of these two parts and
of those between them. -/
private theorem exists_fields_slice {parts more own : List Part} {first last : Part}
    (hfrom : partsFrom 0 path.fields = parts ++ first :: more) (hlast : first :: more = own ++ [last]) :
    ∃ middle final, (path.slice first.start last.stop).fields = middle ++ [final] ∧
      middle.filterMap componentOf? = own.map Part.component ∧
      componentOf? final = some last.component ∧
      ∃ field tail, middle ++ [final] = field :: tail ∧ componentOf? field = some first.component := by
  obtain ⟨before, field, after, hfields, -, hfield, hstart, hstop, hafter⟩ :=
    exists_field_of_partsFrom hfrom
  have hbetween : partsFrom first.start (field :: after) = first :: more := by
    rw [partsFrom_cons, hfield, ← hstop, hafter]
    simp
  obtain ⟨middle, final, beyond, hsame, hmiddle, hfinal, hlastStart, hlastStop, -⟩ :=
    exists_field_of_partsFrom (hbetween.trans hlast)
  have hlength : last.stop = (Text.ended '/' before).length +
      (Text.joinWith ['/'] (middle ++ [final])).length := by
    rw [hlastStop, hlastStart, hstart, Text.joinWith_append (by simp), List.length_append,
      Nat.zero_add, Nat.add_assoc]
    rfl
  have hend : path.fields = before ++ (middle ++ [final]) ++ beyond := by
    rw [hfields, hsame]
    simp
  refine ⟨middle, final, ?_, ?_, hfinal, field, ?_⟩
  · rw [hstart, hlength, Nat.zero_add]
    exact fields_slice hend (by simp)
  · rw [← hmiddle, map_component_partsFrom]
  · cases middle with
    | nil => exact ⟨[], by rw [(List.cons.inj hsame).1]; rfl, hfield⟩
    | cons head middle => exact ⟨middle ++ [final], by rw [(List.cons.inj hsame).1]; rfl, hfield⟩

/-- What is left of a path behind a directory has the components that are left, and it is the path of
a file if the last one of them is a name. -/
theorem exists_relativeTo? {rest : List Component}
    (hcomponents : path.components = directory.components ++ rest) (hrest : rest ≠ [])
    (hsteps : ∀ c ∈ rest, IsStep c) :
    ∃ relative, path.relativeTo? directory = some relative ∧ ¬ relative.isAbsolute ∧
      relative.components = rest ∧
      ∀ front name, rest = front ++ [.normal name] → relative.IsFilePath := by
  have hdrop : (path.parts.drop directory.components.length).map Part.component = rest := by
    have hmap : path.parts.map Part.component = _ := hcomponents
    rw [List.map_drop, hmap, List.drop_left]
  obtain ⟨first, more, hparts⟩ : ∃ first more,
      path.parts.drop directory.components.length = first :: more :=
    List.exists_cons_of_ne_nil fun hnil ↦ hrest (by simpa [hnil] using hdrop.symm)
  rw [hparts] at hdrop
  have hsplit : path.parts = path.parts.take directory.components.length ++ first :: more := by
    rw [← hparts, List.take_append_drop]
  -- The first part that is left is a step, so it and the last one stand at fields.
  obtain ⟨parts, hfrom⟩ : ∃ parts, partsFrom 0 path.fields = parts ++ first :: more := by
    have hfirst : IsStep first.component := hsteps _ (hdrop ▸ List.mem_cons_self)
    generalize path.parts.take directory.components.length = taken at hsplit
    exact exists_partsFrom_of_parts hsplit hfirst
  obtain ⟨own, last, hlast⟩ := (List.eq_nil_or_concat' (first :: more)).resolve_left (by simp)
  obtain ⟨middle, final, hslice, hown, hfinal, field, tail, hhead, hfield⟩ :=
    exists_fields_slice hfrom hlast
  refine ⟨path.slice first.start last.stop, ?_,
    not_isAbsolute_of_fields (hslice.trans hhead) hfield, ?_, fun front name hname ↦ ?_⟩
  · rw [relativeTo?, startsWith, hcomponents, if_pos (beginsWith_append _ _), hparts]
    simp [hlast]
  · rw [components_eq, hslice, List.filterMap_append, hown, hhead, leadOf_cons_of_component hfield,
      ← hdrop, hlast]
    simp [hfinal]
  · have hcomponent : last.component = .normal name := by
      rw [← hdrop, hlast, List.map_append] at hname
      simpa using (List.append_inj' hname rfl).2
    rw [hcomponent] at hfinal
    have hslash : '/' ∉ final := by
      have hmem : final ∈ (path.slice first.start last.stop).fields := by simp [hslice]
      exact notMem_of_mem_fields hmem
    obtain ⟨rfl, hisName⟩ := componentOf?_eq_normal hslash hfinal
    exact ⟨middle, name, hslice, hisName⟩

/-- Nothing is left of a path behind itself. -/
theorem relativeTo?_self (h : path.components = directory.components) :
    path.relativeTo? directory = some ⟨""⟩ := by
  have hlength : path.parts.length = directory.components.length := by
    rw [← h, components, List.length_map]
  have hstarts : path.startsWith directory := by
    rw [startsWith, h, beginsWith_eq_true_iff]
  rw [relativeTo?, if_pos hstarts, List.drop_of_length_le hlength.le]

/-- A path relative to a directory has what its own components have behind those of the directory. -/
theorem exists_of_relativeTo? {relative : Path} (hdirectory : directory.text ≠ "")
    (h : path.relativeTo? directory = some relative) :
    ∃ rest, path.components = directory.components ++ rest ∧ relative.components = rest ∧
      ∀ c ∈ rest, IsStep c := by
  have hstarts : path.startsWith directory := by
    by_contra hnot
    simp [relativeTo?, hnot] at h
  obtain ⟨rest, hrest⟩ := beginsWith_eq_true_iff.mp hstarts
  have hne : directory.components ≠ [] := mt components_eq_nil_iff.mp hdirectory
  have hsteps := isStep_of_components hrest.symm hne
  refine ⟨rest, hrest.symm, ?_, hsteps⟩
  by_cases hnil : rest = []
  · subst hnil
    rw [relativeTo?_self (by simpa using hrest.symm)] at h
    rw [← Option.some.inj h]
    rfl
  · obtain ⟨found, hfound, -, hcomponents, -⟩ := exists_relativeTo? hrest.symm hnil hsteps
    rwa [← Option.some.inj (hfound.symm.trans h)]

/-- Below a copy of a directory a path has the components that it has below the directory, also in
the current directory, which the empty path stands for. -/
theorem exists_rebase?_of_ne_nil {target : Path} {rest : List Component}
    (hcomponents : path.components = directory.components ++ rest)
    (hsteps : ∀ c ∈ rest, IsStep c) (hrest : rest ≠ []) :
    ∃ moved, path.rebase? directory target = some moved ∧
      moved.components = target.components ++ rest ∧
      ∀ front name, rest = front ++ [.normal name] → moved.IsFilePath := by
  obtain ⟨relative, hrelative, habsolute, hown, hfile⟩ := exists_relativeTo? hcomponents hrest hsteps
  have hmoved : path.rebase? directory target = some (target.join relative) := by
    rw [rebase?, hrelative]
    rfl
  by_cases htarget : target.text = ""
  · have hjoin : target.join relative = relative := by
      rw [join, if_neg habsolute]
      simp [htarget]
    rw [hjoin] at hmoved
    exact ⟨relative, hmoved, by rw [components_eq_nil_iff.mpr htarget, hown, List.nil_append], hfile⟩
  have hfields : relative.fields.filterMap componentOf? = rest := by
    have hsplit := components_eq relative
    rcases leadOf_fields_of_relative habsolute with hlead | hlead
    · rw [← hown, hsplit, hlead]
      rfl
    · -- A dot at the front would be among the steps.
      rw [hown, hlead] at hsplit
      exact absurd (hsteps .current (by simp [hsplit])) id
  refine ⟨target.join relative, hmoved, ?_, fun front name hlast ↦ ?_⟩
  · rw [components_join habsolute htarget, hfields]
  · exact (isFilePath_join habsolute htarget).mpr (hfile front name hlast)

/-- In a copy of a directory a path has the components behind those of the copy that it has behind
those of the directory. -/
theorem exists_rebase? {target : Path} {rest : List Component}
    (hcomponents : path.components = directory.components ++ rest)
    (hsteps : ∀ c ∈ rest, IsStep c) (htarget : target.text ≠ "") :
    ∃ moved, path.rebase? directory target = some moved ∧
      moved.components = target.components ++ rest ∧
      ∀ front name, rest = front ++ [.normal name] → moved.IsFilePath := by
  by_cases hrest : rest = []
  · subst hrest
    have hrelative := relativeTo?_self (hcomponents.trans (List.append_nil _))
    refine ⟨target.join ⟨""⟩, by rw [rebase?, hrelative]; rfl, ?_, by simp⟩
    exact components_join (by decide) htarget
  · exact exists_rebase?_of_ne_nil hcomponents hsteps hrest

/-! ## The directory of a path -/

private theorem components_slice_lead {part : Part} (h : leadOf path.fields = some part) :
    (path.slice 0 part.stop).components = [part.component] := by
  have htext := text_eq_joinWith path
  unfold leadOf at h
  split at h
  · next next rest hfields =>
    obtain rfl : ⟨.root, 0, 1⟩ = part := by simpa using h
    have htake : path.text.toList.take 1 = ['/'] := by
      rw [htext, hfields, Text.joinWith_cons (by simp)]
      rfl
    rw [slice, htake]
    rfl
  · next rest hfields =>
    obtain rfl : ⟨.current, 0, 1⟩ = part := by simpa using h
    have htake : path.text.toList.take 1 = ['.'] := by
      rw [htext, hfields]
      cases rest with
      | nil => rfl
      | cons next rest =>
        rw [Text.joinWith_cons (by simp)]
        rfl
    rw [slice, htake]
    rfl
  · simp at h

/-- The slice up to a part that stands at a field has the components up to this part. -/
private theorem components_slice_part {parts rest : List Part} {part : Part}
    (h : partsFrom 0 path.fields = parts ++ part :: rest) :
    (path.slice 0 part.stop).components =
      (leadOf path.fields).toList.map Part.component
        ++ (parts ++ [part]).map Part.component := by
  obtain ⟨before, field, after, hfields, hbefore, hfield, hstart, hstop, -⟩ :=
    exists_field_of_partsFrom h
  have hslice : (path.slice 0 part.stop).fields = before ++ [field] := by
    have hlength : part.stop = (Text.joinWith ['/'] (before ++ [field])).length := by
      rw [Text.joinWith_append (by simp), List.length_append, hstop, hstart, Nat.zero_add]
      rfl
    have hfront : path.fields = [] ++ (before ++ [field]) ++ after := by simpa using hfields
    have hcut := fields_slice hfront (by simp)
    rwa [← hlength, Text.ended, List.flatMap_nil, List.length_nil, Nat.zero_add] at hcut
  have hlead : leadOf (before ++ [field]) = leadOf path.fields := by
    rw [hfields]
    cases before with
    | nil =>
      rw [List.nil_append, List.nil_append, leadOf_cons_of_component hfield,
        leadOf_cons_of_component hfield]
    | cons first before => exact leadOf_append (List.cons_ne_nil _ _) _ _ _ _
  rw [components_eq, hslice, hlead, List.filterMap_append, ← map_component_partsFrom 0, hbefore]
  cases leadOf path.fields <;> simp [hfield]

/-- The directory of a path has all of its components but the last one. -/
theorem exists_parent? {components : List Component} {last : Component}
    (h : path.components = components ++ [last]) (hlast : last ≠ .root) :
    ∃ directory, path.parent? = some directory ∧ directory.components = components := by
  have hmap : path.parts.map Part.component = components ++ [last] := h
  obtain ⟨before, final, hparts, hbefore, hfinal⟩ := List.map_eq_append_iff.mp hmap
  obtain ⟨part, rfl, hpart⟩ : ∃ part, final = [part] ∧ part.component = last := by
    simpa [List.map_eq_singleton_iff] using hfinal
  rcases List.eq_nil_or_concat' before with rfl | ⟨before, previous, rfl⟩
  · refine ⟨⟨""⟩, ?_, by rw [← hbefore]; rfl⟩
    rw [parent?, hparts]
    simp [hpart, hlast]
  · refine ⟨path.slice 0 previous.stop, ?_, ?_⟩
    · rw [parent?, hparts]
      simp [hpart, hlast]
    · have hall := parts_eq path
      rw [hparts, List.append_assoc, List.singleton_append] at hall
      cases hlead : leadOf path.fields with
      | none =>
        rw [hlead] at hall
        rw [components_slice_part hall.symm, hlead, ← hbefore]
        rfl
      | some lead =>
        rw [hlead] at hall
        cases before with
        | nil =>
          obtain rfl : previous = lead := (List.cons.inj hall).1
          rw [components_slice_lead hlead, ← hbefore]
          rfl
        | cons first before =>
          obtain ⟨rfl, hrest⟩ := List.cons.inj hall
          rw [components_slice_part hrest.symm, hlead, ← hbefore]
          rfl

/-- The directory of a path begins it. -/
theorem components_parent?_isPrefix {directory : Path} (h : path.parent? = some directory) :
    directory.components <+: path.components := by
  rcases List.eq_nil_or_concat' path.components with hnil | ⟨front, last, hlast⟩
  · have hparts : path.parts = [] := List.map_eq_nil_iff.mp hnil
    simp [parent?, hparts] at h
  · by_cases hroot : last = .root
    · obtain ⟨before, part, hparts, -, hpart⟩ := List.map_eq_append_iff.mp hlast
      obtain ⟨part, rfl, hlast⟩ : ∃ only, part = [only] ∧ only.component = last := by
        simpa [List.map_eq_singleton_iff] using hpart
      simp [parent?, hparts, hlast.trans hroot] at h
    · obtain ⟨found, hfound, rfl⟩ := exists_parent? hlast hroot
      obtain rfl := Option.some.inj (h.symm.trans hfound)
      exact hlast ▸ List.prefix_append _ _

end StaticSite.Path
