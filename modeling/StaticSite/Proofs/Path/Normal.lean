import StaticSite.Proofs.Path.Components

/-!
# Normal form of paths

A list of names and `..` is read back from the path that is written of it (`components_ofSteps`,
`components_ofRootSteps`). The normal form of a path goes up first and then only down
(`direct_normalize`): no `..` stands behind a name.
-/

namespace StaticSite

theorem Text.joinWith_eq_intercalate (separator : List Char) (pieces : List (List Char)) :
    joinWith separator pieces = separator.intercalate pieces := by
  induction pieces with
  | nil => rfl
  | cons piece pieces ih =>
    cases pieces with
    | nil => simp [joinWith]
    | cons next pieces => rw [joinWith_cons (by simp), ih]; simp [List.intercalate]

namespace Path

variable {path : Path} {components : List Component}

/-- Whether a path has no `..` behind a name. -/
def Direct (path : Path) : Prop :=
  ∃ (lead : List Component) (names : List String),
    path.components = lead ++ names.map .normal ∧ ∀ name, .normal name ∉ lead

theorem componentOf?_text {c : Component} (h : IsStep c) :
    componentOf? c.text.toList = some c := by
  cases c with
  | root => exact h.elim
  | current => exact h.elim
  | parent => rfl
  | normal name => exact componentOf?_name h

theorem slash_notMem_text {c : Component} (h : IsStep c) : '/' ∉ c.text.toList := by
  cases c with
  | root => exact h.elim
  | current => exact h.elim
  | parent => decide
  | normal name => exact h.2.2.2

theorem filterMap_text (h : ∀ c ∈ components, IsStep c) :
    (components.map fun c ↦ c.text.toList).filterMap componentOf? = components := by
  induction components with
  | nil => rfl
  | cons c components ih =>
    have hc := componentOf?_text (h c List.mem_cons_self)
    rw [List.map_cons, List.filterMap_cons_some hc,
      ih fun c hc ↦ h c (List.mem_cons_of_mem _ hc)]

theorem toList_intercalate_text (components : List Component) :
    (String.intercalate "/" (components.map Component.text)).toList =
      Text.joinWith ['/'] (components.map fun c ↦ c.text.toList) := by
  rw [String.toList_intercalate, List.map_map, Text.joinWith_eq_intercalate]
  rfl

theorem fields_ofSteps (h : ∀ c ∈ components, IsStep c) (hne : components ≠ []) :
    Path.fields ⟨String.intercalate "/" (components.map Component.text)⟩ =
      components.map fun c ↦ c.text.toList := by
  rw [fields, toList_intercalate_text, Text.splitOn_joinWith (by simpa using hne)]
  intro field hfield
  obtain ⟨c, hc, rfl⟩ := List.mem_map.mp hfield
  exact slash_notMem_text (h c hc)

/-- Names and `..` are read back from the text in which slashes stand between them. -/
theorem components_ofSteps (h : ∀ c ∈ components, IsStep c) :
    Path.components ⟨String.intercalate "/" (components.map Component.text)⟩ = components := by
  cases components with
  | nil => rfl
  | cons c rest =>
    have hfields := fields_ofSteps h (by simp)
    have hlead := componentOf?_text (h c List.mem_cons_self)
    rw [components_eq, hfields, filterMap_text h, List.map_cons,
      leadOf_cons_of_component hlead]
    rfl

theorem fields_ofRootSteps (h : ∀ c ∈ components, IsStep c) (hne : components ≠ []) :
    Path.fields ⟨"/" ++ String.intercalate "/" (components.map Component.text)⟩ =
      [] :: components.map fun c ↦ c.text.toList := by
  rw [fields, String.toList_append, ← fields_ofSteps h hne]
  rfl

/-- The same behind the root. -/
theorem components_ofRootSteps (h : ∀ c ∈ components, IsStep c) :
    Path.components ⟨"/" ++ String.intercalate "/" (components.map Component.text)⟩ =
      .root :: components := by
  cases components with
  | nil => rfl
  | cons c rest =>
    rw [components_eq, fields_ofRootSteps h (by simp), List.filterMap_cons_none (by rfl),
      filterMap_text h]
    rfl

/-! ## The normal form -/

/-- What holds of a path in the making: above the names there are only `..`, and none at all at the
root. -/
structure Trail.IsNormal (trail : Trail) : Prop where
  exists_names : ∃ (ups : Nat) (names : List String),
    trail.names.reverse = List.replicate ups .parent ++ names.map .normal ∧
      (trail.rooted → ups = 0) ∧ ∀ name ∈ names, IsName name

theorem Trail.IsNormal.step {trail : Trail} (h : trail.IsNormal) {c : Component}
    (hc : c = .root → trail.names = []) (hname : ∀ name, c = .normal name → IsName name) :
    (trail.step c).IsNormal := by
  obtain ⟨rooted, rest⟩ := trail
  obtain ⟨ups, names, hrest, hrooted, hnames⟩ := h
  simp only at hrest hrooted hc
  cases c with
  | root => exact ⟨0, [], by simp [Trail.step, hc rfl]⟩
  | current => exact ⟨ups, names, hrest, hrooted, hnames⟩
  | normal name =>
    refine ⟨ups, names ++ [name], by simp [Trail.step, hrest], hrooted, ?_⟩
    intro other hother
    rcases List.mem_append.mp hother with hother | hother
    · exact hnames other hother
    · rw [List.mem_singleton.mp hother]
      exact hname name rfl
  | parent =>
    rw [List.reverse_eq_iff] at hrest
    rcases List.eq_nil_or_concat' names with rfl | ⟨front, last, rfl⟩
    · -- Nothing is taken back: the path goes up once more, or stays at the root.
      obtain rfl : rest = List.replicate ups .parent := by simpa using hrest
      by_cases hroot : rooted
      · obtain rfl : ups = 0 := hrooted hroot
        exact ⟨0, [], by simp [Trail.step, hroot]⟩
      · have hstep : Trail.step ⟨rooted, List.replicate ups .parent⟩ .parent =
            ⟨rooted, List.replicate (ups + 1) .parent⟩ := by
          cases ups <;> simp [Trail.step, hroot, List.replicate_succ]
        rw [hstep]
        exact ⟨ups + 1, [], by simp, fun h ↦ absurd h hroot, by simp⟩
    · obtain rfl : rest = .normal last :: (front.map .normal).reverse
          ++ List.replicate ups .parent := by simpa using hrest
      exact ⟨ups, front, by simp [Trail.step], hrooted,
        fun name hname ↦ hnames name (List.mem_append_left _ hname)⟩

private theorem Trail.IsNormal.foldl {trail : Trail} (h : trail.IsNormal)
    (hroot : .root ∉ components) (hname : ∀ name, .normal name ∈ components → IsName name) :
    (components.foldl Trail.step trail).IsNormal := by
  induction components generalizing trail with
  | nil => exact h
  | cons c components ih =>
    rw [List.mem_cons, not_or] at hroot
    refine ih (h.step (fun hc ↦ absurd hc.symm hroot.1) fun name hc ↦ hname name ?_) hroot.2
      fun name hmem ↦ hname name (List.mem_cons_of_mem _ hmem)
    rw [hc]
    exact List.mem_cons_self

/-- Only the first component can be the root. -/
theorem root_notMem_fields (path : Path) : .root ∉ path.fields.filterMap componentOf? := by
  rintro hmem
  obtain ⟨field, -, hfield⟩ := List.mem_filterMap.mp hmem
  rw [componentOf?] at hfield
  split_ifs at hfield <;> simp at hfield

theorem isNormal_ofComponents (path : Path) : (Trail.ofComponents path.components).IsNormal := by
  have hnames (name : String) (hmem : .normal name ∈ path.fields.filterMap componentOf?) :
      IsName name := by
    have hall : .normal name ∈ path.components := by
      rw [components_eq]
      exact List.mem_append_right _ hmem
    exact isName_of_mem_components hall
  have hstart : Trail.IsNormal ⟨false, []⟩ := ⟨0, [], by simp⟩
  have hrooted : Trail.IsNormal ⟨true, []⟩ := ⟨0, [], by simp⟩
  rw [components_eq, Trail.ofComponents, List.foldl_append]
  cases hlead : leadOf path.fields with
  | none => exact hstart.foldl path.root_notMem_fields hnames
  | some lead =>
    rcases component_leadOf hlead with rfl | rfl
    · exact hrooted.foldl path.root_notMem_fields hnames
    · exact hstart.foldl path.root_notMem_fields hnames

private theorem isStep_of_isNormal {trail : Trail} (h : trail.IsNormal) :
    ∀ c ∈ trail.names.reverse, IsStep c := by
  obtain ⟨ups, names, hnames, -, hisName⟩ := h
  rw [hnames]
  intro c hc
  rcases List.mem_append.mp hc with hc | hc
  · rw [List.eq_of_mem_replicate hc]
    trivial
  · obtain ⟨name, hname, rfl⟩ := List.mem_map.mp hc
    exact hisName name hname

/-- The components of a path in normal form are those of its trail. -/
theorem components_normalize (path : Path) : path.normalize.components =
    (if (Trail.ofComponents path.components).rooted then [.root] else []) ++
      (Trail.ofComponents path.components).names.reverse := by
  have hsteps := isStep_of_isNormal (isNormal_ofComponents path)
  rw [normalize, Trail.toPath]
  split_ifs with hroot
  · exact components_ofRootSteps hsteps
  · exact components_ofSteps hsteps

/-- The components of a path in normal form: the root, or else some `..`, and then names. -/
theorem exists_components_normalize (path : Path) :
    ∃ (lead : List Component) (names : List String),
      path.normalize.components = lead ++ names.map .normal ∧
        (lead = [.root] ∨ ∃ ups, lead = List.replicate ups .parent) := by
  obtain ⟨ups, names, hnames, hrooted, -⟩ := isNormal_ofComponents path
  rw [components_normalize, hnames]
  by_cases hroot : (Trail.ofComponents path.components).rooted
  · exact ⟨[.root], names, by rw [if_pos hroot, hrooted hroot]; rfl, Or.inl rfl⟩
  · exact ⟨List.replicate ups .parent, names, by rw [if_neg hroot]; rfl, Or.inr ⟨ups, rfl⟩⟩

private theorem mem_foldl_step {name : String} {trail : Trail}
    (h : .normal name ∈ (components.foldl Trail.step trail).names) :
    .normal name ∈ trail.names ∨ .normal name ∈ components := by
  induction components generalizing trail with
  | nil => exact .inl h
  | cons c components ih =>
    refine (ih h).elim (fun hstep ↦ ?_) fun hlater ↦ .inr (List.mem_cons_of_mem _ hlater)
    cases c with
    | root => exact .inl hstep
    | current => exact .inl hstep
    | normal other =>
      rcases List.mem_cons.mp hstep with hname | hstep
      · exact .inr (hname ▸ List.mem_cons_self)
      · exact .inl hstep
    | parent =>
      rw [Trail.step] at hstep
      split at hstep
      · next rest hnames => exact .inl (hnames ▸ List.mem_cons_of_mem _ hstep)
      · split_ifs at hstep
        · exact .inl hstep
        · exact .inl (by simpa using hstep)

/-- A normal form has no names but those of the path. -/
theorem mem_components_of_normalize {name : String}
    (h : .normal name ∈ path.normalize.components) : .normal name ∈ path.components := by
  rw [components_normalize, List.mem_append, List.mem_reverse] at h
  rcases h with h | h
  · split_ifs at h <;> simp at h
  · simpa using mem_foldl_step h

/-- The name at the end of a path is at the end of its normal form. -/
theorem exists_components_normalize_of_name {name : String}
    (h : path.components = components ++ [.normal name]) :
    ∃ front, path.normalize.components = front ++ [.normal name] := by
  have htrail : (Trail.ofComponents path.components).names =
      .normal name :: (Trail.ofComponents components).names := by
    rw [h, Trail.ofComponents, List.foldl_append]
    rfl
  rw [components_normalize, htrail, List.reverse_cons, ← List.append_assoc]
  exact ⟨_, rfl⟩

/-- Names lead down, whatever the trail is. -/
theorem foldl_step_names (names : List String) (trail : Trail) :
    (names.map .normal).foldl Trail.step trail =
      { trail with names := (names.map .normal).reverse ++ trail.names } := by
  induction names generalizing trail with
  | nil => rfl
  | cons name names ih => simp [ih, Trail.step]

/-- Names at the end of a path stay at the end of its normal form. -/
theorem components_normalize_append {front : Path} {names : List String}
    (h : path.components = front.components ++ names.map .normal) :
    path.normalize.components = front.normalize.components ++ names.map .normal := by
  rw [components_normalize, components_normalize, h, Trail.ofComponents, Trail.ofComponents,
    List.foldl_append, foldl_step_names]
  simp

/-- In a normal form no slash follows a slash, unless the first one is the root. -/
theorem ne_nil_of_fields_normalize {first field : List Char} {rest : List (List Char)}
    (h : path.normalize.fields = first :: rest) (hfirst : first ≠ []) (hfield : field ∈ rest) :
    field ≠ [] := by
  have hsteps := isStep_of_isNormal (isNormal_ofComponents path)
  rw [normalize, Trail.toPath] at h
  generalize (Trail.ofComponents path.components).names.reverse = names at h hsteps
  by_cases hnames : names = []
  · subst hnames
    split_ifs at h
    · have hroot : fields ⟨"/" ++ String.intercalate "/" ([].map Component.text)⟩ = [[], []] := rfl
      exact absurd (List.cons.inj (hroot.symm.trans h)).1.symm hfirst
    · have hempty : fields ⟨String.intercalate "/" ([].map Component.text)⟩ = [[]] := rfl
      exact absurd (List.cons.inj (hempty.symm.trans h)).1.symm hfirst
  · split_ifs at h
    · rw [fields_ofRootSteps hsteps hnames] at h
      exact absurd (List.cons.inj h).1.symm hfirst
    · rw [fields_ofSteps hsteps hnames] at h
      have hmem : field ∈ names.map fun c ↦ c.text.toList := h ▸ List.mem_cons_of_mem _ hfield
      obtain ⟨c, hc, rfl⟩ := List.mem_map.mp hmem
      intro hnil
      have hcomponent := componentOf?_text (hsteps c hc)
      rw [hnil] at hcomponent
      simp [componentOf?] at hcomponent

/-- A path in normal form goes up first and then only down. -/
theorem direct_normalize (path : Path) : path.normalize.Direct := by
  obtain ⟨lead, names, hcomponents, hlead⟩ := exists_components_normalize path
  refine ⟨lead, names, hcomponents, fun name hmem ↦ ?_⟩
  rcases hlead with rfl | ⟨ups, rfl⟩
  · simp at hmem
  · exact Component.noConfusion (List.eq_of_mem_replicate hmem)

/-- A path in normal form that ends in a name is one that a file may have. -/
theorem isFilePath_normalize {name : String}
    (h : path.normalize.components = components ++ [.normal name]) : path.normalize.IsFilePath := by
  have hsteps := isStep_of_isNormal (isNormal_ofComponents path)
  have hmem : .normal name ∈ path.normalize.components := by simp [h]
  have hname := isName_of_mem_components hmem
  rw [normalize, Trail.toPath] at h ⊢
  by_cases hroot : (Trail.ofComponents path.components).rooted
  · simp only [if_pos hroot] at h ⊢
    rw [components_ofRootSteps hsteps] at h
    cases components with
    | nil => simp at h
    | cons first rest =>
      have hrest := (List.cons.inj h).2
      refine ⟨[] :: rest.map fun c ↦ c.text.toList, name, ?_, hname⟩
      rw [fields_ofRootSteps hsteps (by simp [hrest]), hrest]
      simp [Component.text]
  · simp only [if_neg hroot] at h ⊢
    rw [components_ofSteps hsteps] at h
    refine ⟨components.map fun c ↦ c.text.toList, name, ?_, hname⟩
    rw [fields_ofSteps hsteps (by simp [h]), h]
    simp [Component.text]

end Path

end StaticSite
