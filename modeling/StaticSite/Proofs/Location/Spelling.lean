import StaticSite.Location
import StaticSite.Proofs.FileTree.Canonical
import StaticSite.Proofs.Path.Output

/-!
# Spellings of a path

One place has many paths, and the normal form picks one of them: it is its own normal form, and it
has no dots but the `..` at the front of a path that does not begin at the root. What is found from
a path depends on the trail alone along which it leads, which is that of the normal form
(`ofComponents_join`). So a reference names the same file from every spelling of a directory, and a
template that is included from a template does not depend on how the path of that one is spelled
(`normalize_canonical`).
-/

namespace StaticSite.Path

variable {path directory : Path} {components : List Component}

/-- The components of a trail in normal form lead along it. -/
theorem Trail.IsNormal.ofComponents_eq {trail : Trail} (h : trail.IsNormal) :
    Trail.ofComponents ((if trail.rooted then [.root] else []) ++ trail.names.reverse) =
      trail := by
  obtain ⟨rooted, rest⟩ := trail
  obtain ⟨ups, names, hrest, hrooted, -⟩ := h
  simp only at hrest hrooted ⊢
  have hups (n : ℕ) : (List.replicate n Component.parent).foldl Trail.step ⟨false, []⟩ =
      ⟨false, List.replicate n .parent⟩ := by
    induction n with
    | zero => rfl
    | succ n ih =>
      rw [List.replicate_succ', List.foldl_append, ih, ← List.replicate_succ']
      cases n <;> rfl
  have hreverse : rest = (names.map Component.normal).reverse ++ List.replicate ups .parent := by
    rw [← List.reverse_reverse rest, hrest]
    simp
  rw [Trail.ofComponents, hrest, List.foldl_append, List.foldl_append, foldl_step_names, hreverse]
  cases rooted with
  | true =>
    obtain rfl := hrooted rfl
    rfl
  | false => simp [hups]

/-- The normal form of a path leads along the same trail as the path. -/
theorem ofComponents_normalize (path : Path) :
    Trail.ofComponents path.normalize.components = Trail.ofComponents path.components := by
  rw [components_normalize, (isNormal_ofComponents path).ofComponents_eq]

/-- A path in normal form is its own normal form. -/
@[simp] theorem normalize_normalize (path : Path) : path.normalize.normalize = path.normalize := by
  rw [normalize, ofComponents_normalize, ← normalize]

/-! ## Paths under a directory -/

/-- Behind a directory the trail goes on with the components of the path. -/
theorem ofComponents_join (hrelative : ¬ path.isAbsolute) :
    Trail.ofComponents (directory.join path).components =
      path.components.foldl Trail.step (Trail.ofComponents directory.components) := by
  by_cases hempty : directory.text = ""
  · obtain rfl : directory = ⟨""⟩ := by
      cases directory
      exact congrArg Path.mk hempty
    rw [join, if_neg hrelative]
    rfl
  · rw [components_join hrelative hempty, Trail.ofComponents, List.foldl_append,
      ← Trail.ofComponents, path.components_eq, List.foldl_append]
    -- A dot at the front of the path leads nowhere.
    rcases leadOf_fields_of_relative hrelative with hlead | hlead <;> rw [hlead] <;> rfl

/-- A path under a directory has the same normal form for every spelling of the directory. -/
theorem normalize_join (directory path : Path) :
    (directory.normalize.join path).normalize = (directory.join path).normalize := by
  by_cases habsolute : path.isAbsolute
  · rw [join, join, if_pos habsolute, if_pos habsolute]
  · rw [normalize, ofComponents_join habsolute, ofComponents_normalize,
      ← ofComponents_join habsolute, ← normalize]

/-- The directory of a file has the same normal form for every spelling of the file. -/
theorem normalize_parent {name : String} (h : path.components = components ++ [.normal name]) :
    (path.normalize.parent?.getD ⟨""⟩).normalize = (path.parent?.getD ⟨""⟩).normalize := by
  obtain ⟨found, hfound, hcomponents⟩ := exists_parent? h (by simp)
  have htrail : Trail.ofComponents path.components =
      { Trail.ofComponents found.components with
        names := .normal name :: (Trail.ofComponents found.components).names } := by
    rw [h, ← hcomponents, Trail.ofComponents, List.foldl_append]
    rfl
  have hnormal : path.normalize.components =
      ((if (Trail.ofComponents found.components).rooted then [.root] else []) ++
        (Trail.ofComponents found.components).names.reverse) ++ [.normal name] := by
    rw [components_normalize, htrail, List.reverse_cons, List.append_assoc]
  obtain ⟨other, hother, hsame⟩ := exists_parent? hnormal (by simp)
  rw [hfound, hother, Option.getD_some, Option.getD_some, normalize, hsame,
    (isNormal_ofComponents found).ofComponents_eq, ← normalize]

/-! ## The form itself -/

/-- A trail begins at the root if and only if the path does. -/
theorem rooted_ofComponents (path : Path) :
    (Trail.ofComponents path.components).rooted = path.isAbsolute := by
  have hkept (components : List Component) (trail : Trail) (h : .root ∉ components) :
      (components.foldl Trail.step trail).rooted = trail.rooted := by
    induction components generalizing trail with
    | nil => rfl
    | cons c components ih =>
      rw [List.mem_cons, not_or] at h
      rw [List.foldl_cons, ih _ h.2]
      cases c with
      | root => exact absurd rfl h.1
      | current => rfl
      | normal name => rfl
      | parent =>
        rw [Trail.step]
        split
        · rfl
        · split_ifs <;> rfl
  rw [components_eq, Trail.ofComponents, List.foldl_append, hkept _ _ path.root_notMem_fields]
  by_cases habsolute : path.isAbsolute
  · obtain ⟨steps, hsteps⟩ := exists_components_of_isAbsolute habsolute
    rw [components_eq] at hsteps
    cases hlead : leadOf path.fields with
    | none =>
      rw [hlead] at hsteps
      have hfields : path.fields.filterMap componentOf? = .root :: steps := hsteps
      exact absurd (hfields ▸ List.mem_cons_self) path.root_notMem_fields
    | some lead =>
      rw [habsolute]
      rcases component_leadOf hlead with rfl | rfl
      · rfl
      · rw [hlead] at hsteps
        cases (List.cons.inj hsteps).1
  · rw [Bool.eq_false_of_not_eq_true habsolute]
    rcases leadOf_fields_of_relative habsolute with hlead | hlead <;> rw [hlead] <;> rfl

/-- The components of a normal form: the root, or as many `..` as the path goes up, and then
names. -/
theorem components_normalize_eq (path : Path) : ∃ (ups : ℕ) (names : List String),
    path.normalize.components =
      (if path.isAbsolute then [.root] else List.replicate ups .parent) ++ names.map .normal := by
  obtain ⟨ups, names, hnames, hrooted, -⟩ := isNormal_ofComponents path
  rw [components_normalize, hnames, rooted_ofComponents] at *
  refine ⟨ups, names, ?_⟩
  split_ifs with habsolute
  · rw [hrooted habsolute]
    rfl
  · rfl

end StaticSite.Path

namespace StaticSite.Location

open StaticSite.Path

variable {location : Location} {root : Path} {reference : String}

/-- A reference names the same location for every spelling of the directory. -/
theorem resolve_canonical (root : Path) (location : Location) (reference : String) :
    resolve root location.canonical reference = resolve root location reference := by
  cases location with
  | remote url => rfl
  | file directory =>
    simp only [canonical, resolve]
    cases remoteUrl? reference with
    | some url => rfl
    | none =>
      simp only [referredPath]
      split
      · rfl
      · rw [normalize_join]

/-- So does a reference to a template. -/
theorem resolveTemplate_canonical (root : Path) (location : Location) (reference : String) :
    resolveTemplate root location.canonical reference =
      resolveTemplate root location reference := by
  rw [resolveTemplate, resolve_canonical, ← resolveTemplate]

/-- A file has one directory, however its path is spelled. -/
theorem canonical_parent_canonical {path : Path} {components : List Component} {name : String}
    (h : path.components = components ++ [.normal name]) :
    (canonical (.file path)).parent.canonical = (parent (.file path)).canonical :=
  congrArg Location.file (normalize_parent h)

/-- The normal form of a path is canonical, and what is referred to from a directory or from a file
does not depend on how its path is spelled. -/
theorem normalize_canonical (a b root : Path) (reference : String) :
    a.normalize.normalize = a.normalize ∧
      (∃ (ups : ℕ) (names : List String), a.normalize.components =
        (if a.isAbsolute then [.root] else List.replicate ups .parent) ++ names.map .normal) ∧
      (a.normalize.join b).normalize = (a.join b).normalize ∧
      ∀ other : Path, other.normalize = a.normalize →
        resolve root (.file other) reference = resolve root (.file a.normalize) reference ∧
        resolveTemplate root (.file other) reference =
          resolveTemplate root (.file a.normalize) reference ∧
        (other.fileName?.isSome → resolveTemplate root (parent (.file other)) reference =
          resolveTemplate root (parent (.file a.normalize)) reference) := by
  refine ⟨normalize_normalize a, components_normalize_eq a, normalize_join a b,
    fun other hother ↦ ?_⟩
  rw [← hother]
  refine ⟨(resolve_canonical root (.file other) reference).symm,
    (resolveTemplate_canonical root (.file other) reference).symm, fun hfile ↦ ?_⟩
  obtain ⟨name, hname⟩ := Option.isSome_iff_exists.mp hfile
  obtain ⟨components, hcomponents⟩ := exists_of_fileName? hname
  rw [← resolveTemplate_canonical, ← canonical_parent_canonical hcomponents,
    resolveTemplate_canonical, canonical]

/-- A path with dots in it, and the same place spelled in another way. -/
theorem normalize_canonical_of_dots :
    (⟨"/t/./sub/../nav.html"⟩ : Path).normalize.normalize = ⟨"/t/nav.html"⟩ ∧
      resolveTemplate ⟨"/t"⟩ (parent (.file ⟨"/t/sub/../nav.html"⟩)) "./parts/head" =
        resolveTemplate ⟨"/t"⟩ (parent (.file ⟨"/t/nav.html"⟩)) "./parts/head" := by
  have hnormal : (⟨"/t/./sub/../nav.html"⟩ : Path).normalize = ⟨"/t/nav.html"⟩ := by decide
  obtain ⟨hsame, -, -, hother⟩ :=
    normalize_canonical ⟨"/t/./sub/../nav.html"⟩ ⟨""⟩ ⟨"/t"⟩ "./parts/head"
  have hspelling := hother ⟨"/t/sub/../nav.html"⟩ (by decide)
  rw [hnormal] at hsame hspelling
  exact ⟨hnormal ▸ hsame, hspelling.2.2 (by decide)⟩

end StaticSite.Location
