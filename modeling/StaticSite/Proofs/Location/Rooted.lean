import StaticSite.Location
import StaticSite.Proofs.Path.Output

/-!
# References from the root

A reference that begins with a slash is meant to be rooted at the directory of templates. It is, if
one slash stands at its front: then it names the same file from everywhere, below this directory. But
only one slash is taken off, so a second one makes the rest a path from the root of the file system
(`resolve_rooted`).
-/

namespace StaticSite.Location

open StaticSite.Path

variable {root : Path} {reference : String} {rest : List Char} {names : List String}

/-- The names of a template: the last one gets an extension unless it has one. -/
def templateNames : List String → List String
  | [] => []
  | [name] => [if (splitName name.toList).2 = none then name ++ ".html" else name]
  | name :: names => name :: templateNames names

theorem templateNames_append (names : List String) (name : String) :
    templateNames (names ++ [name]) =
      names ++ [if (splitName name.toList).2 = none then name ++ ".html" else name] := by
  induction names with
  | nil => rfl
  | cons first names ih =>
    have hcons : templateNames (first :: (names ++ [name])) =
        first :: templateNames (names ++ [name]) := by
      cases names <;> rfl
    rw [List.cons_append, hcons, ih]
    rfl

/-- The components that a reference from the root leads on from. -/
def leadOfRooted (root : Path) (rest : List Char) : List Component :=
  if rest.head? = some '/' then [.root] else root.normalize.components

/-- Behind the first slash a path has the components of what is left. -/
theorem components_of_slash (rest : List Char) :
    components ⟨String.ofList ('/' :: rest)⟩ =
      .root :: (Text.splitOn '/' rest).filterMap componentOf? := by
  have hfields : fields ⟨String.ofList ('/' :: rest)⟩ = [] :: Text.splitOn '/' rest := by
    rw [fields, String.toList_ofList, Text.splitOn, if_pos rfl]
  obtain ⟨first, more, hsplit⟩ := List.exists_cons_of_ne_nil (Text.splitOn_ne_nil '/' rest)
  rw [components_eq, hfields, hsplit]
  rfl

/-- A second slash makes what is behind the first one a path from the root. -/
private theorem components_join_of_slash
    (hnames : (Text.splitOn '/' ('/' :: rest)).filterMap componentOf? = names.map .normal) :
    (root.join ⟨String.ofList ('/' :: rest)⟩).normalize.components =
      .root :: names.map .normal := by
  have habsolute : Path.isAbsolute ⟨String.ofList ('/' :: rest)⟩ :=
    isAbsolute_eq_true_iff.mpr ⟨rest, String.toList_ofList⟩
  have hroot : components ⟨"/"⟩ = [.root] := by decide
  have hrooted : components ⟨String.ofList ('/' :: rest)⟩ =
      components ⟨"/"⟩ ++ names.map .normal := by
    rw [components_of_slash, hroot, ← hnames, Text.splitOn, if_pos rfl]
    rfl
  rw [join, if_pos habsolute, components_normalize_append hrooted]
  rfl

/-- Without a second slash it leads on from the directory of templates. -/
private theorem components_join_of_relative
    (hrelative : ¬ Path.isAbsolute ⟨String.ofList rest⟩)
    (hnames : (Text.splitOn '/' rest).filterMap componentOf? = names.map .normal) :
    (root.join ⟨String.ofList rest⟩).normalize.components =
      root.normalize.components ++ names.map .normal := by
  have hfields : (fields ⟨String.ofList rest⟩).filterMap componentOf? = names.map .normal := by
    rw [fields, String.toList_ofList, hnames]
  by_cases hempty : root.text = ""
  · -- The empty path leads nowhere, and neither does a dot at the front of the reference.
    obtain rfl : root = ⟨""⟩ := by
      cases root
      exact congrArg Path.mk hempty
    have hsplit := components_eq ⟨String.ofList rest⟩
    have hjoin : join ⟨""⟩ ⟨String.ofList rest⟩ = ⟨String.ofList rest⟩ := by
      rw [join, if_neg hrelative]
      rfl
    rw [hfields] at hsplit
    rw [hjoin]
    rcases leadOf_fields_of_relative hrelative with hlead | hlead
    · have hfront : components ⟨String.ofList rest⟩ = components ⟨""⟩ ++ names.map .normal := by
        rw [hsplit, hlead]
        rfl
      exact components_normalize_append hfront
    · have hfront : components ⟨String.ofList rest⟩ = components ⟨"."⟩ ++ names.map .normal := by
        rw [hsplit, hlead]
        rfl
      have hdot : Path.normalize ⟨"."⟩ = Path.normalize ⟨""⟩ := by decide
      rw [← hdot]
      exact components_normalize_append hfront
  · exact components_normalize_append (by rw [components_join hrelative hempty, hfields])

private theorem components_join_rooted
    (hnames : (Text.splitOn '/' rest).filterMap componentOf? = names.map .normal) :
    (root.join ⟨String.ofList rest⟩).normalize.components =
      leadOfRooted root rest ++ names.map .normal := by
  by_cases hslash : rest.head? = some '/'
  · obtain ⟨rest, rfl⟩ := List.head?_eq_some_iff.mp hslash
    rw [leadOfRooted, if_pos hslash, components_join_of_slash hnames]
    rfl
  · have hrelative : ¬ Path.isAbsolute ⟨String.ofList rest⟩ := fun h ↦ by
      obtain ⟨more, hmore⟩ := isAbsolute_eq_true_iff.mp h
      exact hslash (by rw [← String.toList_ofList (l := rest), hmore]; rfl)
    rw [leadOfRooted, if_neg hslash, components_join_of_relative hrelative hnames]

/-- A reference from the root is resolved in the directory of templates, wherever it stands. -/
private theorem resolve_of_slash (directory : Path) (rest : List Char) :
    resolve root (.file directory) (String.ofList ('/' :: rest)) =
      .file (root.join ⟨String.ofList rest⟩).normalize := by
  have hremote : remoteUrl? (String.ofList ('/' :: rest)) = none := by
    simp [remoteUrl?, Text.startsWith, Text.stripPrefix?]
  simp only [resolve, hremote, referredPath, String.toList_ofList]

/-- A template without an extension gets one behind its name. -/
private theorem exists_resolveTemplate {path : Path} {lead : List Component} (hne : names ≠ [])
    (hcomponents : path.normalize.components = lead ++ names.map .normal) :
    ∃ template : Path, template.components = lead ++ (templateNames names).map .normal ∧
      ∀ directory, resolve root directory reference = .file path.normalize →
        resolveTemplate root directory reference = .file template := by
  obtain ⟨front, name, rfl⟩ := (List.eq_nil_or_concat' names).resolve_left hne
  have hsplit : path.normalize.components = (lead ++ front.map .normal) ++ [.normal name] := by
    simp [hcomponents]
  have hown := extension?_eq hsplit
  rw [templateNames_append]
  by_cases hextension : (splitName name.toList).2 = none
  · rw [hextension, Option.map_none] at hown
    refine ⟨path.normalize.withExtension "html", ?_, fun directory hdirectory ↦ ?_⟩
    · rw [components_withExtension_normalize hown hsplit, splitName_of_none hextension,
        if_pos hextension]
      simp [String.ofList_append]
    · simp only [resolveTemplate, hdirectory, hown]
  · refine ⟨path.normalize, by rw [hcomponents, if_neg hextension], fun directory hdirectory ↦ ?_⟩
    obtain ⟨extension, hsome⟩ := Option.ne_none_iff_exists'.mp hextension
    rw [hsome, Option.map_some] at hown
    simp only [resolveTemplate, hdirectory, hown]

/-- A reference that begins with a slash names the same file from everywhere. The file lies below the
directory of templates exactly if no second slash follows the first one, unless the reference leads
below this directory from the root of the file system already. -/
theorem resolve_rooted (h : reference.toList = '/' :: rest)
    (hname : ∃ name, .normal name ∈ components ⟨reference⟩)
    (hparent : .parent ∉ components ⟨reference⟩) :
    ∃ names path template, names ≠ [] ∧ components ⟨reference⟩ = .root :: names.map .normal ∧
      (∀ directory, resolve root (.file directory) reference = .file path ∧
        resolveTemplate root (.file directory) reference = .file template) ∧
      path.components = leadOfRooted root rest ++ names.map .normal ∧
      template.components = leadOfRooted root rest ++ (templateNames names).map .normal ∧
      ((root.normalize.components <+: path.components ∧
          root.normalize.components <+: template.components) ↔
        rest.head? ≠ some '/' ∨ (root.normalize.components <+: .root :: names.map .normal ∧
          root.normalize.components <+: .root :: (templateNames names).map .normal)) := by
  obtain rfl : reference = String.ofList ('/' :: rest) := by rw [← h, String.ofList_toList]
  rw [components_of_slash] at hname hparent ⊢
  have hsteps : ∀ c ∈ (Text.splitOn '/' rest).filterMap componentOf?, IsStep c := fun c hc ↦ by
    obtain ⟨field, hfield, hc⟩ := List.mem_filterMap.mp hc
    exact isStep_of_componentOf? (Text.notMem_of_mem_splitOn hfield) hc
  obtain ⟨names, hnames⟩ :=
    exists_names_of_isStep hsteps fun hmem ↦ hparent (List.mem_cons_of_mem _ hmem)
  have hne : names ≠ [] := by
    rintro rfl
    simp [hnames] at hname
  have hpath : (root.join ⟨String.ofList rest⟩).normalize.components = _ :=
    components_join_rooted hnames
  obtain ⟨template, htemplate, hresolves⟩ := exists_resolveTemplate hne hpath
  refine ⟨names, (root.join ⟨String.ofList rest⟩).normalize, template, hne, by rw [hnames],
    fun directory ↦ ⟨resolve_of_slash directory rest, hresolves _ (resolve_of_slash directory rest)⟩,
    hpath, htemplate, ?_⟩
  rw [hpath, htemplate, leadOfRooted]
  by_cases hslash : rest.head? = some '/'
  · simp [hslash]
  · simp [hslash]

/-- A reference to a template in a directory of templates. -/
theorem resolve_rooted_of_part :
    ("/parts/nav" : String).toList = '/' :: "parts/nav".toList ∧
      (∃ name, .normal name ∈ components ⟨"/parts/nav"⟩) ∧ .parent ∉ components ⟨"/parts/nav"⟩ ∧
      ∃ names path template, names ≠ [] ∧
        components ⟨"/parts/nav"⟩ = .root :: names.map .normal ∧
        (∀ directory, resolve ⟨"/t"⟩ (.file directory) "/parts/nav" = .file path ∧
          resolveTemplate ⟨"/t"⟩ (.file directory) "/parts/nav" = .file template) ∧
        path.components = leadOfRooted ⟨"/t"⟩ "parts/nav".toList ++ names.map .normal ∧
        template.components =
          leadOfRooted ⟨"/t"⟩ "parts/nav".toList ++ (templateNames names).map .normal ∧
        (((⟨"/t"⟩ : Path).normalize.components <+: path.components ∧
            (⟨"/t"⟩ : Path).normalize.components <+: template.components) ↔
          "parts/nav".toList.head? ≠ some '/' ∨
            ((⟨"/t"⟩ : Path).normalize.components <+: .root :: names.map .normal ∧
              (⟨"/t"⟩ : Path).normalize.components <+:
                .root :: (templateNames names).map .normal)) := by
  have hcomponents : components ⟨"/parts/nav"⟩ = [.root, .normal "parts", .normal "nav"] := by decide
  have hname : ∃ name, .normal name ∈ components ⟨"/parts/nav"⟩ := ⟨"nav", by simp [hcomponents]⟩
  have hparent : .parent ∉ components ⟨"/parts/nav"⟩ := by simp [hcomponents]
  exact ⟨by decide, hname, hparent, resolve_rooted (by decide) hname hparent⟩

/-- Behind two slashes a reference is rooted at the root of the file system. -/
theorem resolve_of_two_slashes :
    (⟨"//etc/nav.html"⟩ : Path).components =
        [.root, .normal "etc", .normal "nav.html"] ∧
      resolve ⟨"/t"⟩ (.file ⟨"/t"⟩) "//etc/nav.html" = .file ⟨"/etc/nav.html"⟩ ∧
      resolveTemplate ⟨"/t"⟩ (.file ⟨"/t"⟩) "//etc/nav.html" = .file ⟨"/etc/nav.html"⟩ ∧
      ¬ (⟨"/t"⟩ : Path).normalize.components <+: (⟨"/etc/nav.html"⟩ : Path).components := by
  decide

end StaticSite.Location
