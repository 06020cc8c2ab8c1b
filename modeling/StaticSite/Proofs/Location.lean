import StaticSite.Location
import StaticSite.Proofs.Path.Output
import StaticSite.Proofs.Url.Writing

/-!
# Texts of locations

Locations in canonical form are known by their texts as long as every web address among them has the
scheme `http` or `https` (`display_injective`): the path of a file in normal form has no two slashes
in a row, and a web address of such a scheme is known by its text. The text of a template that is
referred to is never a mere name in braces (`not_isBraced_resolveTemplate`): a file is given an
extension unless it has one, and a reference holds no braces.
-/

namespace StaticSite.Location

open StaticSite.Path

variable {root directory path : Path} {location : Location} {reference text name : String}
  {url : Url}

/-- Whether a location is a file or a web address that was read. -/
def IsRead : Location → Prop
  | .file _ => True
  | .remote url => url.IsRead

/-- Whether a location is a file or a web address with the scheme `http` or `https`. -/
def IsWeb : Location → Prop
  | .file _ => True
  | .remote url => url.scheme = "http" ∨ url.scheme = "https"

theorem isWeb_canonical : location.canonical.IsWeb ↔ location.IsWeb := by
  cases location <;> rfl

/-! ## Locations that are read -/

theorem isRead_ofText (text : String) : (ofText text).IsRead := by
  rw [ofText]
  split
  · next url hurl =>
    rw [remoteUrl?] at hurl
    split_ifs at hurl
    exact .read hurl
  · trivial

theorem IsRead.parent (h : location.IsRead) : location.parent.IsRead := by
  cases location with
  | file path => trivial
  | remote url =>
    rw [Location.parent]
    cases hjoin : Url.join? url "./" with
    | none => exact h
    | some joined => exact .join h hjoin

theorem IsRead.canonical (h : location.IsRead) : location.canonical.IsRead := by
  cases location with
  | file path => trivial
  | remote url => exact h

theorem IsRead.resolve (h : location.IsRead) (root : Path) (reference : String) :
    (resolve root location reference).IsRead := by
  cases location with
  | file path =>
    have hread := isRead_ofText reference
    rw [ofText] at hread
    simp only [Location.resolve]
    split
    · next url hurl => simpa [hurl] using hread
    · trivial
  | remote url =>
    simp only [Location.resolve]
    split
    · next joined hjoin => exact .join h hjoin
    · exact isRead_ofText reference

theorem IsRead.resolveTemplate (h : location.IsRead) (root : Path) (reference : String) :
    (resolveTemplate root location reference).IsRead := by
  have hresolve := h.resolve root reference
  rw [Location.resolveTemplate]
  split
  · split <;> trivial
  · next url hurl => exact hurl ▸ hresolve

/-! ## Texts -/

/-- A web address with one of these schemes has a colon and two slashes behind the scheme. -/
private theorem exists_of_web (hread : url.IsRead)
    (hweb : url.scheme = "http" ∨ url.scheme = "https") :
    url.IsSpecial ∧ ∃ rest, url.write.toList = url.scheme.toList ++ ':' :: '/' :: '/' :: rest := by
  have hkind : Url.kindOf url.scheme = .special := by rcases hweb with h | h <;> rw [h] <;> decide
  have hspecial := hread.isSpecial hkind
  obtain ⟨host, hhost, -⟩ := hspecial.host
  obtain ⟨names, hpath, -⟩ := hspecial.path
  exact ⟨hspecial, _, Url.toList_write hhost hpath⟩

/-- The path of a file in normal form is no such web address. -/
private theorem write_ne_normalize (hread : url.IsRead)
    (hweb : url.scheme = "http" ∨ url.scheme = "https") (path : Path) :
    url.write ≠ path.normalize.text := by
  intro hsame
  obtain ⟨-, rest, hrest⟩ := exists_of_web hread hweb
  have hslash : '/' ∉ url.scheme.toList ++ [':'] := by rcases hweb with h | h <;> rw [h] <;> decide
  have htext : path.normalize.text.toList =
      (url.scheme.toList ++ [':']) ++ '/' :: ('/' :: rest) := by
    rw [← hsame, hrest]
    simp
  have hfields : path.normalize.fields =
      (url.scheme.toList ++ [':']) :: [] :: Text.splitOn '/' rest := by
    rw [fields, htext, Text.splitOn_append_separator, Text.splitOn_of_notMem hslash, Text.splitOn,
      if_pos rfl]
    rfl
  exact ne_nil_of_fields_normalize hfields (by simp) List.mem_cons_self rfl

/-- Locations in canonical form, with web addresses of the schemes `http` and `https` alone, are
known by their texts. -/
theorem display_injective {a b : Location} (ha : a.IsRead) (hb : b.IsRead) (hwa : a.IsWeb)
    (hwb : b.IsWeb) (h : a.canonical.display = b.canonical.display) :
    a.canonical = b.canonical := by
  cases a with
  | file path =>
    cases b with
    | file path' => exact congrArg (fun text ↦ Location.file ⟨text⟩) h
    | remote url => exact absurd h.symm (write_ne_normalize hb hwb path)
  | remote url =>
    cases b with
    | file path => exact absurd h (write_ne_normalize ha hwa path)
    | remote url' =>
      have hspecial := (exists_of_web ha hwa).1
      exact congrArg Location.remote (hspecial.write_injective (exists_of_web hb hwb).1 h)

/-! ## Names in braces -/

/-- Whether a text is a name in braces. -/
structure IsBraced (text : String) : Prop where
  brace : '\x7b' ∈ text.toList
  no_slash : '/' ∉ text.toList
  no_dot : '.' ∉ text.toList

theorem IsBraced.components_eq (h : IsBraced text) :
    components ⟨text⟩ = [] ++ [.normal text] := by
  refine components_name ⟨?_, ?_, ?_, h.no_slash⟩
  · rintro rfl
    simpa using h.brace
  · rintro rfl
    exact h.no_dot (by simp)
  · rintro rfl
    exact h.no_dot (by simp)

theorem IsBraced.extension?_eq_none (h : IsBraced text) {components : List Component}
    (hpath : path.components = components ++ [.normal text]) : path.extension? = none := by
  rw [extension?_eq hpath, splitName, Text.breakOnLast?_of_notMem h.no_dot]
  rfl

/-- The characters of a name in a path are characters of the path. -/
private theorem mem_text_of_mem_components {c : Char} (h : .normal name ∈ path.components)
    (hc : c ∈ name.toList) : c ∈ path.text.toList := by
  rw [Path.components_eq, List.mem_append] at h
  rcases h with h | h
  · cases hlead : leadOf path.fields with
    | none => simp [hlead] at h
    | some lead => rcases component_leadOf hlead with rfl | rfl <;> simp [hlead] at h
  · obtain ⟨field, hfield, hname⟩ := List.mem_filterMap.mp h
    obtain ⟨rfl, -⟩ := componentOf?_eq_normal (notMem_of_mem_fields hfield) hname
    exact Text.mem_of_mem_splitOn hfield hc

/-- A new extension brings in no brace. -/
private theorem brace_mem_of_setExtension
    (h : '\x7b' ∈ (path.setExtension "html").text.toList) : '\x7b' ∈ path.text.toList := by
  rw [setExtension] at h
  split at h
  · simp only [String.toList_append, String.toList_ofList, List.mem_append] at h
    rcases h with (h | h) | h
    · exact List.mem_of_mem_take h
    · simp at h
    · simp at h
  · exact h

/-- A file found in the directory of a file is in normal form. -/
theorem exists_normalize_of_resolve (h : resolve root (.file directory) reference = .file path) :
    ∃ other : Path, path = other.normalize := by
  simp only [Location.resolve] at h
  split at h
  · cases h
  · exact ⟨_, (Location.file.inj h).symm⟩

/-- A file found from a web address is the reference as it stands. -/
theorem eq_of_resolve_remote (h : resolve root (.remote url) reference = .file path) :
    path = ⟨reference⟩ := by
  simp only [Location.resolve] at h
  split at h
  · cases h
  · rw [ofText] at h
    split at h
    · cases h
    · exact (Location.file.inj h).symm

/-- A file that is referred to from a file has an extension, or it has no name. -/
private theorem not_isBraced_of_normalize {other : Path} (hpath : path =
    if other.normalize.extension? = none then other.normalize.withExtension "html"
      else other.normalize) : ¬ IsBraced path.normalize.text := by
  intro hbraced
  have hsame : path.normalize.components = [] ++ [.normal path.normalize.text] :=
    hbraced.components_eq
  -- The name at the end of the path is that of its normal form.
  have hlast {front : List Component} {name : String}
      (h : path.components = front ++ [.normal name]) :
      name = path.normalize.text := by
    obtain ⟨front', hfront'⟩ := exists_components_normalize_of_name h
    have hnames := (List.append_inj' (hfront'.symm.trans hsame) rfl).2
    simpa using hnames
  have hmem : .normal path.normalize.text ∈ path.components :=
    mem_components_of_normalize (by simp [hsame])
  rcases other.normalize_cases with ⟨hnone, hnames⟩ | ⟨lead, front, name, hsplit, -⟩
  · have hkept : path = other.normalize := by
      rw [hpath]
      split_ifs
      · exact withExtension_of_fileName?_eq_none hnone
      · rfl
    exact hnames _ (hkept ▸ hmem)
  · split_ifs at hpath with hextension
    · have hdot := hbraced.no_dot
      rw [← hlast (hpath ▸ components_withExtension_normalize hextension hsplit)] at hdot
      simp at hdot
    · obtain rfl := hlast (hpath ▸ hsplit)
      exact hextension (hbraced.extension?_eq_none hsplit)

private theorem not_isBraced_of_resolveTemplate (hreference : '\x7b' ∉ reference.toList)
    (h : (resolveTemplate root location reference).canonical = .file path) :
    ¬ IsBraced path.text := by
  rw [Location.resolveTemplate] at h
  cases hresolve : Location.resolve root location reference with
  | remote url => simp [hresolve, canonical] at h
  | file found =>
    obtain ⟨target, htarget, rfl⟩ : ∃ target, (target =
        if found.extension? = none then found.withExtension "html" else found) ∧
          target.normalize = path := by
      rw [hresolve] at h
      refine ⟨_, rfl, ?_⟩
      cases hextension : found.extension? <;> simpa [hextension, canonical] using h
    cases location with
    | file directory =>
      obtain ⟨other, rfl⟩ := exists_normalize_of_resolve hresolve
      exact not_isBraced_of_normalize htarget
    | remote url =>
      obtain rfl := eq_of_resolve_remote hresolve
      intro hbraced
      have hname : .normal target.normalize.text ∈ target.components :=
        mem_components_of_normalize (by
          rw [show target.normalize.components = _ from hbraced.components_eq]
          simp)
      have hbrace := mem_text_of_mem_components hname hbraced.brace
      rw [htarget] at hbrace
      split_ifs at hbrace with hextension
      · rw [withExtension, hextension] at hbrace
        exact hreference (brace_mem_of_setExtension hbrace)
      · exact hreference hbrace

/-- What a reference without braces names is no name in braces. -/
theorem not_isBraced_resolveTemplate (hread : location.IsRead)
    (hreference : '\x7b' ∉ reference.toList)
    (hweb : (resolveTemplate root location reference).IsWeb) :
    ¬ IsBraced (resolveTemplate root location reference).canonical.display := by
  have htarget := hread.resolveTemplate root reference
  cases hresolve : resolveTemplate root location reference with
  | file path =>
    exact not_isBraced_of_resolveTemplate hreference (congrArg canonical hresolve)
  | remote url =>
    rw [hresolve] at htarget hweb
    obtain ⟨-, rest, hrest⟩ := exists_of_web htarget hweb
    intro hbraced
    refine hbraced.no_slash ?_
    rw [canonical, display, hrest]
    simp

end StaticSite.Location
