import StaticSite.Proofs.Path.Output
import StaticSite.Site.Builder
import StaticSite.Site.Formats

/-!
# Addresses of pages

The address of a page is made from its place in the content, and its output file by a way of its own.
Both agree: a page below the directory of content is published under the path of its output file, of
which a name `index.html` at the end is left out (`url_eq_addressText`). So pages share an address
exactly if they share an output file. In the directory that the empty path stands for, a path from
the root or with a dot at its front lies below it as well, and there the two ways part
(`url_of_dot`).
-/

namespace StaticSite

open StaticSite.Path

namespace Path

variable {front : List Component} {last c : Component}

/-- The text of the last component in an address. -/
def shortText (c : Component) : String := if c = .normal "index.html" then "" else c.text

/-- The components with slashes between them, in which `index.html` is left out at the end, but not
the slash in front of it. -/
def addressText : List Component → String
  | [] => ""
  | [last] => shortText last
  | c :: rest => c.text ++ "/" ++ addressText rest

/-- What stands in front of the last component in an address. -/
def addressFront (front : List Component) : List Char :=
  Text.ended '/' (front.map fun c ↦ c.text.toList)

theorem toList_addressText (front : List Component) (last : Component) :
    (addressText (front ++ [last])).toList = addressFront front ++ (shortText last).toList := by
  induction front with
  | nil => rfl
  | cons c front ih =>
    have hcons : addressText (c :: (front ++ [last])) =
        c.text ++ "/" ++ addressText (front ++ [last]) := by
      cases front <;> rfl
    rw [List.cons_append, hcons, String.toList_append, ih]
    simp [addressFront, Text.ended]

theorem toList_urlPath {path : Path} (h : path.components = front ++ [last]) :
    path.urlPath.toList = addressFront front ++ last.text.toList := by
  rw [urlPath, h, toList_intercalate_text, List.map_append, Text.joinWith_append (by simp)]
  rfl

/-- In front of the last component stands nothing, or a slash at the end. -/
theorem addressFront_cases (front : List Component) :
    addressFront front = [] ∨ ∃ before, addressFront front = before ++ ['/'] := by
  rcases List.eq_nil_or_concat' front with rfl | ⟨front, c, rfl⟩
  · exact .inl rfl
  · exact .inr ⟨addressFront front ++ c.text.toList, by simp [addressFront, Text.ended]⟩

theorem text_ne_nil (h : IsStep c) : c.text.toList ≠ [] := by
  intro hnil
  have hcomponent := componentOf?_text h
  simp [hnil, componentOf?] at hcomponent

theorem text_injective (h : IsStep c) (hlast : IsStep last) (hsame : c.text = last.text) :
    c = last := by
  have hcomponent := componentOf?_text h
  rw [hsame, componentOf?_text hlast] at hcomponent
  exact (Option.some.inj hcomponent).symm

theorem eq_index_of_text (h : IsStep c) (htext : c.text = "index.html") :
    c = .normal "index.html" :=
  text_injective h (show IsName "index.html" by decide) htext

/-- What stands in front of the last component of a path of names does not begin with a slash. -/
theorem head?_addressFront (h : ∀ c ∈ front, IsStep c) : (addressFront front).head? ≠ some '/' := by
  cases front with
  | nil => simp [addressFront, Text.ended]
  | cons c front =>
    have hc : IsStep c := h c List.mem_cons_self
    obtain ⟨a, text, htext⟩ := List.exists_cons_of_ne_nil (text_ne_nil hc)
    have ha : a ≠ '/' := fun ha ↦ slash_notMem_text hc (by simp [htext, ha])
    simpa [addressFront, Text.ended, htext] using ha

theorem toList_shortText (h : IsStep c) : (shortText c).toList =
    if c.text.toList = "index.html".toList then [] else c.text.toList := by
  have hindex : c.text.toList = "index.html".toList ↔ c = .normal "index.html" :=
    ⟨fun hsame ↦ eq_index_of_text h (String.toList_inj.mp hsame), by rintro rfl; rfl⟩
  simp only [shortText, hindex]
  split_ifs <;> rfl

theorem slash_notMem_shortText (h : IsStep c) : '/' ∉ (shortText c).toList := by
  rw [shortText]
  split_ifs
  · simp
  · exact slash_notMem_text h

theorem shortText_ne_index (h : IsStep c) : shortText c ≠ "index.html" := by
  rw [shortText]
  split_ifs with hindex
  · decide
  · exact mt (eq_index_of_text h) hindex

theorem shortText_injective (h : IsStep c) (hlast : IsStep last)
    (hsame : shortText c = shortText last) : c = last := by
  have hne {c : Component} (h : IsStep c) : c.text ≠ "" := fun hempty ↦
    text_ne_nil h (by rw [hempty]; rfl)
  rw [shortText, shortText] at hsame
  split_ifs at hsame with hc hlast' hlast'
  · rw [hc, hlast']
  · exact absurd hsame.symm (hne hlast)
  · exact absurd hsame (hne h)
  · exact text_injective h hlast hsame

/-- What stands around the last slash of a text is fixed by the text. -/
theorem eq_of_append_slash {before before' rest rest' : List Char}
    (h : before ++ '/' :: rest = before' ++ '/' :: rest') (hrest : '/' ∉ rest)
    (hrest' : '/' ∉ rest') : before = before' ∧ rest = rest' := by
  have hbreak : Text.breakOnLast? ['/'] (before ++ '/' :: rest) = some (before, rest) :=
    Text.breakOnLast?_append hrest
  rw [h, Text.breakOnLast?_append hrest'] at hbreak
  simpa [eq_comm] using hbreak

/-- Between the slashes of an address stand the texts of the components. -/
theorem splitOn_addressText (h : ∀ c ∈ front ++ [last], IsStep c) :
    Text.splitOn '/' (addressText (front ++ [last])).toList =
      (front.map fun c ↦ c.text.toList) ++ [(shortText last).toList] := by
  have hjoin : (addressText (front ++ [last])).toList =
      Text.joinWith ['/'] ((front.map fun c ↦ c.text.toList) ++ [(shortText last).toList]) := by
    rw [toList_addressText, Text.joinWith_append (by simp)]
    rfl
  rw [hjoin, Text.splitOn_joinWith (by simp)]
  intro field hfield
  rcases List.mem_append.mp hfield with hfield | hfield
  · obtain ⟨c, hc, rfl⟩ := List.mem_map.mp hfield
    exact slash_notMem_text (h c (List.mem_append_left _ hc))
  · rw [List.mem_singleton.mp hfield]
    exact slash_notMem_shortText (h last (by simp))

/-- Paths of names have the same address only if they are the same. -/
theorem addressText_injective {front' : List Component} {last' : Component}
    (h : ∀ c ∈ front ++ [last], IsStep c) (h' : ∀ c ∈ front' ++ [last'], IsStep c)
    (hsame : addressText (front ++ [last]) = addressText (front' ++ [last'])) :
    front ++ [last] = front' ++ [last'] := by
  have hfields := splitOn_addressText h
  rw [hsame, splitOn_addressText h'] at hfields
  obtain ⟨hfronts, hlasts⟩ := List.append_inj' hfields rfl
  have hfront := congrArg (List.filterMap componentOf?) hfronts
  rw [filterMap_text fun c hc ↦ h' c (List.mem_append_left _ hc),
    filterMap_text fun c hc ↦ h c (List.mem_append_left _ hc)] at hfront
  have hlast := shortText_injective (h' last' (by simp)) (h last (by simp))
    (String.toList_inj.mp (List.singleton_inj.mp hlasts))
  rw [hfront, hlast]

/-- The name `index.html` is never the last one of an address. -/
theorem not_index_isSuffix (before : List Char) (h : ∀ c ∈ front ++ [last], IsStep c) :
    ¬ "/index.html".toList <:+ before ++ '/' :: (addressText (front ++ [last])).toList := by
  have hlast : IsStep last := h last (by simp)
  obtain ⟨whole, hwhole⟩ : ∃ whole, before ++ '/' :: (addressText (front ++ [last])).toList =
      whole ++ '/' :: (shortText last).toList := by
    rw [toList_addressText]
    rcases addressFront_cases front with hfront | ⟨between, hfront⟩
    · exact ⟨before, by rw [hfront, List.nil_append]⟩
    · exact ⟨before ++ '/' :: between, by simp [hfront]⟩
  rintro ⟨rest, hrest⟩
  have hends : whole ++ '/' :: (shortText last).toList = rest ++ '/' :: "index.html".toList :=
    hwhole.symm.trans hrest.symm
  exact shortText_ne_index hlast (String.toList_inj.mp
    (eq_of_append_slash hends (slash_notMem_shortText hlast) (by decide)).2)

/-! ## Public paths -/

/-- What is left of a text in front of its end. -/
private theorem eq_of_stripPrefix?_reverse {text ending rest : List Char}
    (h : Text.stripPrefix? ending.reverse text.reverse = some rest) :
    text = rest.reverse ++ ending := by
  rw [← List.reverse_inj, List.reverse_append, List.reverse_reverse]
  exact Text.stripPrefix?_eq_some h

/-- A name alone is left out as a whole. -/
theorem publicPath_of_notMem {name : List Char} (h : '/' ∉ name) :
    publicPath name = if name = "index.html".toList then [] else name := by
  have hdrop : name.dropWhile (· == '/') = name := by
    cases name with
    | nil => rfl
    | cons a name => simp [(List.ne_of_not_mem_cons h).symm]
  rw [publicPath]
  simp only [hdrop]
  split_ifs
  · rfl
  split
  · next rest hstrip => exact absurd (by rw [eq_of_stripPrefix?_reverse hstrip]; simp) h
  · rfl

/-- Of a name behind a slash this is kept. -/
theorem publicPath_append {before name : List Char} (hne : before ≠ [])
    (hfirst : before.head? ≠ some '/') (h : '/' ∉ name) :
    publicPath (before ++ '/' :: name) =
      before ++ '/' :: if name = "index.html".toList then [] else name := by
  have hdrop : (before ++ '/' :: name).dropWhile (· == '/') = before ++ '/' :: name := by
    obtain ⟨a, before, rfl⟩ := List.exists_cons_of_ne_nil hne
    have ha : a ≠ '/' := fun ha ↦ hfirst (by rw [ha]; rfl)
    simp [ha]
  have hwhole : before ++ '/' :: name ≠ "index.html".toList := fun hsame ↦ by
    have hmem : '/' ∈ "index.html".toList := hsame ▸ by simp
    exact absurd hmem (by decide)
  rw [publicPath]
  simp only [hdrop, if_neg hwhole]
  split_ifs with hindex
  · have hstrip := Text.stripPrefix?_append ('/' :: "index.html".toList).reverse before.reverse
    rw [← List.reverse_append, ← hindex] at hstrip
    rw [← hindex, hstrip]
    simp
  · split
    · next rest hstrip =>
      have hend := eq_of_stripPrefix?_reverse hstrip
      exact absurd (eq_of_append_slash hend h (by decide)).2 hindex
    · rfl

/-- The public path of a path of names is its address. -/
theorem publicPath_urlPath {path : Path} (hpath : path.components = front ++ [last])
    (h : ∀ c ∈ front ++ [last], IsStep c) :
    publicPath path.urlPath.toList = (addressText (front ++ [last])).toList := by
  obtain ⟨hfront, hlast⟩ := List.forall_mem_append.mp h
  have hlast : IsStep last := hlast last List.mem_cons_self
  have hslash := slash_notMem_text hlast
  have hhead := head?_addressFront hfront
  rw [toList_urlPath hpath, toList_addressText, toList_shortText hlast]
  rcases addressFront_cases front with hnil | ⟨before, hbefore⟩
  · rw [hnil, List.nil_append, List.nil_append, publicPath_of_notMem hslash]
  · have hne : before ≠ [] := by
      rintro rfl
      exact hhead (by rw [hbefore]; rfl)
    rw [hbefore, List.head?_append_of_ne_nil _ hne] at hhead
    rw [hbefore, List.append_assoc, List.append_assoc, List.singleton_append, List.singleton_append,
      publicPath_append hne hhead hslash]

end Path

/-! ## Pages -/

namespace ContextSetting

/-- The address of the site without slashes at its end. -/
def siteBase (setting : ContextSetting) : String :=
  String.ofList ((setting.siteUrl.getD "").toList.rdropWhile (· == '/'))

/-- Every page sees its own address. -/
theorem get?_url_context (setting : ContextSetting) (read? : Path → Option String)
    (metadata : Metadata) (body : String) (page : Path) :
    (setting.context read? metadata body page).get? "url" = some (.text (setting.pageUrl page)) := by
  rw [PageContext.get?, context, derived, Fields.extend]
  cases setting.templates <;> simp

end ContextSetting

namespace Builder

variable {builder : Builder} {page : Path}

/-- A page below the directory of content. Where this one is the current directory by the empty path,
the path of the page begins with a name or goes up. -/
structure IsPageBelow (builder : Builder) (page : Path) : Prop where
  isPage : builder.registry.isPage page
  startsWith : page.startsWith builder.paths.content
  ne : page.components ≠ builder.paths.content.components
  isStep : builder.paths.content.text = "" → ∀ c ∈ page.components.head?, IsStep c

/-- A page has a name. -/
theorem exists_name_of_isPage (h : builder.registry.isPage page) :
    ∃ directory name, page.components = directory ++ [.normal name] := by
  have hname : page.fileName? ≠ none := fun hnone ↦ by
    simp [Registry.isPage, Registry.forPath?, extension?, hnone] at h
  obtain ⟨name, hname⟩ := Option.ne_none_iff_exists'.mp hname
  obtain ⟨directory, hcomponents⟩ := exists_of_fileName? hname
  exact ⟨directory, name, hcomponents⟩

theorem IsPageBelow.exists_rest (h : builder.IsPageBelow page) :
    ∃ front name, page.components = builder.paths.content.components ++ (front ++ [.normal name]) ∧
      ∀ c ∈ front ++ [.normal name], IsStep c := by
  obtain ⟨rest, hrest⟩ := beginsWith_eq_true_iff.mp h.startsWith
  obtain ⟨directory, name, hname⟩ := exists_name_of_isPage h.isPage
  rcases List.eq_nil_or_concat' rest with rfl | ⟨front, last, rfl⟩
  · exact absurd (by rw [← hrest, List.append_nil]) h.ne
  rw [← List.append_assoc] at hrest
  obtain rfl : last = .normal name :=
    List.singleton_inj.mp (List.append_inj' (hrest.trans hname) rfl).2
  rw [List.append_assoc] at hrest
  refine ⟨front, name, hrest.symm, ?_⟩
  by_cases hempty : builder.paths.content.text = ""
  · -- All components are left, and only the first one may be no step.
    rw [components_eq_nil_iff.mpr hempty, List.nil_append] at hrest
    obtain ⟨first, more, hfirst⟩ := List.exists_cons_of_ne_nil
      (List.append_ne_nil_of_right_ne_nil front (List.cons_ne_nil (.normal name) []))
    rw [hfirst] at hrest ⊢
    refine List.forall_mem_cons.mpr ⟨h.isStep hempty first (by simp [← hrest]), ?_⟩
    exact isStep_of_components (hrest.symm.trans (List.singleton_append).symm) (List.cons_ne_nil _ _)
  · exact isStep_of_components hrest.symm (mt components_eq_nil_iff.mp hempty)

/-- The output of a page below the directory of content, with the address of the page. -/
theorem IsPageBelow.exists_output (h : builder.IsPageBelow page) :
    ∃ output relative front last, builder.outputPath? page = some output ∧
      output.relativeTo? builder.paths.output = some relative ∧
      output.components = builder.paths.output.components ++ (front ++ [last]) ∧
      relative.components = front ++ [last] ∧ (∀ c ∈ front ++ [last], IsStep c) ∧
      ∀ setting : ContextSetting, setting.contentRoot = builder.paths.content →
        setting.pageUrl page = setting.siteBase ++ "/" ++ addressText (front ++ [last]) := by
  obtain ⟨front, name, hsplit, hsteps⟩ := h.exists_rest
  obtain ⟨hfront, hname⟩ := List.forall_mem_append.mp hsteps
  have hname : IsName name := hname _ List.mem_cons_self
  obtain ⟨last, hlast, hstep⟩ : ∃ last, (outputPage ⟨name⟩).components = [last] ∧ IsStep last := by
    rcases components_outputPage_cases (isFilePath_name hname) (components_name hname) with
      ⟨hparent, -⟩ | hnew
    · exact ⟨.parent, hparent, trivial⟩
    · exact ⟨_, hnew, isName_of_mem_components (by rw [hnew]; simp)⟩
  have hsteps' : ∀ c ∈ front ++ [last], IsStep c :=
    List.forall_mem_append.mpr ⟨hfront, by simpa using hstep⟩
  obtain ⟨moved, (hmoved : page.rebase? builder.paths.content builder.paths.output = some moved),
    hcomponents, hfile⟩ := exists_rebase?_of_ne_nil hsplit hsteps (by simp)
  rw [← List.append_assoc] at hcomponents
  have houtput := components_outputPage_append (hfile front name rfl) hcomponents hname
  rw [hlast, List.append_assoc] at houtput
  obtain ⟨relative, hrelative, -, hown, -⟩ := exists_relativeTo? houtput (by simp) hsteps'
  refine ⟨moved.outputPage, relative, front, last, ?_, hrelative, houtput, hown, hsteps', ?_⟩
  · rw [outputPath?, hmoved, Option.map_some, if_pos h.isPage]
  · intro setting hroot
    obtain ⟨place, hplace, -, hinner, hplaceFile⟩ := exists_relativeTo? hsplit (by simp) hsteps
    have hpage := components_outputPage_append (hplaceFile front name rfl) hinner hname
    rw [hlast] at hpage
    rw [ContextSetting.pageUrl, hroot, hplace, Option.getD_some, Path.pageUrl]
    simp only [publicPath_urlPath hpage hsteps']
    rw [← String.toList_inj]
    simp [ContextSetting.siteBase, List.rdropWhile]

/-- A site with the usual directories but for the one of content. -/
def siteIn (content : Path) : Builder where
  config := Config.default
  paths := { Config.defaultPaths with content := content }
  registry := .standard
  cache := none
  liveReload := false

/-- What the contexts of the pages of a site have in common. -/
def settingIn (content : Path) (siteUrl : Option String) : ContextSetting :=
  ⟨[], content, siteUrl, none, none⟩

end Builder

end StaticSite
