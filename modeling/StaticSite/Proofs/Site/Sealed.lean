import StaticSite.Proofs.Site.Page

/-!
# Sites that read no output

A path is steady if what can be read there does not depend on the output directory. Where templates
and pages read at steady paths only (`SealsTemplates`, `SealsPages`), they are at every stage of a
build what they are on the site that it began with (`composeTemplates_eq_of_stages`,
`pageHtml_of_stage`). Self-contained sites are such sites.
-/

namespace StaticSite

open StaticSite.Path

namespace FileTree

variable {tree : FileTree} {path path' : Path} {content : Content}

/-- Paths with the same components read alike, if both end in a name or neither does. -/
theorem read_iff_of_components (h : path.components = path'.components)
    (hfile : path.IsFilePath ↔ path'.IsFilePath) :
    tree.read path = .ok content ↔ tree.read path' = .ok content := by
  have hplace : tree.placeOf path = tree.placeOf path' := by rw [placeOf, h, ← placeOf]
  have hlocate (place : Place) : tree.locate path = .ok place ↔ tree.locate path' = .ok place := by
    by_cases hpath : path.IsFilePath
    · obtain ⟨before, name, hfields, hname⟩ := id hpath
      obtain ⟨front, hfront⟩ := components_of_fields hfields hname
      rw [locate_eq_ok_iff hpath hfront, locate_eq_ok_iff (hfile.mp hpath) (h ▸ hfront), hplace]
    · have htext : path.text ≠ "" ↔ path'.text ≠ "" := by
        rw [Ne, Ne, ← components_eq_nil_iff, ← components_eq_nil_iff, h]
      rw [locate_eq_ok_iff_of_not hpath, locate_eq_ok_iff_of_not (mt hfile.mpr hpath), hplace, h,
        htext]
  simp only [read_eq_ok_iff_lookup, lookup_eq_ok_iff, hlocate]

end FileTree

namespace Builder

variable {builder : Builder} {site tree : FileTree} {file : ContentName} {page page' path : Path}
  {location : Location} {text script html : String} {templates : ComposedTemplates}
  {renderer : Renderer}

/-- Whether what can be read at a path does not depend on the output directory. -/
def Steady (builder : Builder) (site : FileTree) (path : Path) : Prop :=
  ∀ tree, builder.Stage site tree → ∀ text,
    tree.readText path = .ok text ↔ site.readText path = .ok text

/-- Where templates are read: at their own paths and at those of what they include. -/
inductive TemplateReads (builder : Builder) (site : FileTree) : Path → Prop
  | template {path : Path} (hmem : .file path ∈ builder.templateLocations) :
      TemplateReads builder site path
  | included {location : Location} {text : String} {path : Path}
      (hmem : location ∈ builder.templateLocations)
      (hsource : site.source builder.config.retries location = .ok text)
      (hreads : Compose.Reads (builder.setting site) text location (.file path)) :
      TemplateReads builder site path

/-- Where a page reads: at the paths of what it includes, of its metadata and of the script that the
metadata name. -/
inductive PageReads (builder : Builder) (site : FileTree) (file : ContentName) : Path → Prop
  | included {text : String} {path : Path}
      (htext : site.file? (builder.placeOf site file) = some (.text text))
      (hreads : Compose.Reads (builder.setting site) text (.file (builder.pathOf file))
        (.file path)) :
      PageReads builder site file path
  | metadata :
      PageReads builder site file ((builder.pathOf file).metadataFile builder.config.metadataFile)
  | script {script : String}
      (hscript : (site.metadataOf (builder.pathOf file) builder.config.metadataFile).scriptPath? =
        some script) :
      PageReads builder site file (ContextSetting.scriptPath (builder.pathOf file) script)

/-- Whether no template reads in the output directory. -/
def SealsTemplates (builder : Builder) (site : FileTree) : Prop :=
  ∀ path, builder.TemplateReads site path → builder.Steady site path

/-- Whether no page reads in the output directory. -/
def SealsPages (builder : Builder) (site : FileTree) : Prop :=
  ∀ file, builder.IsPageName file → (site.file? (builder.placeOf site file)).isSome →
    ∀ path, builder.PageReads site file path → builder.Steady site path

/-- A path that goes up first and then only down is steady outside of the output directory. -/
theorem Grounded.steady_of_direct (hsite : builder.Grounded site) (hdirect : path.Direct)
    (hplace : ¬ builder.outputPlace site <+: site.placeOf path) : builder.Steady site path := by
  intro tree h text
  rw [FileTree.readText_eq_ok_iff, FileTree.readText_eq_ok_iff, hsite.read_direct h hdirect hplace,
    hsite.read_direct hsite.stage hdirect hplace]

/-- The paths of content files are steady. -/
theorem Grounded.steady_of_isPathOf (hsite : builder.Grounded site)
    (hpath : builder.IsPathOf file path) : builder.Steady site path := by
  intro tree h text
  rw [FileTree.readText_eq_ok_iff, FileTree.readText_eq_ok_iff, hsite.read_contentFile h hpath,
    hsite.read_contentFile hsite.stage hpath]

/-- The HTML of a page from its text, its composed text and the rendered one. -/
theorem pageHtml_of_renderPage {composed rendered : String} (htext : tree.readText page = .ok text)
    (hcomposed : (Compose.compose (builder.setting tree) text (.file page)).result = .ok composed)
    (hrendered : renderer.renderPage (builder.contextOf tree templates page composed) =
      .ok rendered) :
    builder.pageHtml tree templates renderer page =
      .ok (if builder.liveReload then injectScript rendered liveReloadScript else rendered) := by
  rw [pageHtml, htext]
  simp only [hcomposed]
  split
  · next e he => cases hrendered.symm.trans he
  · next found hfound => rw [Except.ok.inj (hrendered.symm.trans hfound)]

/-- Live reload adds a script to the HTML of a page. -/
theorem pageHtml_of_liveReload (liveReload : Bool)
    (h : { builder with liveReload := false }.pageHtml tree templates renderer page = .ok html) :
    { builder with liveReload }.pageHtml tree templates renderer page =
      .ok (if liveReload then injectScript html liveReloadScript else html) := by
  obtain ⟨text, composed, rendered, hread, hcompose, hrender, hhtml⟩ := exists_of_pageHtml h
  obtain rfl : html = rendered := hhtml
  exact pageHtml_of_renderPage hread hcompose hrender

/-! ## Templates -/

theorem Steady.source_iff (hsteady : builder.Steady site path) (h : builder.Stage site tree)
    {retries : Nat} :
    tree.source retries (.file path) = .ok text ↔ site.source retries (.file path) = .ok text := by
  have hread := hsteady tree h text
  rw [FileTree.readText_eq_ok_iff, FileTree.readText_eq_ok_iff] at hread
  simp [FileTree.source_eq_ok_iff, hread]

/-- A composition that reads at steady paths is the one on the site. -/
theorem compose_of_stage {composed : String} (h : builder.Stage site tree)
    (hreads : ∀ path, Compose.Reads (builder.setting site) text location (.file path) →
      builder.Steady site path)
    (hresult : (Compose.compose (builder.setting tree) text location).result = .ok composed) :
    Compose.compose (builder.setting site) text location =
      Compose.compose (builder.setting tree) text location := by
  refine Compose.compose_congr rfl rfl hresult fun l hl text htext ↦ ?_
  obtain ⟨path, rfl, -⟩ := FileTree.source_eq_ok_iff.mp htext
  exact ((hreads path hl).source_iff h).mp htext

/-- A template that is composed has been read. -/
theorem exists_readText_of_composeTemplate
    (htext : builder.composeTemplate tree (.file path) = .ok text) :
    ∃ source, tree.readText path = .ok source := by
  rw [composeTemplate] at htext
  split at htext
  · simp at htext
  next source hsource =>
    obtain ⟨found, hfound, hread⟩ := FileTree.source_eq_ok_iff.mp hsource
    obtain rfl := Location.file.inj hfound
    exact ⟨source, FileTree.readText_eq_ok_iff.mpr hread⟩

section Templates

variable (hsealed : builder.SealsTemplates site) (h : builder.Stage site tree)

include hsealed h

theorem composeTemplate_of_stage (hmem : location ∈ builder.templateLocations)
    (htext : builder.composeTemplate tree location = .ok text) :
    builder.composeTemplate site location = .ok text := by
  rw [composeTemplate] at htext ⊢
  split at htext
  · simp at htext
  next source hsource =>
    obtain ⟨path, rfl, -⟩ := FileTree.source_eq_ok_iff.mp hsource
    have hsource' := ((hsealed path (.template hmem)).source_iff h).mp hsource
    rw [hsource']
    obtain ⟨composed, hcomposed⟩ : ∃ composed,
        (Compose.compose (builder.setting tree) source (.file path)).result = .ok composed := by
      cases hcompose : (Compose.compose (builder.setting tree) source (.file path)).result with
      | ok composed => exact ⟨composed, rfl⟩
      | error e => simp [Compose.composeTidied, hcompose, Except.map, Except.mapError] at htext
    have hsame := compose_of_stage h
      (fun path hreads ↦ hsealed path (.included hmem hsource' hreads)) hcomposed
    simp only [Compose.composeTidied] at htext ⊢
    rwa [hsame]

theorem composeChildren_of_stage {table children : Table String}
    (hmem : ∀ entry ∈ table, Location.resolveTemplate builder.paths.templates
      (.file builder.paths.templates) entry.2 ∈ builder.templateLocations)
    (hchildren : builder.composeChildren tree table = .ok children) :
    builder.composeChildren site table = .ok children := by
  induction table generalizing children with
  | nil => exact hchildren
  | cons entry table ih =>
    obtain ⟨key, reference⟩ := entry
    rw [composeChildren] at hchildren ⊢
    split at hchildren
    · simp at hchildren
    next text htext =>
      obtain ⟨more, hmore, rfl⟩ := exists_of_map_eq_ok hchildren
      rw [composeTemplate_of_stage hsealed h (hmem _ List.mem_cons_self) htext,
        ih (fun entry hentry ↦ hmem entry (List.mem_cons_of_mem _ hentry)) hmore]
      rfl

variable {tree' : FileTree} (h' : builder.Stage site tree')

include h'

/-- A layout that is there at one stage is there at the other one, if it can be read at both. -/
private theorem hasEntry_of_composeLayout (hmem : .file path ∈ builder.templateLocations)
    (hentry : tree.hasEntry path)
    (hlayout : (if tree.hasEntry path then builder.composeTemplate tree (.file path)
      else .ok Renderer.identityLayout) = .ok text) : tree'.hasEntry path := by
  rw [if_pos hentry] at hlayout
  obtain ⟨source, hsource⟩ := exists_readText_of_composeTemplate hlayout
  have hread := (hsealed path (.template hmem) tree' h' source).mpr
    ((hsealed path (.template hmem) tree h source).mp hsource)
  exact FileTree.hasEntry_of_read (FileTree.readText_eq_ok_iff.mp hread)

theorem composeLayout_eq_of_stages {text' : String} (htext : builder.composeLayout tree = .ok text)
    (htext' : builder.composeLayout tree' = .ok text') : text = text' := by
  have hmem : Location.resolve builder.paths.templates (.file builder.paths.templates)
      builder.config.layout ∈ builder.templateLocations := List.mem_cons_self
  have hunique {location : Location} (hmem : location ∈ builder.templateLocations)
      (htext : builder.composeTemplate tree location = .ok text)
      (htext' : builder.composeTemplate tree' location = .ok text') : text = text' :=
    Except.ok.inj ((composeTemplate_of_stage hsealed h hmem htext).symm.trans
      (composeTemplate_of_stage hsealed h' hmem htext'))
  rw [composeLayout] at htext htext'
  generalize Location.resolve builder.paths.templates (.file builder.paths.templates)
    builder.config.layout = location at hmem htext htext'
  cases location with
  | remote url => exact hunique hmem htext htext'
  | file path =>
    by_cases hentry : tree.hasEntry path
    · have hentry' := hasEntry_of_composeLayout hsealed h h' hmem hentry htext
      exact hunique hmem (by simpa [hentry] using htext) (by simpa [hentry'] using htext')
    · have hentry' : ¬ tree'.hasEntry path := fun hentry' ↦
        hentry (hasEntry_of_composeLayout hsealed h' h hmem hentry' htext')
      simp only [if_neg hentry] at htext
      simp only [if_neg hentry'] at htext'
      exact Except.ok.inj (htext.symm.trans htext')

/-- All stages have the same templates. -/
theorem composeTemplates_eq_of_stages {templates' : ComposedTemplates}
    (htemplates : builder.composeTemplates tree = .ok templates)
    (htemplates' : builder.composeTemplates tree' = .ok templates') : templates = templates' := by
  have hmem : ∀ entry ∈ builder.config.childTemplates, Location.resolveTemplate
      builder.paths.templates (.file builder.paths.templates) entry.2 ∈
        builder.templateLocations := fun entry hentry ↦
    List.mem_cons_of_mem _ (List.mem_map_of_mem hentry)
  rw [composeTemplates] at htemplates htemplates'
  split at htemplates
  · simp at htemplates
  next layout hlayout =>
    split at htemplates'
    · simp at htemplates'
    next layout' hlayout' =>
      obtain ⟨children, hchildren, rfl⟩ := exists_of_map_eq_ok htemplates
      obtain ⟨children', hchildren', rfl⟩ := exists_of_map_eq_ok htemplates'
      have hsame := (composeChildren_of_stage hsealed h hmem hchildren).symm.trans
        (composeChildren_of_stage hsealed h' hmem hchildren')
      rw [composeLayout_eq_of_stages hsealed h h' hlayout hlayout', Except.ok.inj hsame]

end Templates

/-! ## Pages -/

/-- A file beside a page reads the same however the path of the page is written. -/
theorem IsPathOf.readText_metadataFile (hpage : builder.IsPathOf file page)
    (hpage' : builder.IsPathOf file page') (hcontent : builder.paths.content.text ≠ "")
    (fileName : String) : tree.readText (page.metadataFile fileName) = .ok text ↔
      tree.readText (page'.metadataFile fileName) = .ok text := by
  rw [FileTree.readText_eq_ok_iff, FileTree.readText_eq_ok_iff]
  by_cases habsolute : Path.isAbsolute ⟨fileName⟩
  · have hown : page.metadataFile fileName = ⟨fileName⟩ := hpage.scriptPath_of_absolute habsolute
    have hown' : page'.metadataFile fileName = ⟨fileName⟩ := hpage'.scriptPath_of_absolute habsolute
    rw [hown, hown']
  · obtain ⟨hcomponents, hfile⟩ := hpage.exists_scriptPath hcontent habsolute
    obtain ⟨hcomponents', hfile'⟩ := hpage'.exists_scriptPath hcontent habsolute
    exact FileTree.read_iff_of_components (hcomponents.trans hcomponents'.symm)
      (hfile.trans hfile'.symm)

/-- The path of a content file that is there. -/
theorem Grounded.isPathOf_pathOf (hsite : builder.Grounded site)
    (hexists : (site.file? (builder.placeOf site file)).isSome) :
    builder.IsPathOf file (builder.pathOf file) :=
  Builder.isPathOf_pathOf hsite.contentText (isName_of_isSome hsite.wellFormed.toClosed hexists)

section Pages

variable (hsite : builder.Grounded site) (hsealed : builder.SealsPages site)
  (h : builder.Stage site tree) (hpage : builder.IsPathOf file page)
  (hisPage : builder.IsPageName file)
  (hexists : (site.file? (builder.placeOf site file)).isSome)

include hsite hsealed h hpage hisPage hexists

theorem metadataOf_of_stage : tree.metadataOf page builder.config.metadataFile =
    site.metadataOf (builder.pathOf file) builder.config.metadataFile := by
  have hown := hsite.isPathOf_pathOf hexists
  refine metadataOf_congr fun text ↦ ?_
  rw [hpage.readText_metadataFile hown hsite.contentText]
  exact hsealed file hisPage hexists _ .metadata tree h text

theorem contextOf_of_stage (hhidden : ¬ isHiddenName file.name) (composed : String) :
    builder.contextOf tree templates page composed =
      builder.contextOf site templates (builder.pathOf file) composed := by
  have hown := hsite.isPathOf_pathOf hexists
  have hmetadata := metadataOf_of_stage hsite hsealed h hpage hisPage hexists
  have hbody : builder.bodyOf page composed = builder.bodyOf (builder.pathOf file) composed := by
    rw [bodyOf, bodyOf, hpage.forPath?_eq, hown.forPath?_eq]
  have hscript : (ContextSetting.ofConfig builder.config builder.paths.content
        (some templates.children)).pageScript (fun path ↦ (tree.readText path).toOption)
        (site.metadataOf (builder.pathOf file) builder.config.metadataFile) page =
      (ContextSetting.ofConfig builder.config builder.paths.content
        (some templates.children)).pageScript (fun path ↦ (site.readText path).toOption)
        (site.metadataOf (builder.pathOf file) builder.config.metadataFile)
        (builder.pathOf file) := by
    rw [ContextSetting.pageScript, ContextSetting.pageScript]
    cases hname : (site.metadataOf (builder.pathOf file)
      builder.config.metadataFile).scriptPath? with
    | none => rfl
    | some script =>
      have hread : (tree.readText (ContextSetting.scriptPath page script)).toOption =
          (site.readText (ContextSetting.scriptPath (builder.pathOf file) script)).toOption := by
        refine toOption_congr fun text ↦ ?_
        have hspelled : tree.readText (ContextSetting.scriptPath page script) = .ok text ↔
            tree.readText (ContextSetting.scriptPath (builder.pathOf file) script) = .ok text :=
          hpage.readText_metadataFile hown hsite.contentText script
        rw [hspelled]
        exact hsealed file hisPage hexists _ (.script hname) tree h text
      simp only [hread]
  have hurl : (ContextSetting.ofConfig builder.config builder.paths.content
        (some templates.children)).pageUrl page =
      (ContextSetting.ofConfig builder.config builder.paths.content
        (some templates.children)).pageUrl (builder.pathOf file) :=
    hpage.pageUrl_eq hown hhidden rfl
  have hname : page.fileName? = (builder.pathOf file).fileName? := by
    rw [fileName?_eq hpage.components, fileName?_eq hown.components]
  rw [contextOf, contextOf, hmetadata, hbody, ContextSetting.context, ContextSetting.context,
    ContextSetting.derived, ContextSetting.derived, hscript, hurl, hname]

end Pages

/-- The HTML of a page at a stage is the one on the site, however the path of the page is written. -/
theorem pageHtml_of_stage (hsite : builder.Grounded site) (hsealed : builder.SealsPages site)
    (h : builder.Stage site tree) (hpage : builder.IsPathOf file page)
    (hisPage : builder.IsPageName file) (hhidden : ¬ isHiddenName file.name)
    (hhtml : builder.pageHtml tree templates renderer page = .ok html) :
    (site.file? (builder.placeOf site file)).isSome ∧
      builder.pageHtml site templates renderer (builder.pathOf file) = .ok html := by
  obtain ⟨text, composed, rendered, htext, hcomposed, hrendered, rfl⟩ := exists_of_pageHtml hhtml
  have hfile : site.file? (builder.placeOf site file) = some (.text text) :=
    (hsite.read_contentFile h hpage).mp (FileTree.readText_eq_ok_iff.mp htext)
  have hexists : (site.file? (builder.placeOf site file)).isSome := by rw [hfile]; rfl
  have hown := hsite.isPathOf_pathOf hexists
  have hownText : site.readText (builder.pathOf file) = .ok text :=
    FileTree.readText_eq_ok_iff.mpr ((hsite.read_contentFile hsite.stage hown).mpr hfile)
  have hcanonical :
      (Location.file page).canonical = (Location.file (builder.pathOf file)).canonical := by
    rw [Location.canonical, Location.canonical, Path.normalize, Path.normalize,
      hpage.components_eq hown]
  rw [Compose.compose_of_canonical hcanonical] at hcomposed
  have hsteady (path : Path) (hreads : Compose.Reads (builder.setting site) text
      (.file (builder.pathOf file)) (.file path)) : builder.Steady site path :=
    hsealed file hisPage hexists path (.included hfile hreads)
  have hsame := compose_of_stage h hsteady hcomposed
  rw [← hsame] at hcomposed
  rw [contextOf_of_stage hsite hsealed h hpage hisPage hexists hhidden] at hrendered
  exact ⟨hexists, pageHtml_of_renderPage hownText hcomposed hrendered⟩

/-! ## Self-contained sites -/

/-- The templates of a self-contained site read no output. -/
theorem SelfContained.sealsTemplates (h : builder.SelfContained site)
    (hsite : builder.Grounded site) : builder.SealsTemplates site := by
  intro path hreads
  cases hreads with
  | template hmem =>
    exact hsite.steady_of_direct (direct_of_mem_templateLocations hmem) (h.templates path hmem).2
  | included hmem hsource hreads =>
    exact hsite.steady_of_direct (direct_of_reads hreads)
      (h.includes _ hmem _ path hsource hreads).2

/-- The pages of a self-contained site read no output. -/
theorem SelfContained.sealsPages (h : builder.SelfContained site) (hsite : builder.Grounded site)
    (hmetadata : IsName builder.config.metadataFile) : builder.SealsPages site := by
  intro file hisPage hexists path hreads
  have hpath := hsite.isPathOf_pathOf hexists
  cases hreads with
  | included htext hreads =>
    exact hsite.steady_of_direct (direct_of_reads hreads) (h.pages file _ path hisPage htext hreads).2
  | metadata => exact hsite.steady_of_isPathOf (hpath.metadataFile hsite.contentText hmetadata)
  | script hscript =>
    obtain ⟨hdirect, houtput, -⟩ := h.scripts file _ hisPage hexists hscript
    have hnames := isName_of_isSome hsite.wellFormed.toClosed hexists
    intro tree hstage text
    rw [FileTree.readText_eq_ok_iff, FileTree.readText_eq_ok_iff,
      hsite.read_script hstage hpath hexists hnames hdirect houtput,
      hsite.read_script hsite.stage hpath hexists hnames hdirect houtput]

end Builder

end StaticSite
