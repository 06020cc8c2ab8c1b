import StaticSite.Proofs.Site.SelfContained

/-!
# Pages of a site

On a self-contained site the HTML of a page depends on the page, its metadata and the files outside
of the content alone, however the path of the page is written and whenever in a build it is made
(`pageHtml_unique`).
-/

namespace StaticSite.Builder

open StaticSite.Path

variable {builder : Builder} {base base' tree tree' : FileTree} {file : ContentName}
  {page page' : Path} {content : Content} {script html html' : String}
  {templates : ComposedTemplates} {renderer : Renderer}

/-- The body of a page from its composed text. -/
def bodyOf (builder : Builder) (page : Path) (composed : String) : String :=
  let body :=
    match builder.registry.forPath? page with
    | some format => format.convert composed
    | none => composed
  if builder.config.tidy then tidy body else body

/-- The context in which the composed text of a page is rendered. -/
def contextOf (builder : Builder) (tree : FileTree) (templates : ComposedTemplates) (page : Path)
    (composed : String) : PageContext :=
  (ContextSetting.ofConfig builder.config builder.paths.content (some templates.children)).context
    (fun path ↦ (tree.readText path).toOption) (tree.metadataOf page builder.config.metadataFile)
    (builder.bodyOf page composed) page

theorem exists_of_pageHtml (h : builder.pageHtml tree templates renderer page = .ok html) :
    ∃ text composed rendered, tree.readText page = .ok text ∧
      (Compose.compose (builder.setting tree) text (.file page)).result = .ok composed ∧
      renderer.renderPage (builder.contextOf tree templates page composed) = .ok rendered ∧
      html = if builder.liveReload then injectScript rendered liveReloadScript else rendered := by
  rw [pageHtml] at h
  split at h
  · simp at h
  next text htext =>
    simp only at h
    split at h
    · simp at h
    next composed hcomposed =>
      split at h
      · simp at h
      next rendered hrendered =>
        exact ⟨text, composed, rendered, htext, hcomposed, hrendered, (Except.ok.inj h).symm⟩

/-! ## Contexts -/

/-- The components of the directory of a content file. -/
def directoryComponents (builder : Builder) (file : ContentName) : List Component :=
  builder.paths.content.components ++ file.directory.map .normal

theorem IsPathOf.scriptPath_of_absolute (h : builder.IsPathOf file page)
    (habsolute : Path.isAbsolute ⟨script⟩) : ContextSetting.scriptPath page script = ⟨script⟩ := by
  obtain ⟨directory, hparent, -⟩ := h.exists_parent?
  rw [ContextSetting.scriptPath, hparent]
  exact if_pos habsolute

/-- The script of a page lies under the directory of the page. -/
theorem IsPathOf.exists_scriptPath (h : builder.IsPathOf file page)
    (hcontent : builder.paths.content.text ≠ "") (hrelative : ¬ Path.isAbsolute ⟨script⟩) :
    (ContextSetting.scriptPath page script).components =
        builder.directoryComponents file ++ (Path.fields ⟨script⟩).filterMap componentOf? ∧
      ((ContextSetting.scriptPath page script).IsFilePath ↔ Path.IsFilePath ⟨script⟩) := by
  obtain ⟨directory, hparent, hcomponents⟩ := h.exists_parent?
  have htext : directory.text ≠ "" := text_ne_empty_of_components hcontent hcomponents
  rw [ContextSetting.scriptPath, hparent]
  exact ⟨by rw [components_join hrelative htext, hcomponents, directoryComponents],
    isFilePath_join hrelative htext⟩

/-- The place of a script does not depend on how the path of its page is written. -/
theorem IsPathOf.placeOf_scriptPath (h : builder.IsPathOf file page)
    (hcontent : builder.paths.content.text ≠ "") (hnames : ∀ name ∈ file.names, IsName name) :
    tree.placeOf (ContextSetting.scriptPath page script) = builder.scriptPlace tree file script := by
  have hown := isPathOf_pathOf hcontent hnames
  rw [scriptPlace]
  by_cases habsolute : Path.isAbsolute ⟨script⟩
  · rw [h.scriptPath_of_absolute habsolute, hown.scriptPath_of_absolute habsolute]
  · rw [FileTree.placeOf, FileTree.placeOf, (h.exists_scriptPath hcontent habsolute).1,
      (hown.exists_scriptPath hcontent habsolute).1]

/-- Behind the front of a relative path that goes up first and then only down. -/
private theorem exists_lead_of_direct {path : Path} (hdirect : path.Direct)
    (hrelative : ¬ path.isAbsolute) :
    ∃ (lead : List Component) (names : List String),
      path.fields.filterMap componentOf? = lead ++ names.map .normal ∧
        ∀ name, .normal name ∉ lead := by
  obtain ⟨lead, names, hcomponents, hlead⟩ := hdirect
  rw [components_eq] at hcomponents
  rcases leadOf_fields_of_relative hrelative with hnone | hcurrent
  · exact ⟨lead, names, by simpa [hnone] using hcomponents, hlead⟩
  · rw [hcurrent] at hcomponents
    cases lead with
    | nil => cases names <;> simp at hcomponents
    | cons first lead =>
      have hrest := (List.cons.inj hcomponents).2
      exact ⟨lead, names, hrest, fun name hmem ↦ hlead name (List.mem_cons_of_mem _ hmem)⟩

/-- At every stage the script of a page that is there is the file at its place. -/
theorem Grounded.read_script (hbase : builder.Grounded base) (h : builder.Stage base tree)
    (hpage : builder.IsPathOf file page)
    (hexists : (base.file? (builder.placeOf base file)).isSome)
    (hnames : ∀ name ∈ file.names, IsName name) (hdirect : Direct ⟨script⟩)
    (houtside : ¬ builder.outputPlace base <+: builder.scriptPlace base file script) :
    tree.read (ContextSetting.scriptPath page script) = .ok content ↔
      Path.IsFilePath ⟨script⟩ ∧
        base.file? (builder.scriptPlace base file script) = some content := by
  have hcontent := hbase.contentText
  have hplace : base.placeOf (ContextSetting.scriptPath page script) =
      builder.scriptPlace base file script := hpage.placeOf_scriptPath hcontent hnames
  by_cases habsolute : Path.isAbsolute ⟨script⟩
  · rw [hpage.scriptPath_of_absolute habsolute] at hplace ⊢
    rw [hbase.read_direct h hdirect (by rwa [hplace]), hplace]
  · obtain ⟨hcomponents, hfile⟩ := hpage.exists_scriptPath hcontent habsolute
    obtain ⟨lead, names, hsplit, hlead⟩ := exists_lead_of_direct hdirect habsolute
    rw [hsplit] at hcomponents
    have hsame : tree.placeOf (ContextSetting.scriptPath page script) =
        builder.scriptPlace base file script := by
      rw [← hplace]
      exact FileTree.placeOf_congr h.current
    obtain ⟨found, hfound⟩ := Option.isSome_iff_exists.mp hexists
    rw [← hbase.file?_placeOf h, ← h.placeOf_eq, FileTree.file?_eq_some_iff, Builder.placeOf,
      ContentName.names, ← List.append_assoc] at hfound
    have hdirectory : tree.get? (builder.contentPlace tree ++ file.directory) = some .directory := by
      simpa using h.closed.parent _ _ hfound
    have hfront : FileTree.placeFrom tree.current (builder.directoryComponents file) =
        builder.contentPlace tree ++ file.directory := by
      rw [directoryComponents, FileTree.placeFrom_append_names]
      rfl
    have hpassable : tree.Passable tree.current (builder.directoryComponents file) :=
      FileTree.passable_append.mpr ⟨h.content, h.closed.passable_names hfound⟩
    rw [h.closed.read_eq_ok_iff hcomponents hlead hpassable ?_, hfile, hsame, h.file? _ houtside]
    -- A path that only goes up leads to a directory above the page.
    rintro rfl
    refine FileTree.file?_of_directory (directory_of_isPrefix h.closed hdirectory ?_)
    rw [FileTree.placeOf, hcomponents, List.map_nil, List.append_nil, FileTree.placeFrom_append,
      hfront]
    exact placeFrom_isPrefix hlead

/-! ## Metadata and addresses -/

theorem toOption_congr {ε ε' α : Type} {x : Except ε α} {y : Except ε' α}
    (h : ∀ a, x = .ok a ↔ y = .ok a) : x.toOption = y.toOption := by
  cases x with
  | ok a => rw [(h a).mp rfl]; rfl
  | error e =>
    cases y with
    | ok a => simpa using (h a).mpr rfl
    | error e' => rfl

/-- A page without a metadata file that can be read has no metadata. -/
theorem metadataOf_eq_empty {fileName : String}
    (h : ∀ text, tree.readText (page.metadataFile fileName) ≠ .ok text) :
    tree.metadataOf page fileName = .empty := by
  delta FileTree.metadataOf
  cases hread : tree.readText (page.metadataFile fileName) with
  | ok text => exact absurd hread (h text)
  | error fault => rfl

theorem metadataOf_congr {fileName : String}
    (h : ∀ text, tree.readText (page.metadataFile fileName) = .ok text ↔
      tree'.readText (page'.metadataFile fileName) = .ok text) :
    tree.metadataOf page fileName = tree'.metadataOf page' fileName := by
  cases hread : tree.readText (page.metadataFile fileName) with
  | ok text =>
    delta FileTree.metadataOf
    rw [hread, (h text).mp hread]
  | error fault =>
    have hnone : ∀ text, tree.readText (page.metadataFile fileName) ≠ .ok text := by simp [hread]
    rw [metadataOf_eq_empty hnone, metadataOf_eq_empty fun text ↦ (h text).not.mp (hnone text)]

/-- The metadata of a page depends on its metadata file alone. -/
theorem metadataOf_eq (hbase : builder.Grounded base) (hbase' : builder.Grounded base')
    (h : builder.Stage base tree) (h' : builder.Stage base' tree')
    (hmetadata : IsName builder.config.metadataFile)
    (hpage : builder.IsPathOf file page) (hpage' : builder.IsPathOf file page')
    (hsidecar : base'.file? (builder.placeOf base' (builder.sidecarOf file)) =
      base.file? (builder.placeOf base (builder.sidecarOf file))) :
    tree.metadataOf page builder.config.metadataFile =
      tree'.metadataOf page' builder.config.metadataFile := by
  refine metadataOf_congr fun text ↦ ?_
  rw [FileTree.readText_eq_ok_iff, FileTree.readText_eq_ok_iff,
    hbase.read_contentFile h (hpage.metadataFile hbase.contentText hmetadata),
    hbase'.read_contentFile h' (hpage'.metadataFile hbase.contentText hmetadata), hsidecar]

/-- The public address of a page does not depend on how its path is written. -/
theorem IsPathOf.pageUrl_eq (hpage : builder.IsPathOf file page)
    (hpage' : builder.IsPathOf file page') (hhidden : ¬ isHiddenName file.name)
    {setting : ContextSetting} (hroot : setting.contentRoot = builder.paths.content) :
    setting.pageUrl page = setting.pageUrl page' := by
  have hurl {page : Path} (hpage : builder.IsPathOf file page) :
      ((page.relativeTo? setting.contentRoot).getD ⟨page.fileName?.getD ""⟩).outputPage.urlPath =
        String.intercalate "/" ((file.directory.map Component.normal
          ++ [Component.normal (outputName file.name)]).map Component.text) := by
    obtain ⟨relative, hrelative, hfile, hcomponents⟩ := hpage.exists_relativeTo?
    rw [hroot, hrelative, Option.getD_some, urlPath, components_outputPage hfile hcomponents
      (hasStem_of_not_isHiddenName hhidden)]
  rw [ContextSetting.pageUrl, ContextSetting.pageUrl]
  simp only [hurl hpage, hurl hpage']

theorem IsPathOf.components_eq (hpage : builder.IsPathOf file page)
    (hpage' : builder.IsPathOf file page') : page.components = page'.components := by
  rw [hpage.components, hpage'.components]

/-! ## The HTML of a page -/

/-- Whether a page that is there in one file tree is there unchanged in another one, with the same
metadata. -/
structure KeepsPage (builder : Builder) (base base' : FileTree) (file : ContentName) : Prop where
  isPage : builder.IsPageName file
  not_hidden : ¬ isHiddenName file.name
  isSome : (base.file? (builder.placeOf base file)).isSome
  file? : base'.file? (builder.placeOf base' file) = base.file? (builder.placeOf base file)
  sidecar : base'.file? (builder.placeOf base' (builder.sidecarOf file)) =
    base.file? (builder.placeOf base (builder.sidecarOf file))

/-- The names that lead to a content file that is there are names. -/
theorem isName_of_isSome (hbase : base.Closed)
    (hexists : (base.file? (builder.placeOf base file)).isSome) : ∀ name ∈ file.names, IsName name := by
  obtain ⟨found, hfound⟩ := Option.isSome_iff_exists.mp hexists
  exact fun name hname ↦ hbase.isName _ _ (FileTree.file?_eq_some_iff.mp hfound) name
    (List.mem_append_right _ hname)

section Unique

variable (hbase : builder.Grounded base) (hbase' : builder.Grounded base')
  (hrevises : builder.Revises base base') (hself : builder.SelfContained base)
  (hself' : builder.SelfContained base') (hmetadata : IsName builder.config.metadataFile)
  (h : builder.Stage base tree) (h' : builder.Stage base' tree')
  (hpage : builder.IsPathOf file page) (hpage' : builder.IsPathOf file page')
  (hkeeps : builder.KeepsPage base base' file)

include hbase hbase' hrevises hself hself' h h' hpage hpage' hkeeps

/-- A script that the metadata of an unchanged page names is read alike before and after. -/
private theorem readText_script_iff {text : String}
    (hscript : (base.metadataOf (builder.pathOf file) builder.config.metadataFile).scriptPath? =
      some script)
    (hscript' : (base'.metadataOf (builder.pathOf file) builder.config.metadataFile).scriptPath? =
      some script) :
    tree.readText (ContextSetting.scriptPath page script) = .ok text ↔
      tree'.readText (ContextSetting.scriptPath page' script) = .ok text := by
  have hnames := isName_of_isSome hbase.wellFormed.toClosed hkeeps.isSome
  have hexists' : (base'.file? (builder.placeOf base' file)).isSome := by
    rw [hkeeps.file?]
    exact hkeeps.isSome
  obtain ⟨hdirect, houtput, hwithin⟩ := hself.scripts file script hkeeps.isPage hkeeps.isSome hscript
  obtain ⟨-, houtput', hwithin'⟩ := hself'.scripts file script hkeeps.isPage hexists' hscript'
  have hplace : builder.scriptPlace base' file script = builder.scriptPlace base file script :=
    FileTree.placeOf_congr hrevises.current
  have hsame : base'.file? (builder.scriptPlace base file script) =
      base.file? (builder.scriptPlace base file script) := by
    by_cases hcontent : builder.contentPlace base <+: builder.scriptPlace base file script
    · rw [hrevises.contentPlace_eq, hrevises.placeOf_eq, hplace] at hwithin'
      have hfile := hkeeps.file?
      rw [hrevises.placeOf_eq] at hfile
      rcases hwithin hcontent with hown | hnone
      · rw [hown, hfile]
      · rcases hwithin' hcontent with hown | hnone'
        · rw [hown, hfile]
        · rw [hnone, hnone']
    · exact hrevises.file? _ ⟨hcontent, houtput⟩
  rw [FileTree.readText_eq_ok_iff, FileTree.readText_eq_ok_iff,
    hbase.read_script h hpage hkeeps.isSome hnames hdirect houtput,
    hbase'.read_script h' hpage' hexists' hnames hdirect houtput', hplace, hsame]

include hmetadata

theorem contextOf_eq (composed : String) :
    builder.contextOf tree templates page composed =
      builder.contextOf tree' templates page' composed := by
  have hnames := isName_of_isSome hbase.wellFormed.toClosed hkeeps.isSome
  have hown := isPathOf_pathOf hbase.contentText hnames
  have hmetadataOf := metadataOf_eq hbase hbase' h h' hmetadata hpage hpage' hkeeps.sidecar
  have hmetadataBase := metadataOf_eq hbase hbase h hbase.stage hmetadata hpage hown rfl
  have hmetadataBase' := metadataOf_eq hbase' hbase' h' hbase'.stage hmetadata hpage' hown rfl
  have hbody : builder.bodyOf page composed = builder.bodyOf page' composed := by
    rw [bodyOf, bodyOf, hpage.forPath?_eq, hpage'.forPath?_eq]
  have hscript : (ContextSetting.ofConfig builder.config builder.paths.content
        (some templates.children)).pageScript (fun path ↦ (tree.readText path).toOption)
        (tree'.metadataOf page' builder.config.metadataFile) page =
      (ContextSetting.ofConfig builder.config builder.paths.content
        (some templates.children)).pageScript (fun path ↦ (tree'.readText path).toOption)
        (tree'.metadataOf page' builder.config.metadataFile) page' := by
    rw [ContextSetting.pageScript, ContextSetting.pageScript]
    cases hname : (tree'.metadataOf page' builder.config.metadataFile).scriptPath? with
    | none => rfl
    | some script =>
      have hread : (tree.readText (ContextSetting.scriptPath page script)).toOption =
          (tree'.readText (ContextSetting.scriptPath page' script)).toOption :=
        toOption_congr fun text ↦ readText_script_iff hbase hbase' hrevises hself hself' h h' hpage
          hpage' hkeeps (by rw [← hmetadataBase, hmetadataOf, hname]) (by rw [← hmetadataBase', hname])
      simp only [hread]
  have hurl : (ContextSetting.ofConfig builder.config builder.paths.content
        (some templates.children)).pageUrl page =
      (ContextSetting.ofConfig builder.config builder.paths.content
        (some templates.children)).pageUrl page' := hpage.pageUrl_eq hpage' hkeeps.not_hidden rfl
  have hname : page.fileName? = page'.fileName? := by
    rw [fileName?_eq hpage.components, fileName?_eq hpage'.components]
  rw [contextOf, contextOf, hmetadataOf, hbody, ContextSetting.context, ContextSetting.context,
    ContextSetting.derived, ContextSetting.derived, hscript, hurl, hname]

/-- The HTML of an unchanged page is the same before and after, at every stage of a build and by
every path of the page. -/
theorem pageHtml_unique (hhtml : builder.pageHtml tree templates renderer page = .ok html)
    (hhtml' : builder.pageHtml tree' templates renderer page' = .ok html') : html = html' := by
  obtain ⟨text, composed, rendered, htext, hcomposed, hrendered, rfl⟩ := exists_of_pageHtml hhtml
  obtain ⟨text', composed', rendered', htext', hcomposed', hrendered', rfl⟩ :=
    exists_of_pageHtml hhtml'
  have hnames := isName_of_isSome hbase.wellFormed.toClosed hkeeps.isSome
  have hown := isPathOf_pathOf hbase.contentText hnames
  rw [FileTree.readText_eq_ok_iff, hbase.read_contentFile h hpage] at htext
  rw [FileTree.readText_eq_ok_iff, hbase'.read_contentFile h' hpage', hkeeps.file?, htext] at htext'
  obtain rfl : text = text' := by simpa using htext'
  -- Both compositions are the one of the revised tree.
  have hreads (path : Path)
      (hpath : Compose.Reads (builder.setting base') text (.file (builder.pathOf file)) (.file path)) :
      builder.Outside base' (base'.placeOf path) :=
    hself'.pages file text path hkeeps.isPage (by rw [hkeeps.file?, htext]) hpath
  have hcanonical {page : Path} (hpage : builder.IsPathOf file page) :
      (Location.file page).canonical = (Location.file (builder.pathOf file)).canonical := by
    rw [Location.canonical, Location.canonical, Path.normalize, Path.normalize,
      hpage.components_eq hown]
  rw [Compose.compose_of_canonical (hcanonical hpage)] at hcomposed
  rw [Compose.compose_of_canonical (hcanonical hpage')] at hcomposed'
  have hbefore := compose_eq_of_stage hbase hbase' hrevises h hreads hcomposed
  have hafter := compose_eq_of_stage hbase' hbase' (.refl builder base') h' hreads hcomposed'
  rw [← hbefore, hafter, hcomposed'] at hcomposed
  obtain rfl : composed' = composed := by simpa using hcomposed
  rw [contextOf_eq hbase hbase' hrevises hself hself' hmetadata h h' hpage hpage' hkeeps] at hrendered
  rw [hrendered] at hrendered'
  rw [Except.ok.inj hrendered']

end Unique

end StaticSite.Builder
