import StaticSite.Proofs.Marker.RenderMarker
import StaticSite.Proofs.Site.Batch
import StaticSite.Proofs.Site.Consistency

/-!
# Changes in batches

The changes to a site that stays as it is come in batches, and each batch has its rebuild. What a
rebuild leaves of the output is known from its batch alone: from whether the batch holds a template,
from the output files that its changes touch, and from whether its last change to a content file is
right about that file (`Brings`). Two batches one after another bring what they bring as one
(`Brings.trans`), so it does not matter how the changes are cut into batches
(`sameOutput_rebuild_flatten`).
-/

namespace StaticSite.Builder

open StaticSite.Path Build

variable {builder rebuilt once : Builder} {site tree tree' tree₁ tree₂ : FileTree} {path : Path}
  {deleted : Bool} {changes later : List Change} {batches : List (List Change)}
  {cache : Option ComposedTemplates}
  {templates templates' : ComposedTemplates} {result : BuildResult} {results : List BuildResult}

/-- Rebuilds for batches of changes one after another, each by the builder that the one before has
left. -/
def rebuilds (builder : Builder) : List (List Change) → Build (List BuildResult × Builder)
  | [] => return ([], builder)
  | batch :: batches => do
    let first ← builder.rebuild (.ofChanges batch)
    let rest ← first.2.rebuilds batches
    return (first.1 :: rest.1, rest.2)

theorem gives_rebuilds_nil : (builder.rebuilds []).Gives tree (results, rebuilt) tree₁ ↔
    results = [] ∧ rebuilt = builder ∧ tree = tree₁ := by
  rw [rebuilds, gives_pure, Prod.mk.injEq, and_assoc, eq_comm, eq_comm (a := builder)]

theorem gives_rebuilds_cons : (builder.rebuilds (changes :: batches)).Gives tree (results, rebuilt)
      tree₂ ↔ ∃ result next tree₁ rest,
    (builder.rebuild (.ofChanges changes)).Gives tree (result, next) tree₁ ∧
      (next.rebuilds batches).Gives tree₁ (rest, rebuilt) tree₂ ∧ results = result :: rest := by
  constructor
  · intro h
    obtain ⟨⟨result, next⟩, tree₁, hfirst, hnext⟩ := gives_bind.mp h
    obtain ⟨⟨rest, last⟩, tree₃, hrest, hdone⟩ := gives_bind.mp hnext
    obtain ⟨hsame, rfl⟩ := gives_pure.mp hdone
    obtain ⟨rfl, rfl⟩ := Prod.mk.inj hsame
    exact ⟨result, next, tree₁, rest, hfirst, hrest, rfl⟩
  · rintro ⟨result, next, tree₁, rest, hfirst, hrest, rfl⟩
    exact gives_bind.mpr ⟨_, tree₁, hfirst, gives_bind.mpr ⟨_, _, hrest, gives_pure.mpr ⟨rfl, rfl⟩⟩⟩

/-! ## Batches one after another -/

/-- What a rebuild for a batch has done: everything anew with the templates of that time, or the
tasks of the batch with the templates that the builder had. -/
inductive Brings (builder : Builder) (site : FileTree) (cache : Option ComposedTemplates)
    (changes : List Change) (tree : FileTree) (templates : ComposedTemplates) (tree₁ : FileTree) :
    Prop
  | full {started : FileTree} {renderer : Renderer}
      (hscope : cache = none ∨ ∃ path, .template path ∈ changes)
      (hstarted : builder.Stage site started)
      (hcomposed : builder.composeTemplates started = .ok templates)
      (hrenderer : builder.renderer templates = .ok renderer)
      (hadvance : builder.Advance site templates renderer started tree₁ (fun _ ↦ True) fun names ↦
        names ≠ [] ∧ builder.TruthfulAt site changes names)
  | targeted {renderer : Renderer} (hcache : cache = some templates)
      (hscope : ∀ path, .template path ∉ changes)
      (hrenderer : builder.renderer templates = .ok renderer)
      (hadvance : builder.Advance site templates renderer tree tree₁ (builder.TouchedBy site changes)
        fun names ↦ builder.TouchedBy site changes names ∧ builder.TruthfulAt site changes names)

namespace Brings

theorem stage (h : builder.Brings site cache changes tree templates tree₁) :
    builder.Stage site tree₁ := by
  cases h with
  | full _ _ _ _ hadvance => exact hadvance.stage
  | targeted _ _ _ hadvance => exact hadvance.stage

/-- Two batches bring what they bring as one. -/
theorem trans (h : builder.Brings site cache changes tree templates tree₁)
    (h₁ : builder.Brings site (some templates) later tree₁ templates' tree₂) :
    builder.Brings site cache (changes ++ later) tree templates' tree₂ := by
  cases h₁ with
  | full hscope₁ hstarted₁ hcomposed₁ hrenderer₁ hadvance₁ =>
    -- Nothing is left of what was done before.
    obtain ⟨path, hmem⟩ := hscope₁.resolve_left (by simp)
    exact .full (Or.inr ⟨path, List.mem_append_right _ hmem⟩) hstarted₁ hcomposed₁ hrenderer₁
      (hadvance₁.mono (fun _ ↦ id) fun names hnames ↦ ⟨hnames.1, hnames.2.of_append_right⟩)
  | targeted hcache₁ hscope₁ hrenderer₁ hadvance₁ =>
    obtain rfl := Option.some.inj hcache₁
    -- What the later batch does not touch is as the earlier one has left it.
    cases h with
    | full hscope hstarted hcomposed hrenderer hadvance =>
      obtain rfl := Except.ok.inj (hrenderer.symm.trans hrenderer₁)
      refine .full (hscope.imp_right fun ⟨path, hmem⟩ ↦ ⟨path, List.mem_append_left _ hmem⟩)
        hstarted hcomposed hrenderer ((hadvance.trans hadvance₁).mono (fun _ _ ↦ trivial) ?_)
      rintro names ⟨hnames, htruthful⟩
      by_cases htouched : builder.TouchedBy site later names
      · exact Or.inl ⟨htouched, htruthful.of_append_right⟩
      · exact Or.inr ⟨⟨hnames, htruthful.of_append_left htouched⟩, htouched⟩
    | targeted hcache hscope hrenderer hadvance =>
      obtain rfl := Except.ok.inj (hrenderer.symm.trans hrenderer₁)
      refine .targeted hcache (fun path hmem ↦ ?_) hrenderer ((hadvance.trans hadvance₁).mono
        (fun _ ↦ touchedBy_append.mpr) ?_)
      · exact (List.mem_append.mp hmem).elim (hscope path) (hscope₁ path)
      · rintro names ⟨htouched, htruthful⟩
        by_cases htouched₁ : builder.TouchedBy site later names
        · exact Or.inl ⟨htouched₁, htruthful.of_append_right⟩
        · exact Or.inr ⟨⟨(touchedBy_append.mp htouched).resolve_right htouched₁,
            htruthful.of_append_left htouched₁⟩, htouched₁⟩

/-- What two rebuilds bring from the same beginning is the same, if the changes are right. -/
theorem sameOutput (hsealed : builder.SealsTemplates site)
    (htruthful : ∀ file, builder.Truthful site changes file)
    (hapart : builder.Apart (builder.Shown site))
    (h : builder.Brings site cache changes tree templates tree₁)
    (h' : builder.Brings site cache changes tree templates' tree₂) :
    builder.SameOutput tree₁ tree₂ := by
  have htruthfulAt (names : List String) : builder.TruthfulAt site changes names :=
    fun file _ ↦ htruthful file
  intro names hnames
  rw [h.stage.outputPlace_eq, h'.stage.outputPlace_eq]
  cases h with
  | full hscope hstarted hcomposed hrenderer hadvance =>
    cases h' with
    | full hscope' hstarted' hcomposed' hrenderer' hadvance' =>
      obtain rfl :=
        composeTemplates_eq_of_stages hsealed hstarted hstarted' hcomposed hcomposed'
      obtain rfl := Except.ok.inj (hrenderer.symm.trans hrenderer')
      exact (hadvance.due names ⟨hnames, htruthfulAt names⟩).unique hapart
        (hadvance'.due names ⟨hnames, htruthfulAt names⟩)
    | targeted hcache hscope' =>
      obtain hnone | ⟨path, hmem⟩ := hscope
      · exact absurd (hcache.symm.trans hnone) (by simp)
      · exact absurd hmem (hscope' path)
  | targeted hcache hscope hrenderer hadvance =>
    cases h' with
    | full hscope' =>
      obtain hnone | ⟨path, hmem⟩ := hscope'
      · exact absurd (hcache.symm.trans hnone) (by simp)
      · exact absurd hmem (hscope path)
    | targeted hcache' hscope' hrenderer' hadvance' =>
      obtain rfl := Option.some.inj (hcache.symm.trans hcache')
      obtain rfl := Except.ok.inj (hrenderer.symm.trans hrenderer')
      by_cases htouched : builder.TouchedBy site changes names
      · exact (hadvance.due names ⟨htouched, htruthfulAt names⟩).unique hapart
          (hadvance'.due names ⟨htouched, htruthfulAt names⟩)
      · rw [hadvance.unchanged names htouched, hadvance'.unchanged names htouched]

end Brings

section Rebuilds

variable (hsite : builder.Grounded site) (hsealed : builder.SealsPages site)
  (hdirect : builder.paths.output.Direct)

include hsite hsealed hdirect

/-- What a rebuild for one batch brings at any stage. -/
theorem brings_rebuild (h : builder.Stage site tree) (hnotes : builder.Notes site changes)
    (hapart : builder.Apart fun file ↦ builder.Shown site file ∨ builder.Reported changes file)
    (hgives : (({ builder with cache := cache } : Builder).rebuild (.ofChanges changes)).Gives tree
      (result, rebuilt) tree₁) (hok : result.failures = []) :
    ∃ templates, rebuilt = { builder with cache := some templates } ∧
      builder.Brings site cache changes tree templates tree₁ := by
  by_cases hscope : cache = none ∨ ∃ path, .template path ∈ changes
  · have hbuild : builder.build.Gives tree (result, rebuilt) tree₁ := by
      rw [← build_withCache builder cache]
      rcases id hscope with rfl | ⟨path, hmem⟩
      · rwa [rebuild_of_noCache rfl] at hgives
      · rwa [Scope.ofChanges_of_template hnotes.config_notMem hmem, rebuild_full] at hgives
    obtain ⟨templates, renderer, rfl, hcomposed, hrenderer, hadvance⟩ :=
      advance_build hsite hsealed h hdirect hbuild hok
    exact ⟨templates, rfl, .full hscope h hcomposed hrenderer
      (hadvance.mono (fun _ ↦ id) fun _ hnames ↦ hnames.1)⟩
  · rw [not_or, not_exists] at hscope
    obtain ⟨templates, rfl⟩ := Option.ne_none_iff_exists'.mp hscope.1
    rw [Scope.ofChanges_of_content hnotes.config_notMem hscope.2] at hgives
    obtain ⟨rfl, renderer, hrenderer, hrun⟩ := exists_of_rebuild_files rfl hgives
    rw [runTasks_withCache] at hrun
    have hadvance := advance_runTasks hsite hsealed h hdirect (fun _ ↦ hnotes.concerns) hrun hok
    simp only [exists_mem_tasks_touches_iff] at hadvance
    refine ⟨templates, rfl, .targeted rfl hscope.2 hrenderer (hadvance.mono (fun _ ↦ id) ?_)⟩
    exact fun names hnames ↦ ⟨hnames.1, fun task hmem htouches ↦
      hnotes.right hapart hmem htouches hnames.2⟩

/-- Rebuilds for some batches bring what they bring as one. -/
theorem brings_rebuilds (h : builder.Stage site tree) (hnotes : builder.Notes site batches.flatten)
    (hapart : builder.Apart fun file ↦ builder.Shown site file ∨
      builder.Reported batches.flatten file) (hne : batches ≠ [])
    (hgives : (({ builder with cache := cache } : Builder).rebuilds batches).Gives tree
      (results, rebuilt) tree₁) (hok : ∀ result ∈ results, result.failures = []) :
    ∃ templates, builder.Brings site cache batches.flatten tree templates tree₁ := by
  induction batches generalizing cache tree results with
  | nil => exact absurd rfl hne
  | cons batch batches ih =>
    rw [List.flatten_cons] at hnotes hapart ⊢
    obtain ⟨result, next, tree₂, rest, hfirst, hrest, rfl⟩ := gives_rebuilds_cons.mp hgives
    have hsubset := List.subset_append_left batch batches.flatten
    have hsubset' := List.subset_append_right batch batches.flatten
    obtain ⟨templates, rfl, hbrings⟩ := brings_rebuild hsite hsealed hdirect h (hnotes.mono hsubset)
      (hapart.mono fun file ↦ Or.imp_right (Reported.mono hsubset)) hfirst
      (hok result List.mem_cons_self)
    rcases eq_or_ne batches [] with rfl | hmore
    · obtain ⟨-, -, rfl⟩ := gives_rebuilds_nil.mp hrest
      exact ⟨templates, by simpa using hbrings⟩
    · obtain ⟨templates', hbrings'⟩ := ih hbrings.stage (hnotes.mono hsubset')
        (hapart.mono fun file ↦ Or.imp_right (Reported.mono hsubset')) hmore hrest
        fun result hmem ↦ hok result (List.mem_cons_of_mem _ hmem)
      exact ⟨templates', hbrings.trans hbrings'⟩

end Rebuilds

/-- A change to a page and one to a template. -/
def pageAndTemplate : List (List Change) :=
  [[.page ⟨"origin/a.html"⟩ false], [.template ⟨"template/layout.html"⟩]]

private theorem eq_of_report_mem
    (h : (flat (some plainTemplates)).report path deleted ∈ pageAndTemplate.flatten) :
    path = ⟨"origin/a.html"⟩ ∧ deleted = false := by
  have hmem : (flat (some plainTemplates)).report path deleted = .page ⟨"origin/a.html"⟩ false ∨
      (flat (some plainTemplates)).report path deleted = .template ⟨"template/layout.html"⟩ := by
    simpa [pageAndTemplate] using h
  rcases hmem with hpage | htemplate
  · exact report_page hpage
  · rw [report] at htemplate
    split_ifs at htemplate

private theorem notes_pageAndTemplate {site : FileTree} :
    (flat (some plainTemplates)).Notes site pageAndTemplate.flatten where
  sound change hmem := by
    have hchange : change = .page ⟨"origin/a.html"⟩ false ∨
        change = .template ⟨"template/layout.html"⟩ := by simpa [pageAndTemplate] using hmem
    rcases hchange with rfl | rfl
    · exact Or.inr ⟨_, _, false, isPathOf_page, Or.inr (by decide), rfl⟩
    · exact Or.inl ⟨_, rfl⟩
  shows file path deleted hmem hpath hsidecar := by
    obtain ⟨rfl, rfl⟩ := eq_of_report_mem hmem
    obtain rfl := hpath.unique isPathOf_page
    exact absurd hsidecar (by decide)

private theorem truthful_pageAndTemplate (file : ContentName) :
    (flat (some plainTemplates)).Truthful (.flat [("a.html", "new")] [("a.html", "old")])
      pageAndTemplate.flatten file := by
  intro path deleted before after hsplit hpath _ _
  have hmem : (flat (some plainTemplates)).report path deleted ∈ pageAndTemplate.flatten := by
    simp [hsplit]
  obtain ⟨rfl, rfl⟩ := eq_of_report_mem hmem
  have hpage : (FileTree.flat [("a.html", "new")] [("a.html", "old")]).file?
      ((flat (some plainTemplates)).placeOf (.flat [("a.html", "new")] [("a.html", "old")])
        ⟨[], "a.html"⟩) = some (.text "new") := by
    rw [Builder.placeOf, contentPlace_flat]
    rfl
  obtain rfl := hpath.unique isPathOf_page
  simp [hpage]

/-- A batch with a template has the whole site built. -/
private theorem gives_rebuild_template {output : List (String × String)}
    (hscope : Scope.ofChanges changes = .full)
    (hdirectories : (flat none).directoryError? (.flat [("a.html", "new")] output) = none)
    (hcomposed : (flat none).composeTemplates (.flat [("a.html", "new")] output) = .ok plainTemplates)
    (hprepare : (flat none).prepareOutput.Gives (.flat [("a.html", "new")] output) ()
      (.flat [("a.html", "new")] [])) :
    ((flat cache).rebuild (.ofChanges changes)).Gives (.flat [("a.html", "new")] output)
      (⟨⟨"public"⟩, 1, 0, 0, []⟩, flat (some plainTemplates))
      (.flat [("a.html", "new")] [("a.html", "new")]) := by
  have hbuild : (flat cache).build = (flat none).build := build_withCache (flat none) cache
  rw [hscope, rebuild_full, hbuild]
  exact gives_build_page (Marker.isPlain_of_not_mem (by decide)) (fun _ ↦ rfl) hdirectories hcomposed
    hprepare

/-- The layout of the site. -/
def loopingLayout : String := "\x7b\x7b ../public/n.txt \x7d\x7d" ++ Renderer.identityLayout

/-- The file tree of the site with an output. -/
def looping (output : List (Place × Entry)) : FileTree where
  entries := [(["template"], .directory), (["origin"], .directory), (["public"], .directory),
    (["template", "layout.html"], .file (.text loopingLayout)), (["s.js"], .file (.text "S")),
    (["origin", "a.html"], .file (.text "\x7b\x7b pageJs | safe \x7d\x7d")),
    (["origin", "metadata.yaml"], .file (.text "pageJsPath: ../public/sub/../../s.js\n")),
    (["origin", "n.txt"], .file (.text "new")), (["origin", "sub"], .directory),
    (["origin", "sub", "x.txt"], .file (.text "x"))] ++ output
  current := []

/-- The output file of the page. -/
def loopingPage (html : String) : Place × Entry := (["public", "a.html"], .file (.text html))

/-- The copy of the text that the layout includes. -/
def loopingText (text : String) : Place × Entry := (["public", "n.txt"], .file (.text text))

/-- The output that comes after the page, in the directory that the path of the script goes through. -/
def loopingRest : List (Place × Entry) :=
  [(["public", "sub"], .directory), (["public", "sub", "x.txt"], .file (.text "x"))]

/-- A file that no build has left in the output. -/
def loopingStale : Place × Entry := (["public", "stale.txt"], .file (.text "old"))

/-- The output in the beginning, and what the first build makes of it. -/
def loopingStart : List (Place × Entry) := [loopingStale, loopingText "old"]

@[inherit_doc loopingStart]
def loopingFirst : List (Place × Entry) :=
  [loopingStale, loopingText "new", (["x"], .directory), loopingPage "old"] ++ loopingRest

/-- The output of a later build, with the page. -/
def loopingLater (html : String) : List (Place × Entry) :=
  [(["x"], .directory), loopingPage html, loopingText "new"] ++ loopingRest

/-- The templates that include a text. -/
def loopingTemplates (included : String) : ComposedTemplates := ⟨included ++ Renderer.identityLayout, []⟩

/-- The batches of changes to the site. -/
def loopingBatches : List (List Change) :=
  [[.template ⟨"template/layout.html"⟩], [.template ⟨"template/layout.html"⟩],
    [.page ⟨"origin/a.html"⟩ false]]

private theorem compose_loopingLayout {included : String}
    (hsource : tree.source 3 (.file ⟨"public/n.txt"⟩) = .ok included)
    (hplain : Marker.IsPlain included.toList) :
    Compose.compose ((crossing none).setting tree) loopingLayout (.file ⟨"template/layout.html"⟩) =
      ⟨.ok (included ++ Renderer.identityLayout), [.file ⟨"public/n.txt"⟩]⟩ := by
  have hdoc : Marker.renderMarker "doc" = Renderer.identityLayout := rfl
  have hrest : Marker.IsPlain Renderer.identityLayout.toList :=
    hdoc ▸ Marker.isPlain_renderMarker (by decide) (List.all_eq_true.mp (by rfl))
  have htokens : Marker.tokenize loopingLayout =
      [.reference ⟨"../public/n.txt", []⟩, .literal Renderer.identityLayout] := by
    have hread : Marker.read? loopingLayout.toList =
        some (.reference ⟨"../public/n.txt", []⟩, Renderer.identityLayout.toList) := by cbv
    rw [Marker.tokenize_cons_of_read? hread, String.ofList_toList, Marker.tokenize_of_isPlain hrest]
    rfl
  have hroot : ((crossing none).setting tree).root = ⟨"template"⟩ := rfl
  have htarget : Compose.target ⟨"template"⟩ (Location.file ⟨"template/layout.html"⟩).canonical
      "../public/n.txt" = .file ⟨"public/n.txt"⟩ := rfl
  have hne : Location.file ⟨"public/n.txt"⟩ ≠ (Location.file ⟨"template/layout.html"⟩).canonical := by
    decide
  rw [← hroot] at htarget
  rw [Compose.compose_of_included htokens (by rwa [htarget]) (by rw [htarget]; exact hsource) hplain,
    htarget]

private theorem composeTemplates_looping {included : String}
    (hhas : tree.hasEntry ⟨"template/layout.html"⟩ = true)
    (hlayout : tree.source 3 (.file ⟨"template/layout.html"⟩) = .ok loopingLayout)
    (hsource : tree.source 3 (.file ⟨"public/n.txt"⟩) = .ok included)
    (hplain : Marker.IsPlain included.toList) :
    (crossing none).composeTemplates tree = .ok (loopingTemplates included) := by
  have hlocation : Location.resolve (crossing none).paths.templates
      (.file (crossing none).paths.templates) (crossing none).config.layout =
        .file ⟨"template/layout.html"⟩ := rfl
  have hcomposed : (crossing none).composeLayout tree =
      .ok (included ++ Renderer.identityLayout) :=
    composeLayout_of_compose rfl hlocation hhas hlayout (by rw [compose_loopingLayout hsource hplain])
  rw [composeTemplates, hcomposed]
  rfl

/-- The layout with a text before the body. -/
private theorem renderer_looping {cache : Option ComposedTemplates} {chars : List Char}
    (h : Layout.ofText? (String.ofList chars ++ Renderer.identityLayout) =
      some (.text chars :: Layout.identity)) :
    (crossing cache).renderer (loopingTemplates (String.ofList chars)) =
      .ok ⟨.text chars :: Layout.identity⟩ :=
  renderer_of_ofText? h

/-- The page of the site with the text of its marker behind that of the layout. -/
private theorem gives_notePage_looping (cache : Option ComposedTemplates) {chars : List Char}
    {body html : String} (hhtml : String.ofList chars ++ body = html)
    (hread : tree.readText ⟨"origin/a.html"⟩ = .ok "\x7b\x7b pageJs | safe \x7d\x7d")
    (hfill : Renderer.fillMarkers "\x7b\x7b pageJs | safe \x7d\x7d"
      ((ContextSetting.ofConfig (crossing none).config ⟨"origin"⟩ (some [])).context
        (fun path ↦ (tree.readText path).toOption)
        (tree.metadataOf ⟨"origin/a.html"⟩ "metadata.yaml") "\x7b\x7b pageJs | safe \x7d\x7d"
        ⟨"origin/a.html"⟩) = .ok body)
    (hwrite : (writeOutput ⟨"x/../public/a.html"⟩ html).Gives tree () tree₁) (result : BuildResult) :
    ((crossing cache).notePage (loopingTemplates (String.ofList chars))
      ⟨.text chars :: Layout.identity⟩ result ⟨"origin/a.html"⟩).Gives tree
      { result with pages := result.pages + 1 } tree₁ := by
  have hsame : (crossing cache).outputPath? ⟨"origin/a.html"⟩ =
      (crossing none).outputPath? ⟨"origin/a.html"⟩ := rfl
  have houtput : (crossing none).outputPath? ⟨"origin/a.html"⟩ = some ⟨"x/../public/a.html"⟩ := rfl
  rw [← hsame] at houtput
  rw [← hhtml] at hwrite
  refine gives_notePage_of_writeOutput (pageHtml_of_isPlain rfl rfl rfl hread isPlain_scriptMarker ?_)
    houtput hwrite
  refine Renderer.renderPage_text_identity chars ?_
  rw [ContextSetting.body_context]
  exact hfill

/-- The walk through the content of the site. -/
private theorem contentFiles_looping
    (hlist : tree.list ⟨"origin"⟩ = .ok ["a.html", "metadata.yaml", "n.txt", "sub"])
    (hsub : tree.list ⟨"origin/sub"⟩ = .ok ["x.txt"]) (hdepth : tree.depth = 3)
    (hdirectory : tree.isDirectory ⟨"origin/sub"⟩ = true)
    (hfiles : ∀ path ∈ [Path.mk "origin/a.html", ⟨"origin/metadata.yaml"⟩, ⟨"origin/n.txt"⟩,
      ⟨"origin/sub/x.txt"⟩], tree.isDirectory path = false) :
    tree.contentFiles ⟨"origin"⟩ = .ok [⟨"origin/a.html"⟩, ⟨"origin/metadata.yaml"⟩,
      ⟨"origin/n.txt"⟩, ⟨"origin/sub/x.txt"⟩] := by
  have hjoin : Path.join ⟨"origin"⟩ ⟨"a.html"⟩ = ⟨"origin/a.html"⟩ ∧
      Path.join ⟨"origin"⟩ ⟨"metadata.yaml"⟩ = ⟨"origin/metadata.yaml"⟩ ∧
      Path.join ⟨"origin"⟩ ⟨"n.txt"⟩ = ⟨"origin/n.txt"⟩ ∧
      Path.join ⟨"origin"⟩ ⟨"sub"⟩ = ⟨"origin/sub"⟩ ∧
      Path.join ⟨"origin/sub"⟩ ⟨"x.txt"⟩ = ⟨"origin/sub/x.txt"⟩ := ⟨rfl, rfl, rfl, rfl, rfl⟩
  have hhidden : ∀ name ∈ ["a.html", "metadata.yaml", "n.txt", "sub", "x.txt"],
      isHiddenName name = false := by decide
  simp only [List.forall_mem_cons] at hfiles hhidden
  refine contentFiles_of_walk ?_ (by decide)
  simp [hdepth, FileTree.walk, FileTree.walkNames, hlist, hsub, hjoin, hhidden, hdirectory, hfiles]

/-- The first build and the second one with the output directory that they have prepared. -/
private def preparedFirst : FileTree := looping (loopingStart ++ [(["x"], .directory)])

@[inherit_doc preparedFirst]
private def preparedSecond : FileTree := looping [(["x"], .directory)]

private theorem gives_build_loopingStart : (crossing none).build.Gives (looping loopingStart)
    (⟨⟨"x/../public"⟩, 1, 2, 0, []⟩, crossing (some (loopingTemplates "old")))
    (looping loopingFirst) := by
  have hprepare : (crossing none).prepareOutput.Gives (looping loopingStart) () preparedFirst := rfl
  have hwrite : (writeOutput ⟨"x/../public/a.html"⟩ "old").Gives preparedFirst ()
    (looping (loopingStart ++ [(["x"], .directory), loopingPage "old"])) := rfl
  have hrenderer : (crossing none).renderer (loopingTemplates (String.ofList ['o', 'l', 'd'])) =
      .ok ⟨.text ['o', 'l', 'd'] :: Layout.identity⟩ := renderer_looping (by cbv)
  have hpage := gives_notePage_looping none (show String.ofList ['o', 'l', 'd'] ++ "" = "old" by decide) rfl
    (by decide +kernel) hwrite
  exact gives_build.mpr ⟨_, _, _, _, by decide,
    composeTemplates_looping rfl rfl rfl (Marker.isPlain_of_not_mem (by decide)),
    hrenderer, hprepare, contentFiles_looping rfl rfl rfl rfl (by decide),
    gives_bind.mpr ⟨_, _, hpage _, rfl⟩, rfl⟩

private theorem gives_build_loopingFirst : (crossing none).build.Gives (looping loopingFirst)
    (⟨⟨"x/../public"⟩, 1, 2, 0, []⟩, crossing (some (loopingTemplates "new")))
    (looping (loopingLater "new")) := by
  have hprepare : (crossing none).prepareOutput.Gives (looping loopingFirst) () preparedSecond := rfl
  have hwrite : (writeOutput ⟨"x/../public/a.html"⟩ "new").Gives preparedSecond ()
    (looping [(["x"], .directory), loopingPage "new"]) := rfl
  have hrenderer : (crossing none).renderer (loopingTemplates (String.ofList ['n', 'e', 'w'])) =
      .ok ⟨.text ['n', 'e', 'w'] :: Layout.identity⟩ := renderer_looping (by cbv)
  have hpage := gives_notePage_looping none (show String.ofList ['n', 'e', 'w'] ++ "" = "new" by decide) rfl
    (by decide +kernel) hwrite
  exact gives_build.mpr ⟨_, _, _, _, by decide,
    composeTemplates_looping rfl rfl rfl (Marker.isPlain_of_not_mem (by decide)),
    hrenderer, hprepare, contentFiles_looping rfl rfl rfl rfl (by decide),
    gives_bind.mpr ⟨_, _, hpage _, rfl⟩, rfl⟩

private theorem gives_rebuild_looping : ((crossing (some (loopingTemplates "new"))).rebuild
    (.ofChanges [.page ⟨"origin/a.html"⟩ false])).Gives (looping (loopingLater "new"))
      (⟨⟨"x/../public"⟩, 1, 0, 0, []⟩, crossing (some (loopingTemplates "new")))
      (looping (loopingLater "new<script>S</script>")) := by
  have hscope : Scope.ofChanges [.page ⟨"origin/a.html"⟩ false] = .files [.page ⟨"origin/a.html"⟩] :=
    rfl
  have hwrite : (writeOutput ⟨"x/../public/a.html"⟩ "new<script>S</script>").Gives
    (looping (loopingLater "new")) () (looping (loopingLater "new<script>S</script>")) := rfl
  have hrenderer : (crossing (some (loopingTemplates "new"))).renderer
      (loopingTemplates (String.ofList ['n', 'e', 'w'])) =
        .ok ⟨.text ['n', 'e', 'w'] :: Layout.identity⟩ := renderer_looping (by cbv)
  have hpage := gives_notePage_looping (some (loopingTemplates "new"))
    (show String.ofList ['n', 'e', 'w'] ++ "<script>S</script>" = "new<script>S</script>" by decide) rfl
    (by decide +kernel) hwrite
  rw [hscope, rebuild_files rfl hrenderer]
  exact gives_bind.mpr ⟨_, _, gives_bind.mpr ⟨_, _, hpage _, rfl⟩, gives_pure.mpr ⟨rfl, rfl⟩⟩

end StaticSite.Builder
