import StaticSite.Proofs.Site.Flat
import StaticSite.Proofs.Site.Rebuild

/-!
# Histories of builds

What happens to a site one after another: its files are edited, and it is built as a whole or in
parts, with success or not. The templates that a targeted rebuild works with are always those of the
last full build that succeeded (`cache_run`). They are the ones that the output directory was emptied
for, too, unless a full build has failed after it emptied the output directory.
-/

namespace StaticSite

open StaticSite.Path Builder Build

variable {builder : Builder} {tree : FileTree} {scope : Scope} {templates : ComposedTemplates}

/-- What may happen to a site. -/
inductive Event where
  /-- The files are edited. -/
  | edit (tree : FileTree)
  /-- The whole site is built. -/
  | build
  /-- The site is rebuilt as far as changes ask for it. -/
  | rebuild (scope : Scope)

/-- The files of a site with its builder. -/
structure Situation where
  /-- The files. -/
  tree : FileTree
  /-- The builder. -/
  builder : Builder

namespace Situation

/-- The situation after a build. A build that fails keeps the builder. -/
def after (situation : Situation) :
    Except BuildError (BuildResult × Builder) × FileTree → Situation
  | (.ok (_, builder), tree) => ⟨tree, builder⟩
  | (.error _, tree) => ⟨tree, situation.builder⟩

/-- The situation after an event. -/
def step (situation : Situation) : Event → Situation
  | .edit tree => { situation with tree := tree }
  | .build => situation.after (situation.builder.build situation.tree)
  | .rebuild scope => situation.after (situation.builder.rebuild scope situation.tree)

end Situation

namespace Builder

/-- Whether a rebuild works on single files. -/
def isTargeted (builder : Builder) : Scope → Bool
  | .files _ => builder.cache.isSome
  | .full => false
  | .config => false

/-- The templates for which a full build empties the output directory, if it comes so far. -/
def emptiesFor? (builder : Builder) (tree : FileTree) : Option ComposedTemplates :=
  match builder.directoryError? tree, builder.composeTemplates tree with
  | none, .ok templates =>
    if (builder.renderer templates).isOk && (builder.prepareOutput tree).1.isOk then some templates
    else none
  | _, _ => none

end Builder

/-- What is remembered of the builds of a site. -/
structure Memory where
  /-- The templates of the last full build that succeeded. -/
  completed : Option ComposedTemplates
  /-- The templates of the last full build that emptied the output directory. -/
  emptied : Option ComposedTemplates
  /-- Whether that build failed. -/
  failed : Bool
  /-- The templates of all builds since then, and of that build. -/
  used : List ComposedTemplates

namespace Memory

/-- Nothing. -/
def empty : Memory := ⟨none, none, false, []⟩

/-- The memory after a full build. -/
def fullBuild (memory : Memory) (situation : Situation) : Memory :=
  match situation.builder.emptiesFor? situation.tree with
  | none => memory
  | some templates =>
    let succeeded := (situation.builder.build situation.tree).1.isOk
    { completed := if succeeded then some templates else memory.completed
      emptied := some templates
      failed := !succeeded
      used := [templates] }

/-- The memory after an event. -/
def step (memory : Memory) (situation : Situation) : Event → Memory
  | .edit _ => memory
  | .build => memory.fullBuild situation
  | .rebuild scope =>
    if situation.builder.isTargeted scope then
      { memory with used := situation.builder.cache.toList ++ memory.used }
    else memory.fullBuild situation

/-- Whether a memory says what templates the builder holds. -/
structure Explains (memory : Memory) (builder : Builder) : Prop where
  cache : builder.cache = memory.completed
  emptied : memory.failed = false → memory.completed = memory.emptied
  used : memory.failed = false → ∀ templates ∈ memory.used, memory.emptied = some templates

end Memory

/-- A situation after some events, with the memory of how it came about. -/
def Situation.run (situation : Situation) (events : List Event) : Situation × Memory :=
  events.foldl (fun now event ↦ (now.1.step event, now.2.step now.1 event)) (situation, .empty)

/-! ## Single builds -/

theorem Builder.rebuild_eq_build (h : builder.isTargeted scope = false) :
    builder.rebuild scope = builder.build := by
  cases scope with
  | full => exact rebuild_full
  | config => exact rebuild_config
  | files tasks => exact rebuild_of_noCache (by simpa [isTargeted] using h)

/-- A full build that succeeds has emptied the output directory, and the builder holds its
templates. -/
theorem Builder.emptiesFor?_of_build {result : BuildResult} {rebuilt : Builder} {tree₁ : FileTree}
    (h : builder.build.Gives tree (result, rebuilt) tree₁) :
    ∃ templates, builder.emptiesFor? tree = some templates ∧ rebuilt.cache = some templates := by
  obtain ⟨templates, renderer, emptied, files, hdirectories, hcomposed, hrenderer, hprepare, -, -,
    rfl⟩ := gives_build.mp h
  refine ⟨templates, ?_, rfl⟩
  have hprepared := (gives_iff.mp hprepare).1
  rw [emptiesFor?, hdirectories, hcomposed]
  simp [hrenderer, hprepared, Except.isOk, Except.toBool]

private theorem extends_of_fails_prepareOutput {e : BuildError} {tree₁ : FileTree}
    (h : builder.prepareOutput.Fails tree e tree₁) : tree.Extends tree₁ := by
  rw [prepareOutput] at h
  rcases fails_bind.mp h with hfiles | ⟨found, tree₂, hfiles, h⟩
  · exact absurd hfiles not_fails_files
  obtain ⟨rfl, rfl⟩ := gives_files.mp hfiles
  split_ifs at h
  · obtain ⟨-, -, -, rfl⟩ := fails_change.mp h
    exact .refl _
  · obtain ⟨fault, hensure, -⟩ := fails_ensureDirectory.mp h
    exact FileTree.extends_ensureDirectory hensure

/-- A full build that does not come to empty the output directory changes no file. -/
theorem Builder.extends_build (h : builder.emptiesFor? tree = none) :
    tree.Extends (builder.build tree).2 := by
  rcases hbuild : builder.build tree with ⟨e | ⟨result, rebuilt⟩, tree₁⟩
  · have hfails : builder.build.Fails tree e tree₁ := hbuild
    rw [build, fails_bind] at hfails
    obtain hfiles | ⟨found, tree₂, hfiles, hfails⟩ := hfails
    · exact absurd hfiles not_fails_files
    obtain ⟨rfl, rfl⟩ := gives_files.mp hfiles
    split at hfails
    · exact (fails_fail.mp hfails).2 ▸ .refl _
    next hdirectories =>
    split at hfails
    · exact (fails_fail.mp hfails).2 ▸ .refl _
    next templates hcomposed =>
    split at hfails
    · exact (fails_fail.mp hfails).2 ▸ .refl _
    next renderer hrenderer =>
    rcases fails_bind.mp hfails with hprepare | ⟨done, tree₂, hprepare, -⟩
    · exact extends_of_fails_prepareOutput hprepare
    · -- The output directory has been emptied.
      have hprepared := (gives_iff.mp hprepare).1
      rw [emptiesFor?, hdirectories, hcomposed] at h
      simp [hrenderer, hprepared, Except.isOk, Except.toBool] at h
  · obtain ⟨templates, hempties, -⟩ := emptiesFor?_of_build (show builder.build.Gives _ _ _ from hbuild)
    simp [h] at hempties

namespace Situation

variable {situation : Situation}

theorem after_of_gives {work : Build (BuildResult × Builder)}
    {result : BuildResult} {rebuilt : Builder} {tree₁ : FileTree}
    (h : work.Gives situation.tree (result, rebuilt) tree₁) :
    situation.after (work situation.tree) = ⟨tree₁, rebuilt⟩ := by
  rw [show work situation.tree = _ from h]
  rfl

theorem after_of_fails {work : Build (BuildResult × Builder)}
    {e : BuildError} {tree₁ : FileTree} (h : work.Fails situation.tree e tree₁) :
    situation.after (work situation.tree) = ⟨tree₁, situation.builder⟩ := by
  rw [show work situation.tree = _ from h]
  rfl

theorem step_build_of_gives {builder rebuilt : Builder} {tree tree₁ : FileTree}
    {result : BuildResult} (h : builder.build.Gives tree (result, rebuilt) tree₁) :
    step ⟨tree, builder⟩ .build = ⟨tree₁, rebuilt⟩ :=
  @after_of_gives ⟨tree, builder⟩ _ _ _ _ h

theorem step_rebuild_of_gives {builder rebuilt : Builder} {scope : Scope} {tree tree₁ : FileTree}
    {result : BuildResult} (h : (builder.rebuild scope).Gives tree (result, rebuilt) tree₁) :
    step ⟨tree, builder⟩ (.rebuild scope) = ⟨tree₁, rebuilt⟩ :=
  @after_of_gives ⟨tree, builder⟩ _ _ _ _ h

theorem run_concat (start : Situation) (events : List Event) (event : Event) :
    (start.run (events ++ [event])).1 = (start.run events).1.step event := by
  rw [run, List.foldl_append]
  rfl

theorem run_singleton (start : Situation) (event : Event) :
    (start.run [event]).1 = start.step event :=
  start.run_concat [] event

/-- A site is built, and then edited. -/
theorem run_build_edit {builder rebuilt : Builder} {tree tree₁ site : FileTree} {result : BuildResult}
    (hgives : builder.build.Gives tree (result, rebuilt) tree₁) :
    (run ⟨tree, builder⟩ [.build, .edit site]).1 = ⟨site, rebuilt⟩ := by
  have hedit := run_concat ⟨tree, builder⟩ [.build] (.edit site)
  rw [run_singleton, step_build_of_gives hgives] at hedit
  exact hedit

/-- After a build the builder is the one before, or the one that a success has left. -/
theorem builder_after (work : Build (BuildResult × Builder)) :
    (situation.after (work situation.tree)).builder = situation.builder ∧
        (work situation.tree).1.isOk = false ∨
      ∃ result rebuilt tree₁, work.Gives situation.tree (result, rebuilt) tree₁ ∧
        (situation.after (work situation.tree)).builder = rebuilt ∧
          (work situation.tree).1.isOk := by
  rcases hwork : work situation.tree with ⟨_ | ⟨result, rebuilt⟩, tree₁⟩
  · exact Or.inl ⟨rfl, rfl⟩
  · exact Or.inr ⟨result, rebuilt, tree₁, hwork, rfl, rfl⟩

/-- A targeted rebuild keeps the builder, whatever comes of it. -/
theorem builder_step_rebuild (h : situation.builder.isTargeted scope) :
    (situation.step (.rebuild scope)).builder = situation.builder := by
  cases scope with
  | full => simp [isTargeted] at h
  | config => simp [isTargeted] at h
  | files tasks =>
    obtain ⟨templates, hcache⟩ := Option.isSome_iff_exists.mp h
    rcases builder_after (situation.builder.rebuild (.files tasks)) with ⟨hsame, -⟩ |
      ⟨result, rebuilt, tree₁, hgives, hsame, -⟩
    · exact hsame
    · exact hsame.trans (exists_of_rebuild_files hcache hgives).1

end Situation

/-! ## Whole histories -/

namespace Memory

variable {memory : Memory} {situation : Situation}

/-- A full build is explained by the memory of it. -/
theorem Explains.fullBuild (h : memory.Explains situation.builder) :
    (memory.fullBuild situation).Explains
      (situation.after (situation.builder.build situation.tree)).builder := by
  rw [Memory.fullBuild]
  rcases Situation.builder_after situation.builder.build with ⟨hsame, hfailed⟩ |
    ⟨result, rebuilt, tree₁, hgives, hsame, hok⟩
  · rw [hsame]
    cases hempties : situation.builder.emptiesFor? situation.tree with
    | none => exact h
    | some templates =>
      -- The output directory is left without a build for these templates.
      simp only [hfailed]
      exact ⟨h.cache, by simp, by simp⟩
  · obtain ⟨templates, hempties, hcache⟩ := emptiesFor?_of_build hgives
    rw [hsame, hempties]
    simp only [hok]
    exact ⟨hcache, fun _ ↦ rfl, fun _ other hmem ↦ by rw [List.mem_singleton.mp hmem]⟩

/-- What happens next is explained by the memory of it. -/
theorem Explains.step (h : memory.Explains situation.builder) (event : Event) :
    (memory.step situation event).Explains (situation.step event).builder := by
  cases event with
  | edit tree => exact h
  | build => exact h.fullBuild
  | rebuild scope =>
    rw [Memory.step]
    cases htargeted : situation.builder.isTargeted scope with
    | true =>
      rw [if_pos rfl, Situation.builder_step_rebuild htargeted]
      refine ⟨h.cache, h.emptied, fun hfailed templates hmem ↦ ?_⟩
      rcases List.mem_append.mp hmem with hcached | hused
      · rwa [Option.mem_toList, h.cache, h.emptied hfailed] at hcached
      · exact h.used hfailed templates hused
    | false =>
      rw [if_neg (by simp), Situation.step, rebuild_eq_build htargeted]
      exact h.fullBuild

end Memory

/-- A history is explained by its memory. -/
theorem explains_run {situation : Situation} (hcache : situation.builder.cache = none)
    (events : List Event) :
    (situation.run events).2.Explains (situation.run events).1.builder := by
  induction events using List.reverseRecOn with
  | nil => exact ⟨hcache, fun _ ↦ rfl, by simp [Situation.run, Memory.empty]⟩
  | append_singleton events event ih =>
    rw [Situation.run, List.foldl_append]
    exact ih.step event

/-- After any history of a new builder it holds the templates of the last full build that succeeded.
If the last full build that emptied the output directory did not fail, these are its templates, and
no page has been built with other ones since. -/
theorem cache_run (config : Config) (base : Path) (registry : Registry) (liveReload : Bool)
    (tree : FileTree) (events : List Event) :
    let (now, memory) := Situation.run ⟨tree, .ofConfig config base registry liveReload⟩ events
    now.builder.cache = memory.completed ∧
      (memory.failed = false → now.builder.cache = memory.emptied ∧
        ∀ templates ∈ memory.used, now.builder.cache = some templates) := by
  have hexplains := explains_run
    (show (⟨tree, .ofConfig config base registry liveReload⟩ : Situation).builder.cache = none from rfl)
    events
  refine ⟨hexplains.cache, fun hfailed ↦ ?_⟩
  have hcache := hexplains.cache.trans (hexplains.emptied hfailed)
  exact ⟨hcache, fun templates hmem ↦ hcache.trans (hexplains.used hfailed templates hmem)⟩

/-! ## A build that fails after it emptied the output directory -/

/-- A full build fails with the error of a file that ends it. -/
private theorem fails_build {builder : Builder} {emptied tree₁ : FileTree} {renderer : Renderer}
    {files : List Path} {e : BuildError} (hdirectories : builder.directoryError? tree = none)
    (hcomposed : builder.composeTemplates tree = .ok templates)
    (hrenderer : builder.renderer templates = .ok renderer)
    (hprepare : builder.prepareOutput.Gives tree () emptied)
    (hfiles : emptied.contentFiles builder.paths.content = .ok files)
    (hbuild : (builder.buildFiles templates renderer files builder.noResult).Fails emptied e tree₁) :
    builder.build.Fails tree e tree₁ := by
  refine fails_bind.mpr (Or.inr ⟨tree, tree, gives_files.mpr ⟨rfl, rfl⟩, ?_⟩)
  simp only [hdirectories, hcomposed, hrenderer]
  refine fails_bind.mpr (Or.inr ⟨(), emptied, hprepare, fails_bind.mpr (Or.inr
    ⟨emptied, emptied, gives_files.mpr ⟨rfl, rfl⟩, ?_⟩)⟩)
  simp only [hfiles]
  exact fails_bind.mpr (Or.inl hbuild)

/-- A page whose error ends the build ends it. -/
private theorem fails_notePage {builder : Builder} {renderer : Renderer} {page : Path}
    {e : BuildError} (hhtml : builder.pageHtml tree templates renderer page = .error e)
    (hfatal : e.isFatal) (result : BuildResult) :
    (builder.notePage templates renderer result page).Fails tree e tree := by
  have hpage : (builder.buildPage templates renderer page).Fails tree e tree := by
    refine fails_bind.mpr (Or.inr ⟨tree, tree, gives_files.mpr ⟨rfl, rfl⟩, ?_⟩)
    simp only [hhtml]
    exact fails_iff.mpr ⟨rfl, rfl⟩
  refine fails_bind.mpr (Or.inr ⟨.error e, tree,
    gives_attempt.mpr (fails_iff.mp (fails_bind.mpr (Or.inl hpage))), ?_⟩)
  simp only [hfatal, if_true]
  exact fails_iff.mpr ⟨rfl, rfl⟩

/-- A site with a layout and two pages. -/
def layered (layout page : String) (output : List (Place × Entry)) : FileTree where
  entries := [(["template"], .directory), (["template", "layout.html"], .file (.text layout)),
    (["origin"], .directory), (["origin", "a.html"], .file (.text "a")),
    (["origin", "b.html"], .file (.text page)), (["public"], .directory)] ++ output
  current := []

/-- The output of the first page. -/
def outputOfA (html : String) : Place × Entry := (["public", "a.html"], .file (.text html))

/-- The output of the second page. -/
def outputOfB (html : String) : Place × Entry := (["public", "b.html"], .file (.text html))

/-- A builder of the site. -/
def layeredBuilder (cache : Option ComposedTemplates) : Builder :=
  { ofConfig { Config.default with tidy := false } ⟨""⟩ .standard false with cache := cache }

/-- The second page refers to a template that is missing when the site is built with a new layout,
and is rebuilt later. -/
def layeredEvents : List Event :=
  [.build, .edit (layered "2" "\x7b\x7b nowhere \x7d\x7d" [outputOfA "1", outputOfB "1"]), .build,
    .edit (layered "2" "b" [outputOfA "2"]), .rebuild (.files [.page ⟨"origin/b.html"⟩])]

private theorem composeTemplates_layered {layout : String} (hplain : Marker.IsPlain layout.toList)
    (hhas : tree.hasEntry ⟨"template/layout.html"⟩)
    (hsource : tree.source 3 (.file ⟨"template/layout.html"⟩) = .ok layout) :
    (layeredBuilder none).composeTemplates tree = .ok ⟨layout, []⟩ := by
  have hlayout : (layeredBuilder none).composeLayout tree = .ok layout :=
    composeLayout_of_compose rfl rfl hhas hsource (by rw [Compose.compose_of_isPlain hplain])
  rw [composeTemplates, hlayout]
  rfl

private theorem renderer_layered {cache : Option ComposedTemplates} {layout : String}
    {chars : List Char} (h : Layout.ofText? layout = some [.text chars]) :
    (layeredBuilder cache).renderer ⟨layout, []⟩ = .ok ⟨[.text chars]⟩ :=
  Builder.renderer_of_ofText? h

/-- A page of the site whose text holds no marker becomes the text of the layout. -/
private theorem gives_notePage_layered {cache : Option ComposedTemplates} {page output : Path}
    {chars : List Char} {tree₁ : FileTree} (text : String)
    (hformat : Registry.standard.forPath? page = some .html)
    (houtput : (layeredBuilder cache).outputPath? page = some output)
    (hread : tree.readText page = .ok text) (hplain : Marker.IsPlain text.toList)
    (hfill : ∀ context, Renderer.fillMarkers text context = .ok text)
    (hwrite : (writeOutput output (String.ofList chars)).Gives tree () tree₁)
    (templates : ComposedTemplates) (result : BuildResult) :
    ((layeredBuilder cache).notePage templates ⟨[.text chars]⟩ result page).Gives tree
      { result with pages := result.pages + 1 } tree₁ := by
  refine gives_notePage_of_writeOutput (pageHtml_of_isPlain rfl rfl hformat hread hplain ?_) houtput
    hwrite
  refine Renderer.renderPage_text ⟨text, ?_⟩
  rw [ContextSetting.body_context]
  exact hfill _

private theorem outputPath?_layered (cache : Option ComposedTemplates) :
    (layeredBuilder cache).outputPath? ⟨"origin/a.html"⟩ = some ⟨"public/a.html"⟩ ∧
      (layeredBuilder cache).outputPath? ⟨"origin/b.html"⟩ = some ⟨"public/b.html"⟩ := by
  have hsame (path : Path) : (layeredBuilder cache).outputPath? path =
      (layeredBuilder none).outputPath? path := rfl
  rw [hsame, hsame]
  exact ⟨rfl, rfl⟩

private theorem contentFiles_layered {content : FileTree}
    (hlist : content.list ⟨"origin"⟩ = .ok ["a.html", "b.html"])
    (ha : content.isDirectory ⟨"origin/a.html"⟩ = false)
    (hb : content.isDirectory ⟨"origin/b.html"⟩ = false) :
    content.contentFiles ⟨"origin"⟩ = .ok [⟨"origin/a.html"⟩, ⟨"origin/b.html"⟩] := by
  have hjoin : Path.join ⟨"origin"⟩ ⟨"a.html"⟩ = ⟨"origin/a.html"⟩ ∧
      Path.join ⟨"origin"⟩ ⟨"b.html"⟩ = ⟨"origin/b.html"⟩ := ⟨rfl, rfl⟩
  have hhidden : isHiddenName "a.html" = false ∧ isHiddenName "b.html" = false := ⟨rfl, rfl⟩
  refine contentFiles_of_walk ?_ (by decide)
  simp [FileTree.walk, FileTree.walkNames, hlist, hjoin, hhidden, ha, hb]

private theorem gives_build_first : (layeredBuilder none).build.Gives (layered "1" "b" [])
    (⟨⟨"public"⟩, 2, 0, 0, []⟩, layeredBuilder (some ⟨"1", []⟩))
    (layered "1" "b" [outputOfA "1", outputOfB "1"]) := by
  have hwriteA : (writeOutput ⟨"public/a.html"⟩ (String.ofList ['1'])).Gives (layered "1" "b" []) ()
      (layered "1" "b" [outputOfA "1"]) := rfl
  have hwriteB : (writeOutput ⟨"public/b.html"⟩ (String.ofList ['1'])).Gives
      (layered "1" "b" [outputOfA "1"]) () (layered "1" "b" [outputOfA "1", outputOfB "1"]) := rfl
  have hprepare : (layeredBuilder none).prepareOutput.Gives (layered "1" "b" []) ()
      (layered "1" "b" []) := rfl
  have ha := gives_notePage_layered "a" rfl (outputPath?_layered none).1 rfl
    (Marker.isPlain_of_not_mem (by decide)) (fun _ ↦ rfl) hwriteA
  have hb := gives_notePage_layered "b" rfl (outputPath?_layered none).2 rfl
    (Marker.isPlain_of_not_mem (by decide)) (fun _ ↦ rfl) hwriteB
  exact gives_build.mpr ⟨_, _, _, _, by decide,
    composeTemplates_layered (Marker.isPlain_of_not_mem (by decide)) rfl rfl,
    renderer_layered (by cbv), hprepare, contentFiles_layered rfl rfl rfl,
    gives_bind.mpr ⟨_, _, ha _ _, gives_bind.mpr ⟨_, _, hb _ _, rfl⟩⟩, rfl⟩

/-- The second page cannot be composed while it refers to a missing template. -/
private theorem pageHtml_nowhere {renderer : Renderer} {e : FetchError}
    (hread : tree.readText ⟨"origin/b.html"⟩ = .ok "\x7b\x7b nowhere \x7d\x7d")
    (hmissing : tree.source 3 (.file ⟨"origin/nowhere.html"⟩) = .error e) :
    (layeredBuilder none).pageHtml tree templates renderer ⟨"origin/b.html"⟩ =
      .error (.compose (.file ⟨"origin/b.html"⟩) (.fetch e)) := by
  have htokens : Marker.tokenize "\x7b\x7b nowhere \x7d\x7d" = [.reference ⟨"nowhere", []⟩] :=
    Marker.tokenize_of_read? (show _ = some (.reference ⟨"nowhere", []⟩, []) by cbv)
  have hcompose : (Compose.compose ((layeredBuilder none).setting tree)
      "\x7b\x7b nowhere \x7d\x7d" (.file ⟨"origin/b.html"⟩)).result = .error (.fetch e) := by
    have hroot : ((layeredBuilder none).setting tree).root = ⟨"template"⟩ := rfl
    have htarget : Compose.target ⟨"template"⟩ (Location.file ⟨"origin/b.html"⟩).canonical "nowhere" =
        .file ⟨"origin/nowhere.html"⟩ := rfl
    rw [← hroot] at htarget
    rw [Compose.compose_of_missing htokens (by rw [htarget]; decide) (by rw [htarget]; exact hmissing)]
  unfold pageHtml
  simp only [hread, hcompose]

/-- The site with the new layout, whose second page refers to a missing template. -/
private def broken (output : List (Place × Entry)) : FileTree :=
  layered "2" "\x7b\x7b nowhere \x7d\x7d" output

private theorem composeTemplates_broken : (layeredBuilder none).composeTemplates
    (broken [outputOfA "1", outputOfB "1"]) = .ok ⟨"2", []⟩ :=
  composeTemplates_layered (Marker.isPlain_of_not_mem (by decide)) rfl rfl

private theorem prepareOutput_broken : (layeredBuilder none).prepareOutput.Gives
    (broken [outputOfA "1", outputOfB "1"]) () (broken []) := rfl

private theorem renderer_broken :
    (layeredBuilder none).renderer ⟨"2", []⟩ = .ok ⟨[.text ['2']]⟩ := renderer_layered (by cbv)

private theorem directoryError?_broken : (layeredBuilder none).directoryError?
    (broken [outputOfA "1", outputOfB "1"]) = none := by decide

private theorem fails_build_broken : ∃ e, (layeredBuilder none).build.Fails
    (broken [outputOfA "1", outputOfB "1"]) e (broken [outputOfA "2"]) := by
  have hfiles : (broken []).contentFiles (layeredBuilder none).paths.content =
      .ok [⟨"origin/a.html"⟩, ⟨"origin/b.html"⟩] := contentFiles_layered rfl rfl rfl
  have hwrite : (writeOutput ⟨"public/a.html"⟩ (String.ofList ['2'])).Gives (broken []) ()
      (broken [outputOfA "2"]) := rfl
  have ha := gives_notePage_layered "a" rfl (outputPath?_layered none).1 rfl
    (Marker.isPlain_of_not_mem (by decide)) (fun _ ↦ rfl) hwrite
  have hread : (broken [outputOfA "2"]).readText ⟨"origin/b.html"⟩ =
      .ok "\x7b\x7b nowhere \x7d\x7d" := rfl
  obtain ⟨e, hmissing⟩ : ∃ e, (broken [outputOfA "2"]).source 3 (.file ⟨"origin/nowhere.html"⟩) =
      .error e := ⟨_, rfl⟩
  have hb (result : BuildResult) : ((layeredBuilder none).notePage ⟨"2", []⟩ ⟨[.text ['2']]⟩ result
      ⟨"origin/b.html"⟩).Fails (broken [outputOfA "2"])
        (.compose (.file ⟨"origin/b.html"⟩) (.fetch e)) (broken [outputOfA "2"]) :=
    fails_notePage (pageHtml_nowhere hread hmissing) rfl result
  exact ⟨_, fails_build directoryError?_broken composeTemplates_broken renderer_broken
    prepareOutput_broken hfiles
    (fails_bind.mpr (Or.inr ⟨_, _, ha _ _, fails_bind.mpr (Or.inl (hb _))⟩))⟩

private theorem emptiesFor?_broken : (layeredBuilder (some ⟨"1", []⟩)).emptiesFor?
    (broken [outputOfA "1", outputOfB "1"]) = some ⟨"2", []⟩ := by
  have hsame : (layeredBuilder (some ⟨"1", []⟩)).emptiesFor? (broken [outputOfA "1", outputOfB "1"]) =
      (layeredBuilder none).emptiesFor? (broken [outputOfA "1", outputOfB "1"]) := rfl
  rw [hsame, emptiesFor?, directoryError?_broken, composeTemplates_broken]
  simp [renderer_broken, (gives_iff.mp prepareOutput_broken).1, Except.isOk, Except.toBool]

private theorem gives_rebuild_layered :
    ((layeredBuilder (some ⟨"1", []⟩)).rebuild (.files [.page ⟨"origin/b.html"⟩])).Gives
      (layered "2" "b" [outputOfA "2"]) (⟨⟨"public"⟩, 1, 0, 0, []⟩, layeredBuilder (some ⟨"1", []⟩))
      (layered "2" "b" [outputOfA "2", outputOfB "1"]) := by
  have hwrite : (writeOutput ⟨"public/b.html"⟩ (String.ofList ['1'])).Gives
      (layered "2" "b" [outputOfA "2"]) () (layered "2" "b" [outputOfA "2", outputOfB "1"]) := rfl
  have hb := gives_notePage_layered "b" rfl (outputPath?_layered (some ⟨"1", []⟩)).2 rfl
    (Marker.isPlain_of_not_mem (by decide)) (fun _ ↦ rfl) hwrite
  rw [rebuild_files rfl (renderer_layered (by cbv))]
  refine gives_bind.mpr ⟨_, _, gives_bind.mpr ⟨_, _, ?_, gives_pure.mpr ⟨rfl, rfl⟩⟩,
    gives_pure.mpr ⟨rfl, rfl⟩⟩
  exact gives_bind.mpr ⟨_, _, gives_files.mpr ⟨rfl, rfl⟩, hb _ _⟩

/-- After the rebuild one page has the new layout and the other one has the old layout. -/
theorem run_layered :
    let (now, memory) := Situation.run ⟨layered "1" "b" [], layeredBuilder none⟩ layeredEvents
    now.builder.cache = some ⟨"1", []⟩ ∧ memory.emptied = some ⟨"2", []⟩ ∧
      now.tree.file? ["public", "a.html"] = some (.text "2") ∧
      now.tree.file? ["public", "b.html"] = some (.text "1") := by
  have hfirst : Situation.step ⟨layered "1" "b" [], layeredBuilder none⟩ .build =
      ⟨layered "1" "b" [outputOfA "1", outputOfB "1"], layeredBuilder (some ⟨"1", []⟩)⟩ :=
    Situation.step_build_of_gives gives_build_first
  have hsecond : Situation.step
      ⟨broken [outputOfA "1", outputOfB "1"], layeredBuilder (some ⟨"1", []⟩)⟩ .build =
        ⟨broken [outputOfA "2"], layeredBuilder (some ⟨"1", []⟩)⟩ := by
    obtain ⟨e, hbroken⟩ := fails_build_broken
    rw [← build_withCache (layeredBuilder none) (some ⟨"1", []⟩)] at hbroken
    exact Situation.after_of_fails hbroken
  have hlast : Situation.step ⟨layered "2" "b" [outputOfA "2"], layeredBuilder (some ⟨"1", []⟩)⟩
      (.rebuild (.files [.page ⟨"origin/b.html"⟩])) =
        ⟨layered "2" "b" [outputOfA "2", outputOfB "1"], layeredBuilder (some ⟨"1", []⟩)⟩ :=
    Situation.step_rebuild_of_gives gives_rebuild_layered
  have hemptied (memory : Memory) : (memory.step ⟨broken [outputOfA "1", outputOfB "1"],
      layeredBuilder (some ⟨"1", []⟩)⟩ .build).emptied = some ⟨"2", []⟩ := by
    rw [Memory.step, Memory.fullBuild, emptiesFor?_broken]
  have hedit (situation : Situation) (tree : FileTree) :
      situation.step (.edit tree) = ⟨tree, situation.builder⟩ := rfl
  simp only [Situation.run, layeredEvents, List.foldl_cons, List.foldl_nil, hfirst, hedit]
  rw [← broken, hsecond]
  dsimp only
  rw [hlast]
  exact ⟨rfl, hemptied _, rfl, rfl⟩

end StaticSite
