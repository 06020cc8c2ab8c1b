import StaticSite.Proofs.Compose.Idempotence
import StaticSite.Proofs.Layout.Identity
import StaticSite.Proofs.Site.Reports
import StaticSite.Site.Formats

/-!
# Flat sites

A flat site has all its content and its output directly in their directories, as texts, and no
layout. It is in order and self-contained when its texts hold no markers and none of its files is
hidden or metadata, so whatever is assumed of sites holds of some.
-/

namespace StaticSite

open StaticSite.Path Build

variable {content output : List (String × String)} {place : Place} {found : Content}
  {cache : Option ComposedTemplates}

/-- The texts of a directory under their names. -/
def textEntries (directory : String) (files : List (String × String)) : List (Place × Entry) :=
  files.map fun (name, text) ↦ ([directory, name], .file (.text text))

/-- The file tree of a flat site. -/
def FileTree.flat (content output : List (String × String)) : FileTree where
  entries := (["template"], .directory) :: (["origin"], .directory) :: (["public"], .directory) ::
    (textEntries "origin" content ++ textEntries "public" output)
  current := []

/-- The builder of a flat site. -/
def Builder.flat (cache : Option ComposedTemplates) : Builder where
  config := { Config.default with tidy := false }
  paths := Config.defaultPaths
  registry := .standard
  cache := cache
  liveReload := false

namespace FileTree

theorem mem_textEntries {directory : String} {files : List (String × String)} {entry : Entry} :
    (place, entry) ∈ textEntries directory files ↔
      ∃ file ∈ files, place = [directory, file.1] ∧ entry = .file (.text file.2) := by
  simp [textEntries, eq_comm]

private theorem nodup_textEntries (directory : String) {files : List (String × String)}
    (h : (files.map Prod.fst).Nodup) : ((textEntries directory files).map Prod.fst).Nodup := by
  have hmap : (textEntries directory files).map Prod.fst =
      (files.map Prod.fst).map fun name ↦ [directory, name] := by simp [textEntries]
  rw [hmap]
  exact h.map fun a b hab ↦ by simpa using hab

private theorem nodup_flat (hcontent : (content.map Prod.fst).Nodup)
    (houtput : (output.map Prod.fst).Nodup) :
    ((flat content output).entries.map Prod.fst).Nodup := by
  have hdisjoint : ((textEntries "origin" content).map Prod.fst).Disjoint
      ((textEntries "public" output).map Prod.fst) := by
    simp only [List.disjoint_left, List.mem_map, mem_textEntries, Prod.exists]
    rintro place ⟨_, _, ⟨_, _, -, rfl, -⟩, rfl⟩ ⟨_, _, ⟨_, _, -, rfl, -⟩, hsame⟩
    exact absurd (List.cons.inj hsame).1 (by decide)
  have happend := (nodup_textEntries "origin" hcontent).append
    (nodup_textEntries "public" houtput) hdisjoint
  simp only [flat, List.map_cons, List.map_append, List.nodup_cons]
  refine ⟨?_, ?_, ?_, happend⟩ <;> simp [textEntries]

theorem wellFormed_flat (h : ∀ file ∈ content ++ output, IsName file.1)
    (hcontent : (content.map Prod.fst).Nodup) (houtput : (output.map Prod.fst).Nodup) :
    (flat content output).WellFormed where
  toClosed := by
    refine .of_entries (nodup_flat hcontent houtput) (fun item hitem ↦ ?_) (by simp [flat])
    obtain ⟨place, entry⟩ := item
    simp only [flat, List.mem_cons, List.mem_append, mem_textEntries, Prod.mk.injEq] at hitem
    rcases hitem with ⟨rfl, rfl⟩ | ⟨rfl, rfl⟩ | ⟨rfl, rfl⟩ | ⟨file, hfile, rfl, rfl⟩ |
      ⟨file, hfile, rfl, rfl⟩
    · exact ⟨by decide, rfl⟩
    · exact ⟨by decide, rfl⟩
    · exact ⟨by decide, rfl⟩
    · have hname := h file (List.mem_append_left _ hfile)
      exact ⟨by simpa using ⟨by decide, hname⟩, rfl⟩
    · have hname := h file (List.mem_append_right _ hfile)
      exact ⟨by simpa using ⟨by decide, hname⟩, rfl⟩
  current := rfl

/-- The files of a flat site are its texts. -/
theorem exists_of_file?_flat (h : (flat content output).file? place = some found) :
    (∃ file ∈ content, place = ["origin", file.1] ∧ found = .text file.2) ∨
      ∃ file ∈ output, place = ["public", file.1] ∧ found = .text file.2 := by
  have hplace : place ≠ [] := by
    rintro rfl
    simp at h
  have hmem := mem_entries_of_get? hplace (file?_eq_some_iff.mp h)
  simp only [flat, List.mem_cons, List.mem_append, mem_textEntries, Prod.mk.injEq] at hmem
  simpa using hmem

end FileTree

namespace Builder

theorem contentPlace_flat : (flat cache).contentPlace (.flat content output) = ["origin"] := by
  have hcomponents : Path.components ⟨"origin"⟩ = [.normal "origin"] := rfl
  change FileTree.placeFrom [] (Path.components ⟨"origin"⟩) = _
  rw [hcomponents]
  rfl

theorem outputPlace_flat : (flat cache).outputPlace (.flat content output) = ["public"] := by
  have hcomponents : Path.components ⟨"public"⟩ = [.normal "public"] := rfl
  change FileTree.placeFrom [] (Path.components ⟨"public"⟩) = _
  rw [hcomponents]
  rfl

theorem placeOf_layout :
    (FileTree.flat content output).placeOf ⟨"template/layout.html"⟩ = ["template", "layout.html"] := by
  have hcomponents : Path.components ⟨"template/layout.html"⟩ =
      [.normal "template", .normal "layout.html"] := rfl
  rw [FileTree.placeOf, hcomponents]
  rfl

theorem templateLocations_flat :
    (flat cache).templateLocations = [.file ⟨"template/layout.html"⟩] := by
  have hlayout : Location.resolve ⟨"template"⟩ (.file ⟨"template"⟩) "layout.html" =
      .file ⟨"template/layout.html"⟩ := rfl
  change [Location.resolve ⟨"template"⟩ (.file ⟨"template"⟩) "layout.html"] = _
  rw [hlayout]

/-- The content files of a flat site are its texts. -/
theorem exists_of_file?_flat {file : ContentName}
    (h : (FileTree.flat content output).file? ((flat cache).placeOf (.flat content output) file) =
      some found) :
    ∃ item ∈ content, file = ⟨[], item.1⟩ ∧ found = .text item.2 := by
  rw [placeOf, contentPlace_flat] at h
  rcases FileTree.exists_of_file?_flat h with ⟨item, hitem, hplace, rfl⟩ | ⟨item, -, hplace, -⟩
  · exact ⟨item, hitem, ContentName.names_injective (List.cons.inj hplace).2, rfl⟩
  · exact absurd (List.cons.inj hplace).1 (by decide)

theorem selfContained_flat (hnames : ∀ file ∈ content ++ output, IsName file.1)
    (hplain : ∀ file ∈ content, Marker.IsPlain file.2.toList)
    (hmetadata : ∀ file ∈ content, file.1 ≠ "metadata.yaml") :
    (flat cache).SelfContained (.flat content output) where
  templates path hpath := by
    rw [templateLocations_flat, List.mem_singleton] at hpath
    obtain rfl := Location.file.inj hpath
    rw [Outside, contentPlace_flat, outputPlace_flat, placeOf_layout]
    decide
  includes location hlocation text path htext := by
    rw [templateLocations_flat, List.mem_singleton] at hlocation
    subst hlocation
    obtain ⟨path, hpath, hread⟩ := FileTree.source_eq_ok_iff.mp htext
    obtain rfl := Location.file.inj hpath
    -- There is no layout.
    have hfile := FileTree.file?_of_read hread
    rw [placeOf_layout] at hfile
    rcases FileTree.exists_of_file?_flat hfile with ⟨file, -, hplace, -⟩ | ⟨file, -, hplace, -⟩
    · exact absurd (List.cons.inj hplace).1 (by decide)
    · exact absurd (List.cons.inj hplace).1 (by decide)
  pages file text path _ hfile hreads := by
    obtain ⟨item, hitem, -, htext⟩ := exists_of_file?_flat hfile
    obtain rfl := Content.text.inj htext
    have hcompose : Compose.compose ((flat cache).setting (.flat content output)) item.2
        (.file ((flat cache).pathOf file)) = ⟨.ok item.2, []⟩ :=
      Compose.compose_of_isPlain (hplain item hitem) _
    have hfetched := Compose.mem_fetched_of_reads (by rw [hcompose]) hreads
    rw [hcompose] at hfetched
    simp at hfetched
  scripts file script _ hsome hscript := by
    obtain ⟨found, hfound⟩ := Option.isSome_iff_exists.mp hsome
    obtain ⟨item, hitem, rfl, -⟩ := exists_of_file?_flat hfound
    have hname : IsName item.1 := hnames item (List.mem_append_left _ hitem)
    have htext : "origin" ≠ "" := by decide
    have hfile : IsName "metadata.yaml" := by decide
    have hpath : (flat cache).IsPathOf ⟨[], item.1⟩ ((flat cache).pathOf ⟨[], item.1⟩) :=
      isPathOf_pathOf htext (by simpa [ContentName.names] using hname)
    have hsidecar := hpath.metadataFile htext hfile
    -- There is no metadata file.
    have hempty : (FileTree.flat content output).metadataOf ((flat cache).pathOf ⟨[], item.1⟩)
        (flat cache).config.metadataFile = .empty := by
      refine metadataOf_eq_empty fun text htext ↦ ?_
      have hread := FileTree.file?_of_read (FileTree.readText_eq_ok_iff.mp htext)
      rw [hsidecar.placeOf_eq] at hread
      obtain ⟨other, hother, hsame, -⟩ := exists_of_file?_flat hread
      exact absurd (congrArg ContentName.name hsame).symm (hmetadata other hother)
    rw [hempty] at hscript
    have hnone : Metadata.empty.scriptPath? = none := rfl
    simp [hnone] at hscript

theorem showsPages_flat (h : ∀ file ∈ content, ¬ isHiddenName file.1) :
    (flat cache).ShowsPages (.flat content output) := by
  intro file _ hsome
  obtain ⟨found, hfound⟩ := Option.isSome_iff_exists.mp hsome
  obtain ⟨item, hitem, rfl, -⟩ := exists_of_file?_flat hfound
  rintro ⟨name, hname, hhidden⟩
  obtain rfl : name = item.1 := List.mem_singleton.mp hname
  exact h item hitem hhidden

/-- The HTML of a page without references is the layout with what its format makes of its text. -/
theorem pageHtml_of_convert {builder : Builder} {tree : FileTree} {templates : ComposedTemplates}
    {renderer : Renderer} {page : Path} {format : Format} {text body html : String}
    (htidy : builder.config.tidy = false) (hlive : builder.liveReload = false)
    (hformat : builder.registry.forPath? page = some format)
    (hread : tree.readText page = .ok text) (hplain : Marker.IsPlain text.toList)
    (hbody : format.convert text = body)
    (hrender : renderer.renderPage
      ((ContextSetting.ofConfig builder.config builder.paths.content (some templates.children)).context
        (fun path ↦ (tree.readText path).toOption)
        (tree.metadataOf page builder.config.metadataFile) body page) = .ok html) :
    builder.pageHtml tree templates renderer page = .ok html := by
  have hcompose : Compose.compose (builder.setting tree) text (.file page) = ⟨.ok text, []⟩ :=
    Compose.compose_of_isPlain hplain _
  unfold pageHtml
  simp only [hread, hcompose, hformat, htidy, hlive, Bool.false_eq_true, if_false, hbody, hrender]

/-- The HTML of a page without references is the layout with its text. -/
theorem pageHtml_of_isPlain {builder : Builder} {tree : FileTree} {templates : ComposedTemplates}
    {renderer : Renderer} {page : Path} {text html : String} (htidy : builder.config.tidy = false)
    (hlive : builder.liveReload = false) (hformat : builder.registry.forPath? page = some .html)
    (hread : tree.readText page = .ok text) (hplain : Marker.IsPlain text.toList)
    (hrender : renderer.renderPage
      ((ContextSetting.ofConfig builder.config builder.paths.content (some templates.children)).context
        (fun path ↦ (tree.readText path).toOption)
        (tree.metadataOf page builder.config.metadataFile) text page) = .ok html) :
    builder.pageHtml tree templates renderer page = .ok html :=
  pageHtml_of_convert htidy hlive hformat hread hplain rfl hrender

/-- Without a layout the HTML of a page without references is its text with the markers filled. -/
theorem pageHtml_of_fillMarkers {builder : Builder} {tree : FileTree} {templates : ComposedTemplates}
    {page : Path} {text html : String} (htidy : builder.config.tidy = false)
    (hlive : builder.liveReload = false) (hformat : builder.registry.forPath? page = some .html)
    (hread : tree.readText page = .ok text) (hplain : Marker.IsPlain text.toList)
    (hfill : Renderer.fillMarkers text
      ((ContextSetting.ofConfig builder.config builder.paths.content (some templates.children)).context
        (fun path ↦ (tree.readText path).toOption)
        (tree.metadataOf page builder.config.metadataFile) text page) = .ok html) :
    builder.pageHtml tree templates .identity page = .ok html := by
  refine pageHtml_of_isPlain htidy hlive hformat hread hplain (Renderer.renderPage_identity ?_)
  rw [ContextSetting.body_context]
  exact hfill

/-! ## Runs on given sites -/

/-- A walk that finds files in the order of their paths finds the content. -/
theorem contentFiles_of_walk {tree : FileTree} {directory : Path} {files : List Path}
    (hwalk : tree.walk (tree.depth + 1) directory = .ok files)
    (hsorted : files.Pairwise fun a b ↦ !b.precedes a) : tree.contentFiles directory = .ok files := by
  have hsame : Path.sorted files = files := List.mergeSort_of_pairwise hsorted
  rw [FileTree.contentFiles, hwalk]
  exact congrArg Except.ok hsame

/-- A layout that is there and can be composed. -/
theorem composeLayout_of_compose {builder : Builder} {tree : FileTree} {path : Path}
    {text composed : String} (htidy : builder.config.tidy = false)
    (hlocation : Location.resolve builder.paths.templates (.file builder.paths.templates)
      builder.config.layout = .file path) (hhas : tree.hasEntry path)
    (hsource : tree.source builder.config.retries (.file path) = .ok text)
    (hcomposed : (Compose.compose (builder.setting tree) text (.file path)).result = .ok composed) :
    builder.composeLayout tree = .ok composed := by
  rw [composeLayout]
  simp only [hlocation, hhas, if_true]
  rw [composeTemplate, hsource]
  simp [Compose.composeTidied, hcomposed, htidy, Except.map, Except.mapError]

/-- The templates of a site without a layout. -/
def plainTemplates : ComposedTemplates := ⟨Renderer.identityLayout, []⟩

/-- A layout that can be read is what pages are rendered with. -/
theorem renderer_of_ofText? {builder : Builder} {templates : ComposedTemplates}
    {nodes : List Layout.Node} (h : Layout.ofText? templates.layout = some nodes) :
    builder.renderer templates = .ok ⟨nodes⟩ := by
  rw [Builder.renderer, Renderer.ofLayout_of_ofText? h]
  rfl

theorem renderer_plainTemplates {builder : Builder} :
    builder.renderer plainTemplates = .ok .identity :=
  renderer_of_ofText? Layout.ofText?_identityLayout

/-- Without a layout and without child templates there is nothing to compose. -/
theorem composeTemplates_of_not_hasEntry {builder : Builder} {tree : FileTree} {path : Path}
    (hlocation : Location.resolve builder.paths.templates (.file builder.paths.templates)
      builder.config.layout = .file path) (hhas : tree.hasEntry path = false)
    (hchildren : builder.config.childTemplates = []) :
    builder.composeTemplates tree = .ok plainTemplates := by
  have hlayout : builder.composeLayout tree = .ok Renderer.identityLayout := by
    rw [composeLayout]
    simp [hlocation, hhas]
  rw [composeTemplates, hlayout, hchildren]
  rfl

/-- An output directory that is there is emptied. -/
theorem gives_prepareOutput_of_emptyDirectory {builder : Builder} {tree emptied : FileTree}
    (hhas : tree.hasEntry builder.paths.output)
    (hempty : tree.emptyDirectory builder.paths.output = .ok emptied) :
    builder.prepareOutput.Gives tree () emptied := by
  refine gives_bind.mpr ⟨tree, tree, gives_files.mpr ⟨rfl, rfl⟩, ?_⟩
  rw [if_pos hhas]
  exact gives_change.mpr hempty

/-- A full build of a site without a layout, by its steps. -/
theorem gives_build_of_walk {builder : Builder} {tree tree₁ : FileTree} {result : BuildResult}
    (emptied : FileTree) (files : List Path)
    (hdirectories : builder.directoryError? tree = none)
    (hcomposed : builder.composeTemplates tree = .ok plainTemplates)
    (hprepare : builder.prepareOutput.Gives tree () emptied)
    (hwalk : emptied.walk (emptied.depth + 1) builder.paths.content = .ok files)
    (hsorted : files.Pairwise fun a b ↦ !b.precedes a)
    (hbuild : (builder.buildFiles plainTemplates .identity files builder.noResult).Gives emptied
      result tree₁) :
    builder.build.Gives tree (result, { builder with cache := some plainTemplates }) tree₁ :=
  gives_build.mpr ⟨plainTemplates, .identity, emptied, files, hdirectories, hcomposed,
    renderer_plainTemplates, hprepare, contentFiles_of_walk hwalk hsorted, hbuild, rfl⟩

/-- A page with an HTML that can be written is built. -/
theorem gives_notePage_of_writeOutput {builder : Builder} {tree tree₁ : FileTree}
    {templates : ComposedTemplates} {renderer : Renderer} {page output : Path} {html : String}
    {result : BuildResult}
    (hhtml : builder.pageHtml tree templates renderer page = .ok html)
    (houtput : builder.outputPath? page = some output)
    (hwrite : (writeOutput output html).Gives tree () tree₁) :
    (builder.notePage templates renderer result page).Gives tree
      { result with pages := result.pages + 1 } tree₁ := by
  have hpage : (builder.buildPage templates renderer page).Gives tree () tree₁ := by
    refine gives_bind.mpr ⟨tree, tree, gives_files.mpr ⟨rfl, rfl⟩, ?_⟩
    simp only [hhtml]
    exact gives_bind.mpr ⟨output, tree, gives_outputPath.mpr ⟨houtput, rfl⟩, hwrite⟩
  refine gives_bind.mpr ⟨.ok true, tree₁, gives_attempt.mpr (gives_iff.mp ?_),
    gives_pure.mpr ⟨rfl, rfl⟩⟩
  exact gives_bind.mpr ⟨(), tree₁, hpage, gives_pure.mpr ⟨rfl, rfl⟩⟩

end Builder

end StaticSite
