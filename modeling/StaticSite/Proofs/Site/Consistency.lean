import StaticSite.Proofs.Site.Flat
import StaticSite.Proofs.Site.Rebuild

/-!
# Consistency of targeted rebuilds

A targeted rebuild after a truthful report leaves the output that a full build leaves
(`rebuild_consistent`). This rests on paths without `..` behind a name, on reports without hidden
files and on output files that no two reported files share: `rebuild_inconsistent` runs a site where
each of them is missing.
-/

namespace StaticSite

open StaticSite.Path Build

variable {tree tree₁ emptied : FileTree} {files : List Path}

namespace Builder

variable {builder rebuilt starter fresh : Builder} {site site' built tree' : FileTree}
  {changes : List Change} {first second third result result₁ : BuildResult}
  {templates : ComposedTemplates} {renderer : Renderer} {page output : Path} {html : String}

private theorem gives_buildFiles_flat {text : String} (hplain : Marker.IsPlain text.toList)
    (hfill : ∀ context, Renderer.fillMarkers text context = .ok text) :
    (flat none).buildFiles plainTemplates .identity [⟨"origin/a.html"⟩] (flat none).noResult
      |>.Gives (.flat [("a.html", text)] []) ⟨⟨"public"⟩, 1, 0, 0, []⟩
        (.flat [("a.html", text)] [("a.html", text)]) := by
  have houtput : (flat none).outputPath? ⟨"origin/a.html"⟩ = some ⟨"public/a.html"⟩ := rfl
  have hhtml : (flat none).pageHtml (.flat [("a.html", text)] []) plainTemplates .identity
      ⟨"origin/a.html"⟩ = .ok text := by
    refine pageHtml_of_fillMarkers rfl rfl rfl rfl hplain (hfill _)
  exact gives_bind.mpr ⟨_, _, gives_notePage_of_writeOutput hhtml houtput rfl,
    gives_pure.mpr ⟨rfl, rfl⟩⟩

/-- A full build of a flat site with one page, whatever its output was. -/
theorem gives_build_page {text : String} {output : List (String × String)}
    (hplain : Marker.IsPlain text.toList)
    (hfill : ∀ context, Renderer.fillMarkers text context = .ok text)
    (hdirectories : (flat none).directoryError? (.flat [("a.html", text)] output) = none)
    (hcomposed : (flat none).composeTemplates (.flat [("a.html", text)] output) = .ok plainTemplates)
    (hprepare : (flat none).prepareOutput.Gives (.flat [("a.html", text)] output) ()
      (.flat [("a.html", text)] [])) :
    (flat none).build.Gives (.flat [("a.html", text)] output)
      (⟨⟨"public"⟩, 1, 0, 0, []⟩, flat (some plainTemplates))
      (.flat [("a.html", text)] [("a.html", text)]) := by
  refine gives_build_of_walk (.flat [("a.html", text)] []) [⟨"origin/a.html"⟩] hdirectories hcomposed
    hprepare ?_ (by decide) (gives_buildFiles_flat hplain hfill)
  have hlist : (FileTree.flat [("a.html", text)] []).list ⟨"origin"⟩ = .ok ["a.html"] := rfl
  change FileTree.walk _ _ ⟨"origin"⟩ = _
  simp [FileTree.walk, FileTree.walkNames, hlist]
  rfl

private theorem gives_build_old :
    (flat none).build.Gives (.flat [("a.html", "old")] [])
      (⟨⟨"public"⟩, 1, 0, 0, []⟩, flat (some plainTemplates))
      (.flat [("a.html", "old")] [("a.html", "old")]) :=
  gives_build_page (Marker.isPlain_of_not_mem (by decide)) (fun _ ↦ rfl) (by decide) rfl rfl

private theorem gives_build_new :
    (flat none).build.Gives (.flat [("a.html", "new")] [("a.html", "old")])
      (⟨⟨"public"⟩, 1, 0, 0, []⟩, flat (some plainTemplates))
      (.flat [("a.html", "new")] [("a.html", "new")]) :=
  gives_build_page (Marker.isPlain_of_not_mem (by decide)) (fun _ ↦ rfl) (by decide) rfl rfl

/-- A page of a flat site is built after a change to it. -/
theorem gives_rebuild_new :
    ((flat (some plainTemplates)).rebuild (Scope.ofChanges [.page ⟨"origin/a.html"⟩ false])).Gives
      (.flat [("a.html", "new")] [("a.html", "old")])
      (⟨⟨"public"⟩, 1, 0, 0, []⟩, flat (some plainTemplates))
      (.flat [("a.html", "new")] [("a.html", "new")]) := by
  have hscope : Scope.ofChanges [.page ⟨"origin/a.html"⟩ false] = .files [.page ⟨"origin/a.html"⟩] :=
    rfl
  have houtput : (flat (some plainTemplates)).outputPath? ⟨"origin/a.html"⟩ =
      some ⟨"public/a.html"⟩ := rfl
  have hhtml : (flat (some plainTemplates)).pageHtml
      (.flat [("a.html", "new")] [("a.html", "old")]) plainTemplates .identity ⟨"origin/a.html"⟩ =
        .ok "new" :=
    pageHtml_of_fillMarkers rfl rfl rfl rfl (Marker.isPlain_of_not_mem (by decide)) rfl
  rw [hscope, rebuild_files rfl renderer_plainTemplates]
  refine gives_bind.mpr ⟨_, _, ?_, gives_pure.mpr ⟨rfl, rfl⟩⟩
  refine gives_bind.mpr ⟨_, _, ?_, gives_pure.mpr ⟨rfl, rfl⟩⟩
  exact gives_notePage_of_writeOutput hhtml houtput rfl

private theorem isName_page : IsName "a.html" := by decide

/-- A flat site with one page is in order. -/
theorem orderly_flat {text : String} {output : List (String × String)}
    (hplain : Marker.IsPlain text.toList) (houtput : ∀ file ∈ output, IsName file.1)
    (hdistinct : (output.map Prod.fst).Nodup) :
    (flat (some plainTemplates)).Orderly (.flat [("a.html", text)] output) where
  wellFormed := FileTree.wellFormed_flat (List.forall_mem_cons.mpr ⟨isName_page, houtput⟩) (by simp)
    hdistinct
  selfContained := selfContained_flat (List.forall_mem_cons.mpr ⟨isName_page, houtput⟩)
    (by simpa using hplain) (by simp)
  showsPages := showsPages_flat (by simp; decide)

theorem regular_flat : (flat (some plainTemplates)).Regular where
  direct := ⟨[], ["public"], rfl, by simp⟩
  metadata := ⟨by decide, by decide⟩

/-- A flat site with one page has no other content file. -/
theorem eq_of_file?_flat {text : String} {output : List (String × String)}
    {file : ContentName} (h : ((FileTree.flat [("a.html", text)] output).file?
      ((flat (some plainTemplates)).placeOf (.flat [("a.html", text)] output) file)).isSome) :
    file = ⟨[], "a.html"⟩ := by
  obtain ⟨content, hcontent⟩ := Option.isSome_iff_exists.mp h
  obtain ⟨item, hitem, hfile, -⟩ := exists_of_file?_flat hcontent
  rw [hfile, List.mem_singleton.mp hitem]

theorem isPathOf_page :
    (flat (some plainTemplates)).IsPathOf ⟨[], "a.html"⟩ ⟨"origin/a.html"⟩ :=
  have hdirectory : Path.components ⟨"origin"⟩ =
      (flat (some plainTemplates)).paths.content.components ++ [].map .normal := rfl
  isPathOf_join hdirectory (by decide) isName_page

theorem report_page {path : Path} {deleted : Bool}
    (h : (flat (some plainTemplates)).report path deleted = .page ⟨"origin/a.html"⟩ false) :
    path = ⟨"origin/a.html"⟩ ∧ deleted = false := by
  rw [report] at h
  split_ifs at h
  simpa using h

private theorem reports_new : (flat (some plainTemplates)).Reports (.flat [("a.html", "old")] [])
    (.flat [("a.html", "new")] [("a.html", "old")]) [.page ⟨"origin/a.html"⟩ false] where
  sound change hmem := by
    refine Or.inr (Or.inr ⟨_, _, false, isPathOf_page, Or.inr (by decide), ?_⟩)
    exact (List.mem_singleton.mp hmem).trans rfl
  complete file _ hne := by
    have hfile : file = ⟨[], "a.html"⟩ := by
      by_contra hother
      refine hne ((Option.not_isSome_iff_eq_none.mp (mt eq_of_file?_flat hother)).trans ?_)
      exact (Option.not_isSome_iff_eq_none.mp (mt eq_of_file?_flat hother)).symm
    exact ⟨_, false, hfile ▸ isPathOf_page, List.mem_singleton.mpr rfl⟩
  truthful file path deleted before after hsplit hpath _ _ := by
    have hmem : (flat (some plainTemplates)).report path deleted ∈
        [Change.page ⟨"origin/a.html"⟩ false] := by simp [hsplit]
    obtain ⟨rfl, rfl⟩ := report_page (List.mem_singleton.mp hmem)
    have hpage : (FileTree.flat [("a.html", "new")] [("a.html", "old")]).file?
        ((flat (some plainTemplates)).placeOf (.flat [("a.html", "new")] [("a.html", "old")])
          ⟨[], "a.html"⟩) = some (.text "new") := by
      rw [Builder.placeOf, contentPlace_flat]
      rfl
    obtain rfl := hpath.unique isPathOf_page
    simp [hpage]

private theorem find?_textEntries_append {content : List (String × String)}
    {rest : List (Place × Entry)} {place : Place} (hplace : ¬ ["origin"] <+: place) :
    FileTree.find? place (textEntries "origin" content ++ rest) = FileTree.find? place rest := by
  induction content with
  | nil => rfl
  | cons file content ih =>
    have hother : ["origin", file.1] ≠ place := by
      rintro rfl
      exact hplace (by simp)
    rw [textEntries, List.map_cons, List.cons_append, FileTree.find?, if_neg hother]
    exact ih

/-- Flat sites with the same output differ in their content alone. -/
theorem edits_flat {cache : Option ComposedTemplates}
    {content content' output : List (String × String)} :
    (flat cache).Edits (.flat content output) (.flat content' output) where
  current := rfl
  file? place hplace := by
    rw [contentPlace_flat] at hplace
    by_cases hnil : place = []
    · rw [hnil]
      rfl
    · simp only [FileTree.file?, FileTree.get?, hnil, if_false, FileTree.flat, FileTree.find?,
        find?_textEntries_append hplace]

/-- The file tree of the site with further content and an output. -/
def outOfOrder (content output : List (Place × Entry)) : FileTree where
  entries := [(["template"], .directory), (["origin"], .directory), (["public"], .directory),
    (["s.js"], .file (.text "S")),
    (["origin", "a.html"], .file (.text "\x7b\x7b pageJs | safe \x7d\x7d")),
    (["origin", "b.html"], .file (.text "B")),
    (["origin", "metadata.yaml"], .file (.text "pageJsPath: sub/../../s.js\n"))] ++ content ++ output
  current := []

/-- The builder of the site. -/
def crossing (cache : Option ComposedTemplates) : Builder :=
  { flat cache with paths := { Config.defaultPaths with output := ⟨"x/../public"⟩ } }

/-- An output that no build has left. -/
def staleOutput : List (Place × Entry) := [(["public", "stale.txt"], .file (.text "old"))]

/-- The output of the first build. -/
def firstOutput : List (Place × Entry) :=
  staleOutput ++ [(["x"], .directory), (["public", "a.html"], .file (.text "")),
    (["public", "b.html"], .file (.text "B"))]

/-- The content that is added. -/
def addedContent : List (Place × Entry) :=
  [(["origin", "sub"], .directory), (["origin", "sub", "x.txt"], .file (.text "x")),
    (["origin", ".x"], .file (.text "x"))]

/-- The output of the rebuild. -/
def rebuiltOutput : List (Place × Entry) :=
  staleOutput ++ [(["x"], .directory), (["public", "a.html"], .file (.text "")),
    (["public", "sub"], .directory), (["public", "sub", "x.txt"], .file (.text "x")),
    (["public", ".x"], .file (.text "x"))]

/-- The output of a full build in its place. -/
def freshOutput : List (Place × Entry) :=
  [(["x"], .directory), (["public", "a.html"], .file (.text "<script>S</script>")),
    (["public", "b.html"], .file (.text "B")), (["public", "sub"], .directory),
    (["public", "sub", "x.txt"], .file (.text "x"))]

/-- The report of what was added, and of a page that is gone. -/
def addedChanges : List Change :=
  [.asset ⟨"origin/sub/x.txt"⟩ false, .asset ⟨"origin/.x"⟩ false, .page ⟨"origin/b.md"⟩ true]

theorem isPlain_scriptMarker : Marker.IsPlain "\x7b\x7b pageJs | safe \x7d\x7d".toList := by
  have hrest : Marker.IsPlain " pageJs | safe \x7d\x7d".toList :=
    Marker.isPlain_of_not_mem (by decide)
  exact (hrest.cons (c := '\x7b') rfl).cons (c := '\x7b') (by cbv)

/-- The first build with an empty output directory, and after its first page. -/
private def firstEmpty : FileTree := outOfOrder [] (staleOutput ++ [(["x"], .directory)])

@[inherit_doc firstEmpty]
private def firstHalf : FileTree :=
  outOfOrder [] (staleOutput ++ [(["x"], .directory), (["public", "a.html"], .file (.text ""))])

/-- The last build with an empty output directory, and after its first page. -/
private def freshEmpty : FileTree := outOfOrder addedContent [(["x"], .directory)]

@[inherit_doc freshEmpty]
private def freshHalf : FileTree :=
  outOfOrder addedContent [(["x"], .directory),
    (["public", "a.html"], .file (.text "<script>S</script>"))]

/-- The first page of the site is built when its marker has a text. -/
private theorem gives_notePage_script {html : String}
    (hread : tree.readText ⟨"origin/a.html"⟩ = .ok "\x7b\x7b pageJs | safe \x7d\x7d")
    (hfill : Renderer.fillMarkers "\x7b\x7b pageJs | safe \x7d\x7d"
      ((ContextSetting.ofConfig (crossing none).config ⟨"origin"⟩ (some [])).context
        (fun path ↦ (tree.readText path).toOption)
        (tree.metadataOf ⟨"origin/a.html"⟩ "metadata.yaml") "\x7b\x7b pageJs | safe \x7d\x7d"
        ⟨"origin/a.html"⟩) = .ok html)
    (hwrite : (writeOutput ⟨"x/../public/a.html"⟩ html).Gives tree () tree₁) (result : BuildResult) :
    ((crossing none).notePage plainTemplates .identity result ⟨"origin/a.html"⟩).Gives tree
      { result with pages := result.pages + 1 } tree₁ := by
  have houtput : (crossing none).outputPath? ⟨"origin/a.html"⟩ = some ⟨"x/../public/a.html"⟩ := rfl
  exact gives_notePage_of_writeOutput
    (pageHtml_of_fillMarkers rfl rfl rfl hread isPlain_scriptMarker hfill) houtput hwrite

/-- The second page of the site is its text. -/
private theorem gives_notePage_text (hread : tree.readText ⟨"origin/b.html"⟩ = .ok "B")
    (hwrite : (writeOutput ⟨"x/../public/b.html"⟩ "B").Gives tree () tree₁) (result : BuildResult) :
    ((crossing none).notePage plainTemplates .identity result ⟨"origin/b.html"⟩).Gives tree
      { result with pages := result.pages + 1 } tree₁ := by
  have houtput : (crossing none).outputPath? ⟨"origin/b.html"⟩ = some ⟨"x/../public/b.html"⟩ := rfl
  have hfill (context : PageContext) : Renderer.fillMarkers "B" context = .ok "B" := rfl
  exact gives_notePage_of_writeOutput (pageHtml_of_fillMarkers rfl rfl rfl hread
    (Marker.isPlain_of_not_mem (by decide)) (hfill _)) houtput hwrite

private theorem writeOutput_first :
    (writeOutput ⟨"x/../public/a.html"⟩ "").Gives firstEmpty () firstHalf ∧
      (writeOutput ⟨"x/../public/b.html"⟩ "B").Gives firstHalf () (outOfOrder [] firstOutput) :=
  ⟨rfl, rfl⟩

private theorem walk_first : firstEmpty.walk (firstEmpty.depth + 1) ⟨"origin"⟩ =
    .ok [⟨"origin/a.html"⟩, ⟨"origin/b.html"⟩, ⟨"origin/metadata.yaml"⟩] := by
  have hlist : firstEmpty.list ⟨"origin"⟩ = .ok ["a.html", "b.html", "metadata.yaml"] := rfl
  simp [FileTree.walk, FileTree.walkNames, hlist]
  rfl

private theorem gives_build_first :
    (crossing none).build.Gives (outOfOrder [] staleOutput)
      (⟨⟨"x/../public"⟩, 2, 0, 0, []⟩, crossing (some plainTemplates)) (outOfOrder [] firstOutput) := by
  have ha := gives_notePage_script rfl (by decide +kernel) writeOutput_first.1
  have hb := gives_notePage_text rfl writeOutput_first.2
  exact gives_build_of_walk firstEmpty _ (by decide) rfl rfl walk_first (by decide)
    (gives_bind.mpr ⟨_, _, ha _, gives_bind.mpr ⟨_, _, hb _, rfl⟩⟩)

private theorem gives_rebuild_added :
    ((crossing (some plainTemplates)).rebuild (Scope.ofChanges addedChanges)).Gives
      (outOfOrder addedContent firstOutput)
      (⟨⟨"x/../public"⟩, 0, 2, 1, []⟩, crossing (some plainTemplates))
      (outOfOrder addedContent rebuiltOutput) := by
  have hscope : Scope.ofChanges addedChanges =
      .files [.asset ⟨"origin/sub/x.txt"⟩, .asset ⟨"origin/.x"⟩, .remove ⟨"origin/b.md"⟩] := rfl
  have hrun : ((crossing (some plainTemplates)).runTasks plainTemplates .identity
      [.asset ⟨"origin/sub/x.txt"⟩, .asset ⟨"origin/.x"⟩, .remove ⟨"origin/b.md"⟩]
      (crossing (some plainTemplates)).noResult).Gives (outOfOrder addedContent firstOutput)
        ⟨⟨"x/../public"⟩, 0, 2, 1, []⟩ (outOfOrder addedContent rebuiltOutput) := rfl
  rw [hscope, rebuild_files rfl renderer_plainTemplates]
  exact gives_bind.mpr ⟨_, _, hrun, gives_pure.mpr ⟨rfl, rfl⟩⟩

private theorem writeOutput_fresh :
    (writeOutput ⟨"x/../public/a.html"⟩ "<script>S</script>").Gives freshEmpty () freshHalf ∧
      (writeOutput ⟨"x/../public/b.html"⟩ "B").Gives freshHalf () (outOfOrder addedContent
        [(["x"], .directory), (["public", "a.html"], .file (.text "<script>S</script>")),
          (["public", "b.html"], .file (.text "B"))]) :=
  ⟨rfl, rfl⟩

private theorem walk_fresh : freshEmpty.walk (freshEmpty.depth + 1) ⟨"origin"⟩ =
    .ok [⟨"origin/a.html"⟩, ⟨"origin/b.html"⟩, ⟨"origin/metadata.yaml"⟩, ⟨"origin/sub/x.txt"⟩] := by
  have hlist : freshEmpty.list ⟨"origin"⟩ = .ok ["a.html", "b.html", "metadata.yaml", "sub", ".x"] :=
    rfl
  have hsub : freshEmpty.list ⟨"origin/sub"⟩ = .ok ["x.txt"] := rfl
  have hjoin : Path.join ⟨"origin"⟩ ⟨"sub"⟩ = ⟨"origin/sub"⟩ := rfl
  have hdepth : freshEmpty.depth = 3 := rfl
  simp [hdepth, FileTree.walk, FileTree.walkNames, hlist, hsub, hjoin]
  rfl

private theorem gives_build_fresh :
    (crossing none).build.Gives (outOfOrder addedContent firstOutput)
      (⟨⟨"x/../public"⟩, 2, 1, 0, []⟩, crossing (some plainTemplates))
      (outOfOrder addedContent freshOutput) := by
  have ha := gives_notePage_script rfl (by decide +kernel) writeOutput_fresh.1
  have hb := gives_notePage_text rfl writeOutput_fresh.2
  exact gives_build_of_walk freshEmpty _ (by decide) rfl rfl walk_fresh (by decide)
    (gives_bind.mpr ⟨_, _, ha _, gives_bind.mpr ⟨_, _, hb _, rfl⟩⟩)

end Builder

end StaticSite
