import StaticSite.Proofs.Preview.Start
import StaticSite.Proofs.Site.Inside

/-!
# What a preview watches

The paths that are watched are canonical, while the builder takes its directories as they are
written. So the builder knows the path of a content file that the watch reports exactly if the path
of its directory of content does not go up anywhere (`outputPath?_of_start`). Then it has an output
for every such path, and no rebuild for what the watch reports ends because a file is said to lie
outside of the content. `outputPath?_bent` previews a site whose content is written with `..`, where
a rebuild does.
-/

namespace StaticSite

open StaticSite.Path Build FileTree

/-- Whether a change is one to a page or to another file that is copied. -/
def Change.IsFile : Change → Prop
  | .page _ _ => True
  | .asset _ _ => True
  | _ => False

/-- An event that means a change to a file is at a path below what is watched for content, without
hidden names behind it. -/
theorem Watched.exists_of_isFile {watched : Watched} {seen : FileTree} {happening : FileEvent}
    {change : Change} (htext : watched.content.text ≠ "")
    (h : watched.classify seen happening = some change) (hfile : change.IsFile) :
    ∃ rest, happening.path.components = watched.content.components ++ rest ∧
      ∀ c ∈ rest, ¬ isHiddenName c.text := by
  rcases Watched.classify_eq_some h with rfl | rfl | ⟨relative, hrelative, hhidden, -⟩
  · exact hfile.elim
  · exact hfile.elim
  · obtain ⟨rest, hrest, rfl, -⟩ := exists_of_relativeTo? htext hrelative
    exact ⟨_, hrest, by simpa [Watched.isHidden] using hhidden⟩

namespace Builder

variable {builder : Builder} {path output : Path} {rest : List Component}

/-- A path below the directory of content has an output. -/
theorem isSome_outputPath? (hcontent : builder.paths.content.text ≠ "")
    (houtput : builder.paths.output.text ≠ "")
    (h : path.components = builder.paths.content.components ++ rest) :
    (builder.outputPath? path).isSome := by
  have hsteps := isStep_of_components h (mt components_eq_nil_iff.mp hcontent)
  obtain ⟨moved, hmoved, -⟩ := exists_rebase? h hsteps houtput
  rw [outputPath?, hmoved]
  rfl

/-- A path with an output lies below the directory of content. -/
theorem exists_of_isSome_outputPath? (hcontent : builder.paths.content.text ≠ "")
    (h : (builder.outputPath? path).isSome) :
    ∃ rest, path.components = builder.paths.content.components ++ rest := by
  obtain ⟨output, houtput⟩ := Option.isSome_iff_exists.mp h
  obtain ⟨moved, hmoved, -⟩ := Option.map_eq_some_iff.mp houtput
  obtain ⟨relative, hrelative, -⟩ := Option.map_eq_some_iff.mp hmoved
  obtain ⟨rest, hrest, -⟩ := exists_of_relativeTo? hcontent hrelative
  exact ⟨rest, hrest⟩

/-- The output of a path without hidden names below the directory of content lies in the output
directory, unless this directory is a page. -/
theorem startsWith_outputPath? (hcontent : builder.paths.content.text ≠ "")
    (houtput : builder.paths.output.text ≠ "")
    (h : path.components = builder.paths.content.components ++ rest)
    (hshown : ∀ c ∈ rest, ¬ isHiddenName c.text) (hpath : builder.outputPath? path = some output) :
    output.startsWith builder.paths.output ∨
      path.components = builder.paths.content.components ∧
        builder.registry.isPage builder.paths.content := by
  by_cases hself : path.components = builder.paths.content.components ∧
    builder.registry.isPage builder.paths.content
  · exact Or.inr hself
  left
  have hbelow : builder.Below path := by
    refine ⟨fun more hmore hparent ↦ ?_, fun hsame hpage ↦ hself ⟨hsame, ?_⟩⟩
    · rw [← List.append_cancel_left (h.symm.trans hmore)] at hparent
      exact hshown _ hparent rfl
    · rwa [← Registry.isPage_congr hsame]
  rw [startsWith, beginsWith_eq_true_iff]
  rcases output_cases hcontent houtput hbelow hpath with hsame | ⟨file, hfile, hown | ⟨hstem, -⟩⟩
  · rw [hsame]
  · rw [hown]
    exact List.prefix_append _ _
  · have hrest : rest = file.names.map .normal := List.append_cancel_left (h.symm.trans hfile)
    have hname : .normal file.name ∈ rest := by simp [hrest, ContentName.names]
    exact absurd (hasStem_of_not_isHiddenName (hshown _ hname)) hstem

/-- What the watch of the directory of content asks for is about files that have an output, if this
directory has not the name of a metadata file. -/
theorem hasOutput_of_mem_tasks {watched : Watched} {seen : FileTree} {happenings : List FileEvent}
    {tasks : List Task} {task : Task} (hcontent : builder.paths.content.text ≠ "")
    (houtput : builder.paths.output.text ≠ "")
    (hsame : watched.content.components = builder.paths.content.components)
    (hname : builder.paths.content.fileName? ≠ some watched.metadataFile)
    (hscope : Scope.ofChanges (happenings.filterMap (watched.classify seen)) = .files tasks)
    (hmem : task ∈ tasks) : builder.HasOutput task := by
  have htext : watched.content.text ≠ "" := by
    rwa [Ne, ← components_eq_nil_iff, hsame, components_eq_nil_iff]
  obtain ⟨happening, -, rest, hrest, -, htask⟩ := Watched.exists_of_mem_tasks htext hscope hmem
  rw [hsame] at hrest
  rcases htask with ⟨rfl, hmetadata⟩ | rfl | rfl | rfl
  · obtain ⟨front, hfront⟩ := exists_of_fileName? hmetadata
    obtain ⟨directory, hparent, rfl⟩ := exists_parent? hfront (by simp)
    rw [hparent, Option.getD_some]
    intro page name hpage
    rcases List.eq_nil_or_concat' rest with rfl | ⟨rest, last, rfl⟩
    · rw [List.append_nil] at hrest
      rw [fileName?, hrest, ← fileName?] at hmetadata
      exact absurd hmetadata hname
    · rw [← List.append_assoc] at hrest
      obtain ⟨hdirectory, -⟩ := List.append_inj' (hfront.symm.trans hrest) rfl
      rw [hdirectory, List.append_assoc] at hpage
      exact isSome_outputPath? hcontent houtput hpage
  · exact isSome_outputPath? hcontent houtput hrest
  · exact isSome_outputPath? hcontent houtput hrest
  · exact isSome_outputPath? hcontent houtput hrest

end Builder

namespace Preview

variable {environment : List (String × String)} {configFile : Path} {watch : Bool}
  {session later : Session} {files : FileTree} {preview : Preview}

theorem IsSetUp.isAbsolute_content (h : preview.IsSetUp) :
    preview.builder.paths.content.isAbsolute := by
  rw [h.paths]
  exact isAbsolute_join h.base

theorem IsSetUp.isAbsolute_output (h : preview.IsSetUp) :
    preview.builder.paths.output.isAbsolute := by
  rw [h.paths]
  exact isAbsolute_join h.base

/-! ## Paths of the content -/

section Watched

variable (hcontent : files.isDirectory preview.builder.paths.content)

include hcontent

theorem content_watched_eq : (preview.watched files).content =
    pathOf (files.placeOf preview.builder.paths.content) :=
  canonicalOr_eq_pathOf (hasEntry_of_isDirectory hcontent)

/-- The path under which content is watched does not go up. -/
theorem parent_notMem_watched (hclosed : files.Closed) :
    .parent ∉ (preview.watched files).content.components := by
  rw [content_watched_eq hcontent,
    components_pathOf fun name hname ↦ hclosed.isName_of_mem_placeOf hname]
  simp

/-- Content is watched under the path that the builder has for it just if that does not go up. -/
theorem components_watched_iff (hclosed : files.Closed) (h : preview.IsSetUp) :
    (preview.watched files).content.components = preview.builder.paths.content.components ↔
      .parent ∉ preview.builder.paths.content.components := by
  constructor
  · intro hsame
    rw [← hsame]
    exact parent_notMem_watched hcontent hclosed
  · intro hparent
    rw [content_watched_eq hcontent]
    exact components_pathOf_placeOf h.isAbsolute_content hparent

/-- Content is watched below the root. -/
theorem text_watched_ne_empty : (preview.watched files).content.text ≠ "" := by
  rw [content_watched_eq hcontent]
  exact text_ne_empty_of_isAbsolute (isAbsolute_pathOf _)

variable {seen : FileTree} {happening : FileEvent} {change : Change} (hclosed : files.Closed)
  (h : preview.IsSetUp) (hclassify : (preview.watched files).classify seen happening = some change)
  (hfile : change.IsFile)

include hclosed h hclassify hfile

/-- The builder has an output for a path that is reported just if its path of the content does not go
up. -/
theorem isSome_outputPath?_iff : (preview.builder.outputPath? happening.path).isSome ↔
    .parent ∉ preview.builder.paths.content.components := by
  obtain ⟨rest, hrest, hshown⟩ :=
    Watched.exists_of_isFile (text_watched_ne_empty hcontent) hclassify hfile
  have hbuilt := text_ne_empty_of_isAbsolute h.isAbsolute_content
  have hdown : .parent ∉ happening.path.components := by
    rw [hrest, List.mem_append, not_or]
    exact ⟨parent_notMem_watched hcontent hclosed, fun hmem ↦ hshown _ hmem rfl⟩
  constructor
  · intro hsome hparent
    obtain ⟨more, hmore⟩ := Builder.exists_of_isSome_outputPath? hbuilt hsome
    exact hdown (hmore ▸ List.mem_append_left _ hparent)
  · intro hparent
    rw [(components_watched_iff hcontent hclosed h).mpr hparent] at hrest
    exact Builder.isSome_outputPath? hbuilt (text_ne_empty_of_isAbsolute h.isAbsolute_output) hrest

/-- Such an output lies in the output directory, unless it is that of the directory of content. -/
theorem startsWith_output_of_classify {output : Path}
    (hpath : preview.builder.outputPath? happening.path = some output) :
    output.startsWith preview.builder.paths.output ∨
      happening.path.components = preview.builder.paths.content.components ∧
        preview.builder.registry.isPage preview.builder.paths.content := by
  have hparent : .parent ∉ preview.builder.paths.content.components :=
    (isSome_outputPath?_iff hcontent hclosed h hclassify hfile).mp
      (Option.isSome_iff_exists.mpr ⟨output, hpath⟩)
  obtain ⟨rest, hrest, hshown⟩ :=
    Watched.exists_of_isFile (text_watched_ne_empty hcontent) hclassify hfile
  rw [(components_watched_iff hcontent hclosed h).mpr hparent] at hrest
  exact Builder.startsWith_outputPath? (text_ne_empty_of_isAbsolute h.isAbsolute_content)
    (text_ne_empty_of_isAbsolute h.isAbsolute_output) hrest hshown hpath

end Watched

/-- The builder has an output for a path of the content that the watch reports just if the path of
its directory of content does not go up. Such an output lies in the output directory, unless it is
that of the directory of content itself with the name of a page. In the first case no rebuild for
what the watch reports, at any time and until other directories are configured, finds a file outside
of the content, if the directory of content has not the name of a metadata file. -/
theorem outputPath?_of_start (hclosed : session.files.Closed)
    (hstart : start environment configFile watch session = (.ok preview, later)) :
    let content := preview.builder.paths.content
    let watched := preview.watched later.files
    (∀ seen happening change, watched.classify seen happening = some change → change.IsFile →
      ((preview.builder.outputPath? happening.path).isSome ↔ .parent ∉ content.components) ∧
      ∀ output, preview.builder.outputPath? happening.path = some output →
        output.startsWith preview.builder.paths.output ∨
          happening.path.components = content.components ∧
            preview.builder.registry.isPage content) ∧
    (.parent ∉ content.components → content.fileName? ≠ some watched.metadataFile →
      ∀ (history : List Happening) (seen : FileTree) (happenings : List FileEvent)
        (tasks : List Task),
        let now := run environment (preview, later) history
        now.1.builder.paths = preview.builder.paths → now.1.builder.cache.isSome →
        now.2.files.Closed →
        Scope.ofChanges (happenings.filterMap (watched.classify seen)) = .files tasks →
        (now.1.builder.rebuild (.files tasks)).StaysInside now.2.files) := by
  intro content watched
  have hsetUp := isSetUp_of_start hstart
  have hdirectory := isDirectory_content_of_start hstart
  have hlater := (current_of_start hclosed hstart).2
  refine ⟨fun seen happening change hclassify hfile ↦
    ⟨isSome_outputPath?_iff hdirectory hlater hsetUp hclassify hfile, fun output hpath ↦
      startsWith_output_of_classify hdirectory hlater hsetUp hclassify hfile hpath⟩, ?_⟩
  intro hparent hname history seen happenings tasks now hpaths hcache hclosed hscope
  refine Builder.staysInside_rebuild hclosed hcache fun task hmem ↦ ?_
  have hwritten : watched.content.components = now.1.builder.paths.content.components := by
    rw [hpaths]
    exact (components_watched_iff hdirectory hlater hsetUp).mpr hparent
  refine Builder.hasOutput_of_mem_tasks ?_ ?_ hwritten (by rwa [hpaths]) hscope hmem
  · rw [hpaths]
    exact text_ne_empty_of_isAbsolute hsetUp.isAbsolute_content
  · rw [hpaths]
    exact text_ne_empty_of_isAbsolute hsetUp.isAbsolute_output

/-- A page of a site whose content is written without `..` is edited. -/
theorem outputPath?_of_start_home :
    let session : Session := { files := homeTree "tidy: false\n" none }
    let preview := homePreview false true
    let path : Path := ⟨"/site/origin/a.html"⟩
    session.files.Closed ∧ ∃ later,
      start [] ⟨"rbuild.yaml"⟩ true session = (.ok preview, later) ∧
      (preview.watched later.files).classify later.files ⟨path, false⟩ = some (.page path false) ∧
      (∃ output, preview.builder.outputPath? path = some output ∧
        output.startsWith preview.builder.paths.output) ∧
      (preview.builder.rebuild (.files [.page path])).StaysInside later.files := by
  intro session preview path
  have hclosed : session.files.Closed := closed_homeTree
  have hyaml : (Config.ofYaml? "tidy: false\n").any (isHomeConfig false true) := by decide +kernel
  obtain ⟨later, hstart, hlater⟩ := exists_start_home hyaml none
  have hclassify : (preview.watched later.files).classify later.files ⟨path, false⟩ =
      some (.page path false) := by
    rw [hlater, watched_home]
    decide +kernel
  have hparent : .parent ∉ preview.builder.paths.content.components := by decide
  obtain ⟨hpaths, hrebuild⟩ := outputPath?_of_start hclosed hstart
  obtain ⟨hiff, hlies⟩ := hpaths _ _ _ hclassify trivial
  obtain ⟨output, houtput⟩ := Option.isSome_iff_exists.mp (hiff.mpr hparent)
  refine ⟨hclosed, later, hstart, hclassify, ⟨output, houtput, ?_⟩, ?_⟩
  · exact (hlies output houtput).resolve_right fun h ↦ absurd h.1 (by decide)
  · refine hrebuild hparent ?_ [] later.files [⟨path, false⟩] _ rfl rfl ?_ ?_
    · rw [hlater, watched_home]
      decide
    · exact (current_of_start hclosed hstart).2
    · rw [List.filterMap_cons_some hclassify]
      rfl

/-- The configuration of a site whose content is written with `..`. -/
def bentText : String := "tidy: false\npaths:\n  content: x/../origin\n"

/-- A page of a site whose content is written with `..` is edited: the watch reports it, and the
rebuild ends because the page is said to lie outside of the content. -/
theorem outputPath?_bent :
    let session : Session := { files := homeTree bentText none }
    let preview := homePreview true true
    let path : Path := ⟨"/site/origin/a.html"⟩
    session.files.Closed ∧ ∃ later,
      start [] ⟨"rbuild.yaml"⟩ true session = (.ok preview, later) ∧
      later.files.placeOf path = later.files.placeOf preview.builder.paths.content ++ ["a.html"] ∧
      (preview.watched later.files).classify later.files ⟨path, false⟩ = some (.page path false) ∧
      preview.builder.outputPath? path = none ∧
      (preview.builder.rebuild (Scope.ofChanges [.page path false])).Fails later.files
        (.io (.other "/site/origin/a.html is outside the content directory")) later.files := by
  intro session preview path
  have hyaml : (Config.ofYaml? bentText).any (isHomeConfig true true) := by decide +kernel
  obtain ⟨later, hstart, hlater⟩ := exists_start_home hyaml none
  have houtput : preview.builder.outputPath? path = none := by decide +kernel
  refine ⟨closed_homeTree, later, hstart, ?_⟩
  rw [hlater]
  refine ⟨by decide +kernel, ?_, houtput, ?_⟩
  · rw [watched_home]
    decide +kernel
  · have hscope : Scope.ofChanges [.page path false] = .files [.page path] := rfl
    have hhtml : preview.builder.pageHtml (homeTree bentText (some (homeHtml true)))
        Builder.plainTemplates .identity path = .ok (homeHtml true) := pageHtml_home false
    have hrun : (preview.builder.runTask Builder.plainTemplates .identity preview.builder.noResult
        (.page path)).Fails (homeTree bentText (some (homeHtml true)))
          (.io (.other "/site/origin/a.html is outside the content directory"))
          (homeTree bentText (some (homeHtml true))) := by
      refine fails_bind.mpr (Or.inr ⟨_, _, gives_files.mpr ⟨rfl, rfl⟩, ?_⟩)
      rw [if_pos (by decide +kernel)]
      exact Builder.fails_notePage houtput hhtml
    rw [hscope, Builder.rebuild_files rfl Builder.renderer_plainTemplates]
    exact fails_bind.mpr (Or.inl (fails_bind.mpr (Or.inl hrun)))

end Preview

end StaticSite
