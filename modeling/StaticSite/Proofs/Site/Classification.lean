import StaticSite.Proofs.Site.Flat
import StaticSite.Proofs.Site.FullBuild
import StaticSite.Watch

/-!
# Content files in a watch and in a full build

A watch tells by one path what a full build does with a content file: whether it renders it as a
page, leaves it out for a metadata file, copies it, or never comes across it (`classify_iff`). The
watch looks for hidden names behind the directory of content, where the build does not walk into
hidden directories; and it asks for metadata files first, where the build asks for pages first. For
this the files of the templates and the configuration must not be met on the way, and the content
must not lie among the templates: all below them counts as a template (`classify_among_templates`).
-/

namespace StaticSite

open StaticSite.Path Build

/-- What a full build does with a content file that it comes across. -/
inductive Treatment where
  /-- It is rendered as a page. -/
  | render
  /-- It is left out, since it holds metadata. -/
  | leaveOut
  /-- It is copied. -/
  | copy
  deriving DecidableEq, Repr

/-- The change to a file that is treated so, unless it was deleted. -/
def Treatment.change (path : Path) : Treatment → Change
  | .render => .page path false
  | .leaveOut => .metadata path
  | .copy => .asset path false

namespace Builder

variable {builder : Builder} {watched : Watched} {tree : FileTree} {file : ContentName}
  {path : Path} {files : List Path} {templates : ComposedTemplates} {renderer : Renderer}
  {result : BuildResult}

/-! ## Full builds -/

/-- What a full build does with a file by its path. -/
def treatment (builder : Builder) (path : Path) : Treatment :=
  if builder.registry.isPage path then .render
  else if builder.isSidecar path then .leaveOut
  else .copy

/-- Copies a file unless it is gone. -/
def copyPresent (builder : Builder) (path : Path) : Build Bool := do
  if (← Build.files).hasEntry path then
    Build.copyOutput path (← builder.outputPath path)
    return true
  else return false

/-- The work on one file of a full build. -/
def treat (builder : Builder) (templates : ComposedTemplates) (renderer : Renderer)
    (result : BuildResult) (path : Path) : Build BuildResult :=
  match builder.treatment path with
  | .render => builder.notePage templates renderer result path
  | .leaveOut => return result
  | .copy => note result path (builder.copyPresent path) fun r ↦ { r with assets := r.assets + 1 }

theorem noteAsset_of_isSidecar (h : builder.isSidecar path) :
    builder.noteAsset result path = return result := by
  have hcopy : builder.copyAsset path = return false := by
    funext tree
    simp [copyAsset, h]
    rfl
  rw [noteAsset, hcopy]
  rfl

theorem copyAsset_of_not_isSidecar (h : ¬ builder.isSidecar path) :
    builder.copyAsset path = builder.copyPresent path := by
  have hsplit (present : Bool) (work : Build Bool) :
      (if builder.isSidecar path || !present then return false else work) =
        if present then work else return false := by
    cases present <;> simp [h]
  simp only [copyAsset, copyPresent, hsplit]

/-- A full build treats its files one after the other. -/
theorem buildFiles_eq_foldlM_treat : builder.buildFiles templates renderer files result =
    files.foldlM (builder.treat templates renderer) result := by
  have hstep (result : BuildResult) (path : Path) :
      (if builder.registry.isPage path then builder.notePage templates renderer result path
        else builder.noteAsset result path) = builder.treat templates renderer result path := by
    rw [treat, treatment]
    by_cases hpage : builder.registry.isPage path
    · rw [if_pos hpage, if_pos hpage]
    rw [if_neg hpage, if_neg hpage]
    by_cases hsidecar : builder.isSidecar path
    · rw [if_pos hsidecar, noteAsset_of_isSidecar hsidecar]
    · rw [if_neg hsidecar, noteAsset, copyAsset_of_not_isSidecar hsidecar]
  rw [buildFiles_eq_foldlM]
  simp only [hstep]

/-- What a full build that has found some files does with a content file, if it is among them. -/
def treatmentIn? (builder : Builder) (files : List Path) (file : ContentName) : Option Treatment :=
  (files.find? fun path ↦
    path.components = builder.paths.content.components ++ file.names.map .normal).map
      builder.treatment

/-- What a full build does with a content file is told from its names. -/
theorem treatmentIn?_eq (hlists : builder.Lists tree files)
    (hfile : (tree.file? (builder.placeOf tree file)).isSome) :
    builder.treatmentIn? files file =
      if file.IsHidden then none
      else if builder.registry.isPage ⟨file.name⟩ then some .render
      else if file.name = builder.config.metadataFile then some .leaveOut
      else some .copy := by
  have hfound (path : Path) : decide (path.components =
      builder.paths.content.components ++ file.names.map .normal) ↔ builder.LeadsTo path file :=
    decide_eq_true_iff
  rw [treatmentIn?]
  by_cases hhidden : file.IsHidden
  · rw [if_pos hhidden, Option.map_eq_none_iff, List.find?_eq_none]
    intro path hpath hsame
    obtain ⟨other, hof, hshown, -⟩ := hlists.sound path hpath
    rw [hof.leadsTo.unique ((hfound path).mp hsame)] at hshown
    exact hshown hhidden
  · rw [if_neg hhidden]
    obtain ⟨path, hpath, hof⟩ := hlists.complete file hhidden hfile
    cases hfind : files.find? fun path ↦ decide (path.components =
        builder.paths.content.components ++ file.names.map .normal) with
    | none => exact absurd ((hfound path).mpr hof.leadsTo) (List.find?_eq_none.mp hfind path hpath)
    | some found =>
      have hsome := List.find?_some hfind
      have hleads := (hfound found).mp hsome
      have hsidecar : builder.isSidecar found ↔ file.name = builder.config.metadataFile :=
        hleads.isSidecar_iff
      rw [Option.map_some, treatment, isPage_eq _ hleads.components_eq hleads.isName]
      simp only [hsidecar]
      split_ifs <;> rfl

/-! ## Watches -/

/-- Whether the content of a site is watched: its directory is there, and the watch knows it, if by
another path, and takes the same files for pages and for metadata. -/
structure IsWatched (builder : Builder) (watched : Watched) (tree : FileTree) : Prop where
  isDirectory : tree.isDirectory builder.paths.content
  place : tree.placeOf watched.content = tree.placeOf builder.paths.content
  metadataFile : watched.metadataFile = builder.config.metadataFile
  registry : watched.registry = builder.registry

end Builder

namespace Watched

variable {watched : Watched} {tree : FileTree} {names : List String} {path : Path}

/-- Whether nothing but content lies below the directory of content, which does not lie among the
templates, and metadata files are no pages. -/
structure KeepsApart (watched : Watched) : Prop where
  templates : ∀ names : List String,
    watched.templates.components ≠ watched.content.components ++ names.map .normal
  config : ∀ names : List String,
    watched.config.components ≠ watched.content.components ++ names.map .normal
  metadataFile : ¬ watched.registry.isPage ⟨watched.metadataFile⟩
  content : ¬ watched.templates.components <+: watched.content.components

/-- A content file does not lie among the templates. -/
theorem KeepsApart.relativeTo?_templates (h : watched.KeepsApart)
    (hpath : path.components = watched.content.components ++ names.map .normal) :
    path.relativeTo? watched.templates = none := by
  have hstarts : ¬ path.startsWith watched.templates := fun hstarts ↦ by
    have hprefix := beginsWith_eq_true_iff.mp hstarts
    rw [hpath] at hprefix
    obtain hle | hlt := le_total watched.templates.components.length
      watched.content.components.length
    · exact h.content (List.prefix_of_prefix_length_le hprefix (List.prefix_append _ _) hle)
    · obtain ⟨rest, hrest⟩ := List.prefix_of_prefix_length_le (List.prefix_append _ _) hprefix hlt
      rw [← hrest, List.prefix_append_right_inj] at hprefix
      obtain ⟨more, hmore⟩ := hprefix
      obtain ⟨front, -, -, rfl, -⟩ := List.append_eq_map_iff.mp hmore
      exact h.templates front hrest.symm
  rw [relativeTo?, if_neg hstarts]

/-- What a watch says of a content file that is there. -/
theorem KeepsApart.classify_eq (h : watched.KeepsApart) {file : ContentName}
    (hpath : path.components = watched.content.components ++ file.names.map .normal)
    (hfile : tree.isFile path) :
    watched.classify tree ⟨path, false⟩ =
      if file.IsHidden then none
      else if watched.registry.isPage ⟨file.name⟩ then some (.page path false)
      else if file.name = watched.metadataFile then some (.metadata path)
      else some (.asset path false) := by
  have hconfig : ¬ path.same watched.config := fun hsame ↦
    h.config _ (hpath ▸ of_decide_eq_true hsame).symm
  have hsplit : path.components =
      (watched.content.components ++ file.directory.map .normal) ++ [.normal file.name] := by
    simp [hpath, ContentName.names]
  have hnames : ∀ name ∈ file.names, IsName name := fun name hname ↦ by
    have hmem : .normal name ∈ path.components := by simp [hpath, hname]
    exact isName_of_mem_components hmem
  have hname : IsName file.name := hnames _ (by simp [ContentName.names])
  obtain ⟨relative, hrelative, -, hcomponents, -⟩ :=
    exists_relativeTo? hpath (by simp [ContentName.names]) (List.forall_mem_map.mpr hnames)
  have hhidden : isHidden relative ↔ file.IsHidden := by
    rw [isHidden, hcomponents]
    simp [ContentName.IsHidden, Component.text]
  have hdirectory := FileTree.isDirectory_of_isFile hfile
  have hpage : file.name = watched.metadataFile → ¬ watched.registry.isPage ⟨file.name⟩ :=
    fun hsidecar ↦ hsidecar ▸ h.metadataFile
  rw [classify]
  simp only [if_neg hconfig, h.relativeTo?_templates hpath, hrelative, hdirectory, Bool.and_false,
    Bool.or_false, hhidden, fileName?_eq hsplit, isPage_eq watched.registry hsplit hname,
    Option.some.injEq]
  -- The watch asks for metadata first, the statement for pages; no file is both.
  by_cases hsidecar : file.name = watched.metadataFile
  · rw [if_pos hsidecar, if_neg (hpage hsidecar), if_pos hsidecar]
  · rw [if_neg hsidecar, if_neg hsidecar]

end Watched

namespace Builder

variable {builder : Builder} {watched : Watched} {tree : FileTree} {file : ContentName}
  {path : Path}

/-- A watch and a full build agree about every content file that is there: the watch does not know of
it exactly if the build does not come across it, and calls it a page, metadata or any other file
exactly if the build renders it, leaves it out or copies it. -/
theorem classify_iff (hwatched : builder.IsWatched watched tree) (hapart : watched.KeepsApart)
    (hclosed : tree.Closed)
    (hpath : path.components = watched.content.components ++ file.names.map .normal)
    (hfile : tree.isFile path) :
    ∃ files, tree.contentFiles builder.paths.content = .ok files ∧
      (∀ templates renderer result, builder.buildFiles templates renderer files result =
        files.foldlM (builder.treat templates renderer) result) ∧
      (watched.classify tree ⟨path, false⟩ = none ↔ builder.treatmentIn? files file = none) ∧
      (watched.classify tree ⟨path, false⟩ = some (.page path false) ↔
        builder.treatmentIn? files file = some .render) ∧
      (watched.classify tree ⟨path, false⟩ = some (.metadata path) ↔
        builder.treatmentIn? files file = some .leaveOut) ∧
      (watched.classify tree ⟨path, false⟩ = some (.asset path false) ↔
        builder.treatmentIn? files file = some .copy) := by
  obtain ⟨files, hfiles⟩ := hclosed.exists_contentFiles hwatched.isDirectory
  have htext := (FileTree.isDirectory_iff.mp hwatched.isDirectory).1
  have hplace : tree.placeOf path = builder.placeOf tree file := by
    rw [FileTree.placeOf, hpath, FileTree.placeFrom_append, FileTree.placeFrom_names, placeOf,
      contentPlace, ← hwatched.place]
    rfl
  have hsome := FileTree.isSome_file?_of_isFile hfile
  rw [hplace] at hsome
  have hchange : watched.classify tree ⟨path, false⟩ =
      (builder.treatmentIn? files file).map (Treatment.change path) := by
    rw [treatmentIn?_eq (lists_contentFiles hclosed htext hfiles) hsome,
      hapart.classify_eq hpath hfile, hwatched.registry, hwatched.metadataFile]
    split_ifs <;> rfl
  refine ⟨files, hfiles, fun _ _ _ ↦ buildFiles_eq_foldlM_treat, ?_⟩
  rw [hchange]
  cases builder.treatmentIn? files file with
  | none => simp
  | some treatment => cases treatment <;> simp [Treatment.change]

/-- A site with the usual directories but for the one of content. -/
def withContent (content : Path) : Builder :=
  { flat none with paths := { Config.defaultPaths with content := content } }

/-- The watch of the site. -/
def watchOf (content : Path) : Watched :=
  ⟨content, ⟨"template"⟩, ⟨"rbuild.yaml"⟩, "metadata.yaml", .standard⟩

/-- A site with one page, among other directories. -/
def onePage (page : Place) (directories : List Place) : FileTree where
  entries := directories.map (·, .directory) ++ [(page, .file (.text "A"))]
  current := []

/-- A page that is watched. -/
theorem classify_iff_onePage :
    let builder := withContent ⟨"origin"⟩
    let watched := watchOf ⟨"origin"⟩
    let tree := onePage ["origin", "a.html"] [["template"], ["origin"]]
    let path : Path := ⟨"origin/a.html"⟩
    let file : ContentName := ⟨[], "a.html"⟩
    builder.IsWatched watched tree ∧ watched.KeepsApart ∧ tree.Closed ∧
      path.components = watched.content.components ++ file.names.map .normal ∧ tree.isFile path ∧
      ∃ files, tree.contentFiles builder.paths.content = .ok files ∧
        (∀ templates renderer result, builder.buildFiles templates renderer files result =
          files.foldlM (builder.treat templates renderer) result) ∧
        (watched.classify tree ⟨path, false⟩ = none ↔ builder.treatmentIn? files file = none) ∧
        (watched.classify tree ⟨path, false⟩ = some (.page path false) ↔
          builder.treatmentIn? files file = some .render) ∧
        (watched.classify tree ⟨path, false⟩ = some (.metadata path) ↔
          builder.treatmentIn? files file = some .leaveOut) ∧
        (watched.classify tree ⟨path, false⟩ = some (.asset path false) ↔
          builder.treatmentIn? files file = some .copy) := by
  intro builder watched tree path file
  have hwatched : builder.IsWatched watched tree := ⟨by decide, rfl, rfl, rfl⟩
  have hcontent : watched.content.components = [.normal "origin"] := by decide
  have htemplates : watched.templates.components = [.normal "template"] := by decide
  have hconfig : watched.config.components = [.normal "rbuild.yaml"] := by decide
  have hapart : watched.KeepsApart :=
    ⟨by simp [hcontent, htemplates], by simp [hcontent, hconfig], by decide, by decide⟩
  have hclosed : tree.Closed := .of_entries (by decide) (by decide) (by decide)
  have hpath : path.components = watched.content.components ++ file.names.map .normal := by decide
  have hfile : tree.isFile path := by decide
  exact ⟨hwatched, hapart, hclosed, hpath, hfile,
    classify_iff hwatched hapart hclosed hpath hfile⟩

/-- A page among the templates. -/
def pageAmongTemplates : FileTree :=
  onePage ["template", "origin", "a.html"] [["template"], ["template", "origin"]]

/-- A page beside a directory. -/
def pageBesideDirectory : FileTree :=
  onePage ["origin", "a.html"] [["template"], ["origin"], ["origin", "sub"]]

private theorem contentFiles_pageAmongTemplates :
    pageAmongTemplates.contentFiles ⟨"template/origin"⟩ = .ok [⟨"template/origin/a.html"⟩] := by
  have hlist : pageAmongTemplates.list ⟨"template/origin"⟩ = .ok ["a.html"] := rfl
  refine contentFiles_of_walk ?_ (by decide)
  simp [FileTree.walk, FileTree.walkNames, hlist]
  rfl

private theorem contentFiles_pageBesideDirectory :
    pageBesideDirectory.contentFiles ⟨"origin"⟩ = .ok [⟨"origin/a.html"⟩] := by
  have hlist : pageBesideDirectory.list ⟨"origin"⟩ = .ok ["sub", "a.html"] := rfl
  have hdepth : pageBesideDirectory.depth = 2 := rfl
  have hsub : pageBesideDirectory.walk 2 (Path.join ⟨"origin"⟩ ⟨"sub"⟩) = .ok [] := by
    have hnone : pageBesideDirectory.list (Path.join ⟨"origin"⟩ ⟨"sub"⟩) = .ok [] := rfl
    simp [FileTree.walk, FileTree.walkNames, hnone]
  refine contentFiles_of_walk ?_ (by decide)
  simp [hdepth, FileTree.walk, FileTree.walkNames, hlist, hsub]
  rfl

/-- A page that is rendered is taken for a template where the content lies among the templates, and
it is not seen by a path that goes up behind the directory of content. -/
theorem classify_among_templates :
    (let builder := withContent ⟨"template/origin"⟩
      let watched := watchOf ⟨"template/origin"⟩
      let tree := pageAmongTemplates
      let path : Path := ⟨"template/origin/a.html"⟩
      builder.IsWatched watched tree ∧ ¬ watched.templates.startsWith watched.content ∧
        ¬ watched.config.startsWith watched.content ∧
        ¬ watched.registry.isPage ⟨watched.metadataFile⟩ ∧
        path.startsWith watched.content ∧ tree.isFile path ∧
        tree.contentFiles builder.paths.content = .ok [path] ∧
        builder.treatmentIn? [path] ⟨[], "a.html"⟩ = some .render ∧
        watched.classify tree ⟨path, false⟩ = some (.template path)) ∧
      let builder := withContent ⟨"origin"⟩
      let watched := watchOf ⟨"origin"⟩
      let tree := pageBesideDirectory
      let path : Path := ⟨"origin/sub/../a.html"⟩
      builder.IsWatched watched tree ∧ ¬ watched.templates.startsWith watched.content ∧
        ¬ watched.config.startsWith watched.content ∧
        ¬ watched.registry.isPage ⟨watched.metadataFile⟩ ∧
        path.startsWith watched.content ∧ tree.isFile path ∧
        tree.placeOf path = builder.placeOf tree ⟨[], "a.html"⟩ ∧
        tree.contentFiles builder.paths.content = .ok [⟨"origin/a.html"⟩] ∧
        builder.treatmentIn? [⟨"origin/a.html"⟩] ⟨[], "a.html"⟩ = some .render ∧
        watched.classify tree ⟨path, false⟩ = none := by
  refine ⟨⟨⟨by decide, rfl, rfl, rfl⟩, ?_⟩, ⟨by decide, rfl, rfl, rfl⟩, ?_⟩
  · exact ⟨by decide, by decide, by decide, by decide, by decide, contentFiles_pageAmongTemplates,
      by decide, by decide⟩
  · exact ⟨by decide, by decide, by decide, by decide, by decide, by decide,
      contentFiles_pageBesideDirectory, by decide, by decide⟩

end Builder

end StaticSite
