import StaticSite.Proofs.Compose.Locality
import StaticSite.Proofs.Location
import StaticSite.Proofs.Site.Stage

/-!
# Self-contained sites

A site is self-contained when its pages and templates read no other content file and no output file.
What such a site reads through its templates stays the same when content and output are revised, so
the composed templates depend on the other files alone (`composeTemplates_unique`).
-/

namespace StaticSite

open StaticSite.Path

theorem Fetch.attemptFrom_const {location : String} {outcome : Except FetchError String}
    {attempt retries : Nat} {text : String} :
    (attemptFrom location (fun _ ↦ outcome) attempt retries).result?.getD outcome = .ok text ↔
      outcome = .ok text := by
  induction retries generalizing attempt with
  | zero => cases outcome <;> simp [attemptFrom, Except.mapError]
  | succ retries ih =>
    cases outcome with
    | ok _ => simp [attemptFrom]
    | error e =>
      have hstep : attemptFrom location (fun _ ↦ .error e) attempt (retries + 1) =
          if attempt < maxAttempts then
            attemptFrom location (fun _ ↦ .error e) (attempt + 1) retries
          else ⟨attempt, none⟩ := rfl
      by_cases hcount : attempt < maxAttempts
      · rw [hstep, if_pos hcount]
        exact ih
      · rw [hstep, if_neg hcount]
        rfl

namespace FileTree

variable {tree : FileTree} {path : Path} {text : String} {retries : Nat} {location : Location}

theorem readText_eq_ok_iff : tree.readText path = .ok text ↔ tree.read path = .ok (.text text) := by
  rw [readText]
  split
  · next h => simp [h]
  · next h => simp [h]
  · next h => simp [h]

/-- Only files hold templates, and all attempts to fetch one have the same outcome. -/
theorem source_eq_ok_iff : tree.source retries location = .ok text ↔
    ∃ path, location = .file path ∧ tree.read path = .ok (.text text) := by
  rw [source, Fetch.fetch, Fetch.attemptFrom_const]
  cases location with
  | remote url => simp [attempt]
  | file path =>
    have hread : tree.readText path = .ok text ↔ tree.read path = .ok (.text text) :=
      readText_eq_ok_iff
    cases h : tree.readText path <;> simp [attempt, ← hread, h]

end FileTree

namespace Builder

variable {builder : Builder} {base base' tree tree' : FileTree} {file : ContentName}
  {path : Path} {place : Place} {content : Content} {location : Location} {text text' : String}
  {templates : ComposedTemplates}

/-- The path of a content file, as a walk through the content writes it. -/
def pathOf (builder : Builder) (file : ContentName) : Path :=
  builder.paths.content.join ⟨String.intercalate "/" file.names⟩

/-- The locations of the layout and the child templates. -/
def templateLocations (builder : Builder) : List Location :=
  Location.resolve builder.paths.templates (.file builder.paths.templates) builder.config.layout ::
    builder.config.childTemplates.map fun (_, path) ↦
      Location.resolveTemplate builder.paths.templates (.file builder.paths.templates) path

/-- Whether a place lies neither in the directory of content nor in the output directory. -/
def Outside (builder : Builder) (tree : FileTree) (place : Place) : Prop :=
  ¬ builder.contentPlace tree <+: place ∧ ¬ builder.outputPlace tree <+: place

/-- The place of the script that the metadata of a page name. -/
def scriptPlace (builder : Builder) (tree : FileTree) (file : ContentName) (script : String) :
    Place :=
  tree.placeOf (ContextSetting.scriptPath (builder.pathOf file) script)

/-- Whether no page or template reads another content file or an output file, and no template is
one. The path of a script goes up first and then only down. -/
structure SelfContained (builder : Builder) (tree : FileTree) : Prop where
  templates : ∀ path, .file path ∈ builder.templateLocations →
    builder.Outside tree (tree.placeOf path)
  includes : ∀ location ∈ builder.templateLocations, ∀ text path,
    tree.source builder.config.retries location = .ok text →
      Compose.Reads (builder.setting tree) text location (.file path) →
        builder.Outside tree (tree.placeOf path)
  pages : ∀ file text path, builder.IsPageName file →
    tree.file? (builder.placeOf tree file) = some (.text text) →
      Compose.Reads (builder.setting tree) text (.file (builder.pathOf file)) (.file path) →
        builder.Outside tree (tree.placeOf path)
  scripts : ∀ file script, builder.IsPageName file →
    (tree.file? (builder.placeOf tree file)).isSome →
      (tree.metadataOf (builder.pathOf file) builder.config.metadataFile).scriptPath? = some script →
        Direct ⟨script⟩ ∧ ¬ builder.outputPlace tree <+: builder.scriptPlace tree file script ∧
          (builder.contentPlace tree <+: builder.scriptPlace tree file script →
            builder.scriptPlace tree file script = builder.placeOf tree file ∨
              tree.file? (builder.scriptPlace tree file script) = none)

/-- Whether a file tree is another one with other content or other output. -/
structure Revises (builder : Builder) (base base' : FileTree) : Prop where
  current : base'.current = base.current
  file? : ∀ place, builder.Outside base place → base'.file? place = base.file? place

theorem isPathOf_pathOf (hcontent : builder.paths.content.text ≠ "")
    (hnames : ∀ name ∈ file.names, IsName name) : builder.IsPathOf file (builder.pathOf file) := by
  have htexts : file.names = (file.names.map Component.normal).map Component.text := by
    simp [Function.comp_def, Component.text]
  have hsteps : ∀ c ∈ file.names.map Component.normal, IsStep c := by
    intro c hc
    obtain ⟨name, hname, rfl⟩ := List.mem_map.mp hc
    exact hnames name hname
  have hfields : Path.fields ⟨String.intercalate "/" file.names⟩ =
      (file.names.map Component.normal).map fun c ↦ c.text.toList := by
    nth_rewrite 1 [htexts]
    exact fields_ofSteps hsteps (by simp [ContentName.names])
  have hlast : Path.fields ⟨String.intercalate "/" file.names⟩ =
      file.directory.map String.toList ++ [file.name.toList] := by
    rw [hfields]
    simp [ContentName.names, Component.text]
  have hname : IsName file.name := hnames _ (by simp [ContentName.names])
  have hrelative : ¬ Path.isAbsolute ⟨String.intercalate "/" file.names⟩ := by
    obtain ⟨first, rest, hfirst⟩ := List.exists_cons_of_ne_nil
      (show file.names ≠ [] by simp [ContentName.names])
    rw [hfirst] at hfields hsteps ⊢
    exact not_isAbsolute_of_fields hfields
      (componentOf?_text (hsteps _ List.mem_cons_self))
  refine ⟨(isFilePath_join hrelative hcontent).mpr ⟨_, _, hlast, hname⟩, ?_⟩
  rw [pathOf, components_join hrelative hcontent, hfields, filterMap_text hsteps]
  simp [ContentName.names]

/-! ## Reading -/

namespace Revises

variable (hrevises : builder.Revises base base')

include hrevises

theorem contentPlace_eq : builder.contentPlace base' = builder.contentPlace base :=
  FileTree.placeOf_congr hrevises.current

theorem outputPlace_eq : builder.outputPlace base' = builder.outputPlace base :=
  FileTree.placeOf_congr hrevises.current

theorem placeOf_eq (file : ContentName) : builder.placeOf base' file = builder.placeOf base file := by
  rw [Builder.placeOf, hrevises.contentPlace_eq, Builder.placeOf]

theorem outside_iff : builder.Outside base' place ↔ builder.Outside base place := by
  rw [Outside, Outside, hrevises.contentPlace_eq, hrevises.outputPlace_eq]

/-- A path outside of the content and the output reads the same before and after a revision. -/
theorem read_iff (hbase : builder.Grounded base) (hbase' : builder.Grounded base')
    (h : builder.Stage base tree) (h' : builder.Stage base' tree') (hdirect : path.Direct)
    (houtside : builder.Outside base (base.placeOf path)) :
    tree'.read path = .ok content ↔ tree.read path = .ok content := by
  have hplace : base'.placeOf path = base.placeOf path := FileTree.placeOf_congr hrevises.current
  have houtside' : builder.Outside base' (base'.placeOf path) := by
    rwa [hplace, hrevises.outside_iff]
  rw [hbase.read_direct h hdirect houtside.2, hbase'.read_direct h' hdirect houtside'.2, hplace,
    hrevises.file? _ houtside]

/-- The same for the texts of templates. -/
theorem source_iff (hbase : builder.Grounded base) (hbase' : builder.Grounded base')
    (h : builder.Stage base tree) (h' : builder.Stage base' tree') {retries : Nat}
    (hdirect : path.Direct) (houtside : builder.Outside base (base.placeOf path)) :
    tree'.source retries (.file path) = .ok text ↔ tree.source retries (.file path) = .ok text := by
  have hread : tree'.read path = .ok (.text text) ↔ tree.read path = .ok (.text text) :=
    hrevises.read_iff hbase hbase' h h' hdirect houtside
  simp [FileTree.source_eq_ok_iff, hread]

end Revises

theorem Revises.refl (builder : Builder) (base : FileTree) : builder.Revises base base :=
  ⟨rfl, fun _ _ ↦ rfl⟩

/-! ## Templates -/

/-- The paths of the layout and the child templates go up first and then only down. -/
theorem direct_of_mem_templateLocations (h : .file path ∈ builder.templateLocations) :
    path.Direct := by
  rcases List.mem_cons.mp h with hlayout | hchild
  · obtain ⟨other, rfl⟩ := Location.exists_normalize_of_resolve hlayout.symm
    exact other.direct_normalize
  · obtain ⟨⟨key, reference⟩, -, hchild⟩ := List.mem_map.mp hchild
    simp only [Location.resolveTemplate] at hchild
    split at hchild
    · next found hfound =>
      obtain ⟨other, rfl⟩ := Location.exists_normalize_of_resolve hfound
      split at hchild
      · next hnone =>
        obtain rfl := Location.file.inj hchild
        exact direct_withExtension hnone
      · obtain rfl := Location.file.inj hchild
        exact other.direct_normalize
    · simp at hchild

theorem direct_of_reads {setting : Compose.Setting}
    (h : Compose.Reads setting text location (.file path)) : path.Direct := by
  obtain ⟨other, hother⟩ := Compose.canonical_of_reads h
  cases other with
  | remote url => simp [Location.canonical] at hother
  | file other =>
    obtain rfl := Location.file.inj hother
    exact other.direct_normalize

theorem exists_read_of_composeTemplate (h : builder.composeTemplate tree (.file path) = .ok text) :
    ∃ content, tree.read path = .ok content := by
  rw [composeTemplate] at h
  split at h
  · simp at h
  next source hsource =>
    obtain ⟨found, hfound, hread⟩ := FileTree.source_eq_ok_iff.mp hsource
    obtain rfl := Location.file.inj hfound
    exact ⟨_, hread⟩

section Compositions

variable (hbase : builder.Grounded base) (hbase' : builder.Grounded base')
  (hrevises : builder.Revises base base')

include hbase hbase' hrevises

/-- A composition at a stage of a build is the one in the revised tree, if it reads nothing that was
revised. -/
theorem compose_eq_of_stage {result : String} (h : builder.Stage base tree)
    (hreads : ∀ path, Compose.Reads (builder.setting base') text location (.file path) →
      builder.Outside base' (base'.placeOf path))
    (hresult : (Compose.compose (builder.setting tree) text location).result = .ok result) :
    Compose.compose (builder.setting base') text location =
      Compose.compose (builder.setting tree) text location := by
  refine Compose.compose_congr rfl rfl hresult fun l hl text htext ↦ ?_
  obtain ⟨path, rfl, -⟩ := FileTree.source_eq_ok_iff.mp htext
  have houtside := hreads path hl
  have hplace : base'.placeOf path = base.placeOf path := FileTree.placeOf_congr hrevises.current
  rw [hrevises.outside_iff, hplace] at houtside
  exact (hrevises.source_iff hbase hbase' h hbase'.stage (direct_of_reads hl) houtside).mpr htext

theorem composeTemplate_unique (hself : builder.SelfContained base')
    (hlocation : location ∈ builder.templateLocations)
    (htext : builder.composeTemplate base location = .ok text)
    (htext' : builder.composeTemplate base' location = .ok text') : text = text' := by
  rw [composeTemplate] at htext htext'
  split at htext
  · simp at htext
  next source hsource =>
    split at htext'
    · simp at htext'
    next source' hsource' =>
      obtain ⟨path, rfl, -⟩ := FileTree.source_eq_ok_iff.mp hsource
      have houtside := hself.templates path hlocation
      have hplace : base'.placeOf path = base.placeOf path :=
        FileTree.placeOf_congr hrevises.current
      rw [hrevises.outside_iff, hplace] at houtside
      have hsame : source = source' := by
        have hboth := (hrevises.source_iff hbase hbase' hbase.stage hbase'.stage
          (direct_of_mem_templateLocations hlocation) houtside).mpr hsource
        exact Except.ok.inj (hboth.symm.trans hsource')
      subst hsame
      have hresult : ∃ result, (Compose.compose (builder.setting base) source (.file path)).result =
          .ok result := by
        cases hcompose : (Compose.compose (builder.setting base) source (.file path)).result with
        | ok result => exact ⟨result, rfl⟩
        | error e => simp [Compose.composeTidied, hcompose, Except.map, Except.mapError] at htext
      obtain ⟨result, hresult⟩ := hresult
      have hcompose := compose_eq_of_stage hbase hbase' hrevises hbase.stage
        (fun path hreads ↦ hself.includes _ hlocation source path hsource' hreads) hresult
      simp only [Compose.composeTidied] at htext htext'
      rw [hcompose] at htext'
      exact Except.ok.inj (htext.symm.trans htext')

theorem composeLayout_unique (hself : builder.SelfContained base')
    (hlayout : builder.composeLayout base = .ok text)
    (hlayout' : builder.composeLayout base' = .ok text') : text = text' := by
  have hmem : Location.resolve builder.paths.templates (.file builder.paths.templates)
      builder.config.layout ∈ builder.templateLocations := List.mem_cons_self
  rw [composeLayout] at hlayout hlayout'
  generalize Location.resolve builder.paths.templates (.file builder.paths.templates)
    builder.config.layout = location at hmem hlayout hlayout'
  cases location with
  | remote url => exact composeTemplate_unique hbase hbase' hrevises hself hmem hlayout hlayout'
  | file path =>
    have houtside := hself.templates path hmem
    have hplace : base'.placeOf path = base.placeOf path :=
      FileTree.placeOf_congr hrevises.current
    rw [hrevises.outside_iff, hplace] at houtside
    have hread (content : Content) :
        base'.read path = .ok content ↔ base.read path = .ok content :=
      hrevises.read_iff hbase hbase' hbase.stage hbase'.stage
        (direct_of_mem_templateLocations hmem) houtside
    by_cases hhere : base.hasEntry path <;> by_cases hthere : base'.hasEntry path
    · exact composeTemplate_unique hbase hbase' hrevises hself hmem
        (by simpa [hhere] using hlayout) (by simpa [hthere] using hlayout')
    · obtain ⟨content, hcontent⟩ := exists_read_of_composeTemplate
        (show builder.composeTemplate base (.file path) = .ok text by simpa [hhere] using hlayout)
      exact absurd (FileTree.hasEntry_of_read ((hread content).mpr hcontent)) hthere
    · obtain ⟨content, hcontent⟩ := exists_read_of_composeTemplate
        (show builder.composeTemplate base' (.file path) = .ok text' by
          simpa [hthere] using hlayout')
      exact absurd (FileTree.hasEntry_of_read ((hread content).mp hcontent)) hhere
    · have htext : Renderer.identityLayout = text := by simpa [hhere] using hlayout
      have htext' : Renderer.identityLayout = text' := by simpa [hthere] using hlayout'
      exact htext.symm.trans htext'

theorem composeChildren_unique (hself : builder.SelfContained base') {table : Table String}
    {children children' : Table String}
    (hmem : ∀ entry ∈ table, Location.resolveTemplate builder.paths.templates
      (.file builder.paths.templates) entry.2 ∈ builder.templateLocations)
    (h : builder.composeChildren base table = .ok children)
    (h' : builder.composeChildren base' table = .ok children') : children = children' := by
  induction table generalizing children children' with
  | nil =>
    rw [composeChildren] at h h'
    exact Except.ok.inj (h.symm.trans h')
  | cons entry table ih =>
    obtain ⟨key, reference⟩ := entry
    rw [composeChildren] at h h'
    split at h
    · simp at h
    next text htext =>
      split at h'
      · simp at h'
      next text' htext' =>
        have hsame := composeTemplate_unique hbase hbase' hrevises hself
          (hmem _ List.mem_cons_self) htext htext'
        obtain ⟨more, hmore, rfl⟩ := exists_of_map_eq_ok h
        obtain ⟨more', hmore', rfl⟩ := exists_of_map_eq_ok h'
        rw [hsame, ih (fun entry hentry ↦ hmem entry (List.mem_cons_of_mem _ hentry)) hmore hmore']

/-- Two file trees that differ only in content and output have the same templates. -/
theorem composeTemplates_unique (hself : builder.SelfContained base')
    {templates' : ComposedTemplates} (h : builder.composeTemplates base = .ok templates)
    (h' : builder.composeTemplates base' = .ok templates') : templates = templates' := by
  rw [composeTemplates] at h h'
  split at h
  · simp at h
  next layout hlayout =>
    split at h'
    · simp at h'
    next layout' hlayout' =>
      obtain ⟨children, hchildren, rfl⟩ := exists_of_map_eq_ok h
      obtain ⟨children', hchildren', rfl⟩ := exists_of_map_eq_ok h'
      have hmem : ∀ entry ∈ builder.config.childTemplates, Location.resolveTemplate
          builder.paths.templates (.file builder.paths.templates) entry.2 ∈
            builder.templateLocations := fun entry hentry ↦
        List.mem_cons_of_mem _ (List.mem_map_of_mem hentry)
      rw [composeLayout_unique hbase hbase' hrevises hself hlayout hlayout',
        composeChildren_unique hbase hbase' hrevises hself hmem hchildren hchildren']

end Compositions

end Builder

end StaticSite
