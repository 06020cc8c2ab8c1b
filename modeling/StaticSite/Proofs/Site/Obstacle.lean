import StaticSite.Proofs.Compose.Locality
import StaticSite.Proofs.Compose.Termination
import StaticSite.Proofs.Site.ChildTemplate
import StaticSite.Proofs.Site.History

/-!
# What keeps a full build from starting

A full build looks at the directories, composes the layout and the child templates and reads the
composed layout. What goes wrong there is an obstacle: it is described by the site alone, whatever
else is wrong with it and in whatever order the build comes to it. A build that meets an obstacle
has not come to the output directory yet, so it leaves all files and the templates of the last
build as they were (`step_build_of_obstacle`). Without an obstacle it does come to the output
directory (`exists_prepared_iff`).
-/

namespace StaticSite

open Build

namespace Compose

variable {setting : Setting} {text : String} {base location : Location}

/-- A step ends the composition for want of a template exactly if it fetches one that is missing. -/
theorem step_eq_fetch_error_iff {stack : List Frame} {e : FetchError} :
    (∃ fetched, step setting stack = (.finished (.error (.fetch e)), fetched)) ↔
      ∃ missing, (step setting stack).2 = some missing ∧ setting.source missing = .error e := by
  cases stack with
  | nil => simp [step]
  | cons frame below =>
    cases htokens : frame.tokens with
    | nil => cases below <;> simp [step, htokens, append]
    | cons token tokens =>
      cases token with
      | literal text => simp [step, htokens, append]
      | placeholder p =>
        simp only [step, htokens, append]
        split_ifs <;> simp
      | reference r =>
        simp only [step, htokens]
        split_ifs
        · simp
        · cases hsource : setting.source (target setting.root frame.location r.name) <;>
            simp [hsource]

end Compose

namespace Builder

variable {builder : Builder} {tree : FileTree} {location : Location} {e : BuildError}
  {templates : ComposedTemplates} {renderer : Renderer}

/-- The location of the layout. -/
def layoutLocation (builder : Builder) : Location :=
  Location.resolve builder.paths.templates (.file builder.paths.templates) builder.config.layout

/-- Why there is no composed text of a template. -/
inductive TemplateFails (builder : Builder) (tree : FileTree) (location : Location) :
    BuildError → Prop
  /-- The template cannot be fetched. -/
  | fetch {e : FetchError} (source_eq : tree.source builder.config.retries location = .error e) :
      TemplateFails builder tree location (.compose location (.fetch e))
  /-- A template that it leads to, through however many others, cannot be fetched. -/
  | missing {text : String} {missing : Location} {e : FetchError}
      (source_eq : tree.source builder.config.retries location = .ok text)
      (reads : Compose.Reads (builder.setting tree) text location missing)
      (missing_eq : tree.source builder.config.retries missing = .error e) :
      TemplateFails builder tree location (.compose location (.fetch e))
  /-- A stack that the composition comes to, of whatever depth, closes a cycle. -/
  | cycle {text : String} {stack : List Compose.Frame} {chain : List String}
      {fetched : Option Location}
      (source_eq : tree.source builder.config.retries location = .ok text)
      (reachable : Compose.Reachable (builder.setting tree)
        [.ofTemplate location.canonical text []] stack)
      (step_eq : Compose.step (builder.setting tree) stack =
        (.finished (.error (.cycle chain)), fetched)) :
      TemplateFails builder tree location (.compose location (.cycle chain))
  /-- The composition does not come to an end. -/
  | endless {text : String} (source_eq : tree.source builder.config.retries location = .ok text)
      (compose?_eq : Compose.compose? (builder.setting tree) text location = none) :
      TemplateFails builder tree location (.compose location .endless)

/-- What is wrong with a site so that no full build of it can start. -/
inductive Obstacle (builder : Builder) (tree : FileTree) : BuildError → Prop
  /-- There is no directory of templates. -/
  | noTemplates (missing : ¬ tree.isDirectory builder.paths.templates) :
      Obstacle builder tree (.missingDirectory .template builder.paths.templates)
  /-- There is no directory of content. -/
  | noContent (missing : ¬ tree.isDirectory builder.paths.content) :
      Obstacle builder tree (.missingDirectory .content builder.paths.content)
  /-- The output directory and that of content are not apart. -/
  | overContent (overlaps : overlaps tree builder.paths.output builder.paths.content) :
      Obstacle builder tree (.unsafeOutput builder.paths.output .content builder.paths.content)
  /-- The output directory and that of templates are not apart. -/
  | overTemplates (overlaps : overlaps tree builder.paths.output builder.paths.templates) :
      Obstacle builder tree (.unsafeOutput builder.paths.output .template builder.paths.templates)
  /-- There is a layout, or a web address of one, but no composed text of it. -/
  | layout {e : BuildError}
      (present : ∀ path, builder.layoutLocation = .file path → tree.hasEntry path)
      (fails : builder.TemplateFails tree builder.layoutLocation e) : Obstacle builder tree e
  /-- There is no composed text of a child template. -/
  | child {key path : String} {e : BuildError} (mem : (key, path) ∈ builder.config.childTemplates)
      (fails : builder.TemplateFails tree (builder.childLocation path) e) : Obstacle builder tree e
  /-- The composed layout is not the text of a layout. -/
  | malformed {layout : String} {e : RenderError}
      (composeLayout_eq : builder.composeLayout tree = .ok layout)
      (ofLayout_eq : Renderer.ofLayout layout = .error e) :
      Obstacle builder tree (.render (builder.paths.templates.join ⟨builder.config.layout⟩) e)

/-! ## Templates -/

private theorem composeTemplate_of_source {text : String}
    (h : tree.source builder.config.retries location = .ok text) :
    builder.composeTemplate tree location = .error e ↔
      ∃ cause, (Compose.compose (builder.setting tree) text location).result = .error cause ∧
        .compose location cause = e := by
  rw [composeTemplate, h]
  simp only [Compose.composeTidied]
  cases (Compose.compose (builder.setting tree) text location).result <;>
    simp [Except.map, Except.mapError]

/-- There is no composed text of a template exactly for these reasons. -/
theorem composeTemplate_eq_error_iff :
    builder.composeTemplate tree location = .error e ↔ builder.TemplateFails tree location e := by
  constructor
  · intro h
    cases hsource : tree.source builder.config.retries location with
    | error cause =>
      rw [composeTemplate, hsource] at h
      cases h
      exact .fetch hsource
    | ok text =>
      obtain ⟨cause, hcause, rfl⟩ := (composeTemplate_of_source hsource).mp h
      cases cause with
      | fetch cause =>
        obtain ⟨stack, fetched, hreachable, hstep⟩ :=
          (Compose.compose_eq_error_iff (by simp)).mp hcause
        obtain ⟨missing, hfetch, hmissing⟩ := Compose.step_eq_fetch_error_iff.mp ⟨fetched, hstep⟩
        exact .missing hsource ⟨stack, hreachable, hfetch⟩ hmissing
      | cycle chain =>
        obtain ⟨stack, fetched, hreachable, hstep⟩ :=
          (Compose.compose_eq_error_iff (by simp)).mp hcause
        exact .cycle hsource hreachable hstep
      | endless =>
        refine .endless hsource ?_
        -- A composition that comes to an end does not find itself to be endless.
        by_contra hsome
        obtain ⟨composed, hcomposed⟩ := Option.ne_none_iff_exists'.mp hsome
        rw [Compose.compose, hcomposed, Option.getD_some] at hcause
        obtain ⟨n, hn⟩ := Compose.run_eq_some_iff.mp hcomposed
        exact Compose.ne_endless_of_runFor hn hcause
  · intro h
    cases h with
    | fetch hsource => rw [composeTemplate, hsource]
    | missing hsource hreads hmissing =>
      obtain ⟨stack, hreachable, hfetch⟩ := hreads
      obtain ⟨fetched, hstep⟩ := Compose.step_eq_fetch_error_iff.mpr ⟨_, hfetch, hmissing⟩
      exact (composeTemplate_of_source hsource).mpr
        ⟨_, (Compose.compose_eq_error_iff (by simp)).mpr ⟨_, _, hreachable, hstep⟩, rfl⟩
    | cycle hsource hreachable hstep =>
      exact (composeTemplate_of_source hsource).mpr
        ⟨_, (Compose.compose_eq_error_iff (by simp)).mpr ⟨_, _, hreachable, hstep⟩, rfl⟩
    | endless hsource hendless =>
      refine (composeTemplate_of_source hsource).mpr ⟨_, ?_, rfl⟩
      rw [Compose.compose, hendless, Option.getD_none]

theorem composeLayout_eq_error_iff : builder.composeLayout tree = .error e ↔
    (∀ path, builder.layoutLocation = .file path → tree.hasEntry path) ∧
      builder.TemplateFails tree builder.layoutLocation e := by
  rw [← composeTemplate_eq_error_iff, layoutLocation, composeLayout]
  cases Location.resolve builder.paths.templates (.file builder.paths.templates)
      builder.config.layout with
  | remote url => simp
  | file path =>
    by_cases hentry : tree.hasEntry path
    · simp [hentry]
    · simp [hentry]

/-- The composition of a table fails if that of one of its child templates does. -/
theorem exists_composeChildren_eq_error {table : Table String} {entry : String × String}
    (hmem : entry ∈ table) (hfails : builder.TemplateFails tree (builder.childLocation entry.2) e) :
    ∃ first, builder.composeChildren tree table = .error first := by
  induction table with
  | nil => cases hmem
  | cons head rest ih =>
    obtain ⟨key, path⟩ := head
    rw [composeChildren]
    rcases List.mem_cons.mp hmem with rfl | hmem
    · have hchild := composeTemplate_eq_error_iff.mpr hfails
      rw [childLocation] at hchild
      simp [hchild]
    · obtain ⟨first, hfirst⟩ := ih hmem
      rw [hfirst]
      split
      · exact ⟨_, rfl⟩
      · exact ⟨first, rfl⟩

/-- If the composition of a table fails, it does with the error of one of its child templates. -/
theorem exists_of_composeChildren_eq_error {table : Table String}
    (h : builder.composeChildren tree table = .error e) :
    ∃ entry ∈ table, builder.TemplateFails tree (builder.childLocation entry.2) e := by
  induction table with
  | nil => cases h
  | cons entry rest ih =>
    obtain ⟨key, path⟩ := entry
    rw [composeChildren] at h
    split at h
    · next cause hcause =>
      obtain rfl := Except.error.inj h
      exact ⟨_, List.mem_cons_self, composeTemplate_eq_error_iff.mp hcause⟩
    · cases hrest : builder.composeChildren tree rest with
      | error cause =>
        rw [hrest] at h
        obtain rfl := Except.error.inj h
        obtain ⟨entry, hentry, hfails⟩ := ih hrest
        exact ⟨entry, List.mem_cons_of_mem _ hentry, hfails⟩
      | ok more => simp [hrest, Except.map] at h

/-! ## Builds -/

/-- What a full build has before it comes to the output directory. -/
def prepared (builder : Builder) (tree : FileTree) :
    Except BuildError (ComposedTemplates × Renderer) :=
  match builder.directoryError? tree with
  | some e => .error e
  | none =>
    match builder.composeTemplates tree with
    | .error e => .error e
    | .ok templates => (builder.renderer templates).map fun renderer => (templates, renderer)

theorem directoryError?_eq_none_iff : builder.directoryError? tree = none ↔
    tree.isDirectory builder.paths.templates ∧ tree.isDirectory builder.paths.content ∧
      ¬ overlaps tree builder.paths.output builder.paths.content ∧
      ¬ overlaps tree builder.paths.output builder.paths.templates := by
  simp only [directoryError?]
  split_ifs <;> simp_all

theorem obstacle_of_directoryError? (h : builder.directoryError? tree = some e) :
    builder.Obstacle tree e := by
  simp only [directoryError?] at h
  split_ifs at h with htemplates hcontent hover hoverTemplates
  · obtain rfl := Option.some.inj h
    exact .noTemplates (by simpa using htemplates)
  · obtain rfl := Option.some.inj h
    exact .noContent (by simpa using hcontent)
  · obtain rfl := Option.some.inj h
    exact .overContent hover
  · obtain rfl := Option.some.inj h
    exact .overTemplates hoverTemplates

theorem obstacle_of_composeTemplates (h : builder.composeTemplates tree = .error e) :
    builder.Obstacle tree e := by
  rw [composeTemplates] at h
  split at h
  · next cause hlayout =>
    obtain rfl := Except.error.inj h
    obtain ⟨hpresent, hfails⟩ := composeLayout_eq_error_iff.mp hlayout
    exact .layout hpresent hfails
  · cases hchildren : builder.composeChildren tree builder.config.childTemplates with
    | error cause =>
      rw [hchildren] at h
      obtain rfl := Except.error.inj h
      obtain ⟨⟨key, path⟩, hmem, hfails⟩ := exists_of_composeChildren_eq_error hchildren
      exact .child hmem hfails
    | ok children => simp [hchildren, Except.map] at h

theorem composeLayout_of_composeTemplates (h : builder.composeTemplates tree = .ok templates) :
    builder.composeLayout tree = .ok templates.layout ∧
      builder.composeChildren tree builder.config.childTemplates = .ok templates.children := by
  rw [composeTemplates] at h
  split at h
  · cases h
  · next layout hlayout =>
    cases hchildren : builder.composeChildren tree builder.config.childTemplates with
    | error e => simp [hchildren, Except.map] at h
    | ok children =>
      rw [hchildren] at h
      obtain rfl : ⟨layout, children⟩ = templates := Except.ok.inj h
      exact ⟨hlayout, rfl⟩

/-- What ends a full build before it comes to the output directory is an obstacle. -/
theorem obstacle_of_prepared (h : builder.prepared tree = .error e) : builder.Obstacle tree e := by
  rw [prepared] at h
  split at h
  · next cause hdirectories =>
    obtain rfl := Except.error.inj h
    exact obstacle_of_directoryError? hdirectories
  split at h
  · next cause hcomposed =>
    obtain rfl := Except.error.inj h
    exact obstacle_of_composeTemplates hcomposed
  next templates hcomposed =>
  rw [renderer] at h
  cases hlayout : Renderer.ofLayout templates.layout with
  | error cause =>
    rw [hlayout] at h
    obtain rfl := Except.error.inj h
    exact .malformed (composeLayout_of_composeTemplates hcomposed).1 hlayout
  | ok renderer => simp [hlayout, Except.map, Except.mapError] at h

/-- A full build that comes to the output directory has met no obstacle. -/
theorem not_obstacle_of_prepared {found : ComposedTemplates × Renderer}
    (h : builder.prepared tree = .ok found) : ¬ builder.Obstacle tree e := by
  rw [prepared] at h
  split at h
  · cases h
  next hdirectories =>
  obtain ⟨htemplates, hcontent, hover, hoverTemplates⟩ :=
    directoryError?_eq_none_iff.mp hdirectories
  split at h
  · cases h
  next templates hcomposed =>
  obtain ⟨hlayout, hchildren⟩ := composeLayout_of_composeTemplates hcomposed
  intro hobstacle
  cases hobstacle with
  | noTemplates hmissing => exact hmissing htemplates
  | noContent hmissing => exact hmissing hcontent
  | overContent hoverlaps => exact hover hoverlaps
  | overTemplates hoverlaps => exact hoverTemplates hoverlaps
  | layout hpresent hfails =>
    rw [composeLayout_eq_error_iff.mpr ⟨hpresent, hfails⟩] at hlayout
    cases hlayout
  | child hmem hfails =>
    obtain ⟨first, hfirst⟩ := exists_composeChildren_eq_error hmem hfails
    rw [hfirst] at hchildren
    cases hchildren
  | malformed hcompose hmalformed =>
    obtain rfl := Except.ok.inj (hcompose.symm.trans hlayout)
    simp [renderer, hmalformed, Except.map, Except.mapError] at h

/-- A full build comes to the output directory exactly if there is no obstacle. -/
theorem exists_prepared_iff :
    (∃ found, builder.prepared tree = .ok found) ↔ ∀ e, ¬ builder.Obstacle tree e := by
  constructor
  · rintro ⟨found, hfound⟩ e
    exact not_obstacle_of_prepared hfound
  · intro h
    cases hprepared : builder.prepared tree with
    | error e => exact absurd (obstacle_of_prepared hprepared) (h e)
    | ok found => exact ⟨found, rfl⟩

/-- A full build that does not come to the output directory changes no file. -/
theorem fails_build_of_prepared (h : builder.prepared tree = .error e) :
    builder.build.Fails tree e tree := by
  rw [build]
  refine fails_bind.mpr (Or.inr ⟨tree, tree, gives_files.mpr ⟨rfl, rfl⟩, ?_⟩)
  rw [prepared] at h
  cases hdirectories : builder.directoryError? tree with
  | some cause =>
    simp only [hdirectories] at h ⊢
    exact fails_fail.mpr ⟨Except.error.inj h, rfl⟩
  | none =>
    simp only [hdirectories] at h ⊢
    cases hcomposed : builder.composeTemplates tree with
    | error cause =>
      simp only [hcomposed] at h ⊢
      exact fails_fail.mpr ⟨Except.error.inj h, rfl⟩
    | ok templates =>
      simp only [hcomposed] at h ⊢
      cases hrenderer : builder.renderer templates with
      | error cause =>
        simp only [hrenderer] at h ⊢
        exact fails_fail.mpr ⟨Except.error.inj h, rfl⟩
      | ok renderer => simp [hrenderer, Except.map] at h

/-- A full build that cannot start leaves everything as it was: whatever the obstacle is, the build
ends with the error of an obstacle and with the same files, the output among them, and the builder
keeps its templates. So does a rebuild that falls back to a full build. -/
theorem step_build_of_obstacle (h : builder.Obstacle tree e) :
    (∃ first, builder.Obstacle tree first ∧ builder.build.Fails tree first tree) ∧
      Situation.step ⟨tree, builder⟩ .build = ⟨tree, builder⟩ ∧
      ∀ scope, builder.isTargeted scope = false →
        Situation.step ⟨tree, builder⟩ (.rebuild scope) = ⟨tree, builder⟩ := by
  obtain ⟨first, hfirst⟩ : ∃ first, builder.prepared tree = .error first := by
    cases hprepared : builder.prepared tree with
    | error first => exact ⟨first, rfl⟩
    | ok found => exact absurd h (not_obstacle_of_prepared hprepared)
  have hfails := fails_build_of_prepared hfirst
  have hstep : Situation.step ⟨tree, builder⟩ .build = ⟨tree, builder⟩ :=
    Situation.after_of_fails hfails
  refine ⟨⟨first, obstacle_of_prepared hfirst, hfails⟩, hstep, fun scope hscope ↦ ?_⟩
  calc Situation.step ⟨tree, builder⟩ (.rebuild scope)
      = Situation.step ⟨tree, builder⟩ .build := by
        rw [Situation.step, Situation.step, rebuild_eq_build hscope]
    _ = ⟨tree, builder⟩ := hstep

/-! ## A layout that leads to a missing template -/

/-- A text that begins with a reference to a template that begins with another reference leads to
the template of that one. -/
private theorem reads_of_included {setting : Compose.Setting} {text inner : String}
    {r s : Marker.Reference} {tokens innerTokens : List Marker.Token} {first second : Location}
    (htext : Marker.tokenize text = .reference r :: tokens)
    (hfirst : Compose.target setting.root location.canonical r.name = first)
    (hsource : setting.source first = .ok inner)
    (hinner : Marker.tokenize inner = .reference s :: innerTokens)
    (hsecond : Compose.target setting.root first s.name = second)
    (hfresh : location.canonical ≠ first ∧ first ≠ second ∧ location.canonical ≠ second) :
    Compose.Reads setting text location second := by
  obtain ⟨hfirstFresh, hsecondFresh, hsecondRoot⟩ := hfresh
  refine ⟨[.ofTemplate first inner r.params,
    { Compose.Frame.ofTemplate location.canonical text [] with tokens }],
    .single ⟨some first, ?_⟩, ?_⟩
  · simp [Compose.step, Compose.Frame.ofTemplate, htext, hfirst, hfirstFresh, hsource]
  · simp only [Compose.step, Compose.Frame.ofTemplate, hinner, hsecond]
    rw [if_neg (by simp [hsecondFresh, hsecondRoot])]
    split <;> rfl

/-- The site with a layout that leads to a missing template through another one. -/
def unfinished : FileTree :=
  layered "\x7b\x7b nav \x7d\x7d" "b"
    [(["template", "nav.html"], .file (.text "\x7b\x7b nowhere \x7d\x7d")), outputOfA "1",
      outputOfB "1"]

/-- The error of the missing template. -/
def nowhereError : BuildError :=
  .compose (.file ⟨"template/layout.html"⟩) (.fetch
    (.exhausted "template/nowhere.html" 4 (.io "template/nowhere.html" .missing)))

private theorem obstacle_unfinished :
    (layeredBuilder (some ⟨"1", []⟩)).Obstacle unfinished nowhereError := by
  have hlayout : Marker.tokenize "\x7b\x7b nav \x7d\x7d" = [.reference ⟨"nav", []⟩] :=
    Marker.tokenize_of_read? (show _ = some (.reference ⟨"nav", []⟩, []) by cbv)
  have hnav : Marker.tokenize "\x7b\x7b nowhere \x7d\x7d" = [.reference ⟨"nowhere", []⟩] :=
    Marker.tokenize_of_read? (show _ = some (.reference ⟨"nowhere", []⟩, []) by cbv)
  have hfirst : Compose.target ⟨"template"⟩ (.file ⟨"template/layout.html"⟩) "nav" =
      .file ⟨"template/nav.html"⟩ := rfl
  have hsecond : Compose.target ⟨"template"⟩ (.file ⟨"template/nav.html"⟩) "nowhere" =
      .file ⟨"template/nowhere.html"⟩ := rfl
  have hreads : Compose.Reads ((layeredBuilder (some ⟨"1", []⟩)).setting unfinished)
      "\x7b\x7b nav \x7d\x7d" (.file ⟨"template/layout.html"⟩) (.file ⟨"template/nowhere.html"⟩) :=
    reads_of_included hlayout hfirst rfl hnav hsecond (by decide)
  have hlocation : (layeredBuilder (some ⟨"1", []⟩)).layoutLocation =
      .file ⟨"template/layout.html"⟩ := rfl
  refine .layout (fun path hpath ↦ ?_) ?_
  · obtain rfl := Location.file.inj (hlocation.symm.trans hpath)
    rfl
  · rw [hlocation]
    exact .missing rfl hreads rfl

/-- A site is built with a layout that leads to a missing template. The build fails, and the last
output and the last templates are kept. -/
theorem step_build_unfinished :
    (layeredBuilder (some ⟨"1", []⟩)).Obstacle unfinished nowhereError ∧
      Situation.step ⟨unfinished, layeredBuilder (some ⟨"1", []⟩)⟩ .build =
        ⟨unfinished, layeredBuilder (some ⟨"1", []⟩)⟩ :=
  ⟨obstacle_unfinished, (step_build_of_obstacle obstacle_unfinished).2.1⟩

end Builder

end StaticSite
