import StaticSite.Preview.Start
import StaticSite.Proofs.FileTree.Canonical
import StaticSite.Proofs.Preview.Rebuild
import StaticSite.Proofs.Site.Retention
import StaticSite.Proofs.Site.Sealed

/-!
# What a preview starts with

A preview starts if its configuration can be loaded and its site can be built (`exists_start`), and
not otherwise (`exists_of_start`). The path of its configuration file, the directory under which its
builder takes relative paths, the formats and whether pages reload are settled then: no history
changes them (`keeps_run`), and a configuration that is loaded again is built with them
(`exists_of_handle_config`).
-/

namespace StaticSite.Preview

open StaticSite.Path Build FileTree

variable {environment : List (String × String)} {configFile : Path} {watch : Bool}
  {session later : Session} {files files₁ : FileTree} {preview reloaded : Preview}
  {events : List WatchEvent} {config : Config} {result : BuildResult} {rebuilt : Builder}

/-- The path of a configuration file. -/
def configPathOf (files : FileTree) (configFile : Path) : Path :=
  files.canonicalOr (Config.filePath files (some configFile))

/-- The directory under which the paths of a configuration file are taken. -/
def baseOf (files : FileTree) (configFile : Path) : Path :=
  files.canonicalOr (configPathOf files configFile).configDirectory

/-- The builder of the first build. -/
def starter (files : FileTree) (configFile : Path) (watch : Bool) (config : Config) : Builder :=
  .ofConfig config (baseOf files configFile) .standard (watch && config.preview.liveReload)

/-! ## The first build -/

theorem work_build_eq {α : Type} {work : Build α} {a : α} (h : work.Gives session.files a files) :
    Work.build work session = (.ok a, { session with files }) := by
  have hattempt : Work.attemptBuild work session = (.ok (.ok a), { session with files }) := by
    rw [Work.attemptBuild, h]
  rw [Work.build, Work.bind_eq hattempt]
  rfl

theorem eq_of_attemptBuild {α : Type} {work : Build α} {found : Except BuildError α}
    (h : Work.attemptBuild work session = (.ok found, later)) :
    work session.files = (found, later.files) := by
  rw [Work.attemptBuild] at h
  cases hwork : work session.files with
  | mk result tree =>
    rw [hwork] at h
    obtain ⟨hresult, rfl⟩ := Prod.mk.inj h
    rw [Except.ok.inj hresult]

theorem gives_of_work_build {α : Type} {work : Build α} {a : α}
    (h : Work.build work session = (.ok a, later)) : work.Gives session.files a later.files := by
  obtain ⟨found, middle, hattempt, hfound⟩ := Work.exists_of_bind h
  obtain ⟨rfl, rfl⟩ := Work.exists_of_ofExcept hfound
  exact eq_of_attemptBuild hattempt

/-- A preview starts if its configuration can be loaded and its site can be built. -/
theorem exists_start (environment : List (String × String)) (configFile : Path) (watch : Bool)
    (session : Session)
    (hload : Config.load session.files environment (configPathOf session.files configFile) =
      .ok config)
    (hbuild : (starter session.files configFile watch config).build.Gives session.files
      (result, rebuilt) files) :
    ∃ later, start environment configFile watch session =
        (.ok ⟨rebuilt, configPathOf session.files configFile, baseOf session.files configFile,
          watch && config.preview.liveReload⟩, later) ∧ later.files = files := by
  have hread : Work.files session = (.ok session.files, session) := rfl
  have hconfig : Work.ofExcept .config (Config.load session.files environment
      (session.files.canonicalOr (Config.filePath session.files (some configFile)))) session =
        (.ok config, session) := by
    rw [← configPathOf, hload]
    rfl
  obtain ⟨said, hsay, hsaid⟩ : ∃ said, Work.say "Building site..." session = (.ok (), said) ∧
      said.files = session.files := ⟨_, rfl, rfl⟩
  have hbuilt : Work.build (starter session.files configFile watch config).build said =
      (.ok (result, rebuilt), { said with files }) := by
    refine work_build_eq ?_
    rw [hsaid]
    exact hbuild
  obtain ⟨later, hreport, hlater⟩ := Work.reportBuild_eq result { said with files }
  refine ⟨later, ?_, hlater⟩
  rw [start, Work.bind_eq hread, Work.bind_eq hconfig, Work.bind_eq hsay]
  exact (Work.bind_eq hbuilt).trans (Work.bind_eq hreport)

/-- A preview that has started has loaded its configuration and built its site. -/
theorem exists_of_start (h : start environment configFile watch session = (.ok preview, later)) :
    ∃ config result,
      Config.load session.files environment (configPathOf session.files configFile) = .ok config ∧
      (starter session.files configFile watch config).build.Gives session.files
        (result, preview.builder) later.files ∧
      preview.configPath = configPathOf session.files configFile ∧
      preview.base = baseOf session.files configFile ∧
      preview.liveReload = (watch && config.preview.liveReload) := by
  obtain ⟨files, begun, hread, h⟩ := Work.exists_of_bind h
  obtain ⟨hfiles, rfl⟩ := Prod.mk.inj hread
  obtain rfl : session.files = files := Except.ok.inj hfiles
  obtain ⟨config, begun, hread, h⟩ := Work.exists_of_bind h
  obtain ⟨hload, rfl⟩ := Work.exists_of_ofExcept hread
  obtain ⟨⟨⟩, said, hsay, h⟩ := Work.exists_of_bind h
  have hsaid : said.files = session.files := by
    obtain ⟨-, rfl⟩ := Prod.mk.inj hsay
    rfl
  obtain ⟨⟨result, rebuilt⟩, built, hbuild, h⟩ := Work.exists_of_bind h
  obtain ⟨⟨⟩, reported, hreport, h⟩ := Work.exists_of_bind h
  obtain ⟨middle, hreported, hmiddle⟩ := Work.reportBuild_eq result built
  obtain ⟨-, rfl⟩ := Prod.mk.inj (hreported.symm.trans hreport)
  obtain ⟨hpreview, rfl⟩ := Prod.mk.inj h
  obtain rfl := Except.ok.inj hpreview
  have hgives := gives_of_work_build hbuild
  rw [hsaid, ← hmiddle] at hgives
  refine ⟨config, result, hload, hgives, rfl, ?_, rfl⟩
  rw [baseOf, configPathOf]

/-- A start keeps the current directory and leaves the files in order. -/
theorem current_of_start (hclosed : session.files.Closed)
    (h : start environment configFile watch session = (.ok preview, later)) :
    later.files.current = session.files.current ∧ later.files.Closed := by
  obtain ⟨config, result, -, hbuild, -⟩ := exists_of_start h
  exact Builder.current_of_build hclosed hbuild

/-- The content of a site that is previewed is there. -/
theorem isDirectory_content_of_start
    (h : start environment configFile watch session = (.ok preview, later)) :
    later.files.isDirectory preview.builder.paths.content := by
  obtain ⟨config, result, -, hbuild, -⟩ := exists_of_start h
  obtain ⟨templates, -, -, -, -, -, -, -, -, -, hbuilder⟩ := Builder.gives_build.mp hbuild
  have hpaths : preview.builder.paths = (starter session.files configFile watch config).paths := by
    rw [hbuilder]
  rw [hpaths]
  exact Builder.isDirectory_content_of_build hbuild

/-! ## What the preview relies on -/

/-- Whether a preview takes its directories under an absolute path, and knows the formats of every
site. -/
structure IsSetUp (preview : Preview) : Prop where
  base : preview.base.isAbsolute
  paths : preview.builder.paths = preview.builder.config.paths.resolve preview.base
  registry : preview.builder.registry = .standard

/-- The root is no configuration file. -/
theorem not_load_root {path : Path} (h : path.components = [.root]) :
    Config.load files environment path ≠ .ok config := by
  have hdirectory : files.isDirectory path := by
    refine isDirectory_iff.mpr ⟨text_ne_empty (by rw [h]; exact List.cons_ne_nil _ _), ?_, ?_⟩
    · rw [h]
      exact passable_of_notMem (by simp)
    · rw [placeOf, h]
      rfl
  have hread : files.readText path = .error .isDirectory := by
    rw [FileTree.isDirectory] at hdirectory
    split at hdirectory
    · next place hlookup => rw [readText, FileTree.read, hlookup]
    · cases hdirectory
  rw [Config.load, Config.read, if_pos (hasEntry_of_isDirectory hdirectory), hread]
  simp

theorem isAbsolute_configPathOf (files : FileTree) (configFile : Path) :
    (configPathOf files configFile).isAbsolute :=
  isAbsolute_canonicalOr (isAbsolute_join (isAbsolute_pathOf _))

private theorem isAbsolute_baseOf
    (hload : Config.load files environment (configPathOf files configFile) = .ok config) :
    (baseOf files configFile).isAbsolute := by
  obtain ⟨steps, hsteps⟩ := exists_components_of_isAbsolute (isAbsolute_configPathOf files configFile)
  rcases List.eq_nil_or_concat' steps with rfl | ⟨front, last, rfl⟩
  · exact absurd hload (not_load_root hsteps)
  have hsplit : (configPathOf files configFile).components = (.root :: front) ++ [last] := hsteps
  have hlast : last ≠ .root := by
    rintro rfl
    exact isStep_of_components hsplit (List.cons_ne_nil _ _) _ List.mem_cons_self
  obtain ⟨directory, hparent, hdirectory⟩ := exists_parent? hsplit hlast
  rw [baseOf, configDirectory, hparent]
  exact isAbsolute_canonicalOr (isAbsolute_of_components hdirectory)

/-- A preview that has started is set up. -/
theorem isSetUp_of_start (h : start environment configFile watch session = (.ok preview, later)) :
    preview.IsSetUp := by
  obtain ⟨config, result, hload, hbuild, hpath, hbase, -⟩ := exists_of_start h
  obtain ⟨templates, -, -, -, -, -, -, -, -, -, hbuilder⟩ := Builder.gives_build.mp hbuild
  refine ⟨?_, ?_, ?_⟩
  · rw [hbase]
    exact isAbsolute_baseOf hload
  · rw [hbuilder, hbase]
    rfl
  · rw [hbuilder]
    rfl

/-! ## What no history changes -/

/-- Whether a preview has kept what an earlier one was set up with. -/
structure Keeps (first now : Preview) : Prop where
  configPath : now.configPath = first.configPath
  base : now.base = first.base
  liveReload : now.liveReload = first.liveReload
  registry : now.builder.registry = first.builder.registry

namespace Keeps

variable {first now : Preview}

theorem refl (first : Preview) : Keeps first first := ⟨rfl, rfl, rfl, rfl⟩

theorem trans {next : Preview} (h : Keeps first now) (h' : Keeps now next) : Keeps first next where
  configPath := h'.configPath.trans h.configPath
  base := h'.base.trans h.base
  liveReload := h'.liveReload.trans h.liveReload
  registry := h'.registry.trans h.registry

/-- What is kept is all that a configuration is built with. -/
theorem builderOf_eq (h : Keeps first now) (config : Config) :
    now.builderOf config = first.builderOf config := by
  rw [builderOf, builderOf, h.base, h.registry, h.liveReload]

end Keeps

/-- A rebuild changes the templates of a builder at most. -/
theorem exists_cache_of_rebuild {builder : Builder} {scope : Scope}
    (h : (builder.rebuild scope).Gives files (result, rebuilt) files₁) :
    ∃ cache, rebuilt = { builder with cache := cache } := by
  unfold Builder.rebuild at h
  split at h
  · split at h
    · exact absurd h not_gives_fail
    · obtain ⟨done, files₂, -, hdone⟩ := gives_bind.mp h
      obtain ⟨hsame, -⟩ := gives_pure.mp hdone
      obtain ⟨-, rfl⟩ := Prod.mk.inj hsame
      exact ⟨_, rfl⟩
  · obtain ⟨templates, -, -, -, -, -, -, -, -, -, rfl⟩ := Builder.gives_build.mp h
    exact ⟨_, rfl⟩

private theorem keeps_rebuilt {builder : Builder} {scope : Scope}
    (h : builder.registry = preview.builder.registry) :
    Keeps preview (preview.rebuilt files builder scope).1 := by
  rw [rebuilt]
  cases hrebuild : builder.rebuild scope files with
  | mk found files₁ =>
    cases found with
    | error e => exact ⟨rfl, rfl, rfl, h⟩
    | ok built =>
      have hgives : (builder.rebuild scope).Gives files (built.1, built.2) files₁ := hrebuild
      obtain ⟨cache, hcache⟩ := exists_cache_of_rebuild hgives
      exact ⟨rfl, rfl, rfl, by simp only [hcache, h]⟩

theorem keeps_settle (environment : List (String × String)) (preview : Preview) (files : FileTree)
    (changes : List Change) : Keeps preview (settle environment preview files changes).1 := by
  rw [settle, plan?]
  split_ifs
  · exact .refl preview
  · cases Config.load files environment preview.configPath with
    | ok config => exact keeps_rebuilt rfl
    | error e => exact .refl preview
  · exact keeps_rebuilt rfl

theorem keeps_advance (environment : List (String × String)) (now : Preview × Session)
    (happening : Happening) : Keeps now.1 (advance environment now happening).1 := by
  cases happening with
  | edit files => exact .refl now.1
  | batch events =>
    have hsituation := congrArg Prod.fst (situation_batch environment now events)
    rw [situation] at hsituation
    rw [hsituation]
    exact keeps_settle environment now.1 now.2.files (changesOf events)

/-- Whatever happens, a preview keeps what it was set up with. -/
theorem keeps_run (environment : List (String × String)) (first : Preview × Session)
    (history : List Happening) : Keeps first.1 (run environment first history).1 := by
  induction history generalizing first with
  | nil => exact .refl first.1
  | cons happening history ih =>
    exact (keeps_advance environment first happening).trans (ih (advance environment first happening))

/-! ## Loading the configuration again -/

/-- A rebuild that browsers are told of has succeeded. -/
theorem gives_of_rebuild {scope : Scope}
    (h : preview.rebuild scope session = (.ok (reloaded, true), later)) :
    (∃ result, (preview.builder.rebuild scope).Gives session.files (result, reloaded.builder)
      later.files) ∧ reloaded = { preview with builder := reloaded.builder } := by
  obtain ⟨found, built, hattempt, h⟩ := Work.exists_of_bind h
  have hwork := eq_of_attemptBuild hattempt
  cases found with
  | error e =>
    obtain ⟨⟨⟩, warned, -, h⟩ := Work.exists_of_bind h
    cases h
  | ok made =>
    obtain ⟨⟨⟩, reported, hreport, h⟩ := Work.exists_of_bind h
    obtain ⟨middle, hreported, hmiddle⟩ := Work.reportBuild_eq made.1 built
    obtain ⟨-, rfl⟩ := Prod.mk.inj (hreported.symm.trans hreport)
    obtain ⟨hpreview, rfl⟩ := Prod.mk.inj h
    obtain rfl := (Prod.mk.inj (Except.ok.inj hpreview)).1
    rw [hmiddle]
    exact ⟨⟨made.1, hwork⟩, rfl⟩

/-- A batch with a change of the configuration that browsers are told of has loaded it again and built
the site with it. -/
theorem exists_of_handle_config (hconfig : .config ∈ changesOf events)
    (h : handle environment preview events session = (.ok (reloaded, true), later)) :
    ∃ config result, Config.load session.files environment preview.configPath = .ok config ∧
      (preview.builderOf config).build.Gives session.files (result, reloaded.builder) later.files ∧
      reloaded = { preview with builder := reloaded.builder } := by
  obtain ⟨middle, hcollect, hmiddle⟩ := collect_eq events session
  rw [handle, Work.bind_eq hcollect, Scope.ofChanges_of_config hconfig] at h
  obtain ⟨⟨⟩, said, hsay, h⟩ := Work.exists_of_bind h
  have hsaid : said.files = session.files := by
    obtain ⟨-, rfl⟩ := Prod.mk.inj hsay
    exact hmiddle
  rw [if_pos rfl] at h
  cases hload : Config.load said.files environment preview.configPath with
  | error e =>
    obtain ⟨kept, hreload, -⟩ := reload?_eq_none hload
    rw [Work.bind_eq hreload] at h
    cases h
  | ok config =>
    obtain ⟨loaded, hreload, hloaded⟩ := reload?_eq_some hload
    rw [Work.bind_eq hreload] at h
    obtain ⟨⟨result, hbuild⟩, hreloaded⟩ := gives_of_rebuild h
    rw [Builder.rebuild_config, hloaded, hsaid] at hbuild
    rw [hsaid] at hload
    exact ⟨config, result, hload, hbuild, hreloaded⟩

/-- A configuration that can be loaded and with which the site can be built is taken over. -/
theorem exists_handle_config (hconfig : .config ∈ changesOf events)
    (hload : Config.load session.files environment preview.configPath = .ok config)
    (hbuild : (preview.builderOf config).build.Gives session.files (result, rebuilt) files) :
    ∃ later, handle environment preview events session =
        (.ok ({ preview with builder := rebuilt }, true), later) ∧ later.files = files := by
  obtain ⟨middle, hcollect, hmiddle⟩ := collect_eq events session
  rw [handle, Work.bind_eq hcollect, Scope.ofChanges_of_config hconfig]
  generalize "\nDetected " ++ toString (changesOf events).length ++ " change(s), rebuilding..." = line
  obtain ⟨said, hsay, hsaid⟩ : ∃ said, Work.say line middle = (.ok (), said) ∧
      said.files = session.files := ⟨_, rfl, hmiddle⟩
  rw [← hsaid] at hload hbuild
  obtain ⟨loaded, hreload, hloaded⟩ := reload?_eq_some hload
  rw [← hloaded] at hbuild
  have hattempt : Work.attemptBuild ((preview.builderOf config).rebuild .config) loaded =
      (.ok (.ok (result, rebuilt)), { loaded with files }) := by
    rw [Work.attemptBuild, Builder.rebuild_config, hbuild]
  obtain ⟨later, hreport, hlater⟩ := Work.reportBuild_eq result { loaded with files }
  refine ⟨later, ?_, hlater⟩
  refine (Work.bind_eq hsay).trans ((Work.bind_eq hreload).trans ?_)
  exact (Work.bind_eq hattempt).trans (Work.bind_eq hreport)

/-! ## A site that is previewed -/

/-- The directory of content of a site, as its configuration has it. -/
def homeContent : Bool → Path
  | true => ⟨"x/../origin"⟩
  | false => ⟨"origin"⟩

/-- The configuration of the site, whose path of the content may go up. -/
def homeConfig (bent live : Bool) : Config :=
  { Config.default with
    paths := { Config.defaultPaths with content := homeContent bent }
    tidy := false
    preview := { Config.defaultPreview with liveReload := live } }

/-- Whether a configuration is that of the site. -/
def isHomeConfig (bent live : Bool) (config : Config) : Bool :=
  let home := homeConfig bent live
  config.site == home.site && config.paths == home.paths && config.layout == home.layout &&
    config.metadataFile == home.metadataFile && config.retries == home.retries &&
    config.tidy == home.tidy && config.childTemplates.isEmpty && config.page.isEmpty &&
    config.preview == home.preview

/-- The site with a page, the text of its configuration file and the output of the page, if it has
been built. -/
def homeTree (text : String) (output : Option String) : FileTree where
  entries := [(["site"], .directory), (["site", "rbuild.yaml"], .file (.text text)),
    (["site", "template"], .directory), (["site", "x"], .directory), (["site", "origin"], .directory),
    (["site", "origin", "a.html"], .file (.text "A")), (["site", "public"], .directory)] ++
      (output.map fun html ↦ (["site", "public", "a.html"], .file (.text html))).toList
  current := ["site"]

/-- The HTML of the page. -/
def homeHtml (reload : Bool) : String := if reload then injectScript "A" liveReloadScript else "A"

/-- The directories of the site, as its builder has them. -/
def homePaths : Bool → Directories
  | true => ⟨⟨"/site/template"⟩, ⟨"/site/x/../origin"⟩, ⟨"/site/public"⟩⟩
  | false => ⟨⟨"/site/template"⟩, ⟨"/site/origin"⟩, ⟨"/site/public"⟩⟩

/-- The page, as the builder finds it. -/
def homePage : Bool → Path
  | true => ⟨"/site/x/../origin/a.html"⟩
  | false => ⟨"/site/origin/a.html"⟩

/-- The builder of the site. -/
def homeBuilder (bent live reload : Bool) (cache : Option ComposedTemplates) : Builder where
  config := homeConfig bent live
  paths := homePaths bent
  registry := .standard
  cache := cache
  liveReload := reload

/-- The preview of the site that has just started. -/
def homePreview (bent live : Bool) : Preview :=
  ⟨homeBuilder bent live live (some Builder.plainTemplates), ⟨"/site/rbuild.yaml"⟩, ⟨"/site"⟩, live⟩

section Home

variable {text : String} {bent live reload : Bool} {output : Option String}

theorem ofYaml?_home (h : (Config.ofYaml? text).any (isHomeConfig bent live)) :
    Config.ofYaml? text = some (homeConfig bent live) := by
  cases hconfig : Config.ofYaml? text with
  | none => simp [hconfig] at h
  | some config =>
    rw [hconfig] at h
    cases config
    simp_all [isHomeConfig, homeConfig, Config.default]

theorem load_home (h : (Config.ofYaml? text).any (isHomeConfig bent live)) :
    Config.load (homeTree text output) [] ⟨"/site/rbuild.yaml"⟩ = .ok (homeConfig bent live) := by
  have hhas : (homeTree text output).hasEntry ⟨"/site/rbuild.yaml"⟩ = true := rfl
  have hread : (homeTree text output).readText ⟨"/site/rbuild.yaml"⟩ = .ok text := rfl
  simp only [Config.load, Config.read, hhas, hread, ofYaml?_home h, if_true]
  rfl

theorem closed_homeTree : (homeTree text output).Closed := by
  have hbelow : ∀ item ∈ (homeTree text output).entries, (∀ name ∈ item.1, IsName name) ∧
      (homeTree text output).get? item.1.dropLast = some .directory := by
    intro item hitem
    cases output <;> fin_cases hitem <;> exact ⟨by dsimp only; decide, rfl⟩
  cases output <;> exact .of_entries (by simp [homeTree]) hbelow (by simp [homeTree, IsName])

private theorem directoryError?_home :
    (homeBuilder bent live reload none).directoryError? (homeTree text output) = none := by
  have hsame (a b : Path) : Builder.overlaps (homeTree text output) a b =
      Builder.overlaps (homeTree "" none) a b := rfl
  have htemplates : (homeTree text output).isDirectory (homePaths bent).templates = true := by
    cases bent <;> rfl
  have hcontent : (homeTree text output).isDirectory (homePaths bent).content = true := by
    cases bent <;> rfl
  have hapart : ∀ bent, Builder.overlaps (homeTree "" none) (homePaths bent).output
      (homePaths bent).content = false := by decide +kernel
  have hapart' : ∀ bent, Builder.overlaps (homeTree "" none) (homePaths bent).output
      (homePaths bent).templates = false := by decide +kernel
  simp [Builder.directoryError?, homeBuilder, hsame, htemplates, hcontent, hapart, hapart']

private theorem composeTemplates_home :
    (homeBuilder bent live reload none).composeTemplates (homeTree text output) =
      .ok Builder.plainTemplates := by
  have hlocation : ∀ bent, Location.resolve (homePaths bent).templates
      (.file (homePaths bent).templates) "layout.html" = .file ⟨"/site/template/layout.html"⟩ := by
    decide +kernel
  have hlayout : (homeTree text output).hasEntry ⟨"/site/template/layout.html"⟩ = false := by
    cases output <;> rfl
  exact Builder.composeTemplates_of_not_hasEntry (hlocation bent) hlayout rfl

private theorem gives_prepareOutput_home :
    (homeBuilder bent live reload none).prepareOutput.Gives (homeTree text output) ()
      (homeTree text none) := by
  have hhas : (homeTree text output).hasEntry (homePaths bent).output = true := by
    cases bent <;> rfl
  have hempty : (homeTree text output).emptyDirectory (homePaths bent).output =
      .ok (homeTree text none) := by
    cases bent <;> cases output <;> rfl
  exact Builder.gives_prepareOutput_of_emptyDirectory hhas hempty

private theorem walk_home : (homeTree text none).walk ((homeTree text none).depth + 1)
    (homePaths bent).content = .ok [homePage bent] := by
  have hlist : (homeTree text none).list (homePaths bent).content = .ok ["a.html"] := by
    cases bent <;> rfl
  simp only [FileTree.walk, FileTree.walkNames, hlist]
  cases bent <;> rfl

theorem pageHtml_home (written : Bool) {cache : Option ComposedTemplates} :
    (homeBuilder bent live reload cache).pageHtml (homeTree text output) Builder.plainTemplates
      .identity (homePage written) = .ok (homeHtml reload) := by
  have hread : (homeTree text output).readText (homePage written) = .ok "A" := by
    cases written <;> rfl
  have hformat : Registry.standard.forPath? (homePage written) = some .html := by
    cases written <;> rfl
  have hplain : { homeBuilder bent live reload cache with liveReload := false }.pageHtml
      (homeTree text output) Builder.plainTemplates .identity (homePage written) = .ok "A" :=
    Builder.pageHtml_of_fillMarkers rfl rfl hformat hread (Marker.isPlain_of_not_mem (by decide)) rfl
  exact Builder.pageHtml_of_liveReload reload hplain

private theorem gives_buildFiles_home : ((homeBuilder bent live reload none).buildFiles
    Builder.plainTemplates .identity [homePage bent] ⟨⟨"/site/public"⟩, 0, 0, 0, []⟩).Gives
      (homeTree text none) ⟨⟨"/site/public"⟩, 1, 0, 0, []⟩ (homeTree text (homeHtml reload)) := by
  have houtput : ∀ bent live reload, (homeBuilder bent live reload none).outputPath?
      (homePage bent) = some ⟨"/site/public/a.html"⟩ := by decide +kernel
  have hpage : (homeBuilder bent live reload none).registry.isPage (homePage bent) := by
    cases bent <;> rfl
  rw [Builder.buildFiles, if_pos hpage]
  exact gives_bind.mpr ⟨_, _, Builder.gives_notePage_of_writeOutput (pageHtml_home bent)
    (houtput bent live reload) rfl, gives_pure.mpr ⟨rfl, rfl⟩⟩

theorem gives_build_home : (homeBuilder bent live reload none).build.Gives (homeTree text output)
    (⟨⟨"/site/public"⟩, 1, 0, 0, []⟩, homeBuilder bent live reload (some Builder.plainTemplates))
    (homeTree text (homeHtml reload)) := by
  refine Builder.gives_build_of_walk (homeTree text none) [homePage bent] directoryError?_home
    composeTemplates_home gives_prepareOutput_home walk_home (by simp) ?_
  cases bent <;> exact gives_buildFiles_home

theorem filePath_home : Config.filePath (homeTree text output) (some ⟨"rbuild.yaml"⟩) =
    pathOf ["site", "rbuild.yaml"] := by
  change (pathOf ["site"]).join ⟨"rbuild.yaml"⟩ = _
  decide

theorem resolve_home : (homeConfig bent live).paths.resolve ⟨"/site"⟩ = homePaths bent := by
  cases bent <;> cases live <;> decide

/-- The site is previewed. -/
theorem exists_start_home (h : (Config.ofYaml? text).any (isHomeConfig bent live))
    (output : Option String) :
    ∃ later, start [] ⟨"rbuild.yaml"⟩ true { files := homeTree text output } =
        (.ok (homePreview bent live), later) ∧ later.files = homeTree text (homeHtml live) := by
  have hpath : configPathOf (homeTree text output) ⟨"rbuild.yaml"⟩ = ⟨"/site/rbuild.yaml"⟩ := by
    have hlookup : (homeTree text output).lookup ⟨"/site/rbuild.yaml"⟩ =
        .ok (["site", "rbuild.yaml"], .file (.text text)) := rfl
    have hfile : pathOf ["site", "rbuild.yaml"] = ⟨"/site/rbuild.yaml"⟩ := by decide
    rw [configPathOf, filePath_home, hfile, canonicalOr_eq hlookup, hfile]
  have hbase : baseOf (homeTree text output) ⟨"rbuild.yaml"⟩ = ⟨"/site"⟩ := by
    have hlookup : (homeTree text output).lookup (configDirectory ⟨"/site/rbuild.yaml"⟩) =
        .ok (["site"], .directory) := rfl
    rw [baseOf, hpath, canonicalOr_eq hlookup]
    decide
  have hstarter : starter (homeTree text output) ⟨"rbuild.yaml"⟩ true (homeConfig bent live) =
      homeBuilder bent live live none := by
    rw [starter, hbase, Builder.ofConfig, resolve_home]
    rfl
  have hload : Config.load (homeTree text output) []
      (configPathOf (homeTree text output) ⟨"rbuild.yaml"⟩) = .ok (homeConfig bent live) := by
    rw [hpath]
    exact load_home h
  have hbuild : (starter (homeTree text output) ⟨"rbuild.yaml"⟩ true (homeConfig bent live)).build.Gives
      (homeTree text output) (⟨⟨"/site/public"⟩, 1, 0, 0, []⟩,
        homeBuilder bent live live (some Builder.plainTemplates))
      (homeTree text (homeHtml live)) := by
    rw [hstarter]
    exact gives_build_home
  have hstart := exists_start [] ⟨"rbuild.yaml"⟩ true { files := homeTree text output } hload hbuild
  rw [hpath, hbase] at hstart
  exact hstart

/-- What is watched of the site. -/
theorem watched_home : (homePreview bent live).watched (homeTree text output) =
    ⟨⟨"/site/origin"⟩, ⟨"/site/template"⟩, ⟨"/site/rbuild.yaml"⟩, "metadata.yaml", .standard⟩ := by
  have hcontent : (homeTree text output).lookup (homePaths bent).content =
      .ok (["site", "origin"], .directory) := by
    cases bent <;> rfl
  have htemplates : (homeTree text output).lookup (homePaths bent).templates =
      .ok (["site", "template"], .directory) := by
    cases bent <;> rfl
  have hconfig : (homeTree text output).lookup ⟨"/site/rbuild.yaml"⟩ =
      .ok (["site", "rbuild.yaml"], .file (.text text)) := rfl
  have hpaths : (homePreview bent live).builder.paths = homePaths bent := rfl
  have hfile : (homePreview bent live).configPath = ⟨"/site/rbuild.yaml"⟩ := rfl
  rw [watched, hpaths, hfile, canonicalOr_eq hcontent, canonicalOr_eq htemplates,
    canonicalOr_eq hconfig]
  rfl

end Home

end StaticSite.Preview
