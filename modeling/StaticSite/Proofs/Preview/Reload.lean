import StaticSite.Proofs.Preview.Start
import StaticSite.Proofs.Site.Safety

/-!
# Loading the configuration again

While a site is previewed its configuration can be loaded again. After the rebuild that follows, the
output and the preview are those of a preview that starts on the same files if the new configuration
says the same on live reload as the one of the start, and a preview that starts anew differs in this
alone (`reload_eq_start`). What is watched stays that of the start: if the directories stay, events
are classified as by a new start unless they are at a file of the content that only one of the
configurations takes for metadata. In `reload_keeps_script` live reload is turned off, and a new start
notices this alone.
-/

namespace StaticSite

/-- With another name of metadata files events mean the same, except at files of the content to which
only one of the names belongs. -/
theorem Watched.classify_metadataFile_iff {watched : Watched} {seen : FileTree}
    {happening : FileEvent} {name : String} :
    { watched with metadataFile := name }.classify seen happening = watched.classify seen happening ↔
      (((watched.classify seen happening).bind Change.task?).isSome →
        (happening.path.fileName? = some name ↔
          happening.path.fileName? = some watched.metadataFile)) := by
  simp only [classify]
  by_cases hconfig : happening.path.same watched.config
  · simp [hconfig, Change.task?]
  simp only [hconfig, if_false, Bool.false_eq_true]
  cases happening.path.relativeTo? watched.templates with
  | some relative =>
    by_cases hhidden : isHidden relative <;> simp [hhidden, Change.task?]
  | none =>
    cases happening.path.relativeTo? watched.content with
    | none => simp
    | some relative =>
      by_cases hhidden : isHidden relative || (!happening.deleted && seen.isDirectory happening.path)
      · simp [hhidden]
      simp only [hhidden, if_false, Bool.false_eq_true]
      split_ifs with hname hold hpage hpage hold <;> simp_all [Change.task?]

end StaticSite

namespace StaticSite.Preview

open StaticSite.Path Build FileTree

variable {environment : List (String × String)} {configFile : Path} {first begun : Session}
  {files files₁ : FileTree} {place : Place} {old : Preview} {config : Config} {watch : Bool}

/-! ## The configuration file -/

/-- Whether the path of the configuration file is a canonical one, or leads to something in each of two
file trees. -/
def FindsConfig (configFile : Path) (files files₁ : FileTree) : Prop :=
  (∃ place, (∀ name ∈ place, IsName name) ∧
      Config.filePath files (some configFile) = pathOf place) ∨
    files.hasEntry (Config.filePath files (some configFile)) ∧
      files₁.hasEntry (Config.filePath files (some configFile))

theorem exists_configPathOf (hclosed : files.Closed) (hcurrent : files₁.current = files.current)
    (h : FindsConfig configFile files files₁) : ∃ place, (∀ name ∈ place, IsName name) ∧
      configPathOf files configFile = pathOf place ∧
      configPathOf files₁ configFile = pathOf place := by
  have hpath : Config.filePath files₁ (some configFile) = Config.filePath files (some configFile) := by
    rw [Config.filePath, Config.filePath, currentPath, currentPath, hcurrent]
  rw [configPathOf, configPathOf, hpath]
  rcases h with ⟨place, hnames, hplace⟩ | ⟨hentry, hentry₁⟩
  · rw [hplace]
    exact ⟨place, hnames, canonicalOr_pathOf hnames, canonicalOr_pathOf hnames⟩
  · refine ⟨_, fun name hname ↦ hclosed.isName_of_mem_placeOf hname, canonicalOr_eq_pathOf hentry, ?_⟩
    rw [canonicalOr_congr hcurrent hentry hentry₁, canonicalOr_eq_pathOf hentry]

/-- Relative paths are taken under the directory of a canonical configuration file. -/
theorem baseOf_eq (hnames : ∀ name ∈ place, IsName name)
    (hpath : configPathOf files configFile = pathOf place)
    (hload : Config.load files environment (configPathOf files configFile) = .ok config) :
    baseOf files configFile = pathOf place.dropLast := by
  rcases List.eq_nil_or_concat' place with rfl | ⟨front, last, rfl⟩
  · refine absurd hload (not_load_root ?_)
    rw [hpath, components_pathOf hnames]
    rfl
  · rw [baseOf, hpath, configDirectory, parent?_pathOf hnames, Option.getD_some, List.dropLast_concat]
    exact canonicalOr_pathOf fun name hname ↦ hnames name (List.mem_append_left _ hname)

/-- Builds of one site that differ in live reload compose the same templates. -/
theorem rebuilt_of_liveReload {builder rebuilt rebuilt₁ : Builder} {tree tree₁ tree₂ : FileTree}
    {result result₁ : BuildResult} {live : Bool}
    (h : builder.build.Gives tree (result, rebuilt) tree₁)
    (h₁ : { builder with liveReload := live }.build.Gives tree (result₁, rebuilt₁) tree₂) :
    rebuilt₁ = { rebuilt with liveReload := live } := by
  obtain ⟨templates, -, -, -, -, hcomposed, -, -, -, -, rfl⟩ := Builder.gives_build.mp h
  obtain ⟨templates₁, -, -, -, -, hcomposed₁, -, -, -, -, rfl⟩ := Builder.gives_build.mp h₁
  have hsame : { builder with liveReload := live }.composeTemplates tree =
      builder.composeTemplates tree := by
    refine Builder.composeTemplates_congr ?_ ?_ tree <;> rfl
  rw [Except.ok.inj (hcomposed₁.symm.trans (hsame.trans hcomposed))]

/-! ## A new start -/

section Restart

variable {again restarted : Session} {fresh : Preview} {result : BuildResult} {rebuilt : Builder}
  (hclosed : first.files.Closed)
  (hstart : start environment configFile true first = (.ok old, begun))
  (hcurrent : again.files.current = first.files.current)
  (hfinds : FindsConfig configFile first.files again.files)
  (hload : Config.load again.files environment old.configPath = .ok config)

include hclosed hstart hcurrent hfinds hload

/-- A new start takes the paths of the configuration from where the first one has taken them. -/
theorem exists_place_of_restart : ∃ place, (∀ name ∈ place, IsName name) ∧
    old.configPath = pathOf place ∧ configPathOf again.files configFile = old.configPath ∧
      baseOf again.files configFile = old.base := by
  obtain ⟨config₀, result₀, hload₀, -, hpath₀, hbase₀, -⟩ := exists_of_start hstart
  obtain ⟨place, hnames, hplace₀, hplace⟩ := exists_configPathOf hclosed hcurrent hfinds
  have hpath : configPathOf again.files configFile = old.configPath := by
    rw [hpath₀, hplace₀, hplace]
  have hagain : Config.load again.files environment (configPathOf again.files configFile) =
      .ok config := hpath ▸ hload
  refine ⟨place, hnames, hpath ▸ hplace, hpath, ?_⟩
  rw [hbase₀, baseOf_eq hnames hplace₀ hload₀, baseOf_eq hnames hplace hagain]

/-- Its builder differs in live reload from the one with which the configuration is loaded again. -/
theorem starter_of_restart : starter again.files configFile true config =
    { old.builderOf config with liveReload := config.preview.liveReload } := by
  obtain ⟨-, -, -, -, hbase⟩ := exists_place_of_restart hclosed hstart hcurrent hfinds hload
  rw [starter, hbase, builderOf, (isSetUp_of_start hstart).registry, Bool.true_and]
  rfl

/-- With the same on live reload it builds what is built when the configuration is loaded again. -/
theorem exists_restart (hlive : config.preview.liveReload = old.liveReload)
    (hbuild : (old.builderOf config).build.Gives again.files (result, rebuilt) files) :
    ∃ restarted, start environment configFile true again =
      (.ok { old with builder := rebuilt }, restarted) ∧ restarted.files = files := by
  obtain ⟨-, -, -, hpath, hbase⟩ := exists_place_of_restart hclosed hstart hcurrent hfinds hload
  have hsame : starter again.files configFile true config = old.builderOf config := by
    rw [starter_of_restart hclosed hstart hcurrent hfinds hload, hlive]
    rfl
  rw [← hsame] at hbuild
  obtain ⟨restarted, hrestart, hfiles⟩ :=
    exists_start environment configFile true again (hpath ▸ hload) hbuild
  refine ⟨restarted, ?_, hfiles⟩
  rw [hrestart, hpath, hbase, hlive, Bool.true_and]

variable (hfresh : start environment configFile true again = (.ok fresh, restarted))

include hfresh

/-- However it comes out, it differs from the preview that has loaded the configuration again in live
reload at most. -/
theorem eq_of_restart
    (hbuild : (old.builderOf config).build.Gives again.files (result, rebuilt) files) :
    fresh = { old with
      builder := { rebuilt with liveReload := config.preview.liveReload }
      liveReload := config.preview.liveReload } := by
  obtain ⟨-, -, -, hpath, hbase⟩ := exists_place_of_restart hclosed hstart hcurrent hfinds hload
  obtain ⟨config₁, result₁, hload₁, hbuild₁, hpath₁, hbase₁, hlive₁⟩ := exists_of_start hfresh
  rw [hpath, hload] at hload₁
  obtain rfl := Except.ok.inj hload₁
  rw [starter_of_restart hclosed hstart hcurrent hfinds hload] at hbuild₁
  rw [← rebuilt_of_liveReload hbuild hbuild₁, ← hpath, ← hpath₁, ← hbase, ← hbase₁,
    ← hlive₁.trans (Bool.true_and _)]

/-- The same is watched after a new start with the same directories, but for the name of metadata
files. -/
theorem watched_of_restart (hagain : again.files.Closed)
    (hpaths : config.paths = old.builder.config.paths)
    (htemplates : begun.files.isDirectory old.builder.paths.templates)
    (htemplates₁ : restarted.files.isDirectory old.builder.paths.templates) :
    fresh.watched restarted.files =
      { old.watched begun.files with metadataFile := config.metadataFile } := by
  obtain ⟨place, hnames, hplace, hpath, -⟩ :=
    exists_place_of_restart hclosed hstart hcurrent hfinds hload
  obtain ⟨config₁, result₁, hload₁, hbuild₁, hpath₁, -, -⟩ := exists_of_start hfresh
  rw [hpath, hload] at hload₁
  obtain rfl := Except.ok.inj hload₁
  rw [starter_of_restart hclosed hstart hcurrent hfinds hload] at hbuild₁
  obtain ⟨templates, -, -, -, -, -, -, -, -, -, hbuilder⟩ := Builder.gives_build.mp hbuild₁
  have hconfig : fresh.builder.config = config := by
    rw [hbuilder]
    rfl
  have hdirectories : fresh.builder.paths = old.builder.paths := by
    rw [hbuilder, (isSetUp_of_start hstart).paths, ← hpaths]
    rfl
  have hplaces : restarted.files.current = begun.files.current := by
    rw [(current_of_start hagain hfresh).1, hcurrent, (current_of_start hclosed hstart).1]
  have hcontent := hasEntry_of_isDirectory (isDirectory_content_of_start hstart)
  have hcontent₁ := hasEntry_of_isDirectory (isDirectory_content_of_start hfresh)
  rw [hdirectories] at hcontent₁
  rw [watched, watched, hdirectories, hconfig, hpath₁, hpath, hplace, canonicalOr_pathOf hnames,
    canonicalOr_pathOf hnames, canonicalOr_congr hplaces hcontent hcontent₁,
    canonicalOr_congr hplaces (hasEntry_of_isDirectory htemplates)
      (hasEntry_of_isDirectory htemplates₁)]

end Restart

/-- A batch with a change of the configuration that browsers are told of leaves the preview and the
files that a new start on the same files has, if the configuration says on live reload what the
preview has from its start; otherwise a new start differs in this. Without a change of the
directories, events then mean what they mean after a new start, unless they are at files of the
content to which only one of the names of metadata files belongs, the new one and that of the
start. -/
theorem reload_eq_start (history : List Happening) {events : List WatchEvent} {reloaded : Preview}
    {later again : Session} (hclosed : first.files.Closed)
    (hstart : start environment configFile true first = (.ok old, begun))
    (hnow : (run environment (old, begun) history).2.files.Closed)
    (hcurrent : (run environment (old, begun) history).2.files.current = first.files.current)
    (hfinds : FindsConfig configFile first.files (run environment (old, begun) history).2.files)
    (hconfig : .config ∈ changesOf events)
    (hhandle : handle environment (run environment (old, begun) history).1 events
      (run environment (old, begun) history).2 = (.ok (reloaded, true), later))
    (hagain : again.files = (run environment (old, begun) history).2.files) :
    ∃ config, Config.load again.files environment old.configPath = .ok config ∧
      (config.preview.liveReload = old.liveReload → ∃ restarted,
        start environment configFile true again = (.ok reloaded, restarted) ∧
          restarted.files = later.files) ∧
      ∀ fresh restarted, start environment configFile true again = (.ok fresh, restarted) →
        fresh = { reloaded with
          builder := { reloaded.builder with liveReload := config.preview.liveReload }
          liveReload := config.preview.liveReload } ∧
        (config.paths = old.builder.config.paths →
          begun.files.isDirectory old.builder.paths.templates →
          restarted.files.isDirectory old.builder.paths.templates →
          ∀ seen happening,
            (fresh.watched restarted.files).classify seen happening =
                (old.watched begun.files).classify seen happening ↔
              ((((old.watched begun.files).classify seen happening).bind Change.task?).isSome →
                (happening.path.fileName? = some config.metadataFile ↔
                  happening.path.fileName? = some old.builder.config.metadataFile))) := by
  generalize hrun : run environment (old, begun) history = now at *
  have hkeeps : Keeps old now.1 := hrun ▸ keeps_run environment (old, begun) history
  obtain ⟨config, result, hload, hbuild, hreloaded⟩ := exists_of_handle_config hconfig hhandle
  rw [hkeeps.configPath, ← hagain] at hload
  rw [hkeeps.builderOf_eq, ← hagain] at hbuild
  rw [← hagain] at hnow hcurrent hfinds
  -- The preview has kept all of its start but the builder.
  have hpreview : reloaded = { old with builder := reloaded.builder } := by
    rw [← hkeeps.configPath, ← hkeeps.base, ← hkeeps.liveReload]
    exact hreloaded
  refine ⟨config, hload, fun hlive ↦ ?_, fun fresh restarted hfresh ↦ ⟨?_, ?_⟩⟩
  · rw [hpreview]
    exact exists_restart hclosed hstart hcurrent hfinds hload hlive hbuild
  · have hsame := eq_of_restart hclosed hstart hcurrent hfinds hload hfresh hbuild
    rw [hpreview]
    exact hsame
  · intro hpaths htemplates htemplates₁ seen happening
    rw [watched_of_restart hclosed hstart hcurrent hfinds hload hfresh hnow hpaths htemplates
      htemplates₁]
    exact Watched.classify_metadataFile_iff

/-! ## A configuration that is edited -/

/-- A change of the configuration alone. -/
def configChange : List WatchEvent := [.changed [.config]]

/-- The site is built again with the configuration of a file, and reloads as it did before. -/
private theorem exists_handle_home {text : String} {bent live : Bool} {output : Option String}
    (h : (Config.ofYaml? text).any (isHomeConfig bent live)) (begun : Session) (bent₀ live₀ : Bool) :
    ∃ later, handle [] (homePreview bent₀ live₀) configChange
        { begun with files := homeTree text output } =
          (.ok (⟨homeBuilder bent live live₀ (some Builder.plainTemplates), ⟨"/site/rbuild.yaml"⟩,
            ⟨"/site"⟩, live₀⟩, true), later) ∧
      later.files = homeTree text (homeHtml live₀) := by
  have hconfig : .config ∈ changesOf configChange := by decide
  have hbuilder : (homePreview bent₀ live₀).builderOf (homeConfig bent live) =
      homeBuilder bent live live₀ none := by
    rw [builderOf, Builder.ofConfig, homePreview, resolve_home]
    rfl
  have hbuild : ((homePreview bent₀ live₀).builderOf (homeConfig bent live)).build.Gives
      (homeTree text output) (⟨⟨"/site/public"⟩, 1, 0, 0, []⟩,
        homeBuilder bent live live₀ (some Builder.plainTemplates))
      (homeTree text (homeHtml live₀)) := by
    rw [hbuilder]
    exact gives_build_home
  exact exists_handle_config hconfig (load_home h) hbuild

/-- The configuration of the site, which reloads its pages. -/
def plainText : String := "tidy: false\n"

/-- The configuration after an edit, with a layout that has been the layout before. -/
def layoutText : String := "tidy: false\nlayout: layout.html\n"

/-- The configuration after an edit, without live reload. -/
def quietText : String := "tidy: false\ndev:\n  live_reload: false\n"

private theorem isHomeConfig_plainText : (Config.ofYaml? plainText).any (isHomeConfig false true) := by
  decide +kernel

/-- The configuration of a site is edited, and says what it has said before. -/
theorem reload_eq_start_home :
    let edited := homeTree layoutText (some (homeHtml true))
    ∃ begun later restarted,
      start [] ⟨"rbuild.yaml"⟩ true { files := homeTree plainText none } =
        (.ok (homePreview false true), begun) ∧
      handle [] (homePreview false true) configChange { begun with files := edited } =
        (.ok (homePreview false true, true), later) ∧
      start [] ⟨"rbuild.yaml"⟩ true { files := edited } =
        (.ok (homePreview false true), restarted) ∧
      restarted.files = later.files := by
  intro edited
  have hyaml : (Config.ofYaml? layoutText).any (isHomeConfig false true) := by decide +kernel
  obtain ⟨begun, hstart, hbegun⟩ := exists_start_home isHomeConfig_plainText none
  obtain ⟨later, hhandle, hlater⟩ :=
    @exists_handle_home _ _ _ (some (homeHtml true)) hyaml begun false true
  have hfinds : FindsConfig ⟨"rbuild.yaml"⟩ (homeTree plainText none) edited :=
    .inl ⟨["site", "rbuild.yaml"], by decide, filePath_home⟩
  have hrun : run [] (homePreview false true, begun) [.edit edited] =
      (homePreview false true, { begun with files := edited }) := rfl
  have hreload := @reload_eq_start [] ⟨"rbuild.yaml"⟩ _ begun (homePreview false true) [.edit edited]
    configChange (homePreview false true) later { files := edited } closed_homeTree hstart
  rw [hrun] at hreload
  obtain ⟨config, hload, hsame, -⟩ :=
    hreload closed_homeTree rfl hfinds (by decide) hhandle rfl
  have hconfig : homeConfig false true = config := Except.ok.inj ((load_home hyaml).symm.trans hload)
  obtain ⟨restarted, hrestart, hfiles⟩ := hsame (by rw [← hconfig]; rfl)
  exact ⟨begun, later, restarted, hstart, hhandle, hrestart, hfiles⟩

/-- Live reload is turned off: the page that is built after this still has the script, and after a new
start it has not. -/
theorem reload_keeps_script :
    let edited := homeTree quietText (some (homeHtml true))
    ∃ begun reloaded later fresh restarted,
      start [] ⟨"rbuild.yaml"⟩ true { files := homeTree plainText none } =
        (.ok (homePreview false true), begun) ∧
      handle [] (homePreview false true) configChange { begun with files := edited } =
        (.ok (reloaded, true), later) ∧
      reloaded.builder.config.paths = (homePreview false true).builder.config.paths ∧
      start [] ⟨"rbuild.yaml"⟩ true { files := edited } = (.ok fresh, restarted) ∧
      later.files.file? ["site", "public", "a.html"] = some (.text (homeHtml true)) ∧
      restarted.files.file? ["site", "public", "a.html"] = some (.text "A") ∧
      homeHtml true ≠ "A" := by
  intro edited
  have hyaml : (Config.ofYaml? quietText).any (isHomeConfig false false) := by decide +kernel
  obtain ⟨begun, hstart, -⟩ := exists_start_home isHomeConfig_plainText none
  obtain ⟨later, hhandle, hlater⟩ :=
    @exists_handle_home _ _ _ (some (homeHtml true)) hyaml begun false true
  obtain ⟨restarted, hrestart, hrestarted⟩ := exists_start_home hyaml (some (homeHtml true))
  refine ⟨begun, _, later, _, restarted, hstart, hhandle, rfl, hrestart, ?_, ?_, by decide +kernel⟩
  · rw [hlater]
    rfl
  · rw [hrestarted]
    rfl

end StaticSite.Preview
