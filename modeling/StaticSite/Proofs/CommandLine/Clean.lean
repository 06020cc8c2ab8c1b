import StaticSite.CommandLine.Run
import StaticSite.Proofs.FileTree.Canonical
import StaticSite.Proofs.Session
import StaticSite.Proofs.Site.Stage

/-!
# Deleting the output directory

The check of `clean` compares the paths of the directories as they are written, and what it deletes
is what the path of the output leads to. Both agree for paths that are a common start with names
behind it (`startsWith_iff_of_plain`): there `clean` refuses to delete a directory that holds a
source directory. It deletes nothing outside of the output directory however the paths are written,
so sources are safe wherever a build accepts the directories (`clean_keeps_sources`).
-/

namespace StaticSite.CommandLine

open StaticSite.Path

variable {host : Host} {configFile : Path} {session : Session} {config : Config} {pretend : Bool}
  {files : FileTree} {paths : Directories} {output : Path} {place : Place} {e : ConfigError}

/-- The directories of the site with a configuration file. -/
def directoriesOf (files : FileTree) (configFile : Path) (config : Config) : Directories :=
  config.paths.resolve (Config.filePath files (some configFile)).configDirectory

/-- The configuration that a command finds. -/
def configOf (host : Host) (configFile : Path) (files : FileTree) : Except ConfigError Config :=
  Config.load files host.environment (Config.filePath files (some configFile))

/-- Whether the output directory is written as the start of the path of a source directory. -/
def Refuses (paths : Directories) : Prop :=
  paths.content.startsWith paths.output || paths.templates.startsWith paths.output

/-- Whether a place is that of a source directory or lies in one. -/
def IsSource (files : FileTree) (paths : Directories) (place : Place) : Prop :=
  files.placeOf paths.content <+: place ∨ files.placeOf paths.templates <+: place

/-- Whether a directory is or holds a source directory. -/
def HoldsSources (files : FileTree) (paths : Directories) (directory : Path) : Prop :=
  files.placeOf directory <+: files.placeOf paths.content ∨
    files.placeOf directory <+: files.placeOf paths.templates

/-- Whether the directories are written as a common start with names behind it. -/
def IsPlain (paths : Directories) : Prop :=
  ∃ lead : List Component, ∀ path ∈ [paths.templates, paths.content, paths.output],
    ∃ names : List String, path.components = lead ++ names.map .normal

/-- The files without a directory. -/
def without (files : FileTree) (output : Path) : FileTree :=
  match files.lookup output with
  | .ok (place, .directory) => files.removeAt (FileTree.isWithin place)
  | _ => files

/-! ## The check -/

/-- Of two paths with a common start and names behind it, one begins with the other where it lies
under the other. -/
theorem startsWith_iff_of_plain {path directory : Path} {lead : List Component}
    {names above : List String} (hpath : path.components = lead ++ names.map .normal)
    (hdirectory : directory.components = lead ++ above.map .normal) (files : FileTree) :
    path.startsWith directory ↔ files.placeOf directory <+: files.placeOf path := by
  have hnormal : Function.Injective Component.normal := fun _ _ h ↦ Component.normal.inj h
  rw [startsWith, beginsWith_eq_true_iff, FileTree.placeOf, FileTree.placeOf, hpath, hdirectory,
    FileTree.placeFrom_append_names, FileTree.placeFrom_append_names, List.prefix_append_right_inj,
    List.prefix_append_right_inj]
  exact List.prefix_map_iff_of_injective hnormal

theorem refuses_iff_of_isPlain (h : IsPlain paths) (files : FileTree) :
    Refuses paths ↔ HoldsSources files paths paths.output := by
  obtain ⟨lead, hlead⟩ := h
  obtain ⟨templates, htemplates⟩ := hlead paths.templates (by simp)
  obtain ⟨content, hcontent⟩ := hlead paths.content (by simp)
  obtain ⟨output, houtput⟩ := hlead paths.output (by simp)
  rw [Refuses, Bool.or_eq_true, startsWith_iff_of_plain hcontent houtput files,
    startsWith_iff_of_plain htemplates houtput files, HoldsSources]

/-! ## What is deleted -/

theorem get?_without (hplace : place ≠ []) : (without files output).get? place =
    if files.isDirectory output ∧ files.placeOf output <+: place then none
    else files.get? place := by
  rw [without]
  split
  · next found hlookup =>
    obtain ⟨hlocate, -⟩ := FileTree.lookup_eq_ok_iff.mp hlookup
    obtain rfl := FileTree.placeOf_of_locate hlocate
    have hdirectory : files.isDirectory output := by rw [FileTree.isDirectory, hlookup]
    rw [FileTree.get?_removeAt _ _ hplace]
    simp [hdirectory, FileTree.isWithin]
  · next hother =>
    have hdirectory : ¬ files.isDirectory output := by
      rw [FileTree.isDirectory]
      split
      · next found hlookup => exact absurd hlookup (hother found)
      · simp
    rw [if_neg fun h ↦ hdirectory h.1]

/-- All that lies outside of the deleted directory stays. -/
theorem get?_without_of_not_isPrefix (h : ¬ files.placeOf output <+: place) :
    (without files output).get? place = files.get? place := by
  by_cases hplace : place = []
  · subst hplace
    simp
  · rw [get?_without hplace, if_neg fun hwithin ↦ h hwithin.2]

/-- The sources stay if the deleted directory lies apart from them. -/
theorem get?_without_of_isSource (hsource : IsSource files paths place)
    (hcontent : ¬ files.placeOf output <+: files.placeOf paths.content ∧
      ¬ files.placeOf paths.content <+: files.placeOf output)
    (htemplates : ¬ files.placeOf output <+: files.placeOf paths.templates ∧
      ¬ files.placeOf paths.templates <+: files.placeOf output) :
    (without files output).get? place = files.get? place := by
  refine get?_without_of_not_isPrefix fun hwithin ↦ ?_
  -- Of two directories that hold one place, one holds the other.
  rcases hsource with hsource | hsource
  · exact (List.prefix_or_prefix_of_prefix hwithin hsource).elim hcontent.1 hcontent.2
  · exact (List.prefix_or_prefix_of_prefix hwithin hsource).elim htemplates.1 htemplates.2

/-! ## The command -/

theorem loadConfig_eq (h : configOf host configFile session.files = .ok config) :
    loadConfig host (Config.filePath session.files (some configFile)) session =
      (.ok config, session) := by
  have hfiles : Work.files session = (.ok session.files, session) := rfl
  rw [loadConfig, Work.bind_eq hfiles, ← configOf, h]
  rfl

/-- A refusal changes nothing. -/
theorem clean_of_refuses (hconfig : configOf host configFile session.files = .ok config)
    (h : Refuses (directoriesOf session.files configFile config)) :
    clean host configFile pretend session =
      (.error (.unsafeClean (directoriesOf session.files configFile config).output), session) := by
  have hfiles : Work.files session = (.ok session.files, session) := rfl
  rw [Refuses] at h
  rw [clean, Work.bind_eq hfiles, Work.bind_eq (loadConfig_eq hconfig)]
  dsimp only
  rw [← directoriesOf, if_pos h]
  exact Work.bind_eq_of_error rfl

/-- Deleting the directory to which the path of the output leads: a file there is an error, and
nothing is deleted where there is nothing. -/
theorem files_of_clean (hclosed : session.files.Closed)
    (hconfig : configOf host configFile session.files = .ok config)
    (h : ¬ Refuses (directoriesOf session.files configFile config)) :
    (clean host configFile false session).2.files =
      without session.files (directoriesOf session.files configFile config).output := by
  have hfiles : Work.files session = (.ok session.files, session) := rfl
  rw [Refuses] at h
  rw [clean, Work.bind_eq hfiles, Work.bind_eq (loadConfig_eq hconfig)]
  dsimp only
  rw [← directoriesOf, if_neg h, Work.bind_eq hfiles, Work.bind_eq hfiles]
  generalize (directoriesOf session.files configFile config).output = output
  cases hlookup : session.files.lookup output with
  | error fault =>
    have hcanonical : session.files.canonicalOr output = output := by
      rw [FileTree.canonicalOr, FileTree.canonical?, hlookup]
      rfl
    have hentry : session.files.hasEntry output = false := by
      rw [FileTree.hasEntry, hlookup]
      rfl
    rw [hcanonical, hentry, without, hlookup]
    rfl
  | ok found =>
    obtain ⟨place, entry⟩ := found
    -- The canonical path leads to the same place.
    have hcanonical := FileTree.canonicalOr_eq hlookup
    have hpathOf := hclosed.lookup_pathOf (FileTree.lookup_eq_ok_iff.mp hlookup).2
    have hentry : session.files.hasEntry (FileTree.pathOf place) = true := by
      rw [FileTree.hasEntry, hpathOf]
      rfl
    rw [hcanonical, hentry, if_pos rfl, if_neg (by simp), without, hlookup]
    cases entry with
    | file content =>
      have hchange : Work.change (fun files ↦ files.removeTree (FileTree.pathOf place)) session =
          (.error (.files .notDirectory), session) := by
        rw [Work.change, FileTree.removeTree, hpathOf]
      rw [Work.bind_eq_of_error hchange]
    | directory =>
      have hchange : Work.change (fun files ↦ files.removeTree (FileTree.pathOf place)) session =
          (.ok (), { session with files := session.files.removeAt (FileTree.isWithin place) }) := by
        rw [Work.change, FileTree.removeTree, hpathOf]
      rw [Work.bind_eq hchange]
      rfl

/-- However its paths are written, `clean` deletes nothing but the output directory, and nothing
where it refuses. So it keeps all sources where a build accepts the directories. Where the paths are a
common start with names behind it, it refuses just where the output directory is or holds a source
directory, and keeps all sources unless the output directory lies inside one. -/
theorem clean_keeps_sources (hclosed : session.files.Closed)
    (hconfig : configOf host configFile session.files = .ok config) :
    let files := session.files
    let base := (Config.filePath files (some configFile)).configDirectory
    let paths := directoriesOf files configFile config
    let later := (clean host configFile false session).2
    (Refuses paths → clean host configFile false session =
      (.error (.unsafeClean paths.output), session)) ∧
    (¬ Refuses paths → ∀ place, place ≠ [] → later.files.get? place =
      if files.isDirectory paths.output ∧ files.placeOf paths.output <+: place then none
      else files.get? place) ∧
    ((Builder.ofConfig config base .standard false).directoryError? files = none →
      ∀ place, IsSource files paths place → later.files.get? place = files.get? place) ∧
    (IsPlain paths → (Refuses paths ↔ HoldsSources files paths paths.output)) ∧
    (IsPlain paths → (IsSource files paths (files.placeOf paths.output) →
        HoldsSources files paths paths.output) →
      ∀ place, IsSource files paths place → later.files.get? place = files.get? place) := by
  intro files base paths later
  have hrefused (h : Refuses paths) : clean host configFile false session =
      (.error (.unsafeClean paths.output), session) := clean_of_refuses hconfig h
  have hlater (h : ¬ Refuses paths) : later.files = without files paths.output :=
    files_of_clean hclosed hconfig h
  refine ⟨hrefused, fun h place hplace ↦ ?_, fun haccepted place hsource ↦ ?_,
    fun hplain ↦ refuses_iff_of_isPlain hplain files, fun hplain houtside place hsource ↦ ?_⟩
  · rw [hlater h, get?_without hplace]
  · by_cases h : Refuses paths
    · rw [show later = session from congrArg Prod.snd (hrefused h)]
    have hseparate := Builder.separate_of_directoryError? hclosed.currentName haccepted
    rw [hlater h]
    exact get?_without_of_isSource hsource ⟨hseparate.output_notPrefix, hseparate.content_notPrefix⟩
      ⟨hseparate.output_notPrefix_templates, hseparate.templates_notPrefix⟩
  · by_cases h : Refuses paths
    · rw [show later = session from congrArg Prod.snd (hrefused h)]
    have hholds := mt (refuses_iff_of_isPlain hplain files).mpr h
    have hinside := mt houtside hholds
    rw [HoldsSources, not_or] at hholds
    rw [IsSource, not_or] at hinside
    rw [hlater h]
    exact get?_without_of_isSource hsource ⟨hholds.1, hinside.1⟩ ⟨hholds.2, hinside.2⟩

/-! ## A site without a configuration file -/

/-- A site with a page, and with a file in a directory of its content. -/
def siteTree : FileTree where
  entries := [(["site"], .directory), (["site", "template"], .directory),
    (["site", "origin"], .directory), (["site", "origin", "a.html"], .file (.text "A")),
    (["site", "origin", "sub"], .directory), (["site", "origin", "sub", "b.txt"], .file (.text "B")),
    (["site", "public"], .directory), (["site", "public", "a.html"], .file (.text "A"))]
  current := ["site"]

/-- A host with an output directory in its environment. -/
def hostWith (output : String) : Host := ⟨[("RBUILD_OUTPUT", output)], fun _ ↦ none, fun _ ↦ none⟩

/-- The configuration with an output directory. -/
def configWith (output : String) : Config :=
  { Config.default with paths := ⟨⟨"template"⟩, ⟨"origin"⟩, ⟨output⟩⟩ }

theorem closed_siteTree : siteTree.Closed := .of_entries (by decide) (by decide) (by decide)

/-- A path of the environment is one of the configuration, unless it reads as a number or as a truth
value. -/
theorem configOf_hostWith {output : String} (h : Config.Setting.ofText output = .text output) :
    configOf (hostWith output) ⟨"rbuild.yaml"⟩ siteTree = .ok (configWith output) := by
  have hname : Text.lower "RBUILD_OUTPUT".toList = "rbuild_output".toList := by decide +kernel
  have hrest : Text.stripPrefix? "rbuild_".toList "rbuild_output".toList = some "output".toList := by
    decide
  have hsettings : Config.environmentSettings (hostWith output).environment =
      [("output", .text output)] := by
    simp [-String.reduceToList, hostWith, Config.environmentSettings, hname, hrest, h]
  have hread : Config.read siteTree (Config.filePath siteTree (some ⟨"rbuild.yaml"⟩)) =
      .ok Config.default := rfl
  rw [configOf, Config.load, hread]
  simp only [Config.withEnvironment?, hsettings]
  rfl

theorem clean_keeps_sources_siteTree :
    let session : Session := { files := siteTree }
    let paths := directoriesOf siteTree ⟨"rbuild.yaml"⟩ (configWith "public")
    let later := (clean (hostWith "public") ⟨"rbuild.yaml"⟩ false session).2
    session.files.Closed ∧
      configOf (hostWith "public") ⟨"rbuild.yaml"⟩ session.files = .ok (configWith "public") ∧
      IsPlain paths ∧ IsSource siteTree paths ["site", "origin", "a.html"] ∧
      later.files.get? ["site", "origin", "a.html"] = some (.file (.text "A")) ∧
      later.files.get? ["site", "public", "a.html"] = none := by
  intro session paths later
  have hconfig : configOf (hostWith "public") ⟨"rbuild.yaml"⟩ session.files =
      .ok (configWith "public") := configOf_hostWith (by cbv)
  obtain ⟨-, hdeleted, -, -, hkept⟩ := clean_keeps_sources closed_siteTree hconfig
  have hplain : IsPlain paths := by
    refine ⟨[.root, .normal "site"], fun path hpath ↦ ?_⟩
    obtain rfl | rfl | rfl : path = paths.templates ∨ path = paths.content ∨ path = paths.output := by
      simpa using hpath
    · exact ⟨["template"], by decide⟩
    · exact ⟨["origin"], by decide⟩
    · exact ⟨["public"], by decide⟩
  have hsource : IsSource siteTree paths ["site", "origin", "a.html"] := .inl (by decide)
  have houtside : ¬ IsSource siteTree paths (siteTree.placeOf paths.output) := by
    rintro (h | h) <;> exact absurd h (by decide)
  have hrefuses : ¬ Refuses paths := by
    rw [Refuses]
    decide
  refine ⟨closed_siteTree, hconfig, hplain, hsource, ?_, ?_⟩
  · exact hkept hplain (fun h ↦ absurd h houtside) _ hsource
  · exact (hdeleted hrefuses _ (by simp)).trans (if_pos (by decide))

/-- Whether a file of the content is deleted with an output directory. -/
def DeletesSource (output : String) (place : Place) : Prop :=
  let paths := directoriesOf siteTree ⟨"rbuild.yaml"⟩ (configWith output)
  configOf (hostWith output) ⟨"rbuild.yaml"⟩ siteTree = .ok (configWith output) ∧
    IsSource siteTree paths place ∧ (siteTree.get? place).isSome ∧
    (clean (hostWith output) ⟨"rbuild.yaml"⟩ false { files := siteTree }).2.files.get? place = none

/-- What lies in an output directory that is not refused is deleted. -/
theorem deletesSource_of_not_refuses {output : String}
    (h : Config.Setting.ofText output = .text output)
    (hrefuses : ¬ Refuses (directoriesOf siteTree ⟨"rbuild.yaml"⟩ (configWith output)))
    (hdirectory :
      siteTree.isDirectory (directoriesOf siteTree ⟨"rbuild.yaml"⟩ (configWith output)).output)
    (hwithin : siteTree.placeOf
      (directoriesOf siteTree ⟨"rbuild.yaml"⟩ (configWith output)).output <+: place)
    (hplace : place ≠ []) (hget : (siteTree.get? place).isSome)
    (hsource : IsSource siteTree (directoriesOf siteTree ⟨"rbuild.yaml"⟩ (configWith output)) place) :
    DeletesSource output place := by
  have hfiles := @files_of_clean (hostWith output) ⟨"rbuild.yaml"⟩ { files := siteTree }
    (configWith output) closed_siteTree (configOf_hostWith h) hrefuses
  refine ⟨configOf_hostWith h, hsource, hget, ?_⟩
  rw [hfiles, get?_without hplace]
  exact if_pos ⟨hdirectory, hwithin⟩

/-- Files of the content are deleted where the output directory is the content directory, with `..`
behind a name in its path, and where it lies in the content directory. -/
theorem clean_deletes_sources :
    DeletesSource "../site/origin" ["site", "origin", "a.html"] ∧
      DeletesSource "origin/sub" ["site", "origin", "sub", "b.txt"] := by
  constructor
  · refine deletesSource_of_not_refuses (by cbv) ?_ (by decide) (by decide) (by simp) (by decide)
      (.inl (by decide))
    rw [Refuses]
    decide
  · refine deletesSource_of_not_refuses (by cbv) ?_ (by decide) (by decide) (by simp) (by decide)
      (.inl (by decide))
    rw [Refuses]
    decide

end StaticSite.CommandLine
