import StaticSite.Proofs.Config.Reader
import StaticSite.Proofs.Config.Setting

/-!
# Overriding settings from the environment

Four settings are texts: the directories and the address of the site. A variable of the environment
sets each of them, whatever the case of its name (`override?_environmentSettings`), and no other
setting but the retries is touched (`Overridden`). The setting is the text of the value that the
variable reads as, hence the variable itself exactly if that is verbatim (`load_overridden`).

## Main definitions

* `StaticSite.Config.environmentValue?`: the value of a variable.
* `StaticSite.Config.TextSetting`: the settings that are texts.
* `StaticSite.Config.Overridden`: a configuration with some settings from the environment.

## Main results

* `StaticSite.Config.overridden_withEnvironment?`.
* `StaticSite.Config.load_overridden`.
-/

namespace StaticSite.Config

variable {environment : List (String × String)} {config loaded : Config} {name s : String}

/-! ## Variables -/

/-- The value of a variable, whatever the case of its name; of several the last one counts. -/
def environmentValue? (environment : List (String × String)) (name : String) : Option String :=
  (environment.reverse.find? fun entry ↦ lowerText entry.1 == lowerText name).map Prod.snd

/-- The setting of a name is what its variable reads as. -/
theorem override?_environmentSettings {variableName : String}
    (hname : Text.lower variableName.toList = "rbuild_".toList ++ name.toList) :
    override? (environmentSettings environment) name =
      (environmentValue? environment variableName).map .ofText := by
  rw [override?, environmentSettings, environmentValue?, ← List.filterMap_reverse, Option.map_map]
  induction environment.reverse with
  | nil => rfl
  | cons entry entries ih =>
    obtain ⟨found, value⟩ := entry
    have hsame : (lowerText found == lowerText variableName) =
        decide (Text.lower found.toList = "rbuild_".toList ++ name.toList) := by
      rw [lowerText, lowerText, hname, beq_eq_decide]
      exact decide_eq_decide.mpr String.ofList_inj
    rw [List.find?_cons, hsame]
    cases hrest : Text.stripPrefix? "rbuild_".toList (Text.lower found.toList) with
    | none =>
      have hother : Text.lower found.toList ≠ "rbuild_".toList ++ name.toList := fun h ↦ by
        rw [h, Text.stripPrefix?_append] at hrest
        cases hrest
      rw [List.filterMap_cons_none (by simp only [hrest, Option.map_none]),
        decide_eq_false hother]
      exact ih
    | some rest =>
      have hlower := Text.stripPrefix?_eq_some hrest
      rw [List.filterMap_cons_some (by simp only [hrest, Option.map_some]; rfl), List.lookup_cons,
        hlower]
      by_cases hfound : rest = name.toList
      · subst hfound
        simp
      · have hother : (name == String.ofList rest) = false :=
          beq_false_of_ne fun h ↦ hfound (by rw [h, String.toList_ofList])
        rw [hother, decide_eq_false (fun h ↦ hfound (List.append_cancel_left h))]
        exact ih

/-! ## Settings that are texts -/

/-- The settings from the environment that are texts. -/
inductive TextSetting where
  /-- The directory of templates. -/
  | templates
  /-- The directory of content. -/
  | content
  /-- The directory of output. -/
  | output
  /-- The address under which the site is published. -/
  | siteUrl
  deriving DecidableEq, Repr

/-- The variable of a setting. -/
def TextSetting.variableName : TextSetting → String
  | .templates => "RBUILD_TEMPLATES"
  | .content => "RBUILD_CONTENT"
  | .output => "RBUILD_OUTPUT"
  | .siteUrl => "RBUILD_SITE_URL"

/-- The name of a setting in the environment. -/
def TextSetting.key : TextSetting → String
  | .templates => "templates"
  | .content => "content"
  | .output => "output"
  | .siteUrl => "site_url"

/-- The value of a setting. -/
def TextSetting.value? (config : Config) : TextSetting → Option String
  | .templates => some config.paths.templates.text
  | .content => some config.paths.content.text
  | .output => some config.paths.output.text
  | .siteUrl => config.site.url

/-- The variable of the retries. -/
def retriesVariable : String := "RBUILD_RETRIES"

/-- Whether the retries of the environment, if there are any, are a number of 32 bits. -/
def FitsRetries (environment : List (String × String)) : Prop :=
  ∀ s, environmentValue? environment retriesVariable = some s →
    ∃ n < 4294967296, (Setting.ofText s).toNat? = some n

/-- A configuration with the settings of the environment. -/
structure Overridden (environment : List (String × String)) (config loaded : Config) : Prop where
  /-- A setting with a variable is the text of what that reads as. -/
  set : ∀ (setting : TextSetting) (s : String),
    environmentValue? environment setting.variableName = some s →
      setting.value? loaded = some (Setting.ofText s).toText
  /-- A setting without a variable stays. -/
  unset : ∀ setting : TextSetting, environmentValue? environment setting.variableName = none →
    setting.value? loaded = setting.value? config
  /-- The retries are the number of 32 bits that their variable reads as. -/
  setRetries : ∀ s, environmentValue? environment retriesVariable = some s →
    (Setting.ofText s).toNat? = some loaded.retries ∧ loaded.retries ≤ maxRetries
  /-- The retries stay without a variable. -/
  unsetRetries : environmentValue? environment retriesVariable = none →
    loaded.retries = config.retries
  /-- All other settings stay. -/
  others : { loaded with
    paths := config.paths, site.url := config.site.url, retries := config.retries } = config

private theorem override?_key (setting : TextSetting) :
    override? (environmentSettings environment) setting.key =
      (environmentValue? environment setting.variableName).map .ofText := by
  cases setting <;> exact override?_environmentSettings (by decide +kernel)

private theorem override?_retries : override? (environmentSettings environment) "retries" =
    (environmentValue? environment retriesVariable).map .ofText :=
  override?_environmentSettings (by decide +kernel)

/-- The retries after the settings of the environment. -/
def overridingRetries? (config : Config) (settings : List (String × Setting)) : Option Nat :=
  match override? settings "retries" with
  | none => some config.retries
  | some value => value.toNat?.filter (· < 4294967296)

/-- The configuration with text settings of the environment and with retries. -/
def overriding (config : Config) (settings : List (String × Setting)) (retries : Nat) : Config :=
  let text? (setting : TextSetting) : Option String :=
    (override? settings setting.key).map Setting.toText
  { config with
    paths :=
      { templates := ((text? .templates).map Path.mk).getD config.paths.templates
        content := ((text? .content).map Path.mk).getD config.paths.content
        output := ((text? .output).map Path.mk).getD config.paths.output }
    site.url := text? .siteUrl <|> config.site.url
    retries }

private theorem withEnvironment?_eq (config : Config) (environment : List (String × String)) :
    config.withEnvironment? environment =
      (config.overridingRetries? (environmentSettings environment)).map
        (config.overriding (environmentSettings environment)) := by
  rw [withEnvironment?, overridingRetries?]
  cases override? (environmentSettings environment) "retries" with
  | none => rfl
  | some value =>
    dsimp only
    cases value.toNat?.filter (· < 4294967296) <;> rfl

/-- The settings of the environment make a configuration if the retries fit. -/
theorem exists_withEnvironment? (config : Config) (h : FitsRetries environment) :
    ∃ loaded, config.withEnvironment? environment = some loaded := by
  rw [withEnvironment?_eq, overridingRetries?, override?_retries]
  cases hvalue : environmentValue? environment retriesVariable with
  | none => exact ⟨_, rfl⟩
  | some s =>
    obtain ⟨n, hlt, hn⟩ := h s hvalue
    exact ⟨config.overriding (environmentSettings environment) n, by simp [hn, Option.filter, hlt]⟩

/-- What the environment sets is the text or the number of the variable, and the rest stays. -/
theorem overridden_withEnvironment? (h : config.withEnvironment? environment = some loaded) :
    Overridden environment config loaded := by
  rw [withEnvironment?_eq] at h
  obtain ⟨retries, hretries, rfl⟩ := Option.map_eq_some_iff.mp h
  rw [overridingRetries?, override?_retries] at hretries
  refine ⟨fun setting s hs ↦ ?_, fun setting hs ↦ ?_, fun s hs ↦ ?_, fun hs ↦ ?_, rfl⟩
  · have hvalue := @override?_key environment setting
    rw [hs, Option.map_some] at hvalue
    cases setting <;> simp only [TextSetting.value?, overriding, hvalue] <;> rfl
  · have hvalue := @override?_key environment setting
    rw [hs, Option.map_none] at hvalue
    cases setting <;> simp only [TextSetting.value?, overriding, hvalue] <;> rfl
  · rw [hs] at hretries
    obtain ⟨hnumber, hlt⟩ := Option.filter_eq_some_iff.mp hretries
    exact ⟨hnumber, Nat.le_of_lt_succ (of_decide_eq_true hlt)⟩
  · rw [hs] at hretries
    exact (Option.some.inj hretries).symm

theorem Overridden.page_eq (h : Overridden environment config loaded) : config.page = loaded.page :=
  h.others ▸ rfl

/-! ## Loading -/

/-- A configuration that was loaded is one that was read, with the settings of the environment. -/
theorem overridden_of_load {files : FileTree} {path : Path}
    (h : load files environment path = .ok loaded) :
    ∃ config, read files path = .ok config ∧ Overridden environment config loaded := by
  rw [load] at h
  split at h
  · cases h
  split at h
  · next config hread _ _ hloaded =>
    obtain rfl := Except.ok.inj h
    exact ⟨config, hread, overridden_withEnvironment? hloaded⟩
  · cases h

/-- The retries of a configuration that was loaded have 32 bits. -/
theorem retries_le_of_load {files : FileTree} {path : Path}
    (h : load files environment path = .ok loaded) : loaded.retries ≤ maxRetries := by
  obtain ⟨config, hread, hover⟩ := overridden_of_load h
  cases hvalue : environmentValue? environment retriesVariable with
  | none => exact hover.unsetRetries hvalue ▸ retries_le_of_read hread
  | some s => exact (hover.setRetries s hvalue).2

/-- A configuration that is read is loaded with the settings of the environment if the retries
fit. -/
theorem exists_load {files : FileTree} {path : Path} (hread : read files path = .ok config)
    (hretries : FitsRetries environment) :
    ∃ loaded, load files environment path = .ok loaded ∧ Overridden environment config loaded := by
  obtain ⟨loaded, hloaded⟩ := exists_withEnvironment? config hretries
  refine ⟨loaded, ?_, overridden_withEnvironment? hloaded⟩
  rw [load, hread]
  simp only [hloaded]

/-- A setting with a variable is loaded as the variable exactly if that is verbatim, and one without
a variable as the file has it. -/
theorem load_overridden {files : FileTree} {path : Path} (hread : read files path = .ok config)
    (hretries : FitsRetries environment) :
    ∃ loaded, load files environment path = .ok loaded ∧ Overridden environment config loaded ∧
      ∀ (setting : TextSetting) (s : String),
        environmentValue? environment setting.variableName = some s →
          (setting.value? loaded = some s ↔ IsVerbatim s) := by
  obtain ⟨loaded, hloaded, hover⟩ := exists_load hread hretries
  refine ⟨loaded, hloaded, hover, fun setting s hs ↦ ?_⟩
  rw [hover.set setting s hs, Option.some.injEq, toText_ofText_eq_iff]

/-- A file system without files. -/
def noFiles : FileTree where
  entries := []
  current := ["site"]

/-- An environment that sets the output directory, the address of the site and the retries. -/
def hostedEnvironment : List (String × String) :=
  [("RBUILD_OUTPUT", "dist"), ("rbuild_site_url", "https://ci.example"), ("RBUILD_RETRIES", "5")]

private theorem fitsRetries_hosted : FitsRetries hostedEnvironment := by
  intro s hs
  have hfive : environmentValue? hostedEnvironment retriesVariable = some "5" := by decide +kernel
  obtain rfl : "5" = s := Option.some.inj (hfive.symm.trans hs)
  exact ⟨5, by decide, by decide +kernel⟩

theorem load_overridden_hosted :
    read noFiles ⟨"rbuild.yaml"⟩ = .ok default ∧ FitsRetries hostedEnvironment ∧
      ∃ loaded, load noFiles hostedEnvironment ⟨"rbuild.yaml"⟩ = .ok loaded ∧
        TextSetting.output.value? loaded = some "dist" ∧
        TextSetting.siteUrl.value? loaded = some "https://ci.example" ∧
        TextSetting.content.value? loaded = some "origin" ∧ loaded.retries = 5 := by
  have hread : read noFiles ⟨"rbuild.yaml"⟩ = .ok default := rfl
  obtain ⟨loaded, hloaded, hover, hverbatim⟩ := load_overridden hread fitsRetries_hosted
  have houtput := (hverbatim .output "dist" (by decide +kernel)).mpr
    (.other (by decide +kernel) (by decide +kernel) (by cbv))
  have hurl := (hverbatim .siteUrl "https://ci.example" (by decide +kernel)).mpr
    (isVerbatim_of_mem (by decide : ':' ∈ _) (by decide) (by decide))
  have hcontent := hover.unset .content (by decide +kernel)
  have hretries := (hover.setRetries "5" (by decide +kernel)).1
  exact ⟨hread, fitsRetries_hosted, loaded, hloaded, houtput, hurl, hcontent,
    Option.some.inj (hretries.symm.trans (by decide +kernel))⟩

/-- An output directory with zeros in front of its number is loaded without them. -/
theorem load_leading_zeros :
    environmentValue? [("RBUILD_OUTPUT", "007")] TextSetting.output.variableName = some "007" ∧
      ∃ loaded, load noFiles [("RBUILD_OUTPUT", "007")] ⟨"rbuild.yaml"⟩ = .ok loaded ∧
        TextSetting.output.value? loaded = some "7" := by
  have hvalue : environmentValue? [("RBUILD_OUTPUT", "007")] TextSetting.output.variableName =
      some "007" := by decide +kernel
  have hfits : FitsRetries [("RBUILD_OUTPUT", "007")] := by
    intro s hs
    have hnone : environmentValue? [("RBUILD_OUTPUT", "007")] retriesVariable = none := by
      decide +kernel
    rw [hnone] at hs
    cases hs
  have hread : read noFiles ⟨"rbuild.yaml"⟩ = .ok default := rfl
  obtain ⟨loaded, hloaded, hover⟩ := exists_load hread hfits
  have hwritten : (Setting.ofText "007").toText = "7" := by decide +kernel
  exact ⟨hvalue, loaded, hloaded, hwritten ▸ hover.set .output "007" hvalue⟩

end StaticSite.Config
