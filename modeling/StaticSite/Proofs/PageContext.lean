import StaticSite.PageContext
import StaticSite.Proofs.Config.Environment
import StaticSite.Proofs.Json.Fields
import StaticSite.Site.Content

/-!
# Precedence in page contexts

The context of a page is written in three layers: the values of all pages, the metadata, and the
values that every layout can count on. A name keeps the place at which it first came up and the
value of the last layer that has it. The last layer reads neither a value of all pages nor, for the
body, the address and the script, a value of the metadata under the same name
(`context_obeysPrecedence`).
-/

namespace StaticSite

/-! ## Fields that were read -/

/-- Metadata that were read have each name once. -/
theorem Yaml.Datum.nodup_names_toFields? {fields result : Fields} (h : fields.names.Nodup)
    {entries : List (Datum × Datum)} (hread : toFields? fields entries = some result) :
    result.names.Nodup := by
  induction entries generalizing fields with
  | nil =>
    obtain rfl := Option.some.inj (toFields?.eq_1 fields ▸ hread)
    exact h
  | cons entry entries ih =>
    obtain ⟨key, value⟩ := entry
    rw [toFields?] at hread
    simp only [Option.bind_eq_bind, Option.bind_eq_some_iff] at hread
    obtain ⟨name, -, v, -, hrest⟩ := hread
    exact ih (Fields.nodup_names_insert h name v) hrest

theorem Metadata.nodup_names_ofYaml {text : String} {metadata : Metadata}
    (h : ofYaml text = .ok metadata) : metadata.values.names.Nodup := by
  have hempty : Metadata.empty.values.names.Nodup := Fields.nodup_names_nil
  rw [ofYaml] at h
  split at h
  · exact Except.ok.inj h ▸ hempty
  split at h
  · cases h
  · exact Except.ok.inj h ▸ hempty
  · split at h
    · next hfields =>
      exact Except.ok.inj h ▸ Yaml.Datum.nodup_names_toFields? Fields.nodup_names_nil hfields
    · cases h
  · cases h

theorem FileTree.nodup_names_metadataOf (tree : FileTree) (page : Path) (fileName : String) :
    (tree.metadataOf page fileName).values.names.Nodup := by
  unfold metadataOf
  split
  · exact List.nodup_nil
  · split
    · next h => exact Metadata.nodup_names_ofYaml h
    · exact List.nodup_nil

namespace Config

theorem nodup_names_readFields? {depth : Nat} {fields result : Fields} (h : fields.names.Nodup)
    {entries : List (Yaml.Node × Yaml.Node)}
    (hread : readFields? depth fields entries = some result) : result.names.Nodup := by
  induction entries generalizing fields with
  | nil =>
    rw [readFields?] at hread
    exact Option.some.inj hread ▸ h
  | cons entry entries ih =>
    obtain ⟨key, value⟩ := entry
    rw [readFields?] at hread
    simp only [Option.bind_eq_bind, Option.bind_eq_some_iff] at hread
    obtain ⟨name, -, v, -, hrest⟩ := hread
    exact ih (Fields.nodup_names_insert h name v) hrest

theorem nodup_names_readPage? {node : Yaml.Node} {fields : Fields}
    (h : readPage? node = some fields) : fields.names.Nodup := by
  unfold readPage? at h
  split at h
  · exact nodup_names_readFields? Fields.nodup_names_nil h
  · obtain ⟨-, -, rfl⟩ := Option.map_eq_some_iff.mp h
    exact Fields.nodup_names_nil

theorem nodup_names_ofNode? {node : Yaml.Node} {config : Config} (h : ofNode? node = some config) :
    config.page.names.Nodup := by
  simp only [ofNode?, Option.bind_eq_bind, Option.bind_eq_some_iff] at h
  obtain ⟨_, -, _, -, _, -, _, -, _, -, _, -, _, -, _, -, page, hpage, _, -, hconfig⟩ := h
  obtain rfl := Option.some.inj hconfig
  rcases setting?_eq_some hpage with rfl | ⟨node, hread⟩
  · exact Fields.nodup_names_nil
  · exact nodup_names_readPage? hread

/-- The values of all pages in a configuration that was loaded have each name once. -/
theorem nodup_names_load {files : FileTree} {environment : List (String × String)} {path : Path}
    {config : Config} (h : load files environment path = .ok config) :
    config.page.names.Nodup := by
  obtain ⟨config', hread, hover⟩ := overridden_of_load h
  rw [← hover.page_eq]
  obtain rfl | ⟨node, hnode⟩ := eq_default_or_ofNode?_of_read hread
  · exact Fields.nodup_names_nil
  · exact nodup_names_ofNode? hnode

end Config

namespace ContextSetting

variable {setting : ContextSetting} {read? : Path → Option String} {metadata : Metadata}
  {body : String} {page : Path} {name : String} {config : Config} {contentRoot : Path}
  {templates : Option (Table String)}

/-! ## The values that every layout can count on -/

/-- The names that every layout can count on, in their order. -/
def derivedNames (templates : Option (Table String)) : List String :=
  ["doc", "title", "keywords", "description", "pagetype", "url", "pageJs", "prefetch"] ++
    if templates.isSome then ["templates"] else []

theorem nodup_derivedNames (templates : Option (Table String)) :
    (derivedNames templates).Nodup := by
  cases templates <;> simp [derivedNames]

@[simp] theorem names_derived (setting : ContextSetting) (read? : Path → Option String)
    (metadata : Metadata) (body : String) (page : Path) :
    (setting.derived read? metadata body page).names = derivedNames setting.templates := by
  rw [derived, derivedNames]
  cases setting.templates <;> rfl

theorem get?_context (setting : ContextSetting) (read? : Path → Option String)
    (metadata : Metadata) (body : String) (page : Path) (name : String) :
    (setting.context read? metadata body page).get? name =
      ((setting.derived read? metadata body page).get? name).or
        ((setting.globals.extend metadata.values).get? name) := by
  have hnodup : (setting.derived read? metadata body page).names.Nodup :=
    names_derived setting read? metadata body page ▸ nodup_derivedNames _
  rw [PageContext.get?, context, Fields.get?_extend _ hnodup]

/-- A name that every layout can count on has its value from the last layer. -/
theorem get?_context_of_mem (setting : ContextSetting)
    (h : name ∈ derivedNames setting.templates) :
    (setting.context read? metadata body page).get? name =
      (setting.derived read? metadata body page).get? name := by
  have hfound : (setting.derived read? metadata body page).get? name ≠ none :=
    mt Fields.get?_eq_none_iff.mp (by rw [names_derived]; exact not_not_intro h)
  obtain ⟨v, hv⟩ := Option.ne_none_iff_exists'.mp hfound
  rw [get?_context, hv, Option.some_or]

/-- Any other name has the value of the metadata, or else that of all pages. -/
theorem get?_context_of_not_mem (hmetadata : metadata.values.names.Nodup)
    (h : name ∉ derivedNames setting.templates) :
    (setting.context read? metadata body page).get? name =
      (metadata.values.get? name).or (setting.globals.get? name) := by
  have hnone : (setting.derived read? metadata body page).get? name = none :=
    Fields.get?_eq_none_iff.mpr (by rwa [names_derived])
  rw [get?_context, hnone, Option.none_or, Fields.get?_extend _ hmetadata]

/-- A name keeps the place at which it first came up. -/
theorem names_context (hmetadata : metadata.values.names.Nodup) :
    (setting.context read? metadata body page).values.names =
      setting.globals.names ++
        metadata.values.names.filter (fun name ↦ name ∉ setting.globals.names) ++ (derivedNames setting.templates).filter
          (fun name ↦ name ∉ setting.globals.names ∧ name ∉ metadata.values.names) := by
  have hnodup : (setting.derived read? metadata body page).names.Nodup :=
    names_derived setting read? metadata body page ▸ nodup_derivedNames _
  rw [context, Fields.names_extend _ hnodup, names_derived, Fields.names_extend _ hmetadata]
  refine congrArg _ (List.filter_congr fun name _ ↦ ?_)
  simp only [List.mem_append, List.mem_filter, decide_eq_true_eq, decide_eq_decide]
  tauto

theorem nodup_names_context (hglobals : setting.globals.names.Nodup) :
    (setting.context read? metadata body page).values.names.Nodup :=
  Fields.nodup_names_extend (Fields.nodup_names_extend hglobals _) _

/-! ## What the last layer reads -/

/-- Of the values of all pages, the last layer reads the address of the site and the script of pages
without one. -/
theorem derived_ofConfig_congr {globals : Fields}
    (h : ∀ name, name ∉ derivedNames templates → globals.get? name = config.page.get? name) :
    (ofConfig { config with page := globals } contentRoot templates).derived read? metadata body
        page = (ofConfig config contentRoot templates).derived read? metadata body page := by
  have hread : ∀ name, name ∉ derivedNames templates →
      ({ config with page := globals } : Config).pageText? name = config.pageText? name :=
    fun name hname ↦ by rw [Config.pageText?, Config.pageText?, h name hname]
  have hnames : "siteUrl" ∉ derivedNames templates ∧ "defaultScript" ∉ derivedNames templates := by
    cases templates <;> simp [derivedNames]
  have hurl : ({ config with page := globals } : Config).siteUrl = config.siteUrl := by
    rw [Config.siteUrl, Config.siteUrl, hread _ hnames.1]
  have hscript : ({ config with page := globals } : Config).defaultScript =
      config.defaultScript := by
    rw [Config.defaultScript, Config.defaultScript, hread _ hnames.2]
  simp only [ofConfig, derived, pageUrl, pageScript, hurl, hscript]

/-- The body, the address and the script of a page do not hang on metadata of the same names. -/
theorem get?_derived_congr {metadata' : Metadata} (hname : name ∈ ["doc", "url", "pageJs"])
    (h : ∀ other, other ∉ ["doc", "url", "pageJs"] →
      metadata'.values.get? other = metadata.values.get? other) :
    (setting.derived read? metadata' body page).get? name =
      (setting.derived read? metadata body page).get? name := by
  have hscript : setting.pageScript read? metadata' page =
      setting.pageScript read? metadata page := by
    rw [pageScript, pageScript, Metadata.scriptPath?, Metadata.scriptPath?, Metadata.text?,
      Metadata.text?, h "pageJsPath" (by decide)]
  simp only [List.mem_cons, List.not_mem_nil, or_false] at hname
  rcases hname with rfl | rfl | rfl <;> simp [derived, Fields.get?, hscript]

end ContextSetting

/-! ## Precedence -/

open ContextSetting in
/-- The names and values of the context of a page come from the values of all pages, the metadata
and what every layout can count on, by their precedence. -/
structure PageContext.ObeysPrecedence (config : Config) (templates : Option (Table String))
    (metadata : Metadata) (body : String) (page : Path) (context : PageContext) : Prop where
  nodup_names : context.values.names.Nodup
  names_eq : context.values.names =
    config.page.names ++ metadata.values.names.filter (fun name ↦ name ∉ config.page.names) ++
      (derivedNames templates).filter
        (fun name ↦ name ∉ config.page.names ∧ name ∉ metadata.values.names)
  get?_doc : context.get? "doc" = some (.text body)
  get?_title : ∀ v, metadata.values.get? "title" = some v → v.display ≠ "" →
    context.get? "title" = some (.text v.display)
  get?_title_of_empty : (∀ v, metadata.values.get? "title" = some v → v.display = "") →
    context.get? "title" = some (.text (page.fileName?.getD ""))
  exists_text : ∀ name ∈ ["keywords", "description", "pagetype", "url", "pageJs"],
    ∃ text, context.get? name = some (.text text)
  exists_list : ∃ items, context.get? "prefetch" = some (.list items)
  get?_templates : ∀ children, templates = some children →
    context.get? "templates" = some (.record (children.mapValues .text))
  get?_other : ∀ name, name ∉ derivedNames templates →
    context.get? name = (metadata.values.get? name).or (config.page.get? name)

namespace ContextSetting

variable {setting : ContextSetting} {metadata : Metadata} {config : Config}

/-- The value in the last layer counts for the names that every layout can count on. -/
private theorem get?_context_eq (read? : Path → Option String) (metadata : Metadata)
    (body : String) (page : Path) {name : String} {v : Value}
    (h : (setting.derived read? metadata body page).get? name = some v) :
    (setting.context read? metadata body page).get? name = some v := by
  rw [get?_context, h, Option.some_or]

theorem obeysPrecedence_context (hpage : config.page.names.Nodup)
    (hmetadata : metadata.values.names.Nodup) (contentRoot : Path)
    (templates : Option (Table String)) (read? : Path → Option String) (body : String)
    (page : Path) : PageContext.ObeysPrecedence config templates metadata body page
      ((ofConfig config contentRoot templates).context read? metadata body page) where
  nodup_names := nodup_names_context hpage
  names_eq := names_context hmetadata
  get?_doc := get?_context_eq _ _ _ _ rfl
  get?_title v hv hne := by
    refine get?_context_eq _ _ _ _ ?_
    simp [derived, Fields.get?, Metadata.title?, Metadata.text?, hv, Value.nonemptyText?, hne]
  get?_title_of_empty h := by
    refine get?_context_eq _ _ _ _ ?_
    have hnone : metadata.title? = none := by
      refine Option.bind_eq_none_iff.mpr fun v hv ↦ ?_
      simp [Value.nonemptyText?, h v hv]
    simp [derived, Fields.get?, hnone]
  exists_text name hname := by
    simp only [List.mem_cons, List.not_mem_nil, or_false] at hname
    rcases hname with rfl | rfl | rfl | rfl | rfl <;> exact ⟨_, get?_context_eq _ _ _ _ rfl⟩
  exists_list := ⟨_, get?_context_eq _ _ _ _ rfl⟩
  get?_templates children hchildren := by
    subst hchildren
    exact get?_context_eq _ _ _ _ rfl
  get?_other name hname := get?_context_of_not_mem hmetadata hname

/-- The context of a page obeys the precedence of its layers. What every layout can count on stays
the same whatever values of all pages have these names, and the body, the address and the script
also whatever metadata have theirs. -/
theorem context_obeysPrecedence (hpage : config.page.names.Nodup)
    (hmetadata : metadata.values.names.Nodup) (contentRoot : Path)
    (templates : Option (Table String)) (read? : Path → Option String) (body : String)
    (page : Path) :
    PageContext.ObeysPrecedence config templates metadata body page
      ((ofConfig config contentRoot templates).context read? metadata body page) ∧
    (∀ globals : Fields,
      (∀ name, name ∉ derivedNames templates → globals.get? name = config.page.get? name) →
      ∀ name ∈ derivedNames templates,
        ((ofConfig { config with page := globals } contentRoot templates).context read? metadata
          body page).get? name =
        ((ofConfig config contentRoot templates).context read? metadata body page).get? name) ∧
    (∀ metadata' : Metadata,
      (∀ name, name ∉ ["doc", "url", "pageJs"] →
        metadata'.values.get? name = metadata.values.get? name) →
      ∀ name ∈ ["doc", "url", "pageJs"],
        ((ofConfig config contentRoot templates).context read? metadata' body page).get? name =
        ((ofConfig config contentRoot templates).context read? metadata body page).get? name) := by
  refine ⟨obeysPrecedence_context hpage hmetadata contentRoot templates read? body page,
    fun globals hglobals name hname ↦ ?_, fun metadata' hsame name hname ↦ ?_⟩
  · rw [get?_context_of_mem (ofConfig { config with page := globals } _ _) hname,
      get?_context_of_mem (ofConfig config _ _) hname, derived_ofConfig_congr hglobals]
  · have hmem : name ∈ derivedNames templates := by
      simp only [List.mem_cons, List.not_mem_nil, or_false] at hname
      rcases hname with rfl | rfl | rfl <;> simp [derivedNames]
    rw [get?_context_of_mem (ofConfig config _ _) hmem,
      get?_context_of_mem (ofConfig config _ _) hmem, get?_derived_congr hname hsame]

/-- The contexts of a site's pages obey the precedence: no name of a configuration that was loaded
or of metadata comes up twice. -/
theorem obeysPrecedence_of_load {files : FileTree} {environment : List (String × String)}
    {path : Path} (hload : Config.load files environment path = .ok config) (tree : FileTree)
    (contentRoot : Path) (templates : Option (Table String)) (read? : Path → Option String)
    (body : String) (page : Path) :
    PageContext.ObeysPrecedence config templates (tree.metadataOf page config.metadataFile) body
      page ((ofConfig config contentRoot templates).context read?
        (tree.metadataOf page config.metadataFile) body page) :=
  obeysPrecedence_context (Config.nodup_names_load hload)
    (tree.nodup_names_metadataOf page config.metadataFile) contentRoot templates read? body page

/-! ## A page of a site with a theme -/

/-- A configuration with values of all pages. -/
def themedConfig : Config :=
  { Config.default with
    page := [("title", .text "Site"), ("lang", .text "en"), ("theme", .text "light")] }

/-- Metadata that set a title, a theme and an author. -/
def themedMetadata : Metadata :=
  ⟨[("theme", .text "dark"), ("title", .text "Page"), ("author", .text "someone")]⟩

theorem context_obeysPrecedence_themed :
    themedConfig.page.names.Nodup ∧ themedMetadata.values.names.Nodup ∧
      PageContext.ObeysPrecedence themedConfig none themedMetadata "<p>A</p>" ⟨"origin/a.html"⟩
        ((ofConfig themedConfig ⟨"origin"⟩ none).context (fun _ ↦ none) themedMetadata "<p>A</p>"
          ⟨"origin/a.html"⟩) := by
  have hpage : themedConfig.page.names.Nodup := by decide
  have hmetadata : themedMetadata.values.names.Nodup := by decide
  exact ⟨hpage, hmetadata, (context_obeysPrecedence hpage hmetadata _ _ _ _ _).1⟩

end ContextSetting

end StaticSite
