import StaticSite.Config.Basic
import StaticSite.Metadata
import StaticSite.Path.Site

/-!
# The context of a page

The values that a layout sees for a page: those of all pages, then the metadata of the page, then
the ones that every layout can count on, such as the title and the address.
-/

namespace StaticSite

/-- What the contexts of all pages of a site have in common. -/
structure ContextSetting where
  /-- The values of all pages. -/
  globals : Fields
  /-- The directory of content. -/
  contentRoot : Path
  /-- The address under which the site is published. -/
  siteUrl : Option String
  /-- The script of pages that have none of their own. -/
  defaultScript : Option String
  /-- The composed child templates, if there are any for the layout. -/
  templates : Option (Table String)

/-- The values that a layout sees for a page. -/
structure PageContext where
  /-- The values under their names. -/
  values : Fields
  deriving Repr

namespace PageContext

/-- The value under a name. -/
def get? (context : PageContext) (name : String) : Option Value := context.values.get? name

/-- The body of the page. -/
def body (context : PageContext) : String :=
  match context.get? "doc" with
  | some (.text s) => s
  | _ => ""

end PageContext

namespace ContextSetting

/-- The setting of a configuration. -/
def ofConfig (config : Config) (contentRoot : Path) (templates : Option (Table String)) :
    ContextSetting :=
  ⟨config.page, contentRoot, config.siteUrl, config.defaultScript, templates⟩

/-- The path of a script, relative to the directory of its page. -/
def scriptPath (page : Path) (script : String) : Path :=
  match page.parent? with
  | some directory => directory.join ⟨script⟩
  | none => ⟨script⟩

/-- The script of a page, in its element, or the one of pages without a script of their own. The
function reads files. -/
def pageScript (setting : ContextSetting) (read? : Path → Option String) (metadata : Metadata)
    (page : Path) : String :=
  let usual := setting.defaultScript.getD ""
  match metadata.scriptPath? with
  | none => usual
  | some script =>
    match read? (scriptPath page script) with
    | some text => "<script>" ++ text ++ "</script>"
    | none => usual

/-- The address of a page. -/
def pageUrl (setting : ContextSetting) (page : Path) : String :=
  let relative := (page.relativeTo? setting.contentRoot).getD ⟨page.fileName?.getD ""⟩
  Path.pageUrl setting.siteUrl relative.outputPage.urlPath

/-- The values that every layout can count on, in their order. -/
def derived (setting : ContextSetting) (read? : Path → Option String) (metadata : Metadata)
    (body : String) (page : Path) : Fields :=
  let text (name : String) : Value := .text ((metadata.text? name).getD "")
  [ ("doc", .text body),
    ("title", .text (metadata.title?.getD (page.fileName?.getD ""))),
    ("keywords", text "keywords"),
    ("description", text "description"),
    ("pagetype", text "pagetype"),
    ("url", .text (setting.pageUrl page)),
    ("pageJs", .text (setting.pageScript read? metadata page)),
    ("prefetch", .list (metadata.prefetch?.getD [])) ]
  ++
  match setting.templates with
  | some templates => [("templates", .record (templates.mapValues Value.text))]
  | none => []

/-- The context of a page with a body. -/
def context (setting : ContextSetting) (read? : Path → Option String) (metadata : Metadata)
    (body : String) (page : Path) : PageContext :=
  ⟨(setting.globals.extend metadata.values).extend
    (setting.derived read? metadata body page)⟩

end ContextSetting

end StaticSite
