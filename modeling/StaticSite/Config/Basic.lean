import StaticSite.Json.Compact
import StaticSite.Path.Basic
import StaticSite.Text.Table

/-!
# Configuration of a site

What can be set for a site, with the values that hold where nothing is set: templates lie in
`template`, content in `origin`, and pages go to `public`.
-/

namespace StaticSite

/-- Settings of the published site. -/
structure SiteSettings where
  /-- The address under which the site is published. -/
  url : Option String
  /-- The script of pages that have none of their own. -/
  defaultScript : Option String
  deriving DecidableEq, Repr

/-- The directories of a site: as configured, or resolved. -/
structure Directories where
  /-- The directory of templates. -/
  templates : Path
  /-- The directory of content. -/
  content : Path
  /-- The directory of output. -/
  output : Path
  deriving DecidableEq, Repr

/-- How files are watched. -/
structure WatchSettings where
  /-- Whether files are looked at again and again, in place of being notified of changes. -/
  poll : Bool
  /-- The time between two looks, in milliseconds. -/
  pollInterval : Nat
  /-- The time in which changes are taken together, in milliseconds. -/
  debounce : Nat
  deriving DecidableEq, Repr

/-- Settings for the preview of a site. -/
structure PreviewSettings where
  /-- How files are watched. -/
  watch : WatchSettings
  /-- Whether browsers reload a page when it changes. -/
  liveReload : Bool
  deriving DecidableEq, Repr

/-- The configuration of a site. -/
structure Config where
  /-- Settings of the published site. -/
  site : SiteSettings
  /-- The directories. -/
  paths : Directories
  /-- The layout, relative to the directory of templates. -/
  layout : String
  /-- The name of metadata files. -/
  metadataFile : String
  /-- The number of times a failed fetch is repeated. -/
  retries : Nat
  /-- Whether the white space of templates and pages is tidied. -/
  tidy : Bool
  /-- The templates that are composed once for all pages, with their paths. -/
  childTemplates : Table String
  /-- The values of all pages. -/
  page : Fields
  /-- Settings for the preview. -/
  preview : PreviewSettings
  deriving Repr

namespace Config

/-- The file name of a configuration. -/
def defaultFile : String := "rbuild.yaml"

/-- The settings of the site where nothing is set. -/
def defaultSite : SiteSettings := ⟨none, none⟩

/-- The directories where nothing is set. -/
def defaultPaths : Directories := ⟨⟨"template"⟩, ⟨"origin"⟩, ⟨"public"⟩⟩

/-- How files are watched where nothing is set. -/
def defaultWatch : WatchSettings := ⟨false, 500, 100⟩

/-- The settings for the preview where nothing is set. -/
def defaultPreview : PreviewSettings := ⟨defaultWatch, true⟩

/-- The configuration where nothing is set. -/
def default : Config where
  site := defaultSite
  paths := defaultPaths
  layout := "layout.html"
  metadataFile := "metadata.yaml"
  retries := 3
  tidy := true
  childTemplates := []
  page := []
  preview := defaultPreview

/-- A value of all pages, if it is a text. -/
def pageText? (config : Config) (name : String) : Option String :=
  match config.page.get? name with
  | some (.text s) => some s
  | _ => none

/-- The address under which the site is published. -/
def siteUrl (config : Config) : Option String := config.site.url <|> config.pageText? "siteUrl"

/-- The script of pages that have none of their own. -/
def defaultScript (config : Config) : Option String :=
  config.site.defaultScript <|> config.pageText? "defaultScript"

end Config

/-- The directories with relative paths taken under a base directory. -/
def Directories.resolve (paths : Directories) (base : Path) : Directories :=
  ⟨base.join paths.templates, base.join paths.content, base.join paths.output⟩

end StaticSite
