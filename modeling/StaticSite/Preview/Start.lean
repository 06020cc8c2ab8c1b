import StaticSite.Path.Site
import StaticSite.Preview.Rebuild
import StaticSite.Site.Formats
import StaticSite.Watch

/-!
# Starting a preview

The site is built once, and then its directories are watched. What is watched is named by paths from
the root, as the events of the watch are; the configuration file and the directory under which the
builder takes relative paths are, too.
-/

namespace StaticSite.Preview

/-- Builds the site of a configuration file and previews it. With a watch, pages reload if the
configuration allows it. -/
def start (environment : List (String × String)) (configFile : Path) (watch : Bool) :
    Work Preview := do
  let files ← Work.files
  let configPath := files.canonicalOr (Config.filePath files (some configFile))
  let config ← Work.ofExcept .config (Config.load files environment configPath)
  let base := files.canonicalOr configPath.configDirectory
  let liveReload := watch && config.preview.liveReload
  Work.say "Building site..."
  let (result, builder) ← Work.build (Builder.ofConfig config base .standard liveReload).build
  Work.reportBuild result
  return { builder, configPath, base, liveReload }

/-- What is watched of a site whose preview has just started. -/
def watched (preview : Preview) (files : FileTree) : Watched where
  content := files.canonicalOr preview.builder.paths.content
  templates := files.canonicalOr preview.builder.paths.templates
  config := files.canonicalOr preview.configPath
  metadataFile := preview.builder.config.metadataFile
  registry := .standard

end StaticSite.Preview
