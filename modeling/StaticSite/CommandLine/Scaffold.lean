import StaticSite.Session

/-!
# New projects

A new project has a configuration file with all settings, a layout with a partial template, and one
page with metadata. Files that are there already stay as they are.
-/

namespace StaticSite.CommandLine

/-- The configuration of a new project: the defaults, an address, and a value for pages. -/
def starterConfig : String :=
  "site:\n" ++
  "  url: https://example.com\n" ++
  "  default_script: null\n" ++
  "paths:\n" ++
  "  templates: template\n" ++
  "  content: origin\n" ++
  "  output: public\n" ++
  "layout: layout.html\n" ++
  "metadata_file: metadata.yaml\n" ++
  "retries: 3\n" ++
  "tidy: true\n" ++
  "child_templates: \x7b\x7d\n" ++
  "page:\n" ++
  "  siteName: My Site\n" ++
  "dev:\n" ++
  "  watch:\n" ++
  "    poll: false\n" ++
  "    poll_interval_ms: 500\n" ++
  "    debounce_ms: 100\n" ++
  "  live_reload: true\n"

/-- The layout of a new project. -/
def starterLayout : String :=
  "<!DOCTYPE html>\n" ++
  "<html lang=\"\x7b\x7b\x7b lang=en \x7d\x7d\x7d\">\n" ++
  "<head>\n" ++
  "  <meta charset=\"utf-8\">\n" ++
  "  <title>\x7b\x7b title | safe \x7d\x7d</title>\n" ++
  "  <meta name=\"keywords\" content=\"\x7b\x7b keywords | safe \x7d\x7d\">\n" ++
  "  <meta name=\"description\" content=\"\x7b\x7b description | safe \x7d\x7d\">\n" ++
  "  <link rel=\"canonical\" href=\"\x7b\x7b url | safe \x7d\x7d\">\n" ++
  "</head>\n" ++
  "<body>\n" ++
  "  \x7b\x7b partials/header.html \x7d\x7d\n" ++
  "  <main>\x7b\x7b\x7b doc \x7d\x7d\x7d</main>\n" ++
  "  \x7b\x7b pageJs | safe \x7d\x7d\n" ++
  "</body>\n" ++
  "</html>\n"

/-- The partial template of a new project. -/
def starterHeader : String :=
  "<header><a href=\"/\">\x7b\x7b\x7b siteName=My Site \x7d\x7d\x7d</a></header>\n"

/-- The page of a new project. -/
def starterPage : String :=
  "<h1>Welcome</h1>\n<p>Edit origin/index.html and run <code>rbuild build</code>.</p>\n"

/-- The metadata of the page. -/
def starterMetadata : String := "title: Home\ndescription: The home page\n"

/-- Writes a file of a new project unless there is something at its path. -/
def writeStarter (path : Path) (text : String) : Work Unit := do
  if (← Work.files).hasEntry path then Work.say ("Keeping existing " ++ path.text)
  else
    match path.parent? with
    | some parent => Work.ensureDirectory parent
    | none => pure ()
    Work.change fun files => files.write path (.text text)
    Work.say ("Created " ++ path.text)

/-- Makes a new project in a directory. -/
def scaffold (directory : Path) (create : Bool) : Work Unit := do
  let path := (← Work.files).currentPath.join directory
  if !(← Work.files).hasEntry path then
    if create then
      Work.ensureDirectory path
      Work.say ("Created directory " ++ path.text)
    else Work.fail (.missingDirectory path)
  let config := path.join ⟨Config.defaultFile⟩
  if (← Work.files).hasEntry config then Work.fail (.configExists config)
  Work.say ("Initializing project in " ++ path.text)
  Work.change fun files => files.write config (.text starterConfig)
  Work.say ("Created config file " ++ config.text)
  let templates := path.join Config.defaultPaths.templates
  let content := path.join Config.defaultPaths.content
  writeStarter (templates.join ⟨Config.default.layout⟩) starterLayout
  writeStarter (templates.join ⟨"partials/header.html"⟩) starterHeader
  writeStarter (content.join ⟨"index.html"⟩) starterPage
  writeStarter (content.join ⟨Config.default.metadataFile⟩) starterMetadata

end StaticSite.CommandLine
