import StaticSite.Path.Normal

/-!
# Paths of a site

Where the pages of a site go, where their metadata lies, and the address under which a page is
published.
-/

namespace StaticSite.Path

/-- Whether an extension is that of an HTML file, in any case of letters. -/
def isHtmlExtension (extension : String) : Bool :=
  let lower := Text.asciiLower extension.toList
  lower == "html".toList || lower == "htm".toList

/-- The path of a page in the output: an HTML file keeps its name, another page becomes one. -/
def outputPage (path : Path) : Path :=
  match path.extension? with
  | some extension => if isHtmlExtension extension then path else path.withExtension "html"
  | none => path.withExtension "html"

/-- The metadata file that goes with a page: the one in its directory. -/
def metadataFile (page : Path) (fileName : String) : Path :=
  match page.parent? with
  | some directory => directory.join ⟨fileName⟩
  | none => ⟨fileName⟩

/-- The directory to which the paths of a configuration file are relative. -/
def configDirectory (config : Path) : Path := config.parent?.getD ⟨"."⟩

/-- The path of a page in its public address: the file name `index.html` is left out. -/
def publicPath (relative : List Char) : List Char :=
  let index := "index.html".toList
  let relative := relative.dropWhile (· == '/')
  if relative = index then []
  else
    match Text.stripPrefix? ('/' :: index).reverse relative.reverse with
    | some directory => ('/' :: directory).reverse
    | none => relative

/-- The public address of a page. -/
def pageUrl (siteUrl : Option String) (relative : String) : String :=
  let base := ((siteUrl.getD "").toList.reverse.dropWhile (· == '/')).reverse
  String.ofList (base ++ '/' :: publicPath relative.toList)

end StaticSite.Path
