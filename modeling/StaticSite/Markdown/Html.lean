import StaticSite.Markdown.Document
import StaticSite.Markdown.Phrase
import StaticSite.Url.Percent

/-!
# HTML of a document

Blocks begin on lines of their own. Footnotes are numbered in the order in which the page first
names them.
-/

namespace StaticSite.Markdown

/-- Text in HTML. -/
def escapeText (text : List Char) : String :=
  String.ofList (text.flatMap fun c =>
    if c = '&' then "&amp;".toList
    else if c = '<' then "&lt;".toList
    else if c = '>' then "&gt;".toList
    else [c])

/-- The value of an attribute in HTML. -/
def escapeValue (text : List Char) : String :=
  String.ofList (text.flatMap fun c =>
    if c = '"' then "&quot;".toList else (escapeText [c]).toList)

/-- Whether a character may stand in an address as it is. -/
def isAddressChar (c : Char) : Bool :=
  c.isAlphanum || "!#$%()*+,-./:;=?@_~".toList.contains c

/-- An address in HTML. -/
def escapeAddress (address : List Char) : String :=
  String.ofList (address.flatMap fun c =>
    if isAddressChar c then [c]
    else if c = '&' then "&amp;".toList
    else if c = '\'' then "&#x27;".toList
    else (Url.utf8Bytes c).flatMap Url.encodeByte)

/-- A page while it is written. -/
structure Page where
  /-- The HTML. -/
  html : String := ""
  /-- Whether it ends at the start of a line. -/
  atLineStart : Bool := true
  /-- The labels of the footnotes named so far, the first one first. -/
  numbered : List (List Char) := []

namespace Page

/-- The page with some HTML. -/
def write (page : Page) (html : String) : Page :=
  if html.isEmpty then page
  else { page with html := page.html ++ html, atLineStart := html.back == '\n' }

/-- The page with text whose last character says whether a line begins after it. -/
def writeText (page : Page) (escaped : String) (text : List Char) : Page :=
  { page with html := page.html ++ escaped, atLineStart := text.getLast? == some '\n' }

/-- The page at the start of a line. -/
def startLine (page : Page) : Page := if page.atLineStart then page else page.write "\n"

/-- The page with the number of a footnote. -/
def writeNumber (page : Page) (label : List Char) (opening closing : String) : Page :=
  let numbered :=
    if page.numbered.contains label then page.numbered else page.numbered ++ [label]
  let number := toString (numbered.idxOf label + 1)
  { page with
    html := page.html ++ opening ++ number ++ closing
    numbered
    atLineStart := if closing.isEmpty then page.atLineStart else closing.back == '\n' }

/-- The page with the box of a task. -/
def writeTask (page : Page) (done : Bool) : Page :=
  page.write
    ("<input disabled=\"\" type=\"checkbox\"" ++ (if done then " checked=\"\"" else "") ++ "/>\n")

end Page

/-- The title of a link or an image, if it has one. -/
def titleHtml (title : List Char) : String :=
  if title.isEmpty then "" else "\" title=\"" ++ escapeValue title

mutual

/-- The page with the text of a part that describes an image. -/
def Page.writeDescription (page : Page) : Inline → Page
  | .plain text => page.writeText (escapeValue text) text
  | .code text => page.writeText (escapeValue text) text
  | .html text => page.writeText (escapeValue text) text
  | .softBreak => page.write " "
  | .hardBreak => page.write " "
  | .emphasis children => page.writeDescriptions children
  | .strong children => page.writeDescriptions children
  | .struck children => page.writeDescriptions children
  | .link _ children => page.writeDescriptions children
  | .mail address => page.writeText (escapeValue address) address
  | .image _ children => page.writeDescriptions children
  | .footnote label => page.writeNumber label "[" "]"

/-- The page with the text of parts that describe an image. -/
def Page.writeDescriptions (page : Page) : List Inline → Page
  | [] => page
  | inline :: rest => (page.writeDescription inline).writeDescriptions rest

end

mutual

/-- The page with a part of a text. -/
def Page.writeInline (page : Page) : Inline → Page
  | .plain text => page.writeText (escapeText text) text
  | .code text => page.write ("<code>" ++ escapeText text ++ "</code>")
  | .html text => page.write (String.ofList text)
  | .softBreak => page.write "\n"
  | .hardBreak => page.write "<br />\n"
  | .emphasis children => ((page.write "<em>").writeInlines children).write "</em>"
  | .strong children => ((page.write "<strong>").writeInlines children).write "</strong>"
  | .struck children => ((page.write "<del>").writeInlines children).write "</del>"
  | .link target children =>
    ((page.write
      ("<a href=\"" ++ escapeAddress target.destination ++ titleHtml target.title
        ++ "\">")).writeInlines children).write "</a>"
  | .mail address =>
    page.write
      ("<a href=\"mailto:" ++ escapeAddress address ++ "\">" ++ escapeText address ++ "</a>")
  | .image target children =>
    ((page.write
      ("<img src=\"" ++ escapeAddress target.destination ++ "\" alt=\"")).writeDescriptions
        children).write (titleHtml target.title ++ "\" />")
  | .footnote label =>
    page.writeNumber label
      ("<sup class=\"footnote-reference\"><a href=\"#" ++ escapeValue label ++ "\">") "</a></sup>"

/-- The page with parts of a text. -/
def Page.writeInlines (page : Page) : List Inline → Page
  | [] => page
  | inline :: rest => (page.writeInline inline).writeInlines rest

end

/-- The attributes of a heading in HTML. -/
def HeadingAttributes.toHtml (attributes : HeadingAttributes) : String :=
  let id := (attributes.id?.map fun id => " id=\"" ++ escapeValue id ++ "\"").getD ""
  let classes :=
    if attributes.classes.isEmpty then ""
    else " class=\"" ++ " ".intercalate (attributes.classes.map escapeValue) ++ "\""
  let others := attributes.others.map fun (key, value?) =>
    " " ++ escapeValue key ++ "=\"" ++ escapeValue (value?.getD []) ++ "\""
  id ++ classes ++ String.join others

/-- What the cells of a column carry. -/
def Alignment.toHtml : Alignment → String
  | .free => ""
  | .left => " style=\"text-align: left\""
  | .right => " style=\"text-align: right\""
  | .center => " style=\"text-align: center\""

/-- The page with the cells of a row. -/
def Page.writeCells (document : Document) (tag : String) (page : Page)
    (cells : List (Alignment × List Char)) : Page :=
  cells.foldl (fun page (alignment, text) =>
    ((page.write ("<" ++ tag ++ alignment.toHtml ++ ">")).writeInlines
      (Inline.ofText document text)).write ("</" ++ tag ++ ">")) page

/-- The page with text of a block, after the box of a task. -/
def Page.writeContent (document : Document) (page : Page) (task : Option Bool)
    (text : List Char) : Page :=
  ((task.map page.writeTask).getD page).writeInlines (Inline.ofText document text)

/-- The opening tag of code: the first of the words after the fence names the language. -/
def codeTag (info : List Char) : String :=
  let language := info.takeWhile (· != ' ')
  if language.isEmpty then "<pre><code>"
  else "<pre><code class=\"language-" ++ escapeValue language ++ "\">"

mutual

/-- The page with a block. The paragraphs of a tight list have no tags. -/
def Page.writeBlock (document : Document) (tight : Bool) (page : Page) : Block → Page
  | .paragraph task text =>
    if tight then page.writeContent document task text
    else ((page.startLine.write "<p>").writeContent document task text).write "</p>\n"
  | .heading level attributes task text =>
    let tag := "h" ++ toString level
    ((page.startLine.write ("<" ++ tag ++ attributes.toHtml ++ ">")).writeContent document task
      text).write ("</" ++ tag ++ ">\n")
  | .rule => page.startLine.write "<hr />\n"
  | .code info text =>
    ((page.startLine.write (codeTag info)).writeText (escapeText text) text).write
      "</code></pre>\n"
  | .html lines => lines.foldl (fun page line => page.write (String.ofList line)) page
  | .table alignments head rows =>
    let page := (page.write "<table><thead><tr>").writeCells document "th" (alignments.zip head)
    let page := page.write "</tr></thead><tbody>\n"
    let page := rows.foldl (fun page row =>
      ((page.write "<tr>").writeCells document "td" (alignments.zip row)).write "</tr>\n") page
    page.write "</tbody></table>\n"
  | .task done => page.writeTask done
  | .quote children =>
    ((page.startLine.write "<blockquote>\n").writeBlocks document false children).write
      "</blockquote>\n"
  | .list start tight items =>
    let tag := if start.isSome then "ol" else "ul"
    let first :=
      match start with
      | some n => if n = 1 then "" else " start=\"" ++ toString n ++ "\""
      | none => ""
    ((page.startLine.write ("<" ++ tag ++ first ++ ">\n")).writeBlocks document tight items).write
      ("</" ++ tag ++ ">\n")
  | .item children =>
    ((page.startLine.write "<li>").writeBlocks document tight children).write "</li>\n"
  | .footnote label children =>
    let page := page.startLine.writeNumber label
      ("<div class=\"footnote-definition\" id=\"" ++ escapeValue label
        ++ "\"><sup class=\"footnote-definition-label\">") "</sup>"
    (page.writeBlocks document false children).write "</div>\n"

/-- The page with some blocks. -/
def Page.writeBlocks (document : Document) (tight : Bool) (page : Page) : List Block → Page
  | [] => page
  | block :: rest => (page.writeBlock document tight block).writeBlocks document tight rest

end

/-- The HTML of a text. -/
def toHtml (text : String) : String :=
  let document := Document.ofText text.toList
  (Page.writeBlocks document false {} document.blocks).html

end StaticSite.Markdown
