import StaticSite.Markdown.Line

/-!
# HTML in Markdown

Tags, comments, declarations and addresses in angle brackets. Every reader begins after the opening
bracket and gives the text after the closing one.
-/

namespace StaticSite.Markdown

/-- Whether a character may stand in the name of a tag after its first letter. -/
def isTagNameChar (c : Char) : Bool := c.isAlphanum || c == '-'

/-- Whether a character may begin the name of an attribute. -/
def isAttributeStart (c : Char) : Bool := c.isAlpha || c == '_' || c == ':'

/-- Whether a character may stand in the name of an attribute. -/
def isAttributeChar (c : Char) : Bool :=
  c.isAlphanum || c == '_' || c == ':' || c == '.' || c == '-'

/-- Whether a character may stand in a value without quotes. -/
def isBareValueChar (c : Char) : Bool :=
  !isSpaceOrEnd c && !("\"'=<>\x60".toList.contains c)

/-- The text after the white space at its front; line ends count if the tag may span lines. -/
def dropTagSpace (spans : Bool) (text : List Char) : List Char :=
  text.dropWhile fun c => isSpace c || (spans && c == '\n')

/-- The text after a value in quotes. -/
def readQuoted? (spans : Bool) (quote : Char) (text : List Char) : Option (List Char) :=
  match text.dropWhile fun c => c != quote && (spans || c != '\n') with
  | c :: rest => if c = quote then some rest else none
  | [] => none

/-- The text after the value of an attribute. -/
def readValue? (spans : Bool) : List Char → Option (List Char)
  | '"' :: rest => readQuoted? spans '"' rest
  | '\'' :: rest => readQuoted? spans '\'' rest
  | c :: rest => if isBareValueChar c then some (rest.dropWhile isBareValueChar) else none
  | [] => none

/-- The text after the attributes of a tag, the white space before each included; at most the given
number is read. -/
def readAttributes? (spans : Bool) : Nat → List Char → Option (List Char)
  | 0, _ => none
  | n + 1, text =>
    match dropTagSpace spans text with
    | [] => none
    | c :: rest =>
      if c = '/' || c = '>' then some (c :: rest)
      else if text.length = rest.length + 1 || !isAttributeStart c then none
      else
        let after := rest.dropWhile isAttributeChar
        match dropTagSpace spans after with
        | '=' :: rest => do readAttributes? spans n (← readValue? spans (dropTagSpace spans rest))
        | _ => readAttributes? spans n after

/-- The text after an opening or closing tag. -/
def readTag? (spans : Bool) : List Char → Option (List Char)
  | '/' :: c :: rest =>
    if c.isAlpha then
      match dropTagSpace spans (rest.dropWhile isTagNameChar) with
      | '>' :: rest => some rest
      | _ => none
    else none
  | c :: rest =>
    if c.isAlpha then
      match readAttributes? spans (rest.length + 1) (rest.dropWhile isTagNameChar) with
      | some ('/' :: '>' :: rest) => some rest
      | some ('>' :: rest) => some rest
      | _ => none
    else none
  | [] => none

/-- The text after a pattern. -/
def readPast? (pattern : String) (text : List Char) : Option (List Char) :=
  (Text.breakOn? pattern.toList text).map Prod.snd

/-- The text after a tag, a comment, an instruction, a declaration or a section of raw text. -/
def readInlineHtml? : List Char → Option (List Char)
  | '!' :: '-' :: '-' :: '>' :: rest => some rest
  | '!' :: '-' :: '-' :: '-' :: '>' :: rest => some rest
  | '!' :: '-' :: '-' :: rest => readPast? "-->" rest
  | '!' :: '[' :: rest =>
    (Text.stripPrefix? "CDATA[".toList rest).bind (readPast? "]]>")
  | '!' :: c :: rest => if c.isAlpha then readPast? ">" rest else none
  | '?' :: rest => readPast? "?>" rest
  | text => readTag? true text

/-- The elements that make a line the start of HTML, in any place of a paragraph. -/
def blockElements : List String :=
  ["address", "article", "aside", "base", "basefont", "blockquote", "body", "caption", "center",
    "col", "colgroup", "dd", "details", "dialog", "dir", "div", "dl", "dt", "fieldset",
    "figcaption", "figure", "footer", "form", "frame", "frameset", "h1", "h2", "h3", "h4", "h5",
    "h6", "head", "header", "hr", "html", "iframe", "legend", "li", "link", "main", "menu",
    "menuitem", "nav", "noframes", "ol", "optgroup", "option", "p", "param", "search", "section",
    "summary", "table", "tbody", "td", "tfoot", "th", "thead", "title", "tr", "track", "ul"]

/-- The elements whose content is kept up to their closing tag. -/
def verbatimElements : List String := ["pre", "style", "script", "textarea"]

/-- Whether a name given in lower case comes next and is followed by white space, the end of the
line or a closing bracket. -/
def startsElement (name : String) (text : List Char) : Bool :=
  Text.asciiLower (text.take name.length) == name.toList
    && (text.drop name.length).head?.all fun c => isSpaceOrEnd c || c == '>'

/-- The text with which a section of HTML ends that may hold blank lines, if such a section begins
here. -/
def sectionEnd? (text : List Char) : Option String :=
  match verbatimElements.find? fun name => startsElement name text with
  | some name => some ("</" ++ name ++ ">")
  | none =>
    match text with
    | '!' :: '-' :: '-' :: _ => some "-->"
    | '?' :: _ => some "?>"
    | '!' :: c :: rest =>
      if Text.startsWith "[CDATA[".toList (c :: rest) then some "]]>"
      else if c.isAlpha then some ">"
      else none
    | _ => none

/-- Whether a tag of one of the block elements begins here. -/
def startsBlockElement (text : List Char) : Bool :=
  let text :=
    match text with
    | '/' :: rest => rest
    | text => text
  let (name, rest) := Text.spanOf Char.isAlphanum text
  blockElements.contains (String.ofList (Text.asciiLower name))
    && match rest with
      | [] => true
      | '/' :: '>' :: _ => true
      | c :: _ => c == ' ' || c == '\t' || c == '>'

/-- Whether a tag fills the rest of the line. -/
def isTagLine (text : List Char) : Bool := (readTag? false text).any isBlankLine

/-- Whether a character may stand in the part of a mail address before the at sign. -/
def isMailChar (c : Char) : Bool :=
  c.isAlphanum || ".!#$%&'*+/=?^_\x60\x7b|\x7d~-".toList.contains c

/-- Whether a text is a part of the name of a host: letters, digits and inner hyphens. -/
def isHostPart (text : List Char) : Bool :=
  !text.isEmpty && text.length ≤ 63 && text.all isTagNameChar
    && text.head? != some '-' && text.getLast? != some '-'

/-- A mail address up to the closing bracket, and the text after it. -/
def readMail? (text : List Char) : Option (List Char × List Char) :=
  let (user, rest) := Text.spanOf isMailChar text
  match rest with
  | '@' :: rest =>
    let (host, rest) := Text.spanOf (fun c => isTagNameChar c || c == '.') rest
    match rest with
    | '>' :: rest =>
      if !user.isEmpty && (Text.splitOn '.' host).all isHostPart then
        some (user ++ '@' :: host, rest)
      else none
    | _ => none
  | _ => none

/-- An address with a scheme up to the closing bracket, and the text after it. -/
def readAddress? (text : List Char) : Option (List Char × List Char) :=
  let (scheme, rest) :=
    Text.spanOf (fun c => c.isAlphanum || c == '+' || c == '.' || c == '-') text
  match rest with
  | ':' :: rest =>
    let (path, rest) :=
      Text.spanOf (fun c => 0x20 < c.toNat && c.toNat != 0x7F && c != '<' && c != '>') rest
    match rest with
    | '>' :: rest =>
      if scheme.head?.any Char.isAlpha && 2 ≤ scheme.length && scheme.length ≤ 32 then
        some (scheme ++ ':' :: path, rest)
      else none
    | _ => none
  | _ => none

end StaticSite.Markdown
