import StaticSite.Url.Basic

/-!
# Reading URLs

A URL is read from its text, or from a reference relative to another URL. A reference with a scheme
of its own stands alone, except that a special scheme equal to that of the base may be followed by
a relative reference. `join?` is the step on which the resolution of templates rests.
-/

namespace StaticSite.Url

/-- Whether a character separates segments. -/
def isSlash (kind : SchemeKind) (c : Char) : Bool := c == '/' || (kind.isSpecial && c == '\\')

/-- Whether a segment stands for the same directory. -/
def isSingleDot (segment : List Char) : Bool :=
  [".", "%2e"].contains (String.ofList (Text.asciiLower segment))

/-- Whether a segment stands for the directory above. -/
def isDoubleDot (segment : List Char) : Bool :=
  ["..", ".%2e", "%2e.", "%2e%2e"].contains (String.ofList (Text.asciiLower segment))

/-- Whether a segment is a drive letter with its mark. -/
def isDriveLetter (segment : List Char) : Bool :=
  match segment with
  | [c, mark] => c.isAlpha && (mark == ':' || mark == '|')
  | _ => false

/-- The segments, last first, without the last one; the drive of a file stays. -/
def dropSegment (kind : SchemeKind) (names : List (List Char)) : List (List Char) :=
  match names with
  | [] => []
  | [name] => if kind = .file ∧ isDriveLetter name then [name] else []
  | _ :: rest => rest

/-- The segments, last first, after one more segment; `final` says that no slash follows it. -/
def addSegment (kind : SchemeKind) (final : Bool) (names : List (List Char))
    (segment : List Char) : List (List Char) :=
  if isDoubleDot segment then
    let names := dropSegment kind names
    if final then [] :: names else names
  else if isSingleDot segment then
    if final then [] :: names else names
  else
    let segment :=
      match segment with
      | [c, _] => if kind = .file ∧ names = [] ∧ isDriveLetter segment then [c, ':'] else segment
      | _ => segment
    encode pathSet segment :: names

/-- The segments of a path, last first, after the ones given; the path ends before a question mark
or a number sign. -/
def readSegments (kind : SchemeKind) (names : List (List Char)) (segment : List Char) :
    List Char → List (List Char) × List Char
  | [] => (addSegment kind true names segment.reverse, [])
  | c :: text =>
    if c = '?' ∨ c = '#' then (addSegment kind true names segment.reverse, c :: text)
    else if isSlash kind c then
      readSegments kind (addSegment kind false names segment.reverse) [] text
    else readSegments kind names (c :: segment) text

/-- The path made of segments given last first. -/
def pathOf (names : List (List Char)) : UrlPath := .segments (names.reverse.map String.ofList)

/-- The query and the fragment at the rest of a text. -/
def readQueryAndFragment (kind : SchemeKind) (text : List Char) :
    Option String × Option String :=
  let set := if kind.isSpecial then specialQuerySet else querySet
  let fragment : List Char → Option String
    | '#' :: rest => some (String.ofList (encode fragmentSet rest))
    | _ => none
  match text with
  | '?' :: rest =>
    let (query, rest) := Text.spanOf (· != '#') rest
    (some (String.ofList (encode set query)), fragment rest)
  | _ => (none, fragment text)

/-- The URL with the path, the query and the fragment at the rest of a text. -/
def withPath (url : Url) (kind : SchemeKind) (names : List (List Char)) (text : List Char) :
    Url :=
  let (names, rest) := readSegments kind names [] text
  let (query, fragment) := readQueryAndFragment kind rest
  { url with path := pathOf names, query, fragment }

/-- The URL with what follows its host. -/
def withRest (url : Url) (kind : SchemeKind) (text : List Char) : Url :=
  match text with
  | c :: rest =>
    if isSlash kind c then withPath url kind [] rest
    else if kind.isSpecial then withPath url kind [] text
    else
      let (query, fragment) := readQueryAndFragment kind text
      { url with path := .segments [], query, fragment }
  | [] => { url with path := .segments (if kind.isSpecial then [""] else []) }

/-- A URL of which only the scheme is known. -/
def bare (scheme : String) : Url := ⟨scheme, "", none, none, none, .segments [], none, none⟩

/-- The user name and the password of a text, encoded. -/
def readUserinfo (text : List Char) : String × Option String :=
  let (name, rest) := Text.spanOf (· != ':') text
  let write (part : List Char) := String.ofList (encode userinfoSet part)
  match rest with
  | _ :: c :: password => (write name, some (write (c :: password)))
  | _ => (write name, none)

/-- The host at the front of a text, up to a colon outside brackets. -/
def spanHost (inside : Bool) : List Char → List Char × List Char
  | [] => ([], [])
  | c :: text =>
    if c = ':' ∧ !inside then ([], c :: text)
    else
      let (host, rest) := spanHost (c == '[' || (inside && c != ']')) text
      (c :: host, rest)

/-- The port after a colon; that of the scheme is left out. -/
def readPort? (scheme : String) (text : List Char) : Option (Option Nat) :=
  match text with
  | [] => some none
  | _ :: [] => some none
  | _ :: digits =>
    match Text.readNat? digits with
    | none => none
    | some port =>
      if port > 65535 then none
      else if specialPorts.lookup scheme = some port then some none
      else some (some port)

/-- The URL with an authority and all after it. -/
def readAuthority? (scheme : String) (kind : SchemeKind) (text : List Char) : Option Url :=
  let (authority, rest) := Text.spanOf (fun c => !(isSlash kind c || c == '?' || c == '#')) text
  let (user, hostAndPort) :=
    match Text.breakOnLast? ['@'] authority with
    | some (user, host) => (some user, host)
    | none => (none, authority)
  let (hostText, portText) := spanHost false hostAndPort
  let (username, password) := readUserinfo (user.getD [])
  if hostText.isEmpty && (kind == .special || user.isSome || !portText.isEmpty) then none
  else
    let host? := if kind = .other then Host.readOpaque? hostText else Host.readSpecial? hostText
    match host?, readPort? scheme portText with
    | some host, some port =>
      some (withRest { bare scheme with username, password, host := some host, port } kind rest)
    | _, _ => none

/-- The host of a file; the local host is left out. -/
def readFileHost? (text : List Char) : Option Host :=
  if text.isEmpty then some (.domain "")
  else
    match Host.readSpecial? text with
    | some (.domain "localhost") => some (.domain "")
    | host? => host?

/-- The segments of a base URL, last first. -/
def segmentsOf (url : Url) : List (List Char) :=
  match url.path with
  | .segments names => (names.map String.toList).reverse
  | .plain _ => []

/-- The URL of a file, after its scheme. -/
def readFile? (base : Option Url) (text : List Char) : Option Url :=
  let root := { bare "file" with host := some (.domain "") }
  let start := (base.map fun b => { b with fragment := none }).getD root
  match text with
  | a :: b :: rest =>
    if isSlash .file a && isSlash .file b then
      let (hostText, after) :=
        Text.spanOf (fun c => !(isSlash .file c || c == '?' || c == '#')) rest
      if isDriveLetter hostText then some (withPath root .file [] rest)
      else (readFileHost? hostText).map fun host => withRest { root with host := some host } .file after
    else relative a (b :: rest) start
  | [a] => relative a [] start
  | [] => if base.isSome then some start else some (withRest root .file [])
where
  /-- A text that has no host of its own. -/
  relative (c : Char) (rest : List Char) (start : Url) : Option Url :=
    if isSlash .file c then
      let drive := (segmentsOf start).getLast?.filter isDriveLetter
      some (withPath start .file (drive.toList) rest)
    else if c = '?' then
      let (query, fragment) := readQueryAndFragment .file (c :: rest)
      some { start with query, fragment }
    else if c = '#' then
      let (_, fragment) := readQueryAndFragment .file (c :: rest)
      some { start with fragment }
    else some (withPath start .file (dropSegment .file (segmentsOf start)) (c :: rest))

/-- A reference relative to a base that is no file. -/
def readRelative? (base : Url) (text : List Char) : Option Url :=
  let kind := kindOf base.scheme
  match text with
  | [] => some { base with fragment := none }
  | '?' :: _ =>
    let (query, fragment) := readQueryAndFragment kind text
    some { base with query, fragment }
  | '#' :: _ =>
    let (_, fragment) := readQueryAndFragment kind text
    some { base with fragment }
  | c :: rest =>
    let isBar (d : Char) : Bool := d == '/' || d == '\\'
    if isBar c then
      if (rest.head?.map isBar).getD false then
        match Text.stripPrefix? ['/', '/'] text with
        | some after => readAuthority? base.scheme kind after
        | none => readAuthority? base.scheme kind (text.dropWhile isBar)
      else some (withPath base kind [] rest)
    else some (withPath base kind ((segmentsOf base).drop 1) text)

/-- The scheme before a colon, in lower case, and the text after the colon. -/
def readScheme? (text : List Char) : Option (String × List Char) :=
  let (name, rest) :=
    Text.spanOf (fun c => c.isAlphanum || c == '+' || c == '-' || c == '.') text
  match name, rest with
  | c :: _, ':' :: rest =>
    if c.isAlpha then some (String.ofList (Text.asciiLower name), rest) else none
  | _, _ => none

/-- A URL after its scheme. -/
def readAfterScheme? (base : Option Url) (scheme : String) (text : List Char) : Option Url :=
  let sameBase := base.filter fun b => b.scheme = scheme
  match kindOf scheme with
  | .file => readFile? sameBase text
  | .special =>
    let (slashes, rest) := Text.spanOf (isSlash .special) text
    match sameBase with
    | some b => if slashes.length < 2 then readRelative? b text
      else readAuthority? scheme .special rest
    | none => readAuthority? scheme .special rest
  | .other =>
    match Text.stripPrefix? ['/', '/'] text, text with
    | some after, _ => readAuthority? scheme .other after
    | none, '/' :: rest => some (withPath (bare scheme) .other [] rest)
    | none, _ =>
      let (path, rest) := Text.spanOf (fun c => c != '?' && c != '#') text
      let (query, fragment) := readQueryAndFragment .other rest
      some { bare scheme with path := .plain (String.ofList (encode "" path)), query, fragment }

/-- The characters of a reference that count: no control characters or spaces at the ends, and no
tabs and line ends. -/
def significant (text : String) : List Char :=
  let isEdge (c : Char) : Bool := c.toNat ≤ 0x20
  let trimmed := ((text.toList.dropWhile isEdge).reverse.dropWhile isEdge).reverse
  trimmed.filter fun c => !(c == '\t' || c == '\n' || c == '\r')

/-- The URL of a text. -/
def read? (text : String) : Option Url :=
  (readScheme? (significant text)).bind fun (scheme, rest) => readAfterScheme? none scheme rest

/-- The URL a reference stands for when it is found in the document at a base. -/
def join? (base : Url) (reference : String) : Option Url :=
  let text := significant reference
  match readScheme? text with
  | some (scheme, rest) => readAfterScheme? (some base) scheme rest
  | none =>
    match text, base.path with
    | '#' :: _, _ =>
      let (_, fragment) := readQueryAndFragment (kindOf base.scheme) text
      some { base with fragment }
    | _, .plain _ => none
    | _, .segments _ =>
      if base.scheme = "file" then readFile? (some base) text else readRelative? base text

end StaticSite.Url
