import StaticSite.Yaml.Scalar

/-!
# Tokens of YAML

YAML text is cut into tokens. Indentation becomes tokens as well: the start of a block collection
where a line is indented further, and its end where the indentation goes back. Whether a scalar is
the key of a mapping shows only at the colon after it; the place of every possible key is therefore
kept, and the tokens of the key are put in there.
-/

namespace StaticSite.Yaml

/-- A token. -/
inductive Token where
  /-- The version of the format, in a directive. -/
  | version (major minor : Nat)
  /-- An abbreviation of tags, in a directive. -/
  | tagHandle (handle expansion : String)
  /-- The explicit start of a document. -/
  | documentStart
  /-- The explicit end of a document. -/
  | documentEnd
  /-- The start of a sequence by indentation. -/
  | blockSequenceStart
  /-- The start of a mapping by indentation. -/
  | blockMappingStart
  /-- The end of a collection by indentation. -/
  | blockEnd
  /-- The start of a sequence in brackets. -/
  | flowSequenceStart
  /-- The end of a sequence in brackets. -/
  | flowSequenceEnd
  /-- The start of a mapping in braces. -/
  | flowMappingStart
  /-- The end of a mapping in braces. -/
  | flowMappingEnd
  /-- The start of an item by indentation. -/
  | blockEntry
  /-- The comma between items. -/
  | flowEntry
  /-- The start of a key. -/
  | key
  /-- The start of the value of a key. -/
  | value
  /-- A reference to an anchor. -/
  | alias (name : String)
  /-- A name for the node that follows. -/
  | anchor (name : String)
  /-- A tag of the node that follows, as a handle and the rest. -/
  | tag (handle suffix : String)
  /-- A scalar. -/
  | scalar (text : String) (style : ScalarStyle)
  deriving DecidableEq, Repr

namespace Token

/-- A place at which a key may have begun. -/
structure KeyPlace where
  /-- Whether a key must begin here for the text to be well formed. -/
  required : Bool
  /-- The number of tokens before it. -/
  number : Nat
  /-- The place in the text. -/
  cursor : Cursor

/-- The state between two tokens. -/
structure Scan where
  /-- The text that remains. -/
  cur : Cursor
  /-- The tokens so far. -/
  tokens : Array Token
  /-- The columns of the open block collections, the innermost first. -/
  indents : List Nat
  /-- The possible key of each open flow collection and, last, of the block. -/
  keys : List (Option KeyPlace)
  /-- Whether a key may begin here. -/
  keyAllowed : Bool

namespace Scan

/-- The depth of flow collections. -/
def flowDepth (s : Scan) : Nat := s.keys.length - 1

/-- Whether a flow collection is open. -/
def inFlow (s : Scan) : Bool := s.flowDepth != 0

/-- One more than the column of the innermost block collection; zero if there is none. -/
def outerIndent (s : Scan) : Nat :=
  match s.indents with
  | column :: _ => column + 1
  | [] => 0

/-- Adds a token. -/
def emit (s : Scan) (token : Token) : Scan := { s with tokens := s.tokens.push token }

/-- Whether a key that may have begun at a place can still end at the cursor. -/
def reaches (place : KeyPlace) (cur : Cursor) : Bool :=
  place.cursor.line == cur.line && cur.index ≤ place.cursor.index + 1024

/-- Forgets the possible keys that are too far back; `none` if one of them is required. -/
def dropStale? (s : Scan) : Option Scan :=
  let stale (noted : Option KeyPlace) : Bool := noted.any fun place => !reaches place s.cur
  if s.keys.any fun noted => stale noted && noted.any KeyPlace.required then none
  else some { s with keys := s.keys.map fun noted => if stale noted then none else noted }

/-- Forgets the possible key of the innermost collection; `none` if it is required. -/
def dropKey? (s : Scan) : Option Scan :=
  match s.keys with
  | [] => some s
  | noted :: outer =>
    if noted.any KeyPlace.required then none else some { s with keys := none :: outer }

/-- Notes that a key may begin at the cursor. -/
def noteKey? (s : Scan) : Option Scan :=
  if s.keyAllowed then do
    let required := !s.inFlow && s.indents.head? == some s.cur.column
    let s ← s.dropKey?
    some { s with keys := some ⟨required, s.tokens.size, s.cur⟩ :: s.keys.drop 1 }
  else some s

/-- Opens a block collection at a column that lies further right than the innermost one. -/
def openBlock (s : Scan) (column number : Nat) (token : Token) : Scan :=
  if s.inFlow || column < s.outerIndent then s
  else
    { s with
      indents := column :: s.indents
      tokens := s.tokens.insertIdxIfInBounds number token }

/-- Closes the block collections while `closes` holds of their columns. -/
def closeBlocks (s : Scan) (closes : Nat → Bool) : Scan :=
  if s.inFlow then s
  else
    let (closed, kept) := (s.indents.takeWhile closes, s.indents.dropWhile closes)
    { s with
      indents := kept
      tokens := s.tokens ++ (closed.map fun _ => Token.blockEnd).toArray }

/-- Closes all block collections before a document marker, a directive or the end. -/
def endBlocks? (s : Scan) : Option Scan :=
  (s.closeBlocks fun _ => true).dropKey?.map fun s => { s with keyAllowed := false }

/-- The state after a token of some characters. -/
def take (s : Scan) (count : Nat) (token : Token) : Scan :=
  { s.emit token with cur := s.cur.skip count }

/-- Skips white space, comments and line ends before a token. -/
def skipToToken : (fuel : Nat) → Scan → Scan
  | 0, s => s
  | fuel + 1, s =>
    let blank (c : Char) : Bool := c == ' ' || ((s.inFlow || !s.keyAllowed) && c == '\t')
    let cur := (s.cur.readWhile blank).2
    let cur := if cur.sees '#' then (cur.readWhile fun c => !isBreak c).2 else cur
    if Cursor.startsBreak cur.rest then
      skipToToken fuel
        { s with cur := cur.readBreak.2, keyAllowed := s.keyAllowed || !s.inFlow }
    else { s with cur }

end Scan

/-- The characters of URIs in tags. -/
def isUriChar (verbatim : Bool) (c : Char) : Bool :=
  isWordChar c || ";/?:@&=+$.%!~*'()".toList.contains c || (verbatim && ",[]".toList.contains c)

/-- Undoes the percent encoding of a tag; `none` if it is malformed. -/
def decodeUri? : (fuel : Nat) → List Char → Option (List Char)
  | 0, _ => none
  | _ + 1, [] => some []
  | fuel + 1, '%' :: rest => do
    let byte (text : List Char) : Option (Nat × List Char) :=
      match text with
      | a :: b :: rest =>
        match Text.hexDigit? a, Text.hexDigit? b with
        | some high, some low => some (high * 16 + low, rest)
        | _, _ => none
      | _ => none
    let more (n : Nat × List Char) : Option (Nat × List Char) :=
      match n.2 with
      | '%' :: text =>
        match byte text with
        | some (b, text) => if b / 64 = 2 then some (n.1 * 64 + b % 64, text) else none
        | none => none
      | _ => none
    let (first, rest) ← byte rest
    let (code, rest) ←
      if first < 0x80 then some (first, rest)
      else if first / 32 = 6 then more (first % 32, rest)
      else if first / 16 = 14 then (more (first % 16, rest)).bind more
      else if first / 8 = 30 then ((more (first % 8, rest)).bind more).bind more
      else none
    let tail ← decodeUri? fuel rest
    some (Char.ofNat code :: tail)
  | fuel + 1, c :: rest => (decodeUri? fuel rest).map (c :: ·)

/-- Reads the URI of a tag. -/
def readUri? (verbatim : Bool) (cur : Cursor) : Option (List Char × Cursor) :=
  let (text, cur) := cur.readWhile (isUriChar verbatim)
  (decodeUri? (text.length + 1) text).map fun text => (text, cur)

/-- Reads a handle: an exclamation mark, maybe with a word and a second one. -/
def readHandle? (cur : Cursor) : Option (List Char × Cursor) :=
  if cur.sees '!' then
    let (word, cur) := (cur.skip 1).readWhile isWordChar
    if cur.sees '!' then some ('!' :: word ++ ['!'], cur.skip 1) else some ('!' :: word, cur)
  else none

/-- Reads a tag: its handle and its suffix. -/
def readTag? (cur : Cursor) : Option (String × String × Cursor) :=
  match cur.rest with
  | '!' :: '<' :: _ =>
    match readUri? true (cur.skip 2) with
    | some (uri, cur) =>
      if uri.isEmpty || !cur.sees '>' then none else some ("", String.ofList uri, cur.skip 1)
    | none => none
  | _ => do
    let (handle, cur) ← readHandle? cur
    let (uri, cur) ← readUri? false cur
    if handle.length > 1 && handle.getLast? == some '!' then
      if uri.isEmpty then none else some (String.ofList handle, String.ofList uri, cur)
    else
      let suffix := handle.drop 1 ++ uri
      if suffix.isEmpty then some ("", "!", cur) else some ("!", String.ofList suffix, cur)

/-- Reads a number of a version. -/
def readVersionNumber? (cur : Cursor) : Option (Nat × Cursor) :=
  let (digits, cur) := cur.readWhile Char.isDigit
  if digits.length > 9 then none else (Text.readNat? digits).map fun n => (n, cur)

/-- Reads a directive after its percent sign. -/
def readDirective? (cur : Cursor) : Option (Token × Cursor) := do
  let (name, cur) := cur.readWhile isWordChar
  if !Cursor.startsBlankOrEnd cur.rest then none
  else if name = "YAML".toList then
    let (major, cur) ← readVersionNumber? cur.skipBlanks
    if !cur.sees '.' then none
    else
      let (minor, cur) ← readVersionNumber? (cur.skip 1)
      let cur ← cur.endLine?
      some (.version major minor, cur)
  else if name = "TAG".toList then
    let (handle, cur) ← readHandle? cur.skipBlanks
    if handle != ['!'] && (handle.length = 1 || handle.getLast? != some '!') then none
    else if !Cursor.startsBlank cur.rest then none
    else
      let (uri, cur) ← readUri? true cur.skipBlanks
      if uri.isEmpty || !Cursor.startsBlankOrEnd cur.rest then none
      else
        let cur ← cur.endLine?
        some (.tagHandle (String.ofList handle) (String.ofList uri), cur)
  else none

/-- Reads the name of an anchor or an alias after its indicator. -/
def readAnchorName? (cur : Cursor) : Option (String × Cursor) :=
  let (name, cur) := cur.readWhile isWordChar
  let ended := Cursor.startsBlankOrEnd cur.rest
    || (cur.peek?.map fun c => "?:,]\x7d%@\x60".toList.contains c).getD false
  if name.isEmpty || !ended then none else some (String.ofList name, cur)

/-- Whether a plain scalar may begin with a text. -/
def startsPlain (flow : Bool) (text : List Char) : Bool :=
  match text with
  | [] => false
  | c :: rest =>
    !(isSpaceOrTab c || isBreak c || "-?:,[]\x7b\x7d#&*!|>'\"%@\x60".toList.contains c)
      || (c == '-' && !Cursor.startsBlank rest)
      || (!flow && (c == '?' || c == ':') && !Cursor.startsBlankOrEnd rest)

namespace Scan

/-- The value of a key: the key was noted, or begins here. -/
def fetchValue? (s : Scan) : Option Scan :=
  match s.keys with
  | some place :: outer =>
    let s := { s with
      keys := none :: outer
      tokens := s.tokens.insertIdxIfInBounds place.number Token.key }
    let s := s.openBlock place.cursor.column place.number .blockMappingStart
    some ({ s with keyAllowed := false }.take 1 .value)
  | _ =>
    if !s.inFlow && !s.keyAllowed then none
    else
      let s := s.openBlock s.cur.column s.tokens.size .blockMappingStart
      some ({ s with keyAllowed := !s.inFlow }.take 1 .value)

/-- An indicator that begins an item or a key in a block. -/
def fetchBlockIndicator? (s : Scan) (start token : Token) (keyAllowed : Bool) : Option Scan :=
  if !s.inFlow && !s.keyAllowed then none
  else
    (s.openBlock s.cur.column s.tokens.size start).dropKey?.map fun s =>
      { s with keyAllowed }.take 1 token

/-- The start of a flow collection. -/
def fetchFlowStart? (s : Scan) (token : Token) : Option Scan :=
  s.noteKey?.map fun s => { s with keys := none :: s.keys, keyAllowed := true }.take 1 token

/-- The end of a flow collection. -/
def fetchFlowEnd? (s : Scan) (token : Token) : Option Scan :=
  s.dropKey?.map fun s =>
    { s with keys := if s.inFlow then s.keys.drop 1 else s.keys, keyAllowed := false }.take 1 token

/-- A token that may begin a key, read from the cursor. -/
def fetchNode? (s : Scan) (read : Cursor → Option (Token × Cursor)) : Option Scan := do
  let s ← s.noteKey?
  let (token, cur) ← read s.cur
  some { s.emit token with cur, keyAllowed := false }

/-- A plain scalar. After a line end a key may begin again. -/
def fetchPlain? (s : Scan) : Option Scan := do
  let s ← s.noteKey?
  let (text, broken, cur) ←
    Scalar.readPlain? s.inFlow s.outerIndent (s.cur.rest.length + 1) Scalar.Gap.none [] s.cur
  some { s.emit (.scalar (String.ofList text) .plain) with cur, keyAllowed := broken }

/-- A scalar in quotes. -/
def fetchQuoted? (s : Scan) (single : Bool) : Option Scan :=
  s.fetchNode? fun cur =>
    (Scalar.readQuoted? single (cur.rest.length + 1) [] (cur.skip 1)).map fun (text, cur) =>
      (.scalar (String.ofList text) .quoted, cur)

/-- A block scalar. -/
def fetchBlock? (s : Scan) (folded : Bool) : Option Scan := do
  let s ← s.dropKey?
  let (text, cur) ← Scalar.readBlock? folded s.outerIndent (s.cur.skip 1)
  let style := if folded then ScalarStyle.folded else ScalarStyle.literal
  some { s.emit (.scalar (String.ofList text) style) with cur, keyAllowed := true }

/-- The next tokens; `none` if the text is malformed. -/
def fetch? (s : Scan) : Option Scan :=
  let cur := s.cur
  match cur.rest with
  | [] => s.endBlocks?
  | c :: rest =>
    let beforeBlank := Cursor.startsBlankOrEnd rest
    if cur.column = 0 && c == '%' then do
      let s ← s.endBlocks?
      let (token, cur) ← readDirective? (s.cur.skip 1)
      some { s.emit token with cur }
    else if cur.atDocumentMarker then
      s.endBlocks?.map fun s => s.take 3 (if c == '-' then .documentStart else .documentEnd)
    else if c == '[' then s.fetchFlowStart? .flowSequenceStart
    else if c == '\x7b' then s.fetchFlowStart? .flowMappingStart
    else if c == ']' then s.fetchFlowEnd? .flowSequenceEnd
    else if c == '\x7d' then s.fetchFlowEnd? .flowMappingEnd
    else if c == ',' then s.dropKey?.map fun s => { s with keyAllowed := true }.take 1 .flowEntry
    else if c == '-' && beforeBlank then
      s.fetchBlockIndicator? .blockSequenceStart .blockEntry true
    else if c == '?' && (s.inFlow || beforeBlank) then
      s.fetchBlockIndicator? .blockMappingStart .key !s.inFlow
    else if c == ':' && (s.inFlow || beforeBlank) then s.fetchValue?
    else if c == '*' then
      s.fetchNode? fun cur => (readAnchorName? (cur.skip 1)).map fun (n, cur) => (.alias n, cur)
    else if c == '&' then
      s.fetchNode? fun cur => (readAnchorName? (cur.skip 1)).map fun (n, cur) => (.anchor n, cur)
    else if c == '!' then
      s.fetchNode? fun cur => do
        let (handle, suffix, after) ← readTag? cur
        if Cursor.startsBlankOrEnd after.rest || (s.inFlow && after.sees ',') then
          some (.tag handle suffix, after)
        else none
    else if c == '|' && !s.inFlow then s.fetchBlock? false
    else if c == '>' && !s.inFlow then s.fetchBlock? true
    else if c == '\'' then s.fetchQuoted? true
    else if c == '"' then s.fetchQuoted? false
    else if startsPlain s.inFlow cur.rest then s.fetchPlain?
    else none

/-- All tokens from a state on. -/
def run? : (fuel : Nat) → Scan → Option (List Token)
  | 0, _ => none
  | fuel + 1, s => do
    let s ← (skipToToken (s.cur.rest.length + 1) s).dropStale?
    let s := s.closeBlocks fun column => s.cur.column < column
    let ended := s.cur.rest.isEmpty
    let s ← s.fetch?
    if ended then some s.tokens.toList else run? fuel s

end Scan

/-- The tokens of a text; `none` if it is malformed. -/
def ofText? (text : List Char) : Option (List Token) :=
  let text := if text.head? == some (Char.ofNat 0xFEFF) then text.drop 1 else text
  if text.all isAllowed then
    Scan.run? (text.length + 2) ⟨Cursor.ofText text, #[], [], [none], true⟩
  else none

end Token

end StaticSite.Yaml
