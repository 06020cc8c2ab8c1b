import StaticSite.Yaml.Token

/-!
# Nodes of YAML

The tokens of a text make up a tree of nodes. References to anchors are resolved, so that the tree
holds the node of the anchor in their place. A text holds at most one document.
-/

namespace StaticSite.Yaml

/-- A node of a document. -/
inductive Node where
  /-- A scalar. -/
  | scalar (tag : Option String) (text : String) (style : ScalarStyle)
  /-- A sequence. -/
  | sequence (tag : Option String) (items : List Node)
  /-- A mapping. -/
  | mapping (tag : Option String) (entries : List (Node × Node))
  /-- A reference to a node that holds the reference. -/
  | endless
  deriving Repr, Inhabited

namespace Node

/-- The node of a value that is left out. -/
def empty : Node := .scalar none "" .plain

/-- The state of reading nodes. -/
structure Reading where
  /-- The tokens that remain. -/
  tokens : List Token
  /-- The anchors, the last one first. -/
  anchors : List (String × Node)
  /-- What the handles of tags stand for. -/
  handles : List (String × String)

/-- Reads nodes; fails if the tokens make up no document. -/
abbrev Reader := StateT Reading Option

/-- The next token. -/
def next? : Reader (Option Token) := do return (← get).tokens.head?

/-- Goes past the next token. -/
def advance : Reader Unit := modify fun r => { r with tokens := r.tokens.drop 1 }

/-- Whether the next token is one of a list. -/
def sees (tokens : List Token) : Reader Bool := do
  match ← next? with
  | some token => return tokens.contains token
  | none => return false

/-- The anchor and the tag before a node, in either order. -/
structure Properties where
  /-- The anchor. -/
  anchor : Option String
  /-- The tag. -/
  tag : Option String

/-- What a tag stands for. -/
def resolveTag (handle suffix : String) : Reader String := do
  if handle.isEmpty then return suffix
  else
    match (← get).handles.lookup handle with
    | some expansion => return expansion ++ suffix
    | none => failure

/-- Reads one more property, if it comes next and is not given yet. -/
def readProperty (p : Properties) : Reader Properties := do
  match ← next?, p with
  | some (.anchor name), ⟨none, tag⟩ => advance; return ⟨some name, tag⟩
  | some (.tag handle suffix), ⟨anchor, none⟩ =>
    advance
    return ⟨anchor, some (← resolveTag handle suffix)⟩
  | _, p => return p

/-- Reads the properties of a node. -/
def readProperties : Reader Properties := do readProperty (← readProperty ⟨none, none⟩)

/-- Sets what an anchor stands for. -/
def setAnchor (anchor : Option String) (node : Node) : Reader Unit :=
  match anchor with
  | some name => modify fun r => { r with anchors := (name, node) :: r.anchors }
  | none => pure ()

/-- A written scalar with its tag; the tag without a name counts as none. -/
def ofScalar (tag : Option String) (text : String) (style : ScalarStyle) : Node :=
  .scalar (if tag == some "!" then none else tag) text style

/-- Where a node stands. -/
inductive Place where
  /-- Among indented lines. -/
  | block
  /-- As the key or the value of an indented mapping, where a sequence need not be indented. -/
  | indentless
  /-- In brackets or braces. -/
  | flow
  deriving DecidableEq

mutual

/-- Reads a node. -/
def readNode (fuel : Nat) (place : Place) : Reader Node := do
  match fuel with
  | 0 => failure
  | fuel + 1 =>
    if let some (.alias name) ← next? then
      advance
      match (← get).anchors.lookup name with
      | some node => return node
      | none => failure
    let p ← readProperties
    let collect (read : Reader Node) : Reader Node := do
      setAnchor p.anchor .endless
      advance
      let node ← read
      setAnchor p.anchor node
      return node
    match ← next?, place with
    | some .blockEntry, .indentless =>
      setAnchor p.anchor .endless
      let node := Node.sequence p.tag (← readIndentless fuel)
      setAnchor p.anchor node
      return node
    | some (.scalar text style), _ =>
      advance
      let node := ofScalar p.tag text style
      setAnchor p.anchor node
      return node
    | some .flowSequenceStart, _ =>
      collect do return .sequence p.tag (← readFlowItems fuel true)
    | some .flowMappingStart, _ =>
      collect do return .mapping p.tag (← readFlowEntries fuel true)
    | some .blockSequenceStart, .block | some .blockSequenceStart, .indentless =>
      collect do return .sequence p.tag (← readItems fuel)
    | some .blockMappingStart, .block | some .blockMappingStart, .indentless =>
      collect do return .mapping p.tag (← readEntries fuel)
    | _, _ =>
      if p.anchor.isSome || p.tag.isSome then
        let node := Node.scalar p.tag "" .plain
        setAnchor p.anchor node
        return node
      else failure

/-- Reads a node unless one of some tokens comes next. -/
def readNodeUnless (fuel : Nat) (place : Place) (tokens : List Token) : Reader Node := do
  match fuel with
  | 0 => failure
  | fuel + 1 => if ← sees tokens then return empty else readNode fuel place

/-- Reads the items of a sequence by indentation. -/
def readItems (fuel : Nat) : Reader (List Node) := do
  match fuel with
  | 0 => failure
  | fuel + 1 =>
    match ← next? with
    | some .blockEntry =>
      advance
      let item ← readNodeUnless fuel .block [.blockEntry, .blockEnd]
      return item :: (← readItems fuel)
    | some .blockEnd => advance; return []
    | _ => failure

/-- Reads the items of a sequence that is not indented. -/
def readIndentless (fuel : Nat) : Reader (List Node) := do
  match fuel with
  | 0 => failure
  | fuel + 1 =>
    match ← next? with
    | some .blockEntry =>
      advance
      let item ← readNodeUnless fuel .block [.blockEntry, .key, .value, .blockEnd]
      return item :: (← readIndentless fuel)
    | _ => return []

/-- Reads the entries of a mapping by indentation. -/
def readEntries (fuel : Nat) : Reader (List (Node × Node)) := do
  match fuel with
  | 0 => failure
  | fuel + 1 =>
    match ← next? with
    | some .key =>
      advance
      let key ← readNodeUnless fuel .indentless [.key, .value, .blockEnd]
      let value ← readValueAfter fuel .indentless [.key, .value, .blockEnd]
      return (key, value) :: (← readEntries fuel)
    | some .blockEnd => advance; return []
    | _ => failure

/-- Reads the value of a key, if there is one. -/
def readValueAfter (fuel : Nat) (place : Place) (tokens : List Token) : Reader Node := do
  match fuel with
  | 0 => failure
  | fuel + 1 =>
    match ← next? with
    | some .value => advance; readNodeUnless fuel place tokens
    | _ => return empty

/-- Reads the items of a sequence in brackets. -/
def readFlowItems (fuel : Nat) (first : Bool) : Reader (List Node) := do
  match fuel with
  | 0 => failure
  | fuel + 1 =>
    if ← sees [.flowSequenceEnd] then
      advance
      return []
    if !first then
      if ← sees [.flowEntry] then advance else failure
    match ← next? with
    | some .flowSequenceEnd => advance; return []
    | some .key =>
      advance
      let ends := [Token.value, .flowEntry, .flowSequenceEnd]
      let key ← if ← sees ends then do advance; pure empty else readNode fuel .flow
      let value ← readValueAfter fuel .flow [.flowEntry, .flowSequenceEnd]
      return .mapping none [(key, value)] :: (← readFlowItems fuel false)
    | _ =>
      let item ← readNode fuel .flow
      return item :: (← readFlowItems fuel false)

/-- Reads the entries of a mapping in braces. -/
def readFlowEntries (fuel : Nat) (first : Bool) : Reader (List (Node × Node)) := do
  match fuel with
  | 0 => failure
  | fuel + 1 =>
    if ← sees [.flowMappingEnd] then
      advance
      return []
    if !first then
      if ← sees [.flowEntry] then advance else failure
    match ← next? with
    | some .flowMappingEnd => advance; return []
    | some .key =>
      advance
      let key ← readNodeUnless fuel .flow [.value, .flowEntry, .flowMappingEnd]
      let value ← readValueAfter fuel .flow [.flowEntry, .flowMappingEnd]
      return (key, value) :: (← readFlowEntries fuel false)
    | _ =>
      let key ← readNode fuel .flow
      return (key, empty) :: (← readFlowEntries fuel false)

end

/-- The handles of tags that every document knows. -/
def standardHandles : List (String × String) := [("!", "!"), ("!!", "tag:yaml.org,2002:")]

/-- Reads the directives before a document. -/
def readDirectives : (fuel : Nat) → (versioned : Bool) → (handles : List (String × String)) →
    Reader (Bool × List (String × String))
  | 0, _, _ => failure
  | fuel + 1, versioned, handles => do
    match ← next? with
    | some (.version major minor) =>
      if versioned || major != 1 || (minor != 1 && minor != 2) then failure
      advance
      readDirectives fuel true handles
    | some (.tagHandle handle expansion) =>
      if (handles.lookup handle).isSome then failure
      advance
      readDirectives fuel versioned ((handle, expansion) :: handles)
    | _ => return (versioned, handles)

/-- Reads the only document of a text, if there is one. -/
def readDocument (fuel : Nat) : Reader (Option Node) := do
  if (← get).tokens.isEmpty then return none
  let (versioned, handles) ← readDirectives fuel false []
  modify fun r => { r with handles := handles ++ standardHandles }
  let bare := !versioned && handles.isEmpty
  if ← sees [.documentStart] then advance else if !bare then failure
  let node ←
    match ← next? with
    | none | some (.version ..) | some (.tagHandle ..) | some .documentStart
    | some .documentEnd => pure empty
    | _ => readNode fuel .block
  let after := (← get).tokens.dropWhile (· == .documentEnd)
  if after.isEmpty then return some node else failure

/-- The document in some tokens; `none` if they make up no document. -/
def ofTokens? (tokens : List Token) : Option (Option Node) :=
  ((readDocument (4 * tokens.length + 8)).run ⟨tokens, [], []⟩).map Prod.fst

/-- The document in a text, which may hold none; `none` if the text is malformed. -/
def ofText? (text : String) : Option (Option Node) := (Token.ofText? text.toList).bind ofTokens?

end Node

end StaticSite.Yaml
