import StaticSite.Layout.Expression

/-!
# Reading layouts

The tags of layouts and the text between them, read from left to right. Of several alternatives the
first one that fits is taken. A dash at the inner side of a tag's braces takes away the white space
of the text beside it.
-/

namespace StaticSite.Layout

namespace Reader

/-- The start of a tag; the flag says that it takes away the white space before it. -/
def opens (braces : String) : Reader Bool := do
  exactly braces
  optionally (exactly "-")

/-- The end of a tag; the flag says that it takes away the white space after it. -/
def closes (braces : String) : Reader Bool := do
  gap
  let trims ← optionally (exactly "-")
  exactly braces
  return trims

/-- What a tag takes away: the white space before it and after it. -/
structure Trim where
  /-- Before the tag. -/
  before : Bool
  /-- After the tag. -/
  after : Bool

/-- A tag between `{%` and `%}`. -/
def tag {α : Type} (inner : Reader α) : Reader (α × Trim) := do
  let before ← opens "\x7b%"
  let a ← inner
  let after ← closes "%\x7d"
  return (a, ⟨before, after⟩)

/-- The fuel for an expression in what remains of the text. -/
def exprFuel : Reader Nat := do return 20 * (← get).length + 40

/-- The value of an expression. -/
def valueTag : Reader (Node × Trim) := do
  let before ← opens "\x7b\x7b"
  let e ← valueExpr (← exprFuel)
  let after ← closes "\x7d\x7d"
  return (.value e, ⟨before, after⟩)

/-- A comment. -/
def commentTag : Reader Trim := do
  let before ← opens "\x7b#"
  match Text.breakOn? "#\x7d".toList (← get) with
  | some (text, rest) =>
    set rest
    return ⟨before, text.getLast? == some '-'⟩
  | none => failure

/-- An assignment. -/
def assignTag : Reader (Node × Trim) :=
  tag do
    let everywhere ← (do symbol "set_global"; return true) <|> (do symbol "set"; return false)
    let n ← name
    symbol "="
    return .assign everywhere n (← valueExpr (← exprFuel))

/-- Another template. -/
def embedTag : Reader (Node × Trim) :=
  tag do
    symbol "include"
    let several : Reader (List String) := do
      symbol "["
      let names ← separated "," quotedText
      let _ ← optionally (symbol ",")
      symbol "]"
      return names
    let names ← several <|> (do return [← quotedText])
    let optional ← optionally (do symbol "ignore"; symbol "missing")
    return .embed names optional

/-- Text up to a tag that ends the part where tags have no meaning. -/
def rawText (fuel : Nat) (acc : List Char) : Reader (List Char × Trim) :=
  match fuel with
  | 0 => failure
  | fuel + 1 => do
    match ← attempt (tag (symbol "endraw")) with
    | some (_, trim) => return (acc.reverse, trim)
    | none =>
      match ← get with
      | c :: rest => set rest; rawText fuel (c :: acc)
      | [] => failure

/-- Text up to a tag of any kind. -/
def plainText : List Char → List Char × List Char
  | [] => ([], [])
  | [c] => ([c], [])
  | c :: d :: rest =>
    if c == '\x7b' && (d == '\x7b' || d == '%' || d == '#') then ([], c :: d :: rest)
    else
      let (text, rest) := plainText (d :: rest)
      (c :: text, rest)

/-- A part of a layout with what it takes away around it. -/
structure Part where
  /-- The part, if anything is left of it. -/
  node : Option Node
  /-- What it takes away. -/
  trim : Trim

/-- The nodes of parts: text loses the white space that its neighbours take away. -/
def joinParts (trimmed : Bool) : List Part → (next : Bool) → List Node
  | [], _ => []
  | part :: rest, next =>
    let nextTrims :=
      match rest with
      | p :: _ => p.trim.before
      | [] => next
    let more := joinParts part.trim.after rest next
    match part.node with
    | some (.text chars) =>
      let chars := if trimmed then Text.trimStart chars else chars
      let chars := if nextTrims then Text.trimEnd chars else chars
      .text chars :: more
    | some node => node :: more
    | none => more

/-- A value written out, for the parameters of macros. -/
def literalValue : Reader Value :=
  (do
    let b ← oneOf [("true", true), ("false", false), ("True", true), ("False", false)]
    return .bool b)
  <|> (do return .float (← floatNumber))
  <|> (do gap; return .int (← bareInt))
  <|> (do return .text (← quotedText))

/-- A parameter of a macro. -/
def macroParam : Reader (String × Option Value) := do
  let n ← name
  let usual ← attempt (do symbol "="; literalValue)
  return (n, usual)

mutual

/-- The parts up to a tag that belongs to what is around them. -/
def parts (fuel : Nat) (inLoop : Bool) : Reader (List Part) :=
  match fuel with
  | 0 => failure
  | fuel + 1 => do
    match ← attempt (part fuel inLoop) with
    | some p => return p :: (← parts fuel inLoop)
    | none => return []

/-- The bodies after a condition: further conditions, and the body where none holds. -/
def branches (fuel : Nat) (inLoop : Bool) (start : Trim) (e : Expr) :
    Reader (List (Expr × List Node) × List Node × Trim) :=
  match fuel with
  | 0 => failure
  | fuel + 1 => do
    let inner ← parts fuel inLoop
    let elseIf ← attempt (tag do symbol "elif"; logic (← exprFuel))
    match elseIf with
    | some (next, trim) =>
      let (cases, otherwise, last) ← branches fuel inLoop trim next
      return ((e, joinParts start.after inner trim.before) :: cases, otherwise, last)
    | none =>
      match ← attempt (tag (symbol "else")) with
      | some (_, trim) =>
        let other ← parts fuel inLoop
        let (_, last) ← tag (symbol "endif")
        return ([(e, joinParts start.after inner trim.before)],
          joinParts trim.after other last.before, last)
      | none =>
        let (_, last) ← tag (symbol "endif")
        return ([(e, joinParts start.after inner last.before)], [], last)

/-- A part of a layout. -/
def part (fuel : Nat) (inLoop : Bool) : Reader Part :=
  match fuel with
  | 0 => failure
  | fuel + 1 =>
    let whole (read : Reader (Node × Trim)) : Reader Part := do
      let (node, trim) ← read
      return ⟨some node, trim⟩
    let text : Reader Part := do
      let (front, rest) := plainText (← get)
      if front.isEmpty then failure
      set rest
      return ⟨some (.text front), ⟨false, false⟩⟩
    let comment : Reader Part := do return ⟨none, ← commentTag⟩
    let raw : Reader Part := do
      let (_, start) ← tag (symbol "raw")
      let (chars, last) ← rawText ((← get).length + 1) []
      let chars := if start.after then Text.trimStart chars else chars
      let chars := if last.before then Text.trimEnd chars else chars
      return ⟨some (.verbatim chars), ⟨start.before, last.after⟩⟩
    let condition : Reader Part := do
      let (e, start) ← tag do symbol "if"; logic (← exprFuel)
      let (cases, otherwise, last) ← branches fuel inLoop start e
      return ⟨some (.branch cases otherwise), ⟨start.before, last.after⟩⟩
    let loop : Reader Part := do
      let ((key, item, container), start) ← tag do
        symbol "for"
        let first ← name
        let second ← attempt (do symbol ","; name)
        symbol "in"
        let n ← exprFuel
        let container ← sumWithFilters n <|> arrayWithFilters n <|> textWithFilters n
        match second with
        | some item => return (some first, item, container)
        | none => return (none, first, container)
      let inner ← parts fuel true
      match ← attempt (tag (symbol "else")) with
      | some _ =>
        let other ← parts fuel inLoop
        let (_, last) ← tag (symbol "endfor")
        return ⟨some (.loop key item container (joinParts start.after inner last.before)
          (other.filterMap Part.node)), ⟨start.before, last.after⟩⟩
      | none =>
        let (_, last) ← tag (symbol "endfor")
        return ⟨some (.loop key item container (joinParts start.after inner last.before) []),
          ⟨start.before, last.after⟩⟩
    let filterSection : Reader Part := do
      let ((n, args), start) ← tag do
        symbol "filter"
        let n ← name
        return (n, (← attempt (namedArgs (← exprFuel))).getD [])
      let inner ← parts fuel inLoop
      let (_, last) ← tag (symbol "endfilter")
      return ⟨some (.filterSection n args (joinParts start.after inner last.before)),
        ⟨start.before, last.after⟩⟩
    let block : Reader Part := do
      let (n, start) ← tag do symbol "block"; name
      let inner ← parts fuel inLoop
      let (_, last) ← tag do symbol "endblock"; attempt name
      return ⟨some (.block n (joinParts start.after inner last.before)),
        ⟨start.before, last.after⟩⟩
    let definition : Reader Part := do
      let ((n, params), start) ← tag do
        symbol "macro"
        let n ← name
        symbol "("
        let params ← attempt (separated "," macroParam)
        symbol ")"
        return (n, params.getD [])
      let inner ← parts fuel false
      let (_, last) ← tag do symbol "endmacro"; attempt name
      return ⟨some (.define n params (joinParts start.after inner last.before)),
        ⟨start.before, last.after⟩⟩
    let leave : Reader Part :=
      if inLoop then
        whole (tag do symbol "break"; return .leave)
          <|> whole (tag do symbol "continue"; return .next)
      else failure
    text <|> whole valueTag <|> comment <|> whole embedTag <|> whole assignTag <|> raw
      <|> condition <|> loop <|> filterSection <|> block <|> definition <|> leave

end

/-- A whole layout. -/
def layout : Reader (List Node) := do
  let all ← parts (3 * (← get).length + 3) false
  if (← get).isEmpty then return joinParts false all false else failure

end Reader

mutual

/-- The names of the blocks that a part is or holds in such blocks. -/
def blockNames : Node → List String
  | .block name body => name :: blockNamesOf body
  | _ => []

/-- The names of the blocks among some parts. -/
def blockNamesOf : List Node → List String
  | [] => []
  | node :: rest => blockNames node ++ blockNamesOf rest

end

/-- The names of the macros of a layout. -/
def macroNames (nodes : List Node) : List String :=
  nodes.filterMap fun node =>
    match node with
    | .define name .. => some name
    | _ => none

/-- The parts of a layout; `none` if the text is malformed or a block or a macro is there twice. -/
def ofText? (text : String) : Option (List Node) := do
  let (nodes, _) ← Reader.layout.run text.toList
  if (blockNamesOf nodes).Nodup && (macroNames nodes).Nodup then some nodes else none

end StaticSite.Layout
