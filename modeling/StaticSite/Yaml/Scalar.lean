import StaticSite.Yaml.Cursor

/-!
# The text of scalars

A scalar is written plain, in single or double quotes, or as a block of lines. Line ends inside a
scalar are folded: one line end becomes a space, and of several the first one is dropped.
-/

namespace StaticSite.Yaml

/-- How a scalar is written. -/
inductive ScalarStyle where
  /-- Without quotes. -/
  | plain
  /-- In quotes. -/
  | quoted
  /-- As a block whose line ends are kept. -/
  | literal
  /-- As a block whose line ends are folded. -/
  | folded
  deriving DecidableEq, Repr

namespace Scalar

/-- White space between two parts of a scalar: blanks on one line, or line ends. -/
structure Gap where
  /-- The blanks before any line end. -/
  blanks : List Char
  /-- The first line end. -/
  first : List Char
  /-- The line ends after the first one. -/
  more : List Char
  /-- Whether a line end was met. -/
  broken : Bool

/-- No white space. -/
def Gap.none : Gap := ⟨[], [], [], false⟩

/-- The text that white space stands for. -/
def Gap.text (gap : Gap) : List Char :=
  if gap.broken then
    match gap.first with
    | '\n' :: _ => if gap.more.isEmpty then [' '] else gap.more
    | first => first ++ gap.more
  else gap.blanks

/-- Reads white space. In a plain scalar tabs must not come before a column on a new line. -/
def readGap? (tabsFrom : Nat) : (fuel : Nat) → Gap → Cursor → Option (Gap × Cursor)
  | 0, _, _ => Option.none
  | fuel + 1, gap, cur =>
    match cur.peek? with
    | Option.none => some (gap, cur)
    | some c =>
      if isSpaceOrTab c then
        if gap.broken && cur.column < tabsFrom && c == '\t' then Option.none
        else
          let gap := if gap.broken then gap else { gap with blanks := gap.blanks ++ [c] }
          readGap? tabsFrom fuel gap (cur.skip 1)
      else if isBreak c then
        let (text, after) := cur.readBreak
        let gap :=
          if gap.broken then { gap with more := gap.more ++ text }
          else { gap with blanks := [], first := text, broken := true }
        readGap? tabsFrom fuel gap after
      else some (gap, cur)

/-- The character after a backslash, for the escapes of one character. -/
def simpleEscape? (c : Char) : Option Char :=
  match c with
  | '0' => some (Char.ofNat 0)
  | 'a' => some (Char.ofNat 7)
  | 'b' => some (Char.ofNat 8)
  | 't' => some '\t'
  | '\t' => some '\t'
  | 'n' => some '\n'
  | 'v' => some (Char.ofNat 11)
  | 'f' => some (Char.ofNat 12)
  | 'r' => some '\r'
  | 'e' => some (Char.ofNat 27)
  | ' ' => some ' '
  | '"' => some '"'
  | '/' => some '/'
  | '\\' => some '\\'
  | 'N' => some (Char.ofNat 0x85)
  | '_' => some (Char.ofNat 0xA0)
  | 'L' => some (Char.ofNat 0x2028)
  | 'P' => some (Char.ofNat 0x2029)
  | _ => none

/-- The number of hexadecimal digits after an escape. -/
def hexEscapeLength? (c : Char) : Option Nat :=
  match c with
  | 'x' => some 2
  | 'u' => some 4
  | 'U' => some 8
  | _ => none

/-- The character an escape stands for and the count of characters of the escape. -/
def readEscape? (text : List Char) : Option (Char × Nat) :=
  match text with
  | [] => none
  | c :: rest =>
    match simpleEscape? c, hexEscapeLength? c with
    | some e, _ => some (e, 2)
    | none, none => none
    | none, some n =>
      let digits := rest.take n
      if digits.length < n then none
      else
        match Text.readDigits? Text.hexDigit? 16 digits with
        | none => none
        | some code =>
          if (0xD800 ≤ code && code ≤ 0xDFFF) || code > 0x10FFFF then none
          else some (Char.ofNat code, n + 2)

/-- Reads the characters of a quoted scalar up to white space, the closing quote or an escaped line
end; the flag says that the last was met. -/
def readQuotedPart? (single : Bool) : (fuel : Nat) → List Char → Cursor →
    Option (List Char × Bool × Cursor)
  | 0, _, _ => none
  | fuel + 1, acc, cur =>
    match cur.rest with
    | [] => some (acc, false, cur)
    | c :: rest =>
      if isSpaceOrTab c || isBreak c then some (acc, false, cur)
      else if single then
        if c == '\'' then
          if rest.head? == some '\'' then readQuotedPart? single fuel ('\'' :: acc) (cur.skip 2)
          else some (acc, false, cur)
        else readQuotedPart? single fuel (c :: acc) (cur.skip 1)
      else if c == '"' then some (acc, false, cur)
      else if c == '\\' then
        if Cursor.startsBreak rest then some (acc, true, (cur.skip 1).readBreak.2)
        else
          match readEscape? rest with
          | none => none
          | some (e, n) => readQuotedPart? single fuel (e :: acc) (cur.skip n)
      else readQuotedPart? single fuel (c :: acc) (cur.skip 1)

/-- Reads a quoted scalar after its opening quote; the text so far is given backwards. -/
def readQuoted? (single : Bool) : (fuel : Nat) → List Char → Cursor → Option (List Char × Cursor)
  | 0, _, _ => none
  | fuel + 1, acc, cur =>
    if cur.atDocumentMarker || cur.rest.isEmpty then none
    else
      match readQuotedPart? single (fuel + 1) acc cur with
      | none => none
      | some (acc, escaped, cur) =>
        if !escaped && cur.sees (if single then '\'' else '"') then
          some (acc.reverse, cur.skip 1)
        else
          match readGap? 0 (fuel + 1) { Gap.none with broken := escaped } cur with
          | none => none
          | some (gap, cur) => readQuoted? single fuel (gap.text.reverse ++ acc) cur

/-- Whether a plain scalar ends before a text. -/
def endsPlain (flow : Bool) (text : List Char) : Bool :=
  match text with
  | [] => true
  | c :: rest =>
    (c == ':' && Cursor.startsBlankOrEnd rest)
      || (flow && (c == ',' || c == '[' || c == ']' || c == '\x7b' || c == '\x7d'))

/-- Whether a colon stands before an indicator of a flow collection, where it has no meaning. -/
def isStrayColon (text : List Char) : Bool :=
  match text with
  | ':' :: c :: _ => c == ',' || c == '?' || c == '[' || c == ']' || c == '\x7b' || c == '\x7d'
  | _ => false

/-- Reads the characters of a plain scalar up to white space or its end. -/
def readPlainPart? (flow : Bool) : (fuel : Nat) → List Char → Cursor →
    Option (List Char × Cursor)
  | 0, _, _ => none
  | fuel + 1, acc, cur =>
    match cur.rest with
    | [] => some (acc, cur)
    | c :: _ =>
      if isSpaceOrTab c || isBreak c then some (acc, cur)
      else if flow && isStrayColon cur.rest then none
      else if endsPlain flow cur.rest then some (acc, cur)
      else readPlainPart? flow fuel (c :: acc) (cur.skip 1)

/-- Reads a plain scalar, whose further lines must be indented by a number of columns outside of
flow collections. The text so far is given backwards. The flag says that a line end follows the
scalar. -/
def readPlain? (flow : Bool) (indent : Nat) : (fuel : Nat) → Gap → List Char → Cursor →
    Option (List Char × Bool × Cursor)
  | 0, _, _, _ => none
  | fuel + 1, gap, acc, cur =>
    if cur.atDocumentMarker || cur.sees '#' then some (acc.reverse, gap.broken, cur)
    else
      match readPlainPart? flow (fuel + 1) [] cur with
      | none => none
      | some (part, cur) =>
        let (acc, gap) :=
          if part.isEmpty then (acc, gap) else (part ++ gap.text.reverse ++ acc, Gap.none)
        if !(Cursor.startsBlank cur.rest || Cursor.startsBreak cur.rest) then
          some (acc.reverse, gap.broken, cur)
        else
          match readGap? indent (fuel + 1) gap cur with
          | none => none
          | some (gap, cur) =>
            if !flow && cur.column < indent then some (acc.reverse, gap.broken, cur)
            else readPlain? flow indent fuel gap acc cur

/-- What becomes of the line ends at the end of a block. -/
inductive Chomping where
  /-- One line end stays. -/
  | clip
  /-- None stays. -/
  | strip
  /-- All stay. -/
  | keep
  deriving DecidableEq, Repr

/-- The chomping that a character asks for. -/
def chomping? (c : Char) : Option Chomping :=
  match c with
  | '+' => some .keep
  | '-' => some .strip
  | _ => none

/-- The indentation that a character asks for; it must not be zero. -/
def indentation? (c : Char) : Option Nat :=
  if c.isDigit then some (c.toNat - '0'.toNat) else none

/-- Reads the header of a block: chomping and indentation in either order. -/
def readBlockHeader? (cur : Cursor) : Option (Chomping × Option Nat × Cursor) :=
  let chomping (cur : Cursor) : Chomping × Cursor :=
    match cur.peek?.bind chomping? with
    | some c => (c, cur.skip 1)
    | none => (.clip, cur)
  let indentation (cur : Cursor) : Option Nat × Cursor :=
    match cur.peek?.bind indentation? with
    | some n => (some n, cur.skip 1)
    | none => (none, cur)
  let (first, afterChomping) := chomping cur
  let (n, cur) := indentation afterChomping
  let (chomp, cur) := if first = .clip then chomping cur else (first, cur)
  if n == some 0 then none else some (chomp, n, cur)

/-- Reads empty lines and indentation; a number of columns that is not known yet is found as the
largest indentation among them. -/
def readBlockBreaks? (indent : Nat) : (fuel : Nat) → (widest : Nat) → List Char → Cursor →
    Option (Nat × List Char × Cursor)
  | 0, _, _, _ => none
  | fuel + 1, widest, breaks, cur =>
    let spaces := cur.rest.takeWhile (· == ' ')
    let n := if indent = 0 then spaces.length else min spaces.length (indent - cur.column)
    let cur := cur.skip n
    let widest := max widest cur.column
    if (indent = 0 || cur.column < indent) && cur.sees '\t' then none
    else if Cursor.startsBreak cur.rest then
      let (text, cur) := cur.readBreak
      readBlockBreaks? indent fuel widest (breaks ++ text) cur
    else some (widest, breaks, cur)

/-- The text of a block so far. -/
structure Block where
  /-- The text, backwards. -/
  text : List Char
  /-- The line end after the last line. -/
  lineEnd : List Char
  /-- The empty lines after it. -/
  breaks : List Char
  /-- Whether the last line began with white space. -/
  indented : Bool

/-- The text between the last line and the next one. -/
def Block.between (block : Block) (folded nextIndented : Bool) : List Char :=
  let lineEnd :=
    match block.lineEnd with
    | '\n' :: _ =>
      if folded && !block.indented && !nextIndented then
        if block.breaks.isEmpty then [' '] else []
      else block.lineEnd
    | _ => block.lineEnd
  lineEnd ++ block.breaks

/-- Reads the lines of a block. -/
def readBlockLines? (folded : Bool) (indent : Nat) : (fuel : Nat) → Block → Cursor →
    Option (Block × Cursor)
  | 0, _, _ => none
  | fuel + 1, block, cur =>
    if cur.column != indent || cur.rest.isEmpty then some (block, cur)
    else
      let indented := Cursor.startsBlank cur.rest
      let between := block.between folded indented
      let (line, cur) := cur.readWhile fun c => !isBreak c
      let (lineEnd, cur) := cur.readBreak
      match readBlockBreaks? indent (fuel + 1) 0 [] cur with
      | none => none
      | some (_, breaks, cur) =>
        readBlockLines? folded indent fuel
          ⟨line.reverse ++ between.reverse ++ block.text, lineEnd, breaks, indented⟩ cur

/-- Reads a block after its indicator; `outer` is the indentation around it plus one. -/
def readBlock? (folded : Bool) (outer : Nat) (cur : Cursor) : Option (List Char × Cursor) := do
  let (chomp, indentation, cur) ← readBlockHeader? cur
  let cur ← cur.endLine?
  let fuel := cur.rest.length + 1
  let known := (indentation.map fun n => n + (outer - 1)).getD 0
  let (widest, breaks, cur) ← readBlockBreaks? known fuel 0 [] cur
  let indent := if known = 0 then max (max widest outer) 1 else known
  let (block, cur) ← readBlockLines? folded indent fuel ⟨[], [], breaks, false⟩ cur
  let tail :=
    match chomp with
    | .strip => []
    | .clip => block.lineEnd
    | .keep => block.lineEnd ++ block.breaks
  some (block.text.reverse ++ tail, cur)

end Scalar

end StaticSite.Yaml
