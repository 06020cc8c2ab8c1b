import StaticSite.Markdown.Emphasis
import StaticSite.Markdown.Link
import StaticSite.Markdown.Tag

/-!
# Reading inline structure

The text of a block is read from left to right. Code, HTML and addresses bind first, then brackets,
then emphasis. A bracket is a link if an address follows it or its label is defined; a link holds no
further link.
-/

namespace StaticSite.Markdown

/-- A bracket that waits for its closing one. -/
structure Bracket where
  /-- Whether an exclamation mark makes it an image. -/
  image : Bool
  /-- Whether it may still become a link. -/
  active : Bool
  /-- The pieces between the bracket before it and this one, the last one first. -/
  before : List Piece
  /-- The text after it. -/
  inside : List Char

/-- The bracket as plain text. -/
def Bracket.piece (bracket : Bracket) : Piece :=
  .done (.plain (if bracket.image then ['!', '['] else ['[']))

/-- What is read of a text. -/
structure Phrase where
  /-- The pieces after the innermost bracket, the last one first. -/
  pieces : List Piece := []
  /-- Plain text after them, backwards. -/
  plain : List Char := []
  /-- The open brackets, from the innermost. -/
  brackets : List Bracket := []
  /-- The lengths of the texts after those closing brackets that cannot end a reference. -/
  barred : List Nat := []

namespace Phrase

/-- Makes a piece of the plain text. -/
def flush (phrase : Phrase) : Phrase :=
  if phrase.plain.isEmpty then phrase
  else
    { phrase with pieces := .done (.plain phrase.plain.reverse) :: phrase.pieces, plain := [] }

/-- Adds a character of plain text. -/
def push (phrase : Phrase) (c : Char) : Phrase := { phrase with plain := c :: phrase.plain }

/-- Adds a piece. -/
def add (phrase : Phrase) (piece : Piece) : Phrase :=
  let phrase := phrase.flush
  { phrase with pieces := piece :: phrase.pieces }

/-- Opens a bracket. -/
def openBracket (phrase : Phrase) (image : Bool) (inside : List Char) : Phrase :=
  let phrase := phrase.flush
  { phrase with
    pieces := []
    brackets := ⟨image, true, phrase.pieces, inside⟩ :: phrase.brackets }

/-- Makes plain text of the innermost bracket, which closes without being a link. -/
def closeAsText (phrase : Phrase) (bracket : Bracket) (outer : List Bracket) : Phrase :=
  let phrase := phrase.push ']' |>.flush
  { phrase with pieces := phrase.pieces ++ bracket.piece :: bracket.before, brackets := outer }

/-- The pieces with all open brackets as plain text, the last one first. -/
def allPieces (phrase : Phrase) : List Piece :=
  let phrase := phrase.flush
  phrase.brackets.foldl (fun pieces bracket => pieces ++ bracket.piece :: bracket.before)
    phrase.pieces

/-- Makes a link or an image of the innermost bracket. -/
def closeAsLink (phrase : Phrase) (bracket : Bracket) (outer : List Bracket) (target : Target) :
    Phrase :=
  let phrase := phrase.flush
  let children := emphasize phrase.pieces.reverse
  let inline : Inline := if bracket.image then .image target children else .link target children
  let outer :=
    if bracket.image then outer
    else outer.map fun other => { other with active := other.active && other.image }
  { phrase with pieces := .done inline :: bracket.before, brackets := outer }

/-- Makes a reference to a footnote of the innermost bracket. No bracket around it can become a
link. -/
def closeAsFootnote (phrase : Phrase) (bracket : Bracket) (outer : List Bracket)
    (label : List Char) : Phrase :=
  let before :=
    if bracket.image then .done (.plain ['!']) :: bracket.before else bracket.before
  let pieces := allPieces { phrase with pieces := before, plain := [], brackets := outer }
  { phrase with pieces := .done (.footnote label) :: pieces, plain := [], brackets := [] }

end Phrase

/-- What follows a bracket that is no link by itself. -/
inductive Suffix where
  /-- A label in brackets, with the text after it. -/
  | labelled (label rest : List Char)
  /-- An empty pair of brackets, with the text after it. -/
  | empty (rest : List Char)
  /-- Neither of them. -/
  | other

/-- The label of a footnote after the circumflex, if the text begins with one, and the text after
its closing bracket. -/
def readFootnoteLabel? : List Char → Option (List Char × List Char)
  | '^' :: rest => (readLabel? rest).filter fun (label, _) => !label.contains '\n'
  | _ => none

/-- What follows a closing bracket. -/
def Suffix.ofText : List Char → Suffix
  | '[' :: ']' :: rest => .empty rest
  | '[' :: rest =>
    if (readFootnoteLabel? rest).isSome then .other
    else
      match readLabel? rest with
      | some (label, rest) => .labelled label rest
      | none => .other
  | _ => .other

/-- Closes the innermost bracket, given the text after the closing bracket; the second component is
the text after all that belongs to it. -/
def closeBracket (document : Document) (phrase : Phrase) (rest : List Char) :
    Phrase × List Char :=
  match phrase.brackets with
  | [] => (phrase.push ']', rest)
  | bracket :: outer =>
    let asText (phrase : Phrase) : Phrase × List Char :=
      (phrase.closeAsText bracket outer, rest)
    let own? (label? : Option (List Char × List Char)) : Option (List Char) :=
      (label?.filter fun (_, after) => after.length == rest.length).map Prod.fst
    let asReference (label : List Char) (after : List Char) (phrase : Phrase) :
        Phrase × List Char :=
      match document.targets.lookup (foldLabel label) with
      | some target => (phrase.closeAsLink bracket outer target, after)
      | none => asText phrase
    let byOwnLabel (after : List Char) : Phrase × List Char :=
      if phrase.barred.contains rest.length then asText phrase
      else
        match own? (readFootnoteLabel? bracket.inside) with
        | some label =>
          if document.footnotes.contains (foldLabel label) then
            (phrase.closeAsFootnote bracket outer label, rest)
          else asText phrase
        | none =>
          match own? (readLabel? bracket.inside) with
          | some label => asReference label after phrase
          | none => asText phrase
    if !bracket.active then asText phrase
    else
      match readInlineTarget? rest with
      | some (target, after) => (phrase.closeAsLink bracket outer target, after)
      | none =>
        match Suffix.ofText rest with
        | .labelled label after =>
          asReference label after { phrase with barred := after.length :: phrase.barred }
        | .empty after => byOwnLabel after
        | .other => byOwnLabel rest

/-- The text up to a run of exactly so many backticks, and the text after it. -/
def readCode? (length : Nat) : Nat → List Char → Option (List Char × List Char)
  | 0, _ => none
  | _, [] => none
  | n + 1, c :: text =>
    if c = '\x60' then
      let (marks, rest) := Text.spanOf (· == '\x60') (c :: text)
      if marks.length = length then some ([], rest)
      else (readCode? length n rest).map fun (code, rest) => (marks ++ code, rest)
    else (readCode? length n text).map fun (code, rest) => (c :: code, rest)

/-- The content of code: line ends are spaces, and one space on each side is left out unless there
are only spaces. -/
def codeContent (code : List Char) : List Char :=
  let code := code.map fun c => if c = '\n' then ' ' else c
  if code.head? = some ' ' && code.getLast? = some ' ' && code.any (· != ' ') then
    (code.drop 1).dropLast
  else code

/-- What an opening angle bracket begins, given the text after it, and the text after all that
belongs to it. -/
def readAngle? (text : List Char) : Option (Inline × List Char) :=
  match readAddress? text with
  | some (address, rest) => some (.link ⟨address, []⟩ [.plain address], rest)
  | none =>
    match readMail? text with
    | some (address, rest) => some (.mail address, rest)
    | none =>
      (readInlineHtml? text).map fun rest =>
        (.html ('<' :: text.take (text.length - rest.length)), rest)

/-- Ends a line: two or more spaces before its end, or a backslash, make the break visible. -/
def Phrase.endLine (phrase : Phrase) : Phrase :=
  let (spaces, plain) := Text.spanOf isSpace phrase.plain
  { phrase with plain }.add (.done (if 2 ≤ spaces.length then .hardBreak else .softBreak))

/-- A character that may stand in a page: the null character is shown as the sign for unknown
characters. -/
def readable (c : Char) : Char := if c.toNat = 0 then Char.ofNat 0xFFFD else c

/-- Reads the text after a character; the number bounds the steps. -/
def readPhrase (document : Document) : Nat → Phrase → Char → List Char → Phrase
  | 0, phrase, _, _ => phrase
  | _, phrase, _, [] => phrase
  | n + 1, phrase, before, c :: rest =>
    if c = '\n' then readPhrase document n phrase.endLine '\n' (dropSpace rest)
    else if c = '\\' then
      match rest with
      | '\n' :: rest =>
        readPhrase document n (phrase.add (.done .hardBreak)) '\n' (dropSpace rest)
      | d :: rest =>
        if Text.isAsciiPunctuation d then readPhrase document n (phrase.push d) d rest
        else readPhrase document n (phrase.push c) c (d :: rest)
      | [] => phrase.push c
    else if c = '&' then
      match readEntity? rest with
      | some (chars, rest) => readPhrase document n (phrase.add (.done (.plain chars))) ';' rest
      | none => readPhrase document n (phrase.push c) c rest
    else if c = '\x60' then
      let (marks, after) := Text.spanOf (· == '\x60') (c :: rest)
      match readCode? marks.length after.length after with
      | some (code, after) =>
        readPhrase document n (phrase.add (.done (.code (codeContent code)))) c after
      | none => readPhrase document n { phrase with plain := marks ++ phrase.plain } c after
    else if c = '<' then
      match readAngle? rest with
      | some (inline, rest) => readPhrase document n (phrase.add (.done inline)) '>' rest
      | none => readPhrase document n (phrase.push c) c rest
    else if c = '!' && rest.head? = some '[' then
      readPhrase document n (phrase.openBracket true (rest.drop 1)) '[' (rest.drop 1)
    else if c = '[' then readPhrase document n (phrase.openBracket false rest) c rest
    else if c = ']' then
      let (phrase, after) := closeBracket document phrase rest
      let last := ((c :: rest).take (rest.length + 1 - after.length)).getLast?.getD c
      readPhrase document n phrase last after
    else if c = '*' || c = '_' || c = '~' then
      let (marks, after) := Text.spanOf (· == c) (c :: rest)
      let run := Run.between c marks.length before after.head?
      if run.isUsable then readPhrase document n (phrase.add (.run run)) c after
      else readPhrase document n { phrase with plain := marks ++ phrase.plain } c after
    else readPhrase document n (phrase.push (readable c)) c rest

/-- The inline structure of the text of a block. -/
def Inline.ofText (document : Document) (text : List Char) : List Inline :=
  let phrase := readPhrase document text.length {} '\n' (dropSpace text)
  emphasize { phrase with plain := phrase.plain.dropWhile isSpace }.allPieces.reverse

end StaticSite.Markdown
