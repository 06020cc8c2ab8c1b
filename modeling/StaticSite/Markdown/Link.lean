import StaticSite.Markdown.Block
import StaticSite.Markdown.Entity
import StaticSite.Text.Punctuation

/-!
# Parts of links

Labels, destinations and titles of links, as they stand in the text or in a definition at the start
of a paragraph. Labels agree if they differ in case and white space only.
-/

namespace StaticSite.Markdown

/-- The text with backslash escapes and character references replaced, reading at most the given
number of parts. -/
def unescapeWithin : Nat → List Char → List Char
  | 0, text => text
  | _, [] => []
  | n + 1, '\\' :: c :: text =>
    if Text.isAsciiPunctuation c then c :: unescapeWithin n text
    else '\\' :: unescapeWithin n (c :: text)
  | n + 1, '&' :: text =>
    match readEntity? text with
    | some (chars, rest) => chars ++ unescapeWithin n rest
    | none => '&' :: unescapeWithin n text
  | n + 1, c :: text => c :: unescapeWithin n text

/-- The text with backslash escapes and character references replaced. -/
def unescape (text : List Char) : List Char := unescapeWithin text.length text

/-- A destination in angle brackets, after the first. -/
def readPointed? : List Char → Option (List Char × List Char)
  | [] => none
  | '>' :: rest => some ([], rest)
  | '\\' :: c :: rest =>
    if Text.isAsciiPunctuation c then
      (readPointed? rest).map fun (front, rest) => ('\\' :: c :: front, rest)
    else
      match readPointed? (c :: rest) with
      | some (front, rest) => some ('\\' :: front, rest)
      | none => none
  | c :: rest =>
    if c = '<' || c = '\n' then none
    else (readPointed? rest).map fun (front, rest) => (c :: front, rest)

/-- The most parentheses that may be open at once in a destination. -/
def maxOpenParentheses : Nat := 32

/-- A destination without brackets, with a number of parentheses open: it ends at white space or at
a closing parenthesis that was not opened in it. -/
def readBare? (depth : Nat) : List Char → Option (List Char × List Char)
  | [] => if depth = 0 then some ([], []) else none
  | '\\' :: c :: rest =>
    if Text.isAsciiPunctuation c then
      (readBare? depth rest).map fun (front, rest) => ('\\' :: c :: front, rest)
    else
      match readBare? depth (c :: rest) with
      | some (front, rest) => some ('\\' :: front, rest)
      | none => none
  | c :: rest =>
    if c.toNat ≤ 0x20 then if depth = 0 then some ([], c :: rest) else none
    else if c = '(' then
      if depth > maxOpenParentheses then none
      else (readBare? (depth + 1) rest).map fun (front, rest) => (c :: front, rest)
    else if c = ')' then
      if depth = 0 then some ([], c :: rest)
      else (readBare? (depth - 1) rest).map fun (front, rest) => (c :: front, rest)
    else (readBare? depth rest).map fun (front, rest) => (c :: front, rest)

/-- A destination as it is written, and the text after it. -/
def readDestination? : List Char → Option (List Char × List Char)
  | '<' :: rest => readPointed? rest
  | text => readBare? 0 text

/-- The characters of a title up to its end. A line of the title begins after its white space. -/
def readTitleBody? (opening closing : Char) (atStart : Bool) :
    List Char → Option (List Char × List Char)
  | [] => none
  | '\\' :: c :: rest =>
    if Text.isAsciiPunctuation c then
      (readTitleBody? opening closing false rest).map fun (front, rest) =>
        ('\\' :: c :: front, rest)
    else
      match readTitleBody? opening closing false (c :: rest) with
      | some (front, rest) => some ('\\' :: front, rest)
      | none => none
  | c :: rest =>
    if c = closing then some ([], rest)
    else if c = opening then none
    else if atStart && isSpace c then readTitleBody? opening closing true rest
    else (readTitleBody? opening closing (c == '\n') rest).map fun (front, rest) =>
      (c :: front, rest)

/-- A title as it is written, in quotes or parentheses, and the text after it. -/
def readTitle? : List Char → Option (List Char × List Char)
  | '"' :: rest => readTitleBody? '"' '"' false rest
  | '\'' :: rest => readTitleBody? '\'' '\'' false rest
  | '(' :: rest => readTitleBody? '(' ')' false rest
  | _ => none

/-- The text after white space with at most one line end. -/
def dropSeparator (text : List Char) : List Char :=
  match dropSpace text with
  | '\n' :: rest => dropSpace rest
  | rest => rest

/-- The target in parentheses that makes a bracket a link, and the text after it. -/
def readInlineTarget? : List Char → Option (Target × List Char)
  | '(' :: rest =>
    match readDestination? (dropSeparator rest) with
    | none => none
    | some (destination, rest) =>
      let rest := dropSeparator rest
      let (title, rest) :=
        match readTitle? rest with
        | some (title, rest) => (title, dropSeparator rest)
        | none => ([], rest)
      match rest with
      | ')' :: rest => some (⟨unescape destination, unescape title⟩, rest)
      | _ => none
  | _ => none

/-- The most characters a label may have. -/
def maxLabelLength : Nat := 999

/-- The characters of a label up to its closing bracket. -/
def readLabelBody? : List Char → Option (List Char × List Char)
  | [] => none
  | ']' :: rest => some ([], rest)
  | '[' :: _ => none
  | '\\' :: c :: rest => (readLabelBody? rest).map fun (front, rest) => ('\\' :: c :: front, rest)
  | c :: rest => (readLabelBody? rest).map fun (front, rest) => (c :: front, rest)

/-- A label after its opening bracket, and the text after its closing one. -/
def readLabel? (text : List Char) : Option (List Char × List Char) :=
  match readLabelBody? text with
  | some (label, rest) =>
    if label.all isSpaceOrEnd || label.length > maxLabelLength then none else some (label, rest)
  | none => none

/-- The words of a label with single spaces between them, given whether white space came before. -/
def joinWords (gap : Bool) : List Char → List Char
  | [] => []
  | c :: text =>
    if isSpaceOrEnd c then joinWords true text
    else if gap then ' ' :: c :: joinWords false text
    else c :: joinWords false text

/-- The form in which labels are compared: without regard to case, with single spaces between the
words. -/
def foldLabel (label : List Char) : List Char :=
  let words := joinWords false (label.dropWhile isSpaceOrEnd)
  ((words.flatMap Text.lowerChar).flatMap Text.upperChar).flatMap Text.lowerChar

/-- A link that a paragraph defines, and what remains of the paragraph. -/
structure Definition where
  /-- The label as it is written. -/
  label : List Char
  /-- Where the link leads. -/
  target : Target
  /-- The text of the paragraph after the definition. -/
  rest : List Char

/-- The text after the end of the line, if nothing but white space comes before it. -/
def endOfLine? (text : List Char) : Option (List Char) :=
  match dropSpace text with
  | [] => some []
  | '\n' :: rest => some rest
  | _ => none

/-- The definition of a link at the start of a paragraph. A title has to end its line; if it does
not, and stands on a line of its own, it belongs to the paragraph. -/
def readDefinition? : List Char → Option Definition
  | '[' :: rest =>
    match readLabel? rest with
    | some (label, ':' :: rest) =>
      match readDestination? (dropSeparator rest) with
      | none => none
      | some (written, after) =>
        if written.isEmpty && (dropSeparator rest).head? != some '<' then none
        else
          let destination := unescape written
          let titled? : Option Definition :=
            if after.head?.all (fun c => !isSpaceOrEnd c) then none
            else
              match readTitle? (dropSeparator after) with
              | none => none
              | some (title, rest) =>
                (endOfLine? rest).map fun rest => ⟨label, ⟨destination, unescape title⟩, rest⟩
          match titled? with
          | some definition => some definition
          | none => (endOfLine? after).map fun rest => ⟨label, ⟨destination, []⟩, rest⟩
    | _ => none
  | _ => none

end StaticSite.Markdown
