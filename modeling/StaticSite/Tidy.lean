import StaticSite.Text.Blank

/-!
# Tidying HTML

Tidied text has no white space at the ends of its lines, no two blank lines in a row, none at the
start or the end, and a line feed after its last line. Lines with a preformatted element open at
their start or their end are kept as they are.
-/

namespace StaticSite.Tidy

/-- The elements whose content is kept. -/
inductive Element where
  /-- Preformatted text. -/
  | pre
  /-- A field of text. -/
  | textarea
  deriving DecidableEq, Repr

/-- The name of an element. -/
def Element.name : Element → List Char
  | .pre => "pre".toList
  | .textarea => "textarea".toList

/-- Whether a start tag is over after its name: at the end of the line, or before white space or
the closing bracket. -/
def endsName : List Char → Bool
  | [] => true
  | c :: _ => c == '>' || Text.isAsciiBlank c

/-- Whether the text, in lower case, begins with a start tag of the element. -/
def opensWith (element : Element) (text : List Char) : Bool :=
  match Text.stripPrefix? ('<' :: element.name) text with
  | some rest => endsName rest
  | none => false

/-- Whether the text, in lower case, begins with an end tag of the element. -/
def closesWith (element : Element) (text : List Char) : Bool :=
  Text.startsWith ('<' :: '/' :: element.name) text

/-- The element open at the end of a line in lower case, given the one open at its start. -/
def openAfter : Option Element → List Char → Option Element
  | element, [] => element
  | some element, c :: text =>
    if closesWith element (c :: text) then openAfter none text else openAfter (some element) text
  | none, c :: text =>
    if opensWith .pre (c :: text) then openAfter (some .pre) text
    else if opensWith .textarea (c :: text) then openAfter (some .textarea) text
    else openAfter none text

/-- How far tidying has come. -/
structure State where
  /-- The element open before the next line. -/
  element : Option Element
  /-- Whether a line has been written. -/
  started : Bool
  /-- Whether a blank line waits for a line that is not blank. -/
  blank : Bool
  deriving DecidableEq, Repr

/-- A line that is written, after the blank line that may wait for it. -/
def emit (blank : Bool) (line : List Char) : List Char :=
  (if blank then ['\n'] else []) ++ line ++ ['\n']

/-- The tidied lines. -/
def tidyLines (state : State) : List (List Char) → List Char
  | [] => []
  | line :: rest =>
    let element := openAfter state.element (Text.asciiLower line)
    if state.element.isSome || element.isSome then
      emit state.blank line ++ tidyLines ⟨element, true, false⟩ rest
    else
      let line := Text.trimEnd line
      if line.isEmpty then tidyLines ⟨none, state.started, state.started⟩ rest
      else emit state.blank line ++ tidyLines ⟨none, true, false⟩ rest

/-- The tidied text. -/
def tidyChars (text : List Char) : List Char := tidyLines ⟨none, false, false⟩ (Text.lines text)

end StaticSite.Tidy

namespace StaticSite

/-- The tidied text. -/
def tidy (text : String) : String := String.ofList (Tidy.tidyChars text.toList)

end StaticSite
