import StaticSite.Layout.Argument
import StaticSite.Text.Punctuation
import StaticSite.Text.Slug

/-!
# Filters of texts

Filters that make a text, or its parts, of a text: letters in another case, parts cut off or
replaced, characters in a form without a meaning in HTML or in addresses.
-/

namespace StaticSite.Layout.Filter

/-- A character that has a meaning in HTML, in a form that has none. -/
def escapeHtml (c : Char) : List Char :=
  match c with
  | '&' => "&amp;".toList
  | '<' => "&lt;".toList
  | '>' => "&gt;".toList
  | '"' => "&quot;".toList
  | '\'' => "&#x27;".toList
  | '/' => "&#x2F;".toList
  | c => [c]

/-- A character that has a meaning in XML, in a form that has none. -/
def escapeXml (c : Char) : List Char :=
  match c with
  | '&' => "&amp;".toList
  | '<' => "&lt;".toList
  | '>' => "&gt;".toList
  | '"' => "&quot;".toList
  | '\'' => "&apos;".toList
  | c => [c]

/-- A character after a backslash, if it is a quote or a backslash. -/
def escapeQuotes (c : Char) : List Char :=
  if c == '\\' || c == '"' || c == '\'' then ['\\', c] else [c]

/-- The text with its first letter in upper case and all others in lower case. -/
def capitalized : List Char → List Char
  | [] => []
  | c :: rest => Text.upperChar c ++ Text.lower rest

/-- Whether a character belongs to a word. -/
def isWordChar (c : Char) : Bool :=
  c.isAlphanum || c == '_' || (c.toNat ≥ 128 && !Text.isBlank c && !Text.isPunctuation c)

/-- The text with every word capitalized; the flag says that a word has begun. A word goes on over
an apostrophe. -/
def titled (inWord : Bool) : List Char → List Char
  | [] => []
  | c :: rest =>
    if isWordChar c then
      (if inWord then Text.lowerChar c else Text.upperChar c) ++ titled true rest
    else c :: titled (inWord && c == '\'') rest

/-- The rest after a tag that begins the text. -/
def afterTag? (text : List Char) : Option (List Char) :=
  match Text.stripPrefix? "<!--".toList text with
  | some body =>
    match Text.breakOn? "-->".toList body with
    | some (comment, rest) => if comment.contains '\n' then simple text else some rest
    | none => simple text
  | none => simple text
where
  /-- The rest after the next closing bracket. -/
  simple (text : List Char) : Option (List Char) :=
    match text with
    | '<' :: body => (Text.breakOn? ['>'] body).map Prod.snd
    | _ => none

/-- The text without its tags; the number bounds its length. -/
def withoutTags : Nat → List Char → List Char
  | 0, text => text
  | _, [] => []
  | n + 1, c :: text =>
    match afterTag? (c :: text) with
    | some rest => withoutTags n rest
    | none => c :: withoutTags n text

/-- The text without the white space between two tags; the number bounds its length. -/
def withoutGaps : Nat → List Char → List Char
  | 0, text => text
  | _, [] => []
  | n + 1, c :: text =>
    if c == '>' then
      match (Text.spanOf Text.isBlank text).2 with
      | '<' :: rest => c :: withoutGaps n ('<' :: rest)
      | _ => c :: withoutGaps n text
    else c :: withoutGaps n text

/-- The words of a text. -/
def words (text : List Char) : List (List Char) :=
  (Text.splitOn ' ' (text.map fun c => if Text.isBlank c then ' ' else c)).filter
    fun word => !word.isEmpty

/-- The fields of a text between the occurrences of a pattern; the number bounds their count. -/
def fieldsWithin (pattern : List Char) : Nat → List Char → List (List Char)
  | 0, text => [text]
  | n + 1, text =>
    match Text.breakOn? pattern text with
    | some (field, rest) => field :: fieldsWithin pattern n rest
    | none => [text]

/-- The fields of a text between the occurrences of a pattern. An empty pattern occurs before each
character and at the end. -/
def fieldsBetween (pattern text : List Char) : List (List Char) :=
  if pattern.isEmpty then [] :: text.map (fun c => [c]) ++ [[]]
  else fieldsWithin pattern text.length text

/-- The text without the occurrences of a pattern at its front; the number bounds their count. -/
def withoutFront (pattern : List Char) : Nat → List Char → List Char
  | 0, text => text
  | n + 1, text =>
    match pattern, Text.stripPrefix? pattern text with
    | _ :: _, some rest => withoutFront pattern n rest
    | _, _ => text

/-- A text in percent encoding, with the characters of a set and all letters and digits kept. -/
def percentEncoded (kept : String) (text : List Char) : List Char :=
  text.flatMap fun c =>
    if c.isAlphanum || kept.toList.contains c then [c]
    else (String.singleton c).toUTF8.toList.flatMap fun b =>
      let digit (n : Nat) : Char := ((Nat.toDigits 16 n).headD '0').toUpper
      ['%', digit (b.toNat / 16), digit (b.toNat % 16)]

/-- The text with some text put before its lines. Line breaks at its end go away. -/
def indented (margin : List Char) (first blank : Bool) (text : List Char) : List Char :=
  let lines := (Text.lines text).zipIdx.map fun (line, i) =>
    if i == 0 then (if first then margin ++ line else line)
    else if Text.isAllBlank line && !blank then line
    else margin ++ line
  Text.joinWith ['\n'] lines

/-- The filters of texts. -/
def applyToText? (name : String) (args : Fields) (text : List Char) : Option Value := do
  match name with
  | "upper" => return ofChars (Text.upper text)
  | "lower" => return ofChars (Text.lower text)
  | "trim" => return ofChars (Text.trim text)
  | "trim_start" => return ofChars (Text.trimStart text)
  | "trim_end" => return ofChars (Text.trimEnd text)
  | "trim_start_matches" =>
    let pattern ← required? args "pat" pattern?
    return ofChars (withoutFront pattern text.length text)
  | "trim_end_matches" =>
    let pattern ← required? args "pat" pattern?
    return ofChars (withoutFront pattern.reverse text.length text.reverse).reverse
  | "truncate" =>
    let length ← optional? args "length" count? 255
    let mark ← optional? args "end" chars? ['…']
    return ofChars (if text.length ≤ length then text else text.take length ++ mark)
  | "wordcount" => return .int (words text).length
  | "replace" =>
    let pattern ← required? args "from" chars?
    let replacement ← required? args "to" chars?
    return ofChars (Text.replaceAll pattern replacement text)
  | "capitalize" => return ofChars (capitalized text)
  | "title" => return ofChars (titled false text)
  | "linebreaksbr" =>
    let br := "<br>".toList
    return ofChars (Text.replaceAll ['\n'] br (Text.replaceAll ['\r', '\n'] br text))
  | "indent" =>
    let margin ← optional? args "prefix" chars? "    ".toList
    let first ← optional? args "first" flag? false
    let blank ← optional? args "blank" flag? false
    return ofChars (indented margin first blank text)
  | "striptags" => return ofChars (withoutTags text.length text)
  | "spaceless" => return ofChars (withoutGaps text.length text)
  | "slugify" => return ofChars (Text.slug text)
  | "addslashes" => return ofChars (text.flatMap escapeQuotes)
  | "escape" => return ofChars (text.flatMap escapeHtml)
  | "escape_xml" => return ofChars (text.flatMap escapeXml)
  | "urlencode" => return ofChars (percentEncoded "_-.~/%" text)
  | "urlencode_strict" => return ofChars (percentEncoded "" text)
  | "split" =>
    let pattern ← required? args "pat" pattern?
    return .list ((fieldsBetween pattern text).map ofChars)
  | _ => failure

end StaticSite.Layout.Filter
