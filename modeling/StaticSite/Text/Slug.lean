import StaticSite.Text.Case
import StaticSite.Text.Slice

/-!
# Slugs

A slug is what is left of a text for the name of a page: words of letters from `a` to `z` and digits,
with a hyphen between them. Letters with marks lose them, and whatever is neither letter nor digit
ends a word.
-/

namespace StaticSite.Text

/-- Letters beyond ASCII, in lower case, under their spelling in ASCII. -/
def letterSpellings : List (String × String) := [
  ("a", "àáâãäåāăąǎȁȃȧạảấầẩẫậắằẳẵặ"), ("ae", "æ"), ("c", "çćĉċč"), ("d", "ðďđ"),
  ("e", "èéêëēĕėęěȅȇȩẹẻẽếềểễệ"), ("g", "ĝğġģǧ"), ("h", "ĥħ"), ("i", "ìíîïĩīĭįıǐȉȋỉị"),
  ("ij", "ĳ"), ("j", "ĵ"), ("k", "ķǩ"), ("l", "ĺļľŀł"), ("n", "ñńņňŉǹ"), ("ng", "ŋ"),
  ("o", "òóôõöøōŏőơǒȍȏọỏốồổỗộớờởỡợ"), ("oe", "œ"), ("r", "ŕŗř"), ("s", "śŝşšș"), ("ss", "ß"),
  ("t", "ţťŧț"), ("th", "þ"), ("u", "ùúûüũūŭůűųưǔȕȗụủứừửữự"), ("w", "ŵẁẃẅ"), ("y", "ýÿŷỳỵỷỹ"),
  ("z", "źżž")]

/-- The lower-case spelling of a character in ASCII; a hyphen if it has none. -/
def asciiSpelling (c : Char) : List Char :=
  if c.toNat < 128 then [c.toLower]
  else
    let lowered := (lowerChar c).headD c
    match letterSpellings.find? fun row => row.2.toList.contains lowered with
    | some row => row.1.toList
    | none => ['-']

/-- Whether a character belongs to a word of a slug. -/
def isSlugChar (c : Char) : Bool := c.isLower || c.isDigit

/-- The slug of a text. -/
def slug (text : List Char) : List Char :=
  let spelled := (text.flatMap asciiSpelling).map fun c => if isSlugChar c then c else '-'
  joinWith ['-'] ((splitOn '-' spelled).filter fun word => !word.isEmpty)

end StaticSite.Text
