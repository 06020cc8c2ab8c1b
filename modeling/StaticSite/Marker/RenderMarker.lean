import StaticSite.Marker.Basic

/-!
# Markers for the page

A value that composition leaves open becomes a marker `{{ name | safe }}` in the composed text.
Such a marker is no reference, since its second part has no equals sign, and it is filled when the
page is rendered.
-/

namespace StaticSite.Marker

/-- The marker for a value that is filled when the page is rendered. -/
def renderMarker (name : String) : String := "\x7b\x7b " ++ name ++ " | safe \x7d\x7d"

/-- The name in a page marker at the front of the text, and the text after the marker. -/
def readRenderMarker? (text : List Char) : Option (String × List Char) :=
  match Text.stripPrefix? opening text with
  | none => none
  | some ('\x7b' :: _) => none
  | some body =>
    let (name, rest) := Text.spanOf isIdentifierChar (body.dropWhile Text.isBlank)
    if name.isEmpty then none
    else
      match rest.dropWhile Text.isBlank with
      | '|' :: rest =>
        match Text.stripPrefix? "safe".toList (rest.dropWhile Text.isBlank) with
        | none => none
        | some rest =>
          (Text.stripPrefix? closing (rest.dropWhile Text.isBlank)).map fun rest =>
            (String.ofList name, rest)
      | _ => none

/-- The length in bytes of a page marker at the front of the text, with its name. -/
def measureRenderMarker? (text : String) : Option (Nat × String) :=
  let chars := text.toList
  (readRenderMarker? chars).map fun (name, rest) =>
    (Text.byteLength chars - Text.byteLength rest, name)

end StaticSite.Marker
