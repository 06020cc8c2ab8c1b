import StaticSite.Layout.Render
import StaticSite.Marker.RenderMarker
import StaticSite.PageContext

/-!
# Rendering pages

A page is rendered in two steps: the markers in its body are filled with values of its context, and
the body goes into the layout. Nothing but markers has a meaning in a body, and filled values are
not looked at again.
-/

namespace StaticSite

/-- Why a page could not be rendered. -/
inductive RenderError where
  /-- The layout is malformed. -/
  | layout
  /-- The layout cannot be rendered with the values of the page. -/
  | template (fault : Layout.Fault)
  /-- A marker names a value that the page does not have. -/
  | missingValue (name : String)
  deriving DecidableEq, Repr

/-- The text of an error. -/
def RenderError.message : RenderError → String
  | .layout => "invalid layout: Failed to parse '__layout__'"
  | .template fault => "template error: " ++ fault.message
  | .missingValue name => "no value for \x60" ++ name ++ "\x60 in the page body"

namespace Renderer

open Marker

/-- A part of a page body. -/
inductive BodyPart where
  /-- Text that is kept. -/
  | text (chars : List Char)
  /-- A marker for a value. -/
  | marker (name : String)
  deriving DecidableEq, Repr

/-- The parts of a body; the number bounds its length. Two braces that begin no marker are passed
over together. -/
def bodyParts : Nat → List Char → List BodyPart
  | 0, text => [.text text]
  | _, [] => []
  | n + 1, c :: text =>
    match Text.stripPrefix? opening (c :: text) with
    | none => .text [c] :: bodyParts n text
    | some rest =>
      match readRenderMarker? (c :: text) with
      | some (name, rest) => .marker name :: bodyParts n rest
      | none => .text opening :: bodyParts n rest

/-- The text of parts, with the values of a context for the markers. -/
def fillParts (context : PageContext) : List BodyPart → Except RenderError (List Char)
  | [] => .ok []
  | .text chars :: rest =>
    match fillParts context rest with
    | .ok more => .ok (chars ++ more)
    | .error e => .error e
  | .marker name :: rest =>
    match context.get? name with
    | none => .error (.missingValue name)
    | some v =>
      match fillParts context rest with
      | .ok more => .ok (v.display.toList ++ more)
      | .error e => .error e

/-- The body with its markers filled. -/
def fillMarkers (body : String) (context : PageContext) : Except RenderError String :=
  let chars := body.toList
  (fillParts context (bodyParts chars.length chars)).map String.ofList

end Renderer

/-- A layout that has been read. -/
structure Renderer where
  /-- The parts of the layout. -/
  nodes : List Layout.Node

namespace Renderer

/-- The layout of a site without a layout of its own. -/
def identityLayout : String := "\x7b\x7b doc | safe \x7d\x7d"

/-- Reads a layout. -/
def ofLayout (layout : String) : Except RenderError Renderer :=
  match Layout.ofText? layout with
  | some nodes => .ok ⟨nodes⟩
  | none => .error .layout

/-- The HTML of a page. -/
def renderPage (renderer : Renderer) (context : PageContext) : Except RenderError String :=
  match fillMarkers context.body context with
  | .error e => .error e
  | .ok body =>
    match Layout.render renderer.nodes (context.values.insert "doc" (.text body)) with
    | .ok html => .ok html
    | .error fault => .error (.template fault)

end Renderer

end StaticSite
