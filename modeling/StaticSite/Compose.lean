import StaticSite.Fetch
import StaticSite.Json.Compact
import StaticSite.Marker.RenderMarker
import StaticSite.Marker.Token
import StaticSite.Tidy

/-!
# Composing templates

Composition puts the text of every referenced template in the place of the reference and a value in
the place of every placeholder. A value is looked up among the parameters of the reference that
brought the template in, then among the values of all pages; then comes the fallback, and else a
marker for the page. A value that itself holds references is expanded in its place.

The work is done step by step on a stack of frames, one for each template or value that is being
expanded. A template that is on the stack already closes a cycle, and so does a value that leads
back to its own placeholder.
-/

namespace StaticSite

/-- Why a composition failed. -/
inductive ComposeError where
  /-- A template could not be fetched. -/
  | fetch (error : FetchError)
  /-- The templates and placeholders of the chain lead back to one of them. -/
  | cycle (chain : List String)
  /-- The composition does not come to an end. -/
  | endless
  deriving DecidableEq, Repr

namespace ComposeError

/-- The text of an error. -/
def message : ComposeError → String
  | .fetch error => error.message
  | .cycle chain => "include cycle detected: " ++ String.intercalate " -> " chain
  | .endless => "the composition does not end"

/-- Whether the error ends the whole build. -/
def isFatal : ComposeError → Bool
  | .fetch _ => true
  | .cycle _ => false
  | .endless => true

end ComposeError

namespace Compose

open Marker

/-- What a composition draws on. -/
structure Setting where
  /-- The templates. -/
  source : Source
  /-- The directory of templates. -/
  root : Path
  /-- The values of all pages. -/
  globals : Fields

/-- A template or a value that is being expanded. -/
structure Frame where
  /-- The template, or the one that holds the placeholder. -/
  location : Location
  /-- The tokens that are still to come. -/
  tokens : List Token
  /-- The parameters of the reference that brought the template in. -/
  params : Table String
  /-- The text so far. -/
  output : String
  /-- The placeholder whose value is expanded. -/
  placeholder : Option String
  deriving Repr

/-- The name by which a placeholder is reported. -/
def placeholderLabel (name : String) : String := "\x7b\x7b\x7b " ++ name ++ " \x7d\x7d\x7d"

/-- The name by which a frame is reported. -/
def Frame.label (frame : Frame) : String :=
  match frame.placeholder with
  | some name => placeholderLabel name
  | none => frame.location.display

/-- The frame of a template. -/
def Frame.ofTemplate (location : Location) (text : String) (params : Table String) : Frame :=
  ⟨location, tokenize text, params, "", none⟩

/-- The text of a placeholder. -/
def substitute (globals : Fields) (params : Table String) (p : Placeholder) : String :=
  match params.get? p.name with
  | some value => value
  | none =>
    match globals.get? p.name with
    | some value => value.display
    | none => p.fallback.getD (renderMarker p.name)

/-- The template a reference names inside another one. -/
def target (root : Path) (location : Location) (name : String) : Location :=
  (Location.resolveTemplate root location.parent name).canonical

/-- The state after a step: the frames with the innermost first, or the final result. -/
inductive State where
  /-- There is more to do. -/
  | running (stack : List Frame)
  /-- The composition is over. -/
  | finished (result : Except ComposeError String)

/-- The chain of a cycle: the labels from the outermost frame on, and the one that closes it. -/
def chainOf (stack : List Frame) (closing : String) : List String :=
  (stack.map Frame.label).reverse ++ [closing]

/-- Adds text to the innermost frame; with no frame left the text is the result. -/
def append (text : String) : List Frame → State
  | [] => .finished (.ok text)
  | frame :: below => .running ({ frame with output := frame.output ++ text } :: below)

/-- One step on a stack, with the location it fetches from. -/
def step (setting : Setting) (stack : List Frame) : State × Option Location :=
  match stack with
  | [] => (.finished (.ok ""), none)
  | frame :: below =>
    match frame.tokens with
    | [] => (append frame.output below, none)
    | .literal text :: tokens => (append text ({ frame with tokens } :: below), none)
    | .placeholder p :: tokens =>
      let value := substitute setting.globals frame.params p
      let rest := { frame with tokens } :: below
      if (findReference? value).isNone then (append value rest, none)
      else if stack.any fun f => f.placeholder == some p.name then
        (.finished (.error (.cycle (chainOf stack (placeholderLabel p.name)))), none)
      else
        let inner := Frame.ofTemplate frame.location value frame.params
        (.running ({ inner with placeholder := some p.name } :: rest), none)
    | .reference r :: tokens =>
      let location := target setting.root frame.location r.name
      if stack.any fun f => f.location == location then
        (.finished (.error (.cycle (chainOf stack location.display))), none)
      else
        match setting.source location with
        | .error e => (.finished (.error (.fetch e)), some location)
        | .ok text =>
          let inner := Frame.ofTemplate location text r.params
          (.running (inner :: { frame with tokens } :: below), some location)

/-- The result of a composition with the locations fetched from, in order. -/
structure Composed where
  /-- The composed text. -/
  result : Except ComposeError String
  /-- The locations fetched from. -/
  fetched : List Location

/-- Runs steps until the composition is over; the locations `f` fetched from so far are given last
first. A composition without an end has no result. -/
def run (setting : Setting) (stack : List Frame) (f : List Location) : Option Composed :=
  match step setting stack with
  | (.finished result, location) => some ⟨result, (location.toList ++ f).reverse⟩
  | (.running stack, location) => (run setting (f := location.toList ++ f)) stack
partial_fixpoint

/-- Composes a text that was read from a location, without tidying it, if that comes to an end. -/
def compose? (setting : Setting) (text : String) (location : Location) : Option Composed :=
  run setting [.ofTemplate location.canonical text []] []

/-- Composes a text that was read from a location, without tidying it. -/
def compose (setting : Setting) (text : String) (location : Location) : Composed :=
  (compose? setting text location).getD ⟨.error .endless, []⟩

/-- Composes a text that was read from a location, and tidies it if asked to. -/
def composeTidied (tidied : Bool) (setting : Setting) (text : String) (location : Location) :
    Composed :=
  let composed := compose setting text location
  { composed with result := composed.result.map fun text => if tidied then tidy text else text }

end Compose

end StaticSite
