import Mathlib
import StaticSite.Compose

/-!
# Expansion by recursion

The text that a composition stands for, without a stack: the tokens of a text are expanded from left
to right, and the tokens of a referenced template, or of a value that holds references, are expanded
in their place. An expansion knows the visits on its path, that is the templates and placeholders
that led to the text, and gives its text as a list of fragments. It is a relation, since the
recursion may have no end; there is at most one expansion (`Expands.unique`).
-/

namespace StaticSite.Compose

open Marker

/-- A template or a placeholder that led to a text. -/
inductive Visit where
  /-- The text of a template. -/
  | template (location : Location)
  /-- The value of a placeholder. -/
  | placeholder (name : String)
  deriving DecidableEq, Repr

/-- The name by which a visit is reported. -/
def Visit.label : Visit → String
  | .template location => location.display
  | .placeholder name => placeholderLabel name

/-- The cycle that a visit closes on a path, which is given with the latest visit first. -/
def cycleAt (path : List Visit) (visit : Visit) : ComposeError :=
  .cycle (path.reverse.map Visit.label ++ [visit.label])

/-- A piece of composed text. -/
inductive Fragment where
  /-- Ordinary text of a template or a value. -/
  | literal (text : String)
  /-- A value that is copied without being expanded. -/
  | value (text : String)
  deriving DecidableEq, Repr

/-- The text of a fragment. -/
def Fragment.text : Fragment → String
  | .literal text => text
  | .value text => text

/-- The text of fragments one after another. -/
def textOf : List Fragment → String
  | [] => ""
  | fragment :: rest => fragment.text ++ textOf rest

/-- What an expansion gives. -/
structure Expansion where
  /-- The fragments, or the error that ended the expansion. -/
  result : Except ComposeError (List Fragment)
  /-- The locations fetched from, in order. -/
  fetched : List Location

namespace Expansion

/-- The expansion with fragments and fetches in front of it. -/
def behind (expansion : Expansion) (fragments : List Fragment) (fetched : List Location) :
    Expansion :=
  ⟨expansion.result.map (fragments ++ ·), fetched ++ expansion.fetched⟩

/-- The composition that an expansion amounts to. -/
def toComposed (expansion : Expansion) : Composed :=
  ⟨expansion.result.map textOf, expansion.fetched⟩

end Expansion

/-- The value of a placeholder: that of the parameters, else that of all pages, else the fallback,
else a marker for the page. -/
def valueOf (globals : Fields) (params : Table String) (p : Placeholder) : String :=
  (params.get? p.name <|> (globals.get? p.name).map Value.display <|> p.fallback).getD
    (renderMarker p.name)

/-- The template that a reference names: it is resolved against the directory of the template that
holds the reference. -/
def referred (setting : Setting) (location : Location) (r : Reference) : Location :=
  (Location.resolveTemplate setting.root location.parent r.name).canonical

/-- The expansion of the tokens of the text at a location that was brought in with parameters. The
path has the latest visit first. -/
inductive Expands (setting : Setting) :
    Location → Table String → List Visit → List Token → Expansion → Prop
  | nil {location : Location} {params : Table String} {path : List Visit} :
      Expands setting location params path [] ⟨.ok [], []⟩
  | literal {location : Location} {params : Table String} {path : List Visit}
      {tokens : List Token} {text : String} {more : Expansion}
      (more_expands : Expands setting location params path tokens more) :
      Expands setting location params path (.literal text :: tokens)
        (more.behind [.literal text] [])
  | value {location : Location} {params : Table String} {path : List Visit}
      {tokens : List Token} {p : Placeholder} {more : Expansion}
      (no_reference : findReference? (valueOf setting.globals params p) = none)
      (more_expands : Expands setting location params path tokens more) :
      Expands setting location params path (.placeholder p :: tokens)
        (more.behind [.value (valueOf setting.globals params p)] [])
  | valueCycle {location : Location} {params : Table String} {path : List Visit}
      {tokens : List Token} {p : Placeholder}
      (reference : findReference? (valueOf setting.globals params p) ≠ none)
      (visited : .placeholder p.name ∈ path) :
      Expands setting location params path (.placeholder p :: tokens)
        ⟨.error (cycleAt path (.placeholder p.name)), []⟩
  | valueError {location : Location} {params : Table String} {path : List Visit}
      {tokens : List Token} {p : Placeholder} {e : ComposeError} {log : List Location}
      (reference : findReference? (valueOf setting.globals params p) ≠ none)
      (fresh : .placeholder p.name ∉ path)
      (value_expands : Expands setting location params (.placeholder p.name :: path)
        (tokenize (valueOf setting.globals params p)) ⟨.error e, log⟩) :
      Expands setting location params path (.placeholder p :: tokens) ⟨.error e, log⟩
  | valueText {location : Location} {params : Table String} {path : List Visit}
      {tokens : List Token} {p : Placeholder} {fragments : List Fragment} {log : List Location}
      {more : Expansion}
      (reference : findReference? (valueOf setting.globals params p) ≠ none)
      (fresh : .placeholder p.name ∉ path)
      (value_expands : Expands setting location params (.placeholder p.name :: path)
        (tokenize (valueOf setting.globals params p)) ⟨.ok fragments, log⟩)
      (more_expands : Expands setting location params path tokens more) :
      Expands setting location params path (.placeholder p :: tokens)
        (more.behind fragments log)
  | templateCycle {location : Location} {params : Table String} {path : List Visit}
      {tokens : List Token} {r : Reference}
      (visited : .template (referred setting location r) ∈ path) :
      Expands setting location params path (.reference r :: tokens)
        ⟨.error (cycleAt path (.template (referred setting location r))), []⟩
  | fetchError {location : Location} {params : Table String} {path : List Visit}
      {tokens : List Token} {r : Reference} {e : FetchError}
      (fresh : .template (referred setting location r) ∉ path)
      (source_eq : setting.source (referred setting location r) = .error e) :
      Expands setting location params path (.reference r :: tokens)
        ⟨.error (.fetch e), [referred setting location r]⟩
  | templateError {location : Location} {params : Table String} {path : List Visit}
      {tokens : List Token} {r : Reference} {text : String} {e : ComposeError}
      {log : List Location} (fresh : .template (referred setting location r) ∉ path)
      (source_eq : setting.source (referred setting location r) = .ok text)
      (template_expands : Expands setting (referred setting location r) r.params
        (.template (referred setting location r) :: path) (tokenize text) ⟨.error e, log⟩) :
      Expands setting location params path (.reference r :: tokens)
        ⟨.error e, referred setting location r :: log⟩
  | templateText {location : Location} {params : Table String} {path : List Visit}
      {tokens : List Token} {r : Reference} {text : String} {fragments : List Fragment}
      {log : List Location} {more : Expansion}
      (fresh : .template (referred setting location r) ∉ path)
      (source_eq : setting.source (referred setting location r) = .ok text)
      (template_expands : Expands setting (referred setting location r) r.params
        (.template (referred setting location r) :: path) (tokenize text) ⟨.ok fragments, log⟩)
      (more_expands : Expands setting location params path tokens more) :
      Expands setting location params path (.reference r :: tokens)
        (more.behind fragments (referred setting location r :: log))

/-- Tokens have at most one expansion. -/
theorem Expands.unique {setting : Setting} {location : Location} {params : Table String}
    {path : List Visit} {tokens : List Token} {expansion other : Expansion}
    (h : Expands setting location params path tokens expansion)
    (hother : Expands setting location params path tokens other) : expansion = other := by
  induction h generalizing other with
  | nil => cases hother; rfl
  | literal _ ih =>
    cases hother with
    | literal hmore => rw [ih hmore]
  | value hvalue _ ih =>
    cases hother with
    | value _ hmore => rw [ih hmore]
    | valueCycle hreference => exact absurd hvalue hreference
    | valueError hreference => exact absurd hvalue hreference
    | valueText hreference => exact absurd hvalue hreference
  | valueCycle hreference hvisited =>
    cases hother with
    | value hvalue => exact absurd hvalue hreference
    | valueCycle => rfl
    | valueError _ hfresh => exact absurd hvisited hfresh
    | valueText _ hfresh => exact absurd hvisited hfresh
  | valueError hreference hfresh _ ih =>
    cases hother with
    | value hvalue => exact absurd hvalue hreference
    | valueCycle _ hvisited => exact absurd hvisited hfresh
    | valueError _ _ hinner => exact ih hinner
    | valueText _ _ hinner => cases ih hinner
  | valueText hreference hfresh _ _ ihinner ih =>
    cases hother with
    | value hvalue => exact absurd hvalue hreference
    | valueCycle _ hvisited => exact absurd hvisited hfresh
    | valueError _ _ hinner => cases ihinner hinner
    | valueText _ _ hinner hmore =>
      cases ihinner hinner
      rw [ih hmore]
  | templateCycle hvisited =>
    cases hother with
    | templateCycle => rfl
    | fetchError hfresh => exact absurd hvisited hfresh
    | templateError hfresh => exact absurd hvisited hfresh
    | templateText hfresh => exact absurd hvisited hfresh
  | fetchError hfresh hsource =>
    cases hother with
    | templateCycle hvisited => exact absurd hvisited hfresh
    | fetchError _ hsource' => cases hsource.symm.trans hsource'; rfl
    | templateError _ hsource' => cases hsource.symm.trans hsource'
    | templateText _ hsource' => cases hsource.symm.trans hsource'
  | templateError hfresh hsource _ ih =>
    cases hother with
    | templateCycle hvisited => exact absurd hvisited hfresh
    | fetchError _ hsource' => cases hsource.symm.trans hsource'
    | templateError _ hsource' hinner =>
      cases hsource.symm.trans hsource'
      cases ih hinner
      rfl
    | templateText _ hsource' hinner =>
      cases hsource.symm.trans hsource'
      cases ih hinner
  | templateText hfresh hsource _ _ ihinner ih =>
    cases hother with
    | templateCycle hvisited => exact absurd hvisited hfresh
    | fetchError _ hsource' => cases hsource.symm.trans hsource'
    | templateError _ hsource' hinner =>
      cases hsource.symm.trans hsource'
      cases ihinner hinner
    | templateText _ hsource' hinner hmore =>
      cases hsource.symm.trans hsource'
      cases ihinner hinner
      rw [ih hmore]

theorem textOf_append (front back : List Fragment) :
    textOf (front ++ back) = textOf front ++ textOf back := by
  induction front with
  | nil => simp [textOf]
  | cons fragment front ih => simp [textOf, ih, String.append_assoc]

theorem substitute_eq_valueOf (globals : Fields) (params : Table String) (p : Placeholder) :
    substitute globals params p = valueOf globals params p := by
  unfold substitute valueOf
  cases params.get? p.name with
  | some value => rfl
  | none =>
    cases globals.get? p.name with
    | some value => rfl
    | none => cases p.fallback <;> rfl

end StaticSite.Compose
