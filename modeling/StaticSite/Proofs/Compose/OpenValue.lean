import StaticSite.Proofs.Compose.Idempotence
import StaticSite.Proofs.Marker.RenderMarker

/-!
# Values that a composition leaves open

A placeholder without a parameter, a value of all pages or a fallback is open. The composition
writes a marker for the page in its place, which is in the composed text as it stands
(`renderMarker_isInfix_of_compose`). A text that holds no references, and whose placeholders are all
open, is composed to its literals with these markers between them (`compose_of_open`).
-/

namespace StaticSite.Compose

open Marker

/-- A placeholder for which nothing is known before the page is rendered. -/
structure IsOpen (globals : Fields) (params : Table String) (p : Placeholder) : Prop where
  no_param : params.get? p.name = none
  no_global : globals.get? p.name = none
  no_fallback : p.fallback = none

/-- The text of a token when all placeholders are left open. -/
def writtenText : Token → String
  | .literal s => s
  | .placeholder p => renderMarker p.name
  | .reference _ => ""

/-- The text of tokens when all placeholders are left open. -/
def written (tokens : List Token) : String := String.join (tokens.map writtenText)

variable {setting : Setting} {location : Location} {params : Table String} {path : List Visit}
  {tokens : List Token} {p : Placeholder} {text output : String}

theorem IsOpen.valueOf_eq {globals : Fields} (h : IsOpen globals params p) :
    valueOf globals params p = renderMarker p.name := by
  simp [valueOf, h.no_param, h.no_global, h.no_fallback]

@[simp]
theorem written_cons (token : Token) (tokens : List Token) :
    written (token :: tokens) = writtenText token ++ written tokens := by
  rw [← String.toList_inj]
  simp [written]

/-- Tokens without references, whose placeholders are all open, expand to their text. -/
theorem expands_of_open (hreference : ∀ r, .reference r ∉ tokens)
    (hname : ∀ p, .placeholder p ∈ tokens → IsIdentifier p.name)
    (hopen : ∀ p, .placeholder p ∈ tokens → IsOpen setting.globals params p) :
    ∃ fragments, textOf fragments = written tokens ∧
      Expands setting location params path tokens ⟨.ok fragments, []⟩ := by
  induction tokens with
  | nil => exact ⟨[], rfl, .nil⟩
  | cons token tokens ih =>
    obtain ⟨fragments, htext, hexpands⟩ := ih (fun r hr ↦ hreference r (List.mem_cons_of_mem _ hr))
      (fun p hp ↦ hname p (List.mem_cons_of_mem _ hp))
      (fun p hp ↦ hopen p (List.mem_cons_of_mem _ hp))
    cases token with
    | literal s =>
      refine ⟨.literal s :: fragments, ?_, .literal hexpands⟩
      rw [textOf, htext, written_cons]
      rfl
    | reference r => exact absurd List.mem_cons_self (hreference r)
    | placeholder p =>
      have hvalue := (hopen p List.mem_cons_self).valueOf_eq
      refine ⟨.value (renderMarker p.name) :: fragments, ?_, ?_⟩
      · rw [textOf, htext, written_cons]
        rfl
      · have hplain := (hname p List.mem_cons_self).isPlain_renderMarker
        have hnone : findReference? (valueOf setting.globals params p) = none := by
          rw [hvalue]
          exact findReference?_of_isPlain hplain
        rw [← hvalue]
        exact .value hnone hexpands

/-- A text without references, whose placeholders are all open, is composed to its literals and a
marker for each of its placeholders. -/
theorem compose_of_open (hreference : ∀ r, .reference r ∉ tokenize text)
    (hopen : ∀ p, .placeholder p ∈ tokenize text → IsOpen setting.globals [] p) :
    compose setting text location = ⟨.ok (written (tokenize text)), []⟩ := by
  have hexpands : ∃ fragments, textOf fragments = written (tokenize text) ∧
      Expands setting location.canonical [] [.template location.canonical] (tokenize text)
        ⟨.ok fragments, []⟩ :=
    expands_of_open hreference (fun p hp ↦ isIdentifier_of_mem_tokenize hp) hopen
  obtain ⟨fragments, htext, hexpands⟩ := hexpands
  rw [compose_of_expands hexpands]
  simp [Expansion.toComposed, Except.map, htext]

/-! ## Open placeholders among others -/

theorem text_isInfix_textOf {fragments : List Fragment} {fragment : Fragment}
    (h : fragment ∈ fragments) : fragment.text.toList <:+: (textOf fragments).toList := by
  obtain ⟨front, back, rfl⟩ := List.append_of_mem h
  rw [textOf_append, textOf]
  simp

/-- The marker of an open placeholder is a fragment of the expansion, if there is one. -/
theorem Expands.mem_of_open {fragments : List Fragment} {expansion : Expansion}
    (h : Expands setting location params path tokens expansion)
    (hresult : expansion.result = .ok fragments) (hmem : .placeholder p ∈ tokens)
    (hname : IsIdentifier p.name) (hopen : IsOpen setting.globals params p) :
    .value (renderMarker p.name) ∈ fragments := by
  have hvalue := hopen.valueOf_eq
  have hnone : findReference? (valueOf setting.globals params p) = none := by
    rw [hvalue]
    exact findReference?_of_isPlain hname.isPlain_renderMarker
  induction tokens generalizing fragments expansion with
  | nil => exact absurd hmem List.not_mem_nil
  | cons token tokens ih =>
    cases h with
    | literal hmore =>
      obtain ⟨rest, hrest, rfl⟩ := Expansion.behind_result_eq_ok.mp hresult
      exact List.mem_append_right _ (ih hmore hrest (by simpa using hmem))
    | value hinner hmore =>
      obtain ⟨rest, hrest, rfl⟩ := Expansion.behind_result_eq_ok.mp hresult
      rcases List.mem_cons.mp hmem with hhead | htail
      · obtain rfl := Token.placeholder.inj hhead
        simp [hvalue]
      · exact List.mem_append_right _ (ih hmore hrest htail)
    | valueText hinner _ _ hmore =>
      obtain ⟨rest, hrest, rfl⟩ := Expansion.behind_result_eq_ok.mp hresult
      rcases List.mem_cons.mp hmem with hhead | htail
      · obtain rfl := Token.placeholder.inj hhead
        exact absurd hnone hinner
      · exact List.mem_append_right _ (ih hmore hrest htail)
    | templateText _ _ _ hmore =>
      obtain ⟨rest, hrest, rfl⟩ := Expansion.behind_result_eq_ok.mp hresult
      exact List.mem_append_right _ (ih hmore hrest (by simpa using hmem))
    | valueCycle => cases hresult
    | valueError => cases hresult
    | templateCycle => cases hresult
    | fetchError => cases hresult
    | templateError => cases hresult

/-- A composition that leaves a placeholder open holds the marker for its value. -/
theorem renderMarker_isInfix_of_compose (h : (compose setting text location).result = .ok output)
    (hmem : .placeholder p ∈ tokenize text) (hopen : IsOpen setting.globals [] p) :
    (renderMarker p.name).toList <:+: output.toList := by
  obtain ⟨fragments, log, hexpands, rfl⟩ := exists_fragments_of_compose h
  have hinfix := text_isInfix_textOf
    (hexpands.mem_of_open rfl hmem (isIdentifier_of_mem_tokenize hmem) hopen)
  exact hinfix

end StaticSite.Compose
