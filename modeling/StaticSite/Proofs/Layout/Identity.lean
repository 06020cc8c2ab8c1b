import Mathlib
import StaticSite.Renderer

/-!
# Plain layouts

A site without a layout file has a layout that is the body of the page alone: a page rendered with it
is its body, with the markers filled (`renderPage_identity`). A layout without tags is the same for
all pages (`renderPage_text`).
-/

namespace StaticSite

namespace Layout

variable {values : Fields} {text : String} {v : Value}

theorem eval_bind {α β : Type} {part : Eval α} {next : α → Eval β} {scopes scopes' : Scopes} {a : α}
    (h : part scopes = .ok (a, scopes')) : (part >>= next) scopes = next a scopes' := by
  change (part scopes).bind _ = _
  rw [h]
  rfl

theorem exists_of_bind_eq_ok {α β : Type} {part : Eval α} {next : α → Eval β} {scopes : Scopes}
    {result : β × Scopes} (h : (part >>= next) scopes = .ok result) :
    ∃ a middle, part scopes = .ok (a, middle) ∧ next a middle = .ok result := by
  change (part scopes).bind _ = _ at h
  cases hpart : part scopes with
  | error fault =>
    rw [hpart] at h
    cases h
  | ok first =>
    rw [hpart] at h
    exact ⟨first.1, first.2, rfl, h⟩

theorem lookup_of_lookupPath? {path : List Access} {scopes : Scopes}
    (hpath : lookupPath? scopes path = some v) : lookup path scopes = .ok (v, scopes) := by
  have hget : (get : Eval Scopes) scopes = .ok (scopes, scopes) := rfl
  rw [lookup, eval_bind hget, hpath]
  rfl

theorem lookup_name {name : String} (h : values.get? name = some v) :
    lookup [.name name] ⟨[], [], values⟩ = .ok (v, ⟨[], [], values⟩) := by
  refine lookup_of_lookupPath? ?_
  rw [lookupPath?, Scopes.get?]
  simp [List.findSome?, h, Fields.get?, follow?]

/-- A part of a layout that only puts a text in. -/
theorem renderAll_ident {path : List Access}
    (h : lookup path ⟨[], [], values⟩ = .ok (.text text, ⟨[], [], values⟩)) (fuel : Nat) :
    renderAll (fuel + 5) [.value (.filtered (.ident path) [("safe", [])])] ⟨[], [], values⟩ =
      .ok ((text.toList, .done), ⟨[], [], values⟩) := by
  have hevaluate :
      evaluate (fuel + 3) (.filtered (.ident path) [("safe", [])]) ⟨[], [], values⟩ =
        .ok (.text text, ⟨[], [], values⟩) := by
    have hsplit : evaluate (fuel + 3) (.filtered (.ident path) [("safe", [])]) =
        lookup path >>= applyFilters (fuel + 2) [("safe", [])] := rfl
    rw [hsplit, eval_bind h]
    rfl
  have hnode : renderNode (fuel + 4) (.value (.filtered (.ident path) [("safe", [])]))
      ⟨[], [], values⟩ = .ok ((text.toList, .done), ⟨[], [], values⟩) := by
    have hsplit : renderNode (fuel + 4) (.value (.filtered (.ident path) [("safe", [])])) =
        do return (written (← evaluate (fuel + 3)
          (.filtered (.ident path) [("safe", [])])), .done) := rfl
    rw [hsplit, eval_bind hevaluate]
    rfl
  have hrest : renderAll (fuel + 4) [] ⟨[], [], values⟩ =
      .ok (([], .done), ⟨[], [], values⟩) := rfl
  rw [renderAll, eval_bind hnode]
  dsimp only
  rw [eval_bind hrest]
  simp only [List.append_nil]
  rfl

/-- Text in a layout stands before what comes after it. -/
theorem renderAll_text {fuel : Nat} {chars more : List Char} {rest : List Node} {ending : Ending}
    {scopes scopes' : Scopes}
    (h : renderAll (fuel + 1) rest scopes = .ok ((more, ending), scopes')) :
    renderAll (fuel + 2) (.text chars :: rest) scopes = .ok ((chars ++ more, ending), scopes') := by
  have hnode : renderNode (fuel + 1) (.text chars) scopes = .ok ((chars, .done), scopes) := rfl
  rw [renderAll, eval_bind hnode]
  dsimp only
  rw [eval_bind h]
  rfl

/-- A layout that only puts a text in is that text. -/
theorem render_ident {path : List Access}
    (h : lookup path ⟨[], [], values⟩ = .ok (.text text, ⟨[], [], values⟩)) :
    render [.value (.filtered (.ident path) [("safe", [])])] values = .ok text := by
  rw [render, show renderFuel = 999999995 + 5 from rfl, renderAll_ident h]
  simp

/-- A layout that puts a text in behind its own text. -/
theorem render_text_ident {path : List Access} (chars : List Char)
    (h : lookup path ⟨[], [], values⟩ = .ok (.text text, ⟨[], [], values⟩)) :
    render [.text chars, .value (.filtered (.ident path) [("safe", [])])] values =
      .ok (String.ofList chars ++ text) := by
  rw [render, show renderFuel = 999999998 + 2 from rfl,
    renderAll_text (renderAll_ident h 999999994)]
  simp

/-- The parts of the layout that is the body alone. -/
def identity : List Node := [.value (.filtered (.ident [.name "doc"]) [("safe", [])])]

theorem ofText?_identityLayout : ofText? Renderer.identityLayout = some identity := by cbv

theorem render_identity (h : values.get? "doc" = some (.text text)) :
    render identity values = .ok text := render_ident (lookup_name h)

/-- A layout without tags is the same for all pages. -/
theorem render_text (chars : List Char) (values : Fields) :
    render [.text chars] values = .ok (String.ofList chars) := by
  have hrest (fuel : Nat) : renderAll (fuel + 1) [] ⟨[], [], values⟩ =
      .ok (([], .done), ⟨[], [], values⟩) := rfl
  rw [render, show renderFuel = 999999998 + 2 from rfl, renderAll_text (hrest 999999998)]
  simp

end Layout

/-- The context of a page has its body. -/
theorem ContextSetting.body_context (setting : ContextSetting) (read? : Path → Option String)
    (metadata : Metadata) (body : String) (page : Path) :
    (setting.context read? metadata body page).body = body := by
  have hdoc : (setting.context read? metadata body page).get? "doc" = some (.text body) := by
    rw [PageContext.get?, context, derived, Fields.extend]
    cases setting.templates <;> simp
  rw [PageContext.body, hdoc]

namespace Renderer

/-- The renderer of a site without a layout. -/
def identity : Renderer := ⟨Layout.identity⟩

theorem ofLayout_of_ofText? {layout : String} {nodes : List Layout.Node}
    (h : Layout.ofText? layout = some nodes) : ofLayout layout = .ok ⟨nodes⟩ := by
  delta ofLayout
  rw [h]

/-- A page is what its layout makes of its filled body. -/
theorem renderPage_of_render {nodes : List Layout.Node} {context : PageContext} {body html : String}
    (h : fillMarkers context.body context = .ok body)
    (hrender : Layout.render nodes (context.values.insert "doc" (.text body)) = .ok html) :
    renderPage ⟨nodes⟩ context = .ok html := by
  unfold renderPage
  rw [h]
  dsimp only
  rw [hrender]

/-- Without a layout a page is its body. -/
theorem renderPage_identity {context : PageContext} {body : String}
    (h : fillMarkers context.body context = .ok body) :
    identity.renderPage context = .ok body :=
  renderPage_of_render h (Layout.render_identity (by simp))

/-- A layout that is a text with the body behind it. -/
theorem renderPage_text_identity (chars : List Char) {context : PageContext} {body : String}
    (h : fillMarkers context.body context = .ok body) :
    renderPage ⟨.text chars :: Layout.identity⟩ context = .ok (String.ofList chars ++ body) :=
  renderPage_of_render h (Layout.render_text_ident chars (Layout.lookup_name (by simp)))

theorem renderPage_text {chars : List Char} {context : PageContext}
    (h : ∃ body, fillMarkers context.body context = .ok body) :
    renderPage ⟨[.text chars]⟩ context = .ok (String.ofList chars) := by
  obtain ⟨body, h⟩ := h
  exact renderPage_of_render h (Layout.render_text chars _)

end Renderer

end StaticSite
