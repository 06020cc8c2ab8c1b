import StaticSite.Proofs.Render.Filling

/-!
# A marker between two texts

A composition leaves a marker for the page where it leaves a value open. Such a marker is ordinary
text for a further composition, and the page takes it for the value: it is read back with its length
and its name from the front of any text, and between two texts without opening braces it is replaced
by what the value looks like (`fillMarkers_renderMarker`).
-/

namespace StaticSite.Renderer

open Marker

variable {context : PageContext} {name before after : String} {value : Value}

/-- The marker at the front of a text is measured, whatever follows it. -/
theorem measureRenderMarker?_renderMarker (hname : IsIdentifier name) (suffix : String) :
    measureRenderMarker? (renderMarker name ++ suffix) =
      some ((renderMarker name).utf8ByteSize, name) := by
  have hsize : Text.byteLength (renderMarker name).toList = (renderMarker name).utf8ByteSize := by
    rw [Text.byteLength_eq_utf8ByteSize, String.ofList_toList]
  simp only [measureRenderMarker?, String.toList_append, readRenderMarker?_renderMarker hname,
    Option.map_some, Text.byteLength_append, Nat.add_sub_cancel, hsize]

/-- A text with a marker for the page in it is ordinary text as a whole. -/
theorem tokenize_renderMarker (hname : IsIdentifier name) (hbefore : '\x7b' ∉ before.toList)
    (hafter : '\x7b' ∉ after.toList) :
    tokenize (before ++ renderMarker name ++ after) =
      [.literal (before ++ renderMarker name ++ after)] := by
  have hplain : IsPlain (before ++ renderMarker name ++ after).toList := by
    rw [String.append_assoc, String.toList_append, String.toList_append]
    exact (isPlain_renderMarker_append hname.ne_empty
      (fun c hc ↦ isNameChar_of_isIdentifierChar (hname.chars c hc))
      (isPlain_of_not_mem hafter)).append_of_notMem hbefore
  have hne : before ++ renderMarker name ++ after ≠ "" := by
    intro hempty
    have hlist := congrArg String.toList hempty
    simp [toList_renderMarker, opening] at hlist
  rw [tokenize_of_isPlain hplain, if_neg hne]

/-- A marker that a composition leaves is read back with its length and its name, it is ordinary
text between texts without opening braces, and there the page shows the value in its place. -/
theorem fillMarkers_renderMarker (hname : IsIdentifier name) (hbefore : '\x7b' ∉ before.toList)
    (hafter : '\x7b' ∉ after.toList) (hvalue : context.get? name = some value) (suffix : String) :
    measureRenderMarker? (renderMarker name ++ suffix) =
        some ((renderMarker name).utf8ByteSize, name) ∧
      tokenize (before ++ renderMarker name ++ after) =
        [.literal (before ++ renderMarker name ++ after)] ∧
      fillMarkers (before ++ renderMarker name ++ after) context =
        .ok (before ++ value.display ++ after) := by
  refine ⟨measureRenderMarker?_renderMarker hname suffix,
    tokenize_renderMarker hname hbefore hafter, ?_⟩
  have hend : Fills context after.toList after.toList := by
    simpa using Fills.nil.append (Fills.not_opening_isInfix hafter [])
  have hfills : Fills context (before ++ renderMarker name ++ after).toList
      (before ++ value.display ++ after).toList := by
    simpa using (hend.marker hname hvalue).append (Fills.not_opening_isInfix hbefore _)
  rw [fillMarkers, hfills _ le_rfl, Except.map, String.ofList_toList]

theorem fillMarkers_renderMarker_title :
    IsIdentifier "title" ∧ '\x7b' ∉ "<h1>é ".toList ∧ '\x7b' ∉ "</h1>".toList ∧
      titled.get? "title" = some (.text "Home") ∧
      measureRenderMarker? (renderMarker "title" ++ "\x7d") = some (18, "title") ∧
      tokenize ("<h1>é " ++ renderMarker "title" ++ "</h1>") =
        [.literal "<h1>é \x7b\x7b title | safe \x7d\x7d</h1>"] ∧
      fillMarkers ("<h1>é " ++ renderMarker "title" ++ "</h1>") titled =
        .ok "<h1>é Home</h1>" := by
  have hname : IsIdentifier "title" := ⟨by decide, by simp; decide⟩
  have hvalue : titled.get? "title" = some (.text "Home") := rfl
  exact ⟨hname, by decide, by decide, hvalue,
    fillMarkers_renderMarker hname (by decide) (by decide) hvalue "\x7d"⟩

end StaticSite.Renderer
