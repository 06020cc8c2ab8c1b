import StaticSite.Proofs.Compose.Run
import StaticSite.Proofs.Marker.Position

/-!
# Which values are expanded

A composition searches the value of a placeholder for a reference to decide whether it expands it.
The search and the cutting into tokens find the same references at the same bytes, and the bytes of
a reference by themselves are that reference again. So a value is copied as it stands exactly when
none of its tokens is a reference, and gets a frame of its own otherwise, unless its placeholder is
being expanded already (`findReference?_eq_first_reference`).
-/

namespace StaticSite.Compose

open Marker
open Text (byteLength)

variable {setting : Setting} {text : String} {frame : Frame} {below : List Frame} {p : Placeholder}
  {tokens : List Token}

/-! ## The text of a reference -/

/-- The text of a marker is this marker and nothing else. -/
theorem findReference?_of_spells {r : Reference} {source : List Char}
    (h : Spells (.reference r) source) :
    findReference? (String.ofList source) = some ⟨0, byteLength source, r⟩ := by
  have hread : read? (source ++ []) = some (.reference r, []) :=
    read?_eq_some_iff.mpr ⟨source, h, rfl⟩
  have hpieces := pieces_of_read? hread
  rw [List.append_nil] at hpieces
  refine findReference?_eq_some_iff_pieces.mpr
    ⟨[], ⟨source, .reference r⟩, pieces [], ?_, rfl, by simp, rfl, Nat.zero_add _⟩
  rw [String.toList_ofList]
  exact hpieces

/-- The leftmost reference is found again, at the front, in the bytes that it takes up. -/
theorem exists_slice_of_findReference? {occurrence : Occurrence}
    (h : findReference? text = some occurrence) :
    ∃ before source after, text.toList = before ++ (source ++ after) ∧
      byteLength before = occurrence.start ∧
      occurrence.start + byteLength source = occurrence.stop ∧
      findReference? (String.ofList source) =
        some ⟨0, occurrence.stop - occurrence.start, occurrence.reference⟩ := by
  obtain ⟨front, ⟨source, token⟩, back, hpieces, htoken, -, hstart, hstop⟩ :=
    findReference?_eq_some_iff_pieces.mp h
  have htext := flatMap_source_pieces text.toList
  rw [hpieces, List.flatMap_append, List.flatMap_cons] at htext
  refine ⟨_, source, _, htext.symm, hstart, hstop, ?_⟩
  have hspells : Spells (.reference occurrence.reference) source :=
    (isCut_of_mem_pieces (hpieces ▸ List.mem_append_right front List.mem_cons_self)).spells htoken
  rw [findReference?_of_spells hspells, ← hstop, Nat.add_sub_cancel_left]

/-! ## The step at a placeholder -/

theorem findReference?_ne_none_iff :
    findReference? text ≠ none ↔ ∃ r, .reference r ∈ tokenize text := by
  rw [ne_eq, findReference?_eq_none_iff]
  push Not
  rfl

/-- What a step does at a placeholder: its value is copied, or it closes a cycle, or it is entered.
-/
theorem step_placeholder (htokens : frame.tokens = .placeholder p :: tokens) :
    step setting (frame :: below) =
      if findReference? (substitute setting.globals frame.params p) = none then
        (append (substitute setting.globals frame.params p) ({ frame with tokens } :: below), none)
      else if ∃ f ∈ frame :: below, f.placeholder = some p.name then
        (.finished (.error (.cycle (chainOf (frame :: below) (placeholderLabel p.name)))), none)
      else
        (.running ({ Frame.ofTemplate frame.location (substitute setting.globals frame.params p)
              frame.params with placeholder := some p.name } :: { frame with tokens } :: below),
          none) := by
  obtain ⟨location, _, params, output, name⟩ := frame
  obtain rfl : _ = Token.placeholder p :: tokens := htokens
  simp [step]

/-- The search for the leftmost reference and the cutting into tokens agree. The search finds
nothing exactly if no token is a reference; otherwise it finds the first one that is, at the bytes
that this token is cut from, and these bytes by themselves are the same reference from their first
byte to their last one. So a composition copies the value of a placeholder exactly if no token of
the value is a reference. If there is one, the value gets a frame with these tokens, unless a frame
of the placeholder is on the stack and the composition ends with a cycle. -/
theorem findReference?_eq_first_reference (text : String) :
    (findReference? text = none ↔ ∀ r, .reference r ∉ tokenize text) ∧
    (∀ occurrence, findReference? text = some occurrence ↔
      ∃ front piece back, pieces text.toList = front ++ piece :: back ∧
        piece.token = .reference occurrence.reference ∧
        (∀ other ∈ front, ∀ r, other.token ≠ .reference r) ∧
        byteLength (front.flatMap Piece.source) = occurrence.start ∧
        occurrence.start + byteLength piece.source = occurrence.stop) ∧
    (∀ occurrence, findReference? text = some occurrence →
      ∃ before source after, text.toList = before ++ (source ++ after) ∧
        byteLength before = occurrence.start ∧
        occurrence.start + byteLength source = occurrence.stop ∧
        findReference? (String.ofList source) =
          some ⟨0, occurrence.stop - occurrence.start, occurrence.reference⟩) ∧
    ∀ (setting : Setting) (frame : Frame) (below : List Frame) (p : Placeholder)
      (tokens : List Token), frame.tokens = .placeholder p :: tokens →
      let value := substitute setting.globals frame.params p
      let rest := { frame with tokens } :: below
      let inner := { Frame.ofTemplate frame.location value frame.params with
        placeholder := some p.name }
      (step setting (frame :: below) = (append value rest, none) ↔
        ∀ r, .reference r ∉ tokenize value) ∧
      (step setting (frame :: below) = (.running (inner :: rest), none) ↔
        (∃ r, .reference r ∈ tokenize value) ∧
          ∀ f ∈ frame :: below, f.placeholder ≠ some p.name) ∧
      (step setting (frame :: below) = (.finished (.error (.cycle
          (chainOf (frame :: below) (placeholderLabel p.name)))), none) ↔
        (∃ r, .reference r ∈ tokenize value) ∧
          ∃ f ∈ frame :: below, f.placeholder = some p.name) := by
  refine ⟨findReference?_eq_none_iff, fun occurrence ↦ findReference?_eq_some_iff_pieces,
    fun occurrence ↦ exists_slice_of_findReference?, ?_⟩
  intro setting frame below p tokens htokens value rest inner
  have hcopied : append value rest =
      .running ({ frame with tokens, output := frame.output ++ value } :: below) := rfl
  -- The step has one of three outcomes, no two of which are equal.
  rw [← findReference?_ne_none_iff, ← findReference?_eq_none_iff, step_placeholder htokens, hcopied]
  by_cases hvalue : findReference? value = none
  · rw [if_pos hvalue]
    exact ⟨iff_of_true rfl hvalue, iff_of_false (by simp [rest]) fun h ↦ h.1 hvalue,
      iff_of_false (by simp) fun h ↦ h.1 hvalue⟩
  rw [if_neg hvalue]
  by_cases hcycle : ∃ f ∈ frame :: below, f.placeholder = some p.name
  · rw [if_pos hcycle]
    refine ⟨iff_of_false (by simp) hvalue, iff_of_false (by simp) ?_,
      iff_of_true rfl ⟨hvalue, hcycle⟩⟩
    rintro ⟨-, hfresh⟩
    obtain ⟨f, hf, hname⟩ := hcycle
    exact hfresh f hf hname
  · rw [if_neg hcycle]
    exact ⟨iff_of_false (by simp) hvalue,
      iff_of_true rfl ⟨hvalue, fun f hf hname ↦ hcycle ⟨f, hf, hname⟩⟩,
      iff_of_false (by simp) fun h ↦ hcycle h.2⟩

end StaticSite.Compose
