import StaticSite.Proofs.Tidy.Normal

/-!
# Tidying twice

Tidying a tidied text changes nothing exactly if no carriage return stands at the end of a line
inside of elements, where it would become a part of the line end, and the lines are in normal form
at the places that they have in the tidied text (`tidy_tidy_eq_iff`). These are the places that they
have in the text, unless white space is taken off behind the name of a start tag that it kept from
being one.
-/

namespace StaticSite.Tidy

variable {started : Bool} {state : Option Element} {lines : List Line}

/-- The only lines that are left as they are are those in normal form. -/
theorem map_text_tidied_iff :
    (tidied false lines).map Line.text = lines.map Line.text ↔ IsNormal lines := by
  refine ⟨fun h ↦ ?_, fun h ↦ by rw [tidied_of_isNormal h]⟩
  have hlength : (tidied false lines).length = lines.length := by
    simpa using congrArg List.length h
  have htrimmed : tidied false lines = lines.map Line.trimmed :=
    (tidied_sublist false lines).eq_of_length (by simpa using hlength)
  have hline (line : Line) (hline : line ∈ lines) : line.trimmed = line := by
    rw [htrimmed, List.map_map, List.map_inj_left] at h
    exact Line.trimmed_eq_self fun houtside ↦ by
      rw [← Line.text_trimmed_of_outside houtside]
      exact h line hline
  rw [List.map_congr_left hline, List.map_id'] at htrimmed
  rw [← htrimmed]
  exact isNormal_tidied lines

/-- Lines that are tidied to some lines when the carriage returns at the ends of those are taken
off have no such carriage returns. -/
private theorem map_dropReturn_eq_self {fields : List (List Char)}
    (h : (tidied false (places none (fields.map Text.dropReturn))).map Line.text = fields) :
    fields.map Text.dropReturn = fields := by
  generalize hlines : places none (fields.map Text.dropReturn) = lines at h
  have hfields : lines.map Line.text = fields.map Text.dropReturn := by
    rw [← hlines, map_text_places]
  have hlength : (tidied false lines).length = lines.length := by
    have hleft := congrArg List.length h
    have hall := congrArg List.length hfields
    simp only [List.length_map] at hleft hall
    omega
  rw [(tidied_sublist false lines).eq_of_length (by simpa using hlength), List.map_map] at h
  -- Line by line, what is left is no longer than the line without its carriage return.
  rw [← h, List.map_map] at hfields ⊢
  refine List.map_congr_left fun line hline ↦ ?_
  have hdrop : line.text = Text.dropReturn line.trimmed.text :=
    List.map_inj_left.mp hfields line hline
  refine (Text.dropReturn_isPrefix _).eq_of_length_le ?_
  rw [Function.comp_apply, ← hdrop]
  exact line.text_trimmed_isPrefix.length_le

/-- If no white space is taken off behind the name of a start tag, lines keep their places. -/
private theorem places_tidied {lines : List (List Char)}
    (h : ∀ line ∈ places state lines, line.inside = false → ∀ element : Element,
      ¬ '<' :: element.name <:+ Text.asciiLower (Text.trimEnd line.text)) :
    places state ((tidied started (places state lines)).map Line.text) =
      tidied started (places state lines) := by
  induction lines generalizing state started with
  | nil => rfl
  | cons line rest ih =>
    rw [places] at h ⊢
    generalize hafter : openAfter state (Text.asciiLower line) = after at h ⊢
    replace ih (started : Bool) :
        places after ((tidied started (places after rest)).map Line.text) =
          tidied started (places after rest) :=
      ih fun place hplace ↦ h place (List.mem_cons_of_mem _ hplace)
    cases hinside : state.isSome || after.isSome with
    | true =>
      rw [tidied_cons_of_not_isBlank rfl, Line.trimmed_of_inside rfl, List.map_cons, places, hafter,
        hinside, ih true]
    | false =>
      obtain ⟨rfl, rfl⟩ : state = none ∧ after = none := by simpa using hinside
      have hline : openAfter none (Text.asciiLower (Text.trimEnd line)) = none := by
        obtain ⟨blanks, htext, hblanks⟩ := Text.exists_trimEnd_append line
        have hname := h ⟨line, false⟩ List.mem_cons_self rfl
        rw [← openAfter_append_blanks hblanks hname, ← Text.asciiLower_of_blank hblanks,
          ← Text.asciiLower_append, htext, hafter]
      have hleft (started : Bool) :
          places none ((Line.trimmed ⟨line, false⟩ :: tidied started (places none rest)).map
            Line.text) = Line.trimmed ⟨line, false⟩ :: tidied started (places none rest) := by
        rw [List.map_cons, places, Line.text_trimmed_of_outside rfl, hline, ih]
        rfl
      rw [tidied]
      split_ifs
      · exact hleft started
      · exact ih started
      · exact hleft true

/-- A line that is left ends in a carriage return only inside of elements. -/
private theorem map_dropReturn_tidied_iff :
    ((tidied false lines).map Line.text).map Text.dropReturn = (tidied false lines).map Line.text ↔
      ∀ line ∈ lines, line.inside → line.text.getLast? ≠ some '\r' := by
  have hinside (line : Line) (h : line.inside) : line ∈ tidied false lines ↔ line ∈ lines := by
    have hfilter := congrArg (line ∈ ·) (filter_inside_tidied false lines)
    simpa [List.mem_filter, h] using hfilter
  rw [List.map_map, List.map_inj_left]
  simp only [Function.comp_apply, Text.dropReturn_eq_self_iff]
  constructor
  · intro h line hline hopen
    exact h line ((hinside line hopen).mpr hline)
  · intro h line hline hlast
    cases hplace : line.inside with
    | true => exact h line ((hinside line hplace).mp hline) hplace hlast
    | false =>
      have hvisible := (isNormal_tidied lines).trimmed line hline hplace '\r' hlast
      exact absurd hvisible (by decide)

/-- A tidied text is left as it is exactly if its lines are, which do not end in carriage
returns. -/
private theorem tidy_tidy_iff_isNormal {text : String} {fields : List (List Char)}
    (hfields : (tidied false (places none (Text.lines text.toList))).map Line.text = fields) :
    tidy (tidy text) = tidy text ↔
      fields.map Text.dropReturn = fields ∧ IsNormal (places none fields) := by
  have hlines : Text.lines (tidy text).toList = fields.map Text.dropReturn := by
    rw [toList_tidy, written, hfields, Text.lines_ended]
    rw [← hfields]
    rintro field hfield
    obtain ⟨line, hline, rfl⟩ := List.mem_map.mp hfield
    exact lineFeed_notMem_of_mem_tidied hline
  have hsplit : tidy (tidy text) = tidy text ↔
      (tidied false (places none (fields.map Text.dropReturn))).map Line.text = fields := by
    rw [← hlines, ← hfields, ← List.append_left_inj [[]], ← splitOn_tidy, ← splitOn_tidy]
    refine ⟨fun h ↦ by rw [h], fun h ↦ String.toList_injective ?_⟩
    rw [← Text.joinWith_splitOn '\n' (tidy (tidy text)).toList, h, Text.joinWith_splitOn]
  rw [hsplit, ← map_text_tidied_iff, map_text_places]
  constructor
  · intro h
    have hreturn := map_dropReturn_eq_self h
    exact ⟨hreturn, by rwa [hreturn] at h⟩
  · rintro ⟨hreturn, h⟩
    rwa [hreturn]

end StaticSite.Tidy

namespace StaticSite

open Tidy

/-- Tidying a tidied text changes nothing exactly if no line inside of elements ends in a carriage
return and the lines that are left are in normal form at the places that they have in the tidied
text. They are whenever no line outside ends, without the white space at its end, in a bracket and
the name of an element. -/
theorem tidy_tidy_eq_iff (text : String) :
    let lines := places none (Text.lines text.toList)
    let again := places none ((tidied false lines).map Line.text)
    (tidy (tidy text) = tidy text ↔
      (∀ line ∈ lines, line.inside → line.text.getLast? ≠ some '\r') ∧ IsNormal again) ∧
    ((∀ line ∈ lines, line.inside = false → ∀ element : Element,
      ¬ '<' :: element.name <:+ Text.asciiLower (Text.trimEnd line.text)) → IsNormal again) := by
  intro lines again
  refine ⟨?_, fun hname ↦ ?_⟩
  · rw [tidy_tidy_iff_isNormal rfl, map_dropReturn_tidied_iff]
  · have hplaces : again = tidied false lines := places_tidied hname
    rw [hplaces]
    exact isNormal_tidied lines

/-- A carriage return at the end of a line inside becomes a part of the line end, and a start tag is
one once the no-break space behind its name is gone. -/
theorem tidy_tidy_ne :
    tidy (tidy "<pre>\r") ≠ tidy "<pre>\r" ∧
      tidy (tidy "<pre\u00a0\n<textarea></pre>\nx  ") ≠
        tidy "<pre\u00a0\n<textarea></pre>\nx  " := by
  have hreturn : tidy "<pre>\r" = "<pre>\r\n" := by decide +kernel
  have hspace : tidy "<pre\u00a0\n<textarea></pre>\nx  " = "<pre\n<textarea></pre>\nx  \n" := by
    decide +kernel
  rw [hreturn, hspace]
  constructor <;> decide +kernel

end StaticSite
