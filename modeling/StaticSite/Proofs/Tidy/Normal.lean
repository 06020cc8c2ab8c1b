import StaticSite.Proofs.Tidy.Element

/-!
# The normal form of tidied text

What is left of lines is in normal form (`isNormal_tidied`), and lines in normal form are left as
they are (`tidied_of_isNormal`). So a tidied text has the visible characters of the text, and its
lines are in normal form at the places that they have in the text (`tidy_isNormal`).
-/

namespace StaticSite.Tidy

variable {started : Bool} {line : Line} {rest lines : List Line}

/-! ## Normal form -/

/-- What lines look like when they are tidy. -/
structure IsNormal (lines : List Line) : Prop where
  /-- No line outside of elements has white space at its end. -/
  trimmed : ∀ line ∈ lines, line.inside = false → ∀ c ∈ line.text.getLast?, Text.isBlank c = false
  /-- No two blank lines are side by side. -/
  isolated : lines.IsChain fun first second ↦ first.isBlank → second.isBlank = false
  /-- The first line is not blank. -/
  first : ∀ line ∈ lines.head?, line.isBlank = false
  /-- The last line is not blank. -/
  last : ∀ line ∈ lines.getLast?, line.isBlank = false

/-- A line that is not blank is left before the others. -/
private theorem head?_tidied (started : Bool) (h : rest.head?.any (!·.isBlank)) :
    ∃ next others, tidied started rest = next :: others ∧ next.isBlank = false := by
  cases rest with
  | nil => simp at h
  | cons next rest =>
    have hblank : next.isBlank = false := by simpa using h
    exact ⟨_, _, tidied_cons_of_not_isBlank hblank, by rw [next.isBlank_trimmed, hblank]⟩

private theorem isChain_tidied (started : Bool) (lines : List Line) :
    (tidied started lines).IsChain fun first second ↦ first.isBlank → second.isBlank = false := by
  induction lines generalizing started with
  | nil => exact .nil
  | cons line rest ih =>
    cases hblank : line.isBlank with
    | false =>
      rw [tidied_cons_of_not_isBlank hblank, List.isChain_cons]
      exact ⟨fun _ _ h ↦ by simp [hblank] at h, ih true⟩
    | true =>
      rw [tidied_cons_of_isBlank hblank]
      split_ifs with hnext
      · obtain ⟨next, others, hrest, hvisible⟩ :=
          head?_tidied started (Bool.and_eq_true_iff.mp hnext).2
        rw [List.isChain_cons]
        refine ⟨fun second hsecond _ ↦ ?_, ih started⟩
        obtain rfl : next = second := by simpa [hrest] using hsecond
        exact hvisible
      · exact ih started

private theorem head?_tidied_false (lines : List Line) :
    ∀ line ∈ (tidied false lines).head?, line.isBlank = false := by
  induction lines with
  | nil => simp [tidied]
  | cons line rest ih =>
    cases hblank : line.isBlank with
    | false => simp [tidied_cons_of_not_isBlank hblank, hblank]
    | true => simpa [tidied_cons_of_isBlank hblank] using ih

private theorem getLast?_tidied (started : Bool) (lines : List Line) :
    ∀ line ∈ (tidied started lines).getLast?, line.isBlank = false := by
  induction lines generalizing started with
  | nil => simp [tidied]
  | cons line rest ih =>
    cases hblank : line.isBlank with
    | false =>
      rw [tidied_cons_of_not_isBlank hblank, List.getLast?_cons]
      intro last hlast
      cases hrest : (tidied true rest).getLast? with
      | none =>
        obtain rfl : line.trimmed = last := by simpa [hrest] using hlast
        rw [line.isBlank_trimmed, hblank]
      | some found =>
        obtain rfl : found = last := by simpa [hrest] using hlast
        exact ih true found hrest
    | true =>
      rw [tidied_cons_of_isBlank hblank]
      split_ifs with hnext
      · obtain ⟨next, others, hrest, -⟩ :=
          head?_tidied started (Bool.and_eq_true_iff.mp hnext).2
        have hlast := ih started
        rwa [hrest, ← List.getLast?_cons_cons (a := ⟨[], false⟩), ← hrest] at hlast
      · exact ih started

/-- Lines that were tidied are tidy. -/
theorem isNormal_tidied (lines : List Line) : IsNormal (tidied false lines) where
  trimmed line hline houtside := by
    obtain ⟨origin, -, rfl⟩ := List.mem_map.mp ((tidied_sublist false lines).subset hline)
    rw [origin.inside_trimmed] at houtside
    rw [← Text.trimEnd_eq_self_iff, Line.text_trimmed_of_outside houtside, Text.trimEnd_trimEnd]
  isolated := isChain_tidied false lines
  first := head?_tidied_false lines
  last := getLast?_tidied false lines

private theorem tidied_eq_self (htrimmed : ∀ line ∈ lines, line.trimmed = line)
    (hisolated : lines.IsChain fun first second ↦ first.isBlank → second.isBlank = false)
    (hfirst : ∀ line ∈ lines.head?, line.isBlank → started)
    (hlast : ∀ line ∈ lines.getLast?, line.isBlank = false) : tidied started lines = lines := by
  induction lines generalizing started with
  | nil => rfl
  | cons line rest ih =>
    have hline : line.trimmed = line := htrimmed line List.mem_cons_self
    have hrest (started : Bool) (hfirst : ∀ line ∈ rest.head?, line.isBlank → started) :
        tidied started rest = rest := by
      refine ih (fun l hl ↦ htrimmed l (List.mem_cons_of_mem _ hl)) hisolated.tail hfirst
        fun last hmem ↦ hlast last ?_
      simp [List.getLast?_cons, Option.mem_def.mp hmem]
    cases hblank : line.isBlank with
    | false => rw [tidied_cons_of_not_isBlank hblank, hline, hrest true (by simp)]
    | true =>
      -- A blank line has one before it and one behind it, so it stays.
      have hstarted : started = true := hfirst line rfl hblank
      obtain ⟨next, others, rfl⟩ : ∃ next others, rest = next :: others := by
        refine List.exists_cons_of_ne_nil ?_
        rintro rfl
        simpa [hblank] using hlast line rfl
      have hnext : next.isBlank = false := (List.isChain_cons_cons.mp hisolated).1 hblank
      rw [tidied, if_pos hblank, if_pos (by simp [hstarted, hnext]), hline,
        hrest started (by simp [hstarted])]

/-- Lines that are tidy are left as they are. -/
theorem tidied_of_isNormal (h : IsNormal lines) : tidied false lines = lines := by
  refine tidied_eq_self (fun line hline ↦ Line.trimmed_eq_self fun houtside ↦ ?_) h.isolated
    (fun line hline hblank ↦ ?_) h.last
  · exact Text.trimEnd_eq_self_iff.mpr (h.trimmed line hline houtside)
  · rw [h.first line hline] at hblank
    exact hblank

/-! ## The last line -/

/-- If no element is open in the end, something can be seen on the last line inside of one: its end
tag. -/
private theorem visible_ne_nil_of_inside {state : Option Element} {lines : List (List Char)}
    (h : elementAfter openAfter state lines = none) :
    ∀ line ∈ ((places state lines).filter Line.inside).getLast?, Text.visible line.text ≠ [] := by
  induction lines generalizing state with
  | nil => simp [places]
  | cons line rest ih =>
    rw [places]
    generalize hafter : openAfter state (Text.asciiLower line) = after
    have hrest : elementAfter openAfter after rest = none := by
      rw [← hafter]
      exact h
    cases hinside : (places after rest).filter Line.inside with
    | cons next others =>
      have hlast := ih hrest
      rw [hinside] at hlast
      simp only [List.filter_cons, hinside]
      split_ifs
      · rwa [List.getLast?_cons_cons]
      · exact hlast
    | nil =>
      intro last hmem hvisible
      have hplace : state.isSome || after.isSome := by
        by_contra hnot
        simp [hinside, hnot] at hmem
      obtain rfl : ⟨line, true⟩ = last := by
        simpa [List.filter_cons, hinside, hplace] using hmem
      -- An element that is still open after this line would be open at the start of the next one.
      have hclosed : after = none := by
        cases rest with
        | nil => exact hrest
        | cons next rest =>
          rw [places, List.filter_eq_nil_iff] at hinside
          have hnext := hinside _ List.mem_cons_self
          cases after with
          | none => rfl
          | some element => simp at hnext
      rw [Text.visible_eq_nil_iff] at hvisible
      rw [openAfter_of_blank hvisible] at hafter
      simp [hafter, hclosed] at hplace

private theorem visible_ne_nil_of_mem_getLast? {lines : List (List Char)}
    (h : elementAfter openAfter none lines = none) :
    ∀ line ∈ (tidied false (places none lines)).getLast?, Text.visible line.text ≠ [] := by
  intro line hline
  cases hinside : line.inside with
  | true =>
    obtain ⟨front, hfront⟩ := List.getLast?_eq_some_iff.mp hline
    refine visible_ne_nil_of_inside h line ?_
    rw [← filter_inside_tidied false, hfront, List.filter_append,
      List.filter_singleton, hinside]
    simp
  | false =>
    intro hvisible
    have hblank := (isNormal_tidied _).last line hline
    rw [Bool.eq_false_iff, Ne, Line.isBlank_iff, ← Text.visible_eq_nil_iff] at hblank
    exact hblank ⟨hinside, hvisible⟩

end StaticSite.Tidy

namespace StaticSite

open Tidy

/-- No line that is left holds a line feed. -/
theorem lineFeed_notMem_of_mem_tidied {text : List Char} {line : Line}
    (h : line ∈ tidied false (places none (Text.lines text))) : '\n' ∉ line.text := by
  obtain ⟨origin, horigin, rfl⟩ := List.mem_map.mp ((tidied_sublist false _).subset h)
  have hbreak := Text.notMem_of_mem_lines (text_mem_of_mem_places horigin)
  exact fun hmem ↦ hbreak (origin.text_trimmed_isPrefix.subset hmem)

/-- What is left of the lines are the lines of the tidied text. -/
theorem splitOn_tidy (text : String) :
    Text.splitOn '\n' (tidy text).toList =
      (tidied false (places none (Text.lines text.toList))).map Line.text ++ [[]] := by
  rw [toList_tidy, written, Text.splitOn_ended]
  simp only [List.mem_map]
  rintro field ⟨line, hline, rfl⟩
  exact lineFeed_notMem_of_mem_tidied hline

/-- Tidying leaves everything that can be seen. The lines of the tidied text are lines of the text
in their order, the ones inside of elements all and unchanged, and they are in normal form by the
places that they have in the text. If no element is open in the end, the tidied text is empty or
ends with a line on which something can be seen and its line feed. -/
theorem tidy_isNormal (text : String) :
    let lines := places none (Text.lines text.toList)
    Text.visible (tidy text).toList = Text.visible text.toList ∧
      (∃ left : List Line, Text.splitOn '\n' (tidy text).toList = left.map Line.text ++ [[]] ∧
        left.Sublist (lines.map Line.trimmed) ∧
        left.filter Line.inside = lines.filter Line.inside ∧ IsNormal left) ∧
      (elementAfter openAfter none (Text.lines text.toList) = none →
        tidy text = "" ∨ ∃ front line, (tidy text).toList = front ++ line ++ ['\n'] ∧
          (∀ c ∈ front.getLast?, c = '\n') ∧ '\n' ∉ line ∧ Text.visible line ≠ []) := by
  intro lines
  refine ⟨?_, ⟨tidied false lines, splitOn_tidy text, tidied_sublist false lines,
    filter_inside_tidied false lines, isNormal_tidied lines⟩, fun hclosed ↦ ?_⟩
  · rw [toList_tidy, written, Text.visible_ended, List.flatMap_map, visible_tidied,
      ← List.flatMap_map, map_text_places, Text.visible_lines]
  · rcases List.eq_nil_or_concat' (tidied false lines) with hnil | ⟨front, line, hlast⟩
    · refine .inl (String.toList_injective ?_)
      rw [toList_tidy, hnil]
      rfl
    · have hmem : line ∈ tidied false (places none (Text.lines text.toList)) := by
        rw [hlast]
        exact List.mem_concat_self
      refine .inr ⟨written front, line.text, ?_, ?_, lineFeed_notMem_of_mem_tidied hmem, ?_⟩
      · rw [toList_tidy, hlast, written_append]
        simp [written, Text.ended]
      · rcases List.eq_nil_or_concat' front with rfl | ⟨before, last, rfl⟩
        · simp [written, Text.ended]
        · simp [written, Text.ended]
      · refine visible_ne_nil_of_mem_getLast? hclosed line ?_
        rw [hlast]
        simp

end StaticSite
