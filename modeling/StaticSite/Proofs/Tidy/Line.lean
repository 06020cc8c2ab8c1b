import StaticSite.Proofs.Text.Lines
import StaticSite.Tidy

/-!
# Tidying line by line

Every line of a text has a place, inside or outside of elements. Tidying is what these places say
(`toList_tidy`): lines inside stay as they are, lines outside lose the white space at their end, and
of blank lines outside only those are left that stand between two other lines.
-/

namespace StaticSite.Tidy

/-- A line of a text and its place. -/
structure Line where
  /-- The line without its end. -/
  text : List Char
  /-- Whether an element is open at its start or at its end. -/
  inside : Bool
  deriving DecidableEq, Repr

namespace Line

/-- Whether the line is outside of elements and nothing on it can be seen. -/
def isBlank (line : Line) : Bool := !line.inside && Text.isAllBlank line.text

/-- The line, outside of elements without the white space at its end. -/
def trimmed (line : Line) : Line :=
  if line.inside then line else ⟨Text.trimEnd line.text, false⟩

end Line

/-- The lines with their places, where an element may be open before the first one. -/
def places (element : Option Element) : List (List Char) → List Line
  | [] => []
  | line :: rest =>
    let after := openAfter element (Text.asciiLower line)
    ⟨line, element.isSome || after.isSome⟩ :: places after rest

/-- The lines as they are left, where some may be left already. A blank line stays if a line before
it does and the next one is not blank. -/
def tidied (started : Bool) : List Line → List Line
  | [] => []
  | line :: rest =>
    if line.isBlank then
      if started && rest.head?.any (!·.isBlank) then line.trimmed :: tidied started rest
      else tidied started rest
    else line.trimmed :: tidied true rest

variable {started : Bool} {line : Line} {rest lines : List Line}

/-! ## Single lines -/

namespace Line

@[simp]
theorem isBlank_empty : isBlank ⟨[], false⟩ := rfl

theorem isBlank_iff : line.isBlank ↔ line.inside = false ∧ ∀ c ∈ line.text, Text.isBlank c := by
  simp [isBlank, Text.isAllBlank]

@[simp]
theorem inside_trimmed (line : Line) : line.trimmed.inside = line.inside := by
  unfold trimmed
  split_ifs with h
  · rfl
  · simp [h]

theorem text_trimmed_of_outside (h : line.inside = false) :
    line.trimmed.text = Text.trimEnd line.text := by
  simp [trimmed, h]

theorem text_trimmed_isPrefix (line : Line) : line.trimmed.text <+: line.text := by
  unfold trimmed
  split_ifs
  · exact List.prefix_refl line.text
  · exact Text.trimEnd_isPrefix line.text

theorem trimmed_of_inside (h : line.inside) : line.trimmed = line := if_pos h

theorem trimmed_eq_self (h : line.inside = false → Text.trimEnd line.text = line.text) :
    line.trimmed = line := by
  obtain ⟨text, inside⟩ := line
  cases inside with
  | false => simpa [trimmed] using h rfl
  | true => rfl

theorem visible_trimmed (line : Line) :
    Text.visible line.trimmed.text = Text.visible line.text := by
  unfold trimmed
  split_ifs
  · rfl
  · exact Text.visible_trimEnd line.text

/-- A line is blank or not by its place and by what can be seen of it. -/
theorem isBlank_congr {other : Line} (hinside : line.inside = other.inside)
    (hvisible : Text.visible line.text = Text.visible other.text) :
    line.isBlank = other.isBlank := by
  rw [Bool.eq_iff_iff, isBlank_iff, isBlank_iff, hinside, ← Text.visible_eq_nil_iff, hvisible,
    Text.visible_eq_nil_iff]

@[simp]
theorem isBlank_trimmed (line : Line) : line.trimmed.isBlank = line.isBlank :=
  isBlank_congr line.inside_trimmed line.visible_trimmed

/-- Nothing is left of a blank line. -/
theorem trimmed_of_isBlank (h : line.isBlank) : line.trimmed = ⟨[], false⟩ := by
  obtain ⟨houtside, hblank⟩ := isBlank_iff.mp h
  simp [trimmed, houtside, Text.trimEnd_eq_nil_iff.mpr hblank]

end Line

/-! ## Lines that are left -/

theorem tidied_cons_of_not_isBlank (h : line.isBlank = false) :
    tidied started (line :: rest) = line.trimmed :: tidied true rest := by
  simp [tidied, h]

/-- A blank line is left out or left empty. -/
theorem tidied_cons_of_isBlank (h : line.isBlank) :
    tidied started (line :: rest) =
      if started && rest.head?.any (!·.isBlank) then ⟨[], false⟩ :: tidied started rest
      else tidied started rest := by
  rw [tidied, if_pos h, Line.trimmed_of_isBlank h]

/-- A line that is not blank parts the lines before it from those behind it. -/
theorem tidied_append (before : List Line) (h : line.isBlank = false) :
    tidied started (before ++ line :: rest) =
      tidied started (before ++ [line]) ++ tidied true rest := by
  induction before generalizing started with
  | nil => simp [tidied_cons_of_not_isBlank h, tidied]
  | cons first before ih =>
    have hnext : (before ++ line :: rest).head? = (before ++ [line]).head? := by
      cases before <;> rfl
    cases hfirst : first.isBlank with
    | false => simp only [List.cons_append, tidied_cons_of_not_isBlank hfirst, ih]
    | true =>
      simp only [List.cons_append, tidied_cons_of_isBlank hfirst, ih, hnext]
      split_ifs <;> rfl

/-- The last line that is not blank is the last one that is left. -/
theorem exists_tidied_concat (started : Bool) (before : List Line) (h : line.isBlank = false) :
    ∃ front, tidied started (before ++ [line]) = front ++ [line.trimmed] := by
  induction before generalizing started with
  | nil => exact ⟨[], by simp [tidied_cons_of_not_isBlank h, tidied]⟩
  | cons first before ih =>
    rw [List.cons_append, tidied]
    split_ifs
    · obtain ⟨front, hfront⟩ := ih started
      exact ⟨first.trimmed :: front, by rw [hfront, List.cons_append]⟩
    · exact ih started
    · obtain ⟨front, hfront⟩ := ih true
      exact ⟨first.trimmed :: front, by rw [hfront, List.cons_append]⟩

/-- The lines inside of elements stay as they are. -/
theorem filter_inside_tidied (started : Bool) (lines : List Line) :
    (tidied started lines).filter Line.inside = lines.filter Line.inside := by
  induction lines generalizing started with
  | nil => rfl
  | cons line rest ih =>
    cases hinside : line.inside with
    | true =>
      have hblank : line.isBlank = false := by simp [Line.isBlank, hinside]
      rw [tidied_cons_of_not_isBlank hblank, Line.trimmed_of_inside hinside,
        List.filter_cons_of_pos hinside, List.filter_cons_of_pos hinside, ih]
    | false =>
      have hskip (started : Bool) : (line.trimmed :: tidied started rest).filter Line.inside =
          rest.filter Line.inside := by
        rw [List.filter_cons_of_neg (by simp [hinside]), ih]
      rw [List.filter_cons_of_neg (by simp [hinside]), tidied]
      split_ifs
      · exact hskip started
      · exact ih started
      · exact hskip true

/-- What is left out cannot be seen. -/
theorem visible_tidied (started : Bool) (lines : List Line) :
    ((tidied started lines).flatMap fun line ↦ Text.visible line.text) =
      lines.flatMap fun line ↦ Text.visible line.text := by
  induction lines generalizing started with
  | nil => rfl
  | cons line rest ih =>
    cases hblank : line.isBlank with
    | false =>
      rw [tidied_cons_of_not_isBlank hblank, List.flatMap_cons, List.flatMap_cons,
        line.visible_trimmed, ih]
    | true =>
      have hnone : Text.visible line.text = [] :=
        Text.visible_eq_nil_iff.mpr (Line.isBlank_iff.mp hblank).2
      rw [tidied_cons_of_isBlank hblank, List.flatMap_cons, hnone, List.nil_append]
      split_ifs
      · rw [List.flatMap_cons, ih]
        rfl
      · exact ih started

/-- What is left are some of the lines, without the white space at their ends. -/
theorem tidied_sublist (started : Bool) (lines : List Line) :
    (tidied started lines).Sublist (lines.map Line.trimmed) := by
  induction lines generalizing started with
  | nil => exact .slnil
  | cons line rest ih =>
    rw [tidied, List.map_cons]
    split_ifs
    · exact (ih started).cons_cons line.trimmed
    · exact (ih started).cons line.trimmed
    · exact (ih true).cons_cons line.trimmed

/-! ## Tidied text -/

/-- A blank line that waits for a line that is not blank. -/
private def waiting (blank : Bool) : List Line := if blank then [⟨[], false⟩] else []

private theorem tidied_waiting_of_not_isBlank {blank : Bool} (hstarted : blank → started)
    (h : line.isBlank = false) :
    tidied started (waiting blank ++ line :: rest) =
      waiting blank ++ line.trimmed :: tidied true rest := by
  cases blank with
  | false => exact tidied_cons_of_not_isBlank h
  | true =>
    simp [waiting, tidied_cons_of_isBlank Line.isBlank_empty, tidied_cons_of_not_isBlank h,
      hstarted, h]

private theorem tidied_waiting_of_isBlank {blank : Bool} (h : line.isBlank) :
    tidied started (waiting blank ++ line :: rest) = tidied started (waiting started ++ rest) := by
  have hline : tidied started (line :: rest) = tidied started (waiting started ++ rest) := by
    cases started with
    | false => simp [waiting, tidied_cons_of_isBlank h]
    | true => simp [waiting, tidied_cons_of_isBlank h, tidied_cons_of_isBlank Line.isBlank_empty]
  cases blank with
  | false => exact hline
  | true =>
    rw [← hline]
    simp [waiting, tidied_cons_of_isBlank Line.isBlank_empty, h]

/-- The text of lines, each with a line feed behind it. -/
def written (lines : List Line) : List Char := Text.ended '\n' (lines.map Line.text)

theorem written_append (lines rest : List Line) :
    written (lines ++ rest) = written lines ++ written rest := by
  simp [written, Text.ended]

private theorem written_waiting (blank : Bool) (line : Line) :
    written (waiting blank ++ [line]) = emit blank line.text := by
  cases blank <;> simp [waiting, written, Text.ended, emit]

private theorem tidyLines_eq (element : Option Element) {started blank : Bool}
    (hstarted : blank → started) (lines : List (List Char)) :
    tidyLines ⟨element, started, blank⟩ lines =
      written (tidied started (waiting blank ++ places element lines)) := by
  induction lines generalizing element started blank with
  | nil => cases blank <;> simp [tidyLines, places, waiting, written, Text.ended, tidied]
  | cons line rest ih =>
    have hshown (place : Line) (hplace : place.isBlank = false) (after : Option Element) :
        written (tidied started (waiting blank ++ place :: places after rest)) =
          emit blank place.trimmed.text ++ tidyLines ⟨after, true, false⟩ rest := by
      rw [tidied_waiting_of_not_isBlank hstarted hplace, ih after (by simp),
        ← written_waiting, ← written_append]
      simp [waiting]
    rw [tidyLines, places]
    dsimp only
    split_ifs with hinside hblank
    · rw [hinside, hshown ⟨line, true⟩ rfl, Line.trimmed_of_inside rfl]
    all_goals
      have houtside :
          (element.isSome || (openAfter element (Text.asciiLower line)).isSome) = false :=
        Bool.eq_false_iff.mpr hinside
      have hafter : openAfter element (Text.asciiLower line) = none := by
        simpa using (Bool.or_eq_false_iff.mp houtside).2
      rw [houtside, hafter]
    · have hplace : Line.isBlank ⟨line, false⟩ :=
        Line.isBlank_iff.mpr ⟨rfl, Text.trimEnd_eq_nil_iff.mp (List.isEmpty_iff.mp hblank)⟩
      rw [tidied_waiting_of_isBlank hplace, ih none id]
    · have hplace : Line.isBlank ⟨line, false⟩ = false := by
        rw [Bool.eq_false_iff]
        intro hplace
        exact hblank (List.isEmpty_iff.mpr
          (Text.trimEnd_eq_nil_iff.mpr (Line.isBlank_iff.mp hplace).2))
      rw [hshown ⟨line, false⟩ hplace, Line.text_trimmed_of_outside rfl]

end StaticSite.Tidy

namespace StaticSite

open Tidy

/-- Tidied text is what is left of its lines. -/
theorem toList_tidy (text : String) :
    (tidy text).toList = written (tidied false (places none (Text.lines text.toList))) := by
  rw [tidy, String.toList_ofList, tidyChars, tidyLines_eq none (by simp)]
  rfl

end StaticSite
