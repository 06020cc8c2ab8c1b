import StaticSite.Proofs.Text.Lines
import StaticSite.Tidy

/-!
# What tidying keeps

Tidying takes white space off the ends of lines and leaves out blank lines. A word on one line with
no white space at its end is in the tidied text as it stands (`isInfix_tidy`).
-/

namespace StaticSite.Tidy

/-- A word on one line that does not end in white space. -/
structure IsWord (word : List Char) : Prop where
  one_line : '\n' ∉ word
  last_not_blank : ∃ front c, word = front ++ [c] ∧ Text.isBlank c = false

namespace IsWord

variable {word line text : List Char}

theorem ne_nil (h : IsWord word) : word ≠ [] := by
  obtain ⟨front, c, rfl, -⟩ := h.last_not_blank
  simp

/-- White space at the end of a line holds nothing of a word. -/
theorem isInfix_of_append {blanks : List Char} (h : IsWord word)
    (hblanks : ∀ c ∈ blanks, Text.isBlank c) (hline : word <:+: line ++ blanks) :
    word <:+: line := by
  induction blanks using List.reverseRecOn with
  | nil => simpa using hline
  | append_singleton blanks c ih =>
    rw [← List.append_assoc, List.infix_concat_iff, List.suffix_concat_iff] at hline
    rcases hline with (hnil | ⟨front, hfront, -⟩) | hline
    · exact absurd hnil h.ne_nil
    · obtain ⟨front', last, hlast, hvisible⟩ := h.last_not_blank
      obtain ⟨-, rfl⟩ : front = front' ∧ c = last := by simpa [hfront] using hlast
      exact absurd (hblanks c (by simp)) (by simp [hvisible])
    · exact ih (fun b hb ↦ hblanks b (List.mem_append_left _ hb)) hline

theorem isInfix_trimEnd (h : IsWord word) (hline : word <:+: line) :
    word <:+: Text.trimEnd line := by
  obtain ⟨blanks, hsplit, hblanks⟩ := Text.exists_trimEnd_append line
  exact h.isInfix_of_append hblanks (by rwa [hsplit])

theorem isInfix_dropReturn (h : IsWord word) (hline : word <:+: line) :
    word <:+: Text.dropReturn line := by
  rw [Text.dropReturn]
  split_ifs with hreturn
  · obtain ⟨front, rfl⟩ := List.getLast?_eq_some_iff.mp hreturn
    rw [List.dropLast_concat]
    exact h.isInfix_of_append (by simp; decide) hline
  · exact hline

/-- A word of a text is on one of its lines. -/
theorem exists_mem_lines (h : IsWord word) (htext : word <:+: text) :
    ∃ line ∈ Text.lines text, word <:+: line := by
  obtain ⟨field, hfield, hword⟩ := Text.exists_mem_splitOn_of_isInfix htext h.one_line
  obtain ⟨before, last, hsplit, hlines⟩ := Text.exists_splitOn_eq text
  rw [hsplit, List.mem_append, List.mem_singleton] at hfield
  rw [hlines]
  rcases hfield with hfield | rfl
  · exact ⟨Text.dropReturn field, List.mem_append_left _ (List.mem_map_of_mem hfield),
      h.isInfix_dropReturn hword⟩
  · have hne : field ≠ [] := fun hnil ↦ h.ne_nil (List.infix_nil.mp (hnil ▸ hword))
    exact ⟨field, by simp [hne], hword⟩

theorem isInfix_emit (hword : word <:+: line) (blank : Bool) : word <:+: emit blank line := by
  rw [emit]
  exact hword.trans (List.infix_append _ _ _)

/-- A line with a word on it is not left out, and its end is not taken off so far. -/
theorem isInfix_tidyLines (h : IsWord word) {lines : List (List Char)} (hline : line ∈ lines)
    (hword : word <:+: line) (state : State) : word <:+: tidyLines state lines := by
  induction lines generalizing state with
  | nil => exact absurd hline List.not_mem_nil
  | cons first rest ih =>
    rw [tidyLines]
    dsimp only
    rcases List.mem_cons.mp hline with rfl | hline
    · have htrimmed := h.isInfix_trimEnd hword
      have hne : (Text.trimEnd line).isEmpty = false := by
        cases htrim : Text.trimEnd line with
        | nil => exact absurd (List.infix_nil.mp (htrim ▸ htrimmed)) h.ne_nil
        | cons c rest => rfl
      simp only [hne, Bool.false_eq_true, if_false]
      split_ifs
      · exact (isInfix_emit hword _).trans (List.prefix_append _ _).isInfix
      · exact (isInfix_emit htrimmed _).trans (List.prefix_append _ _).isInfix
    · split_ifs
      · exact (ih hline _).trans (List.suffix_append _ _).isInfix
      · exact ih hline _
      · exact (ih hline _).trans (List.suffix_append _ _).isInfix

end IsWord

end StaticSite.Tidy

namespace StaticSite

/-- A word of a text is a word of the tidied text. -/
theorem isInfix_tidy {word : List Char} {text : String} (h : Tidy.IsWord word)
    (htext : word <:+: text.toList) : word <:+: (tidy text).toList := by
  obtain ⟨line, hline, hword⟩ := h.exists_mem_lines htext
  rw [tidy, String.toList_ofList]
  exact h.isInfix_tidyLines hline hword _

end StaticSite
