import StaticSite.Proofs.Text.Split
import StaticSite.Text.Blank

/-!
# Lines of text

The lines of a text hold no line feed, and a text that is written line by line, each with a line
feed behind it, is read as these lines again, up to a carriage return at the end of one
(`lines_ended`). Neither the ends of lines nor the white space before them hold anything that can
be seen (`visible_lines`, `visible_trimEnd`).
-/

namespace StaticSite.Text

variable {text line : List Char} {fields : List (List Char)}

/-! ## White space at the end -/

theorem trimEnd_eq_rdropWhile (text : List Char) : trimEnd text = text.rdropWhile isBlank := rfl

theorem trimEnd_isPrefix (text : List Char) : trimEnd text <+: text :=
  List.rdropWhile_prefix isBlank text

theorem trimEnd_trimEnd (text : List Char) : trimEnd (trimEnd text) = trimEnd text :=
  List.rdropWhile_idempotent isBlank text

/-- What is taken off the end of a text is white space. -/
theorem exists_trimEnd_append (text : List Char) :
    ∃ blanks : List Char, trimEnd text ++ blanks = text ∧ ∀ c ∈ blanks, isBlank c :=
  ⟨text.rtakeWhile isBlank, List.rdropWhile_append_rtakeWhile,
    fun _ hc ↦ List.mem_rtakeWhile_imp hc⟩

theorem trimEnd_eq_nil_iff : trimEnd text = [] ↔ ∀ c ∈ text, isBlank c :=
  List.rdropWhile_eq_nil_iff

/-- A text is without white space at its end exactly if its last character is none. -/
theorem trimEnd_eq_self_iff :
    trimEnd text = text ↔ ∀ c ∈ text.getLast?, isBlank c = false := by
  rcases List.eq_nil_or_concat' text with rfl | ⟨front, c, rfl⟩
  · simp [trimEnd]
  · rw [trimEnd_eq_rdropWhile, List.rdropWhile_eq_self_iff]
    simp

/-! ## Lines -/

theorem splitOn_ended {c : Char} (h : ∀ field ∈ fields, c ∉ field) :
    splitOn c (ended c fields) = fields ++ [[]] := by
  have hall : ∀ field ∈ fields ++ [[]], c ∉ field := by
    simpa [or_imp, forall_and] using h
  have hsplit := splitOn_joinWith (by simp) hall
  rwa [joinWith_append (by simp), joinWith, List.append_nil] at hsplit

/-- The lines of a text are its fields between line feeds, without the last one if it is empty. -/
theorem exists_splitOn_eq (text : List Char) :
    ∃ before last, splitOn '\n' text = before ++ [last] ∧
      lines text = before.map dropReturn ++ if last.isEmpty then [] else [last] := by
  obtain hnil | ⟨before, last, hsplit⟩ := List.eq_nil_or_concat' (splitOn '\n' text)
  · exact absurd hnil (splitOn_ne_nil '\n' text)
  · refine ⟨before, last, hsplit, ?_⟩
    simp only [lines, hsplit, List.reverse_append, List.reverse_singleton, List.singleton_append,
      List.reverse_reverse]
    split_ifs <;> simp

theorem lines_ended (h : ∀ field ∈ fields, '\n' ∉ field) :
    lines (ended '\n' fields) = fields.map dropReturn := by
  obtain ⟨before, last, hsplit, hlines⟩ := exists_splitOn_eq (ended '\n' fields)
  rw [splitOn_ended h] at hsplit
  obtain ⟨rfl, hlast⟩ := List.append_inj' hsplit rfl
  obtain rfl : [] = last := by simpa using hlast
  simpa using hlines

theorem dropReturn_isPrefix (line : List Char) : dropReturn line <+: line := by
  rw [dropReturn]
  split_ifs
  · exact List.dropLast_prefix line
  · exact List.prefix_refl line

theorem dropReturn_eq_self_iff : dropReturn line = line ↔ line.getLast? ≠ some '\r' := by
  rw [dropReturn]
  split_ifs with hreturn
  · obtain ⟨front, rfl⟩ := List.getLast?_eq_some_iff.mp hreturn
    simp
  · simp [hreturn]

theorem notMem_of_mem_lines (h : line ∈ lines text) : '\n' ∉ line := by
  obtain ⟨before, last, hsplit, hlines⟩ := exists_splitOn_eq text
  have hfields : ∀ field ∈ before ++ [last], '\n' ∉ field :=
    fun field hfield ↦ notMem_of_mem_splitOn (hsplit ▸ hfield)
  rw [hlines, List.mem_append, List.mem_map] at h
  rcases h with ⟨field, hfield, rfl⟩ | h
  · exact fun hmem ↦ hfields field (List.mem_append_left _ hfield)
      ((dropReturn_isPrefix field).subset hmem)
  · split_ifs at h
    · exact absurd h List.not_mem_nil
    · exact hfields line (List.mem_append_right _ h)

/-! ## What can be seen -/

/-- The characters of a text that are no white space. -/
def visible (text : List Char) : List Char := text.filter fun c ↦ !isBlank c

@[simp]
theorem visible_nil : visible [] = [] := rfl

@[simp]
theorem visible_append (text more : List Char) :
    visible (text ++ more) = visible text ++ visible more :=
  List.filter_append text more

theorem visible_eq_nil_iff : visible text = [] ↔ ∀ c ∈ text, isBlank c := by
  simp [visible]

theorem visible_trimEnd (text : List Char) : visible (trimEnd text) = visible text := by
  obtain ⟨blanks, htext, hblanks⟩ := exists_trimEnd_append text
  conv_rhs => rw [← htext, visible_append, visible_eq_nil_iff.mpr hblanks, List.append_nil]

theorem visible_dropReturn (line : List Char) : visible (dropReturn line) = visible line := by
  rw [dropReturn]
  split_ifs with hreturn
  · obtain ⟨front, rfl⟩ := List.getLast?_eq_some_iff.mp hreturn
    have hnone : visible ['\r'] = [] := by decide
    rw [List.dropLast_concat, visible_append, hnone, List.append_nil]
  · rfl

theorem visible_ended (fields : List (List Char)) :
    visible (ended '\n' fields) = fields.flatMap visible := by
  induction fields with
  | nil => rfl
  | cons field fields ih =>
    have hbreak : visible ['\n'] = [] := by decide
    rw [ended, List.flatMap_cons, ← ended, visible_append, visible_append, hbreak, ih,
      List.append_nil, List.flatMap_cons]

/-- What can be seen of a text is what can be seen of its lines. -/
theorem visible_lines (text : List Char) : (lines text).flatMap visible = visible text := by
  obtain ⟨before, last, hsplit, hlines⟩ := exists_splitOn_eq text
  have htext : visible text = before.flatMap visible ++ visible last := by
    rw [← joinWith_splitOn '\n' text, hsplit, joinWith_append (by simp), visible_append,
      visible_ended, joinWith]
  rw [hlines, List.flatMap_append, List.flatMap_map, htext]
  congr 1
  · exact congrArg before.flatMap (funext visible_dropReturn)
  · split_ifs with hlast
    · rw [List.isEmpty_iff.mp hlast]
      rfl
    · simp

end StaticSite.Text
