import StaticSite.Proofs.Text.Search

/-!
# Splitting text at a character

A text is its fields with separators between them, and texts without the separator are the fields
of what they make when joined. The same for the last occurrence of a character: it is found where
the text after it holds none.
-/

namespace StaticSite.Text

variable {c : Char} {text rest : List Char} {fields : List (List Char)}

theorem splitOn_ne_nil (c : Char) (text : List Char) : splitOn c text ≠ [] := by
  cases text with
  | nil => simp [splitOn]
  | cons a text =>
    rw [splitOn]
    split_ifs
    · simp
    · split <;> simp

/-- A separator ends a field, and what follows it is split on its own. -/
theorem splitOn_append_separator (c : Char) (text rest : List Char) :
    splitOn c (text ++ c :: rest) = splitOn c text ++ splitOn c rest := by
  induction text with
  | nil => simp [splitOn]
  | cons a text ih =>
    by_cases ha : a = c
    · simp [splitOn, ha, ih]
    · obtain ⟨field, fields, hsplit⟩ := List.exists_cons_of_ne_nil (splitOn_ne_nil c text)
      simp [splitOn, ha, ih, hsplit]

/-- A text without the separator is a single field. -/
theorem splitOn_of_notMem (h : c ∉ text) : splitOn c text = [text] := by
  induction text with
  | nil => rfl
  | cons a text ih =>
    rw [List.mem_cons, not_or] at h
    simp [splitOn, Ne.symm h.1, ih h.2]

theorem notMem_of_mem_splitOn {field : List Char} (h : field ∈ splitOn c text) : c ∉ field := by
  induction text generalizing field with
  | nil =>
    obtain rfl : field = [] := by simpa [splitOn] using h
    simp
  | cons a text ih =>
    obtain ⟨first, fields, hsplit⟩ := List.exists_cons_of_ne_nil (splitOn_ne_nil c text)
    rw [hsplit] at ih
    by_cases ha : a = c
    · rw [splitOn, if_pos ha, hsplit] at h
      rcases List.mem_cons.mp h with rfl | h
      · simp
      · exact ih h
    · rw [splitOn, if_neg ha, hsplit] at h
      rcases List.mem_cons.mp h with rfl | h
      · rw [List.mem_cons, not_or]
        exact ⟨Ne.symm ha, ih List.mem_cons_self⟩
      · exact ih (List.mem_cons_of_mem _ h)

/-- The characters of a field are characters of the text. -/
theorem mem_of_mem_splitOn {a : Char} {field : List Char} (h : field ∈ splitOn c text)
    (ha : a ∈ field) : a ∈ text := by
  induction text generalizing field with
  | nil =>
    obtain rfl : field = [] := by simpa [splitOn] using h
    cases ha
  | cons b text ih =>
    obtain ⟨first, fields, hsplit⟩ := List.exists_cons_of_ne_nil (splitOn_ne_nil c text)
    rw [splitOn, hsplit] at h
    rw [hsplit] at ih
    split_ifs at h
    · rcases List.mem_cons.mp h with rfl | h
      · cases ha
      · exact List.mem_cons_of_mem _ (ih h ha)
    · rcases List.mem_cons.mp h with rfl | h
      · exact (List.mem_cons.mp ha).elim (fun hb ↦ hb ▸ List.mem_cons_self)
          fun ha ↦ List.mem_cons_of_mem _ (ih List.mem_cons_self ha)
      · exact List.mem_cons_of_mem _ (ih (List.mem_cons_of_mem _ h) ha)

theorem joinWith_cons {separator piece : List Char} {pieces : List (List Char)}
    (h : pieces ≠ []) :
    joinWith separator (piece :: pieces) = piece ++ separator ++ joinWith separator pieces := by
  cases pieces with
  | nil => exact absurd rfl h
  | cons next pieces => rfl

/-- A character of fields with separators between them is a separator or stands in a field. -/
theorem mem_joinWith {a : Char} (h : a ∈ joinWith [c] fields) :
    a = c ∨ ∃ field ∈ fields, a ∈ field := by
  induction fields with
  | nil => cases h
  | cons field fields ih =>
    by_cases hlast : fields = []
    · subst hlast
      exact .inr ⟨field, List.mem_cons_self, h⟩
    · rw [joinWith_cons hlast, List.mem_append, List.mem_append] at h
      rcases h with (h | h) | h
      · exact .inr ⟨field, List.mem_cons_self, h⟩
      · exact .inl (List.mem_singleton.mp h)
      · exact (ih h).imp_right fun ⟨later, hmem, ha⟩ ↦ ⟨later, List.mem_cons_of_mem _ hmem, ha⟩

/-- The fields of a text, joined again, are the text. -/
theorem joinWith_splitOn (c : Char) (text : List Char) : joinWith [c] (splitOn c text) = text := by
  induction text with
  | nil => rfl
  | cons a text ih =>
    obtain ⟨field, fields, hsplit⟩ := List.exists_cons_of_ne_nil (splitOn_ne_nil c text)
    by_cases ha : a = c
    · rw [splitOn, if_pos ha, joinWith_cons (splitOn_ne_nil c text), ih, ha]
      rfl
    · rw [hsplit] at ih
      rw [splitOn, if_neg ha, hsplit]
      cases fields with
      | nil => simpa [joinWith] using ih
      | cons next fields =>
        rw [joinWith_cons (by simp)] at ih ⊢
        simpa using ih

/-- Pieces without the separator, once joined, are the fields of the whole. -/
theorem splitOn_joinWith (hne : fields ≠ []) (h : ∀ field ∈ fields, c ∉ field) :
    splitOn c (joinWith [c] fields) = fields := by
  induction fields with
  | nil => exact absurd rfl hne
  | cons field fields ih =>
    have hfield := h field List.mem_cons_self
    cases fields with
    | nil => exact splitOn_of_notMem hfield
    | cons next fields =>
      rw [joinWith_cons (by simp), List.append_assoc, List.singleton_append,
        splitOn_append_separator, splitOn_of_notMem hfield,
        ih (by simp) fun f hf ↦ h f (List.mem_cons_of_mem _ hf), List.singleton_append]

/-- What pieces take up in a text in which a separator follows each of them. -/
def ended (c : Char) (fields : List (List Char)) : List Char := fields.flatMap (· ++ [c])

theorem joinWith_append {more : List (List Char)} (h : more ≠ []) :
    joinWith [c] (fields ++ more) = ended c fields ++ joinWith [c] more := by
  induction fields with
  | nil => rfl
  | cons field fields ih =>
    rw [List.cons_append, joinWith_cons (by simp [h]), ih]
    simp [ended]

/-- A joined text begins with the joined text of the first pieces. -/
theorem joinWith_isPrefix (hne : fields ≠ []) (more : List (List Char)) :
    joinWith [c] fields <+: joinWith [c] (fields ++ more) := by
  rcases List.eq_nil_or_concat' fields with rfl | ⟨before, last, rfl⟩
  · exact absurd rfl hne
  · rw [List.append_assoc, joinWith_append (by simp), joinWith_append (by simp)]
    refine (List.prefix_append_right_inj _).mpr ?_
    cases more with
    | nil => exact List.prefix_refl _
    | cons next more =>
      rw [List.singleton_append, joinWith_cons (List.cons_ne_nil _ _), List.append_assoc]
      exact List.prefix_append _ _

theorem breakOnLast?_of_notMem (h : c ∉ text) : breakOnLast? [c] text = none := by
  induction text with
  | nil => rfl
  | cons a text ih =>
    rw [List.mem_cons, not_or] at h
    simp [breakOnLast?, ih h.2, stripPrefix?, h.1]

/-- The last occurrence of a character is the one that has none after it. -/
theorem breakOnLast?_append {before : List Char} (h : c ∉ rest) :
    breakOnLast? [c] (before ++ c :: rest) = some (before, rest) := by
  induction before with
  | nil => simp [breakOnLast?, breakOnLast?_of_notMem h, stripPrefix?]
  | cons a before ih => simp [breakOnLast?, ih]

/-- A text is without a character, or it can be cut at the last one. -/
theorem notMem_or_exists_last (c : Char) (text : List Char) :
    c ∉ text ∨ ∃ before rest, text = before ++ c :: rest ∧ c ∉ rest := by
  induction text with
  | nil => exact Or.inl (by simp)
  | cons a text ih =>
    rcases ih with hnot | ⟨before, rest, rfl, hrest⟩
    · by_cases ha : a = c
      · exact Or.inr ⟨[], text, by rw [ha, List.nil_append], hnot⟩
      · exact Or.inl (by simp [hnot, Ne.symm ha])
    · exact Or.inr ⟨a :: before, rest, rfl, hrest⟩

theorem breakOnLast?_eq_some {before : List Char}
    (h : breakOnLast? [c] text = some (before, rest)) : text = before ++ c :: rest ∧ c ∉ rest := by
  rcases notMem_or_exists_last c text with hnot | ⟨front, back, rfl, hback⟩
  · simp [breakOnLast?_of_notMem hnot] at h
  · rw [breakOnLast?_append hback, Option.some.injEq, Prod.mk.injEq] at h
    obtain ⟨rfl, rfl⟩ := h
    exact ⟨rfl, hback⟩

/-- What is before and after the last occurrence of a pattern makes up the text with it. -/
theorem breakOnLast?_split {pattern before : List Char}
    (h : breakOnLast? pattern text = some (before, rest)) : text = before ++ pattern ++ rest := by
  induction text generalizing before with
  | nil =>
    simp only [breakOnLast?, Option.map_eq_some_iff, Prod.mk.injEq] at h
    obtain ⟨_, hstrip, rfl, rfl⟩ := h
    simpa using stripPrefix?_eq_some hstrip
  | cons a text ih =>
    rw [breakOnLast?] at h
    split at h
    · next hlater =>
      obtain ⟨rfl, rfl⟩ := Prod.mk.inj (Option.some.inj h)
      simp [ih hlater]
    · simp only [Option.map_eq_some_iff, Prod.mk.injEq] at h
      obtain ⟨_, hstrip, rfl, rfl⟩ := h
      simpa using stripPrefix?_eq_some hstrip

/-! ## Words in texts with separators -/

private theorem prefix_of_notMem {word : List Char} (before : List Char) (h : word <+: before ++ c :: rest)
    (hc : c ∉ word) : word <+: before := by
  rcases Nat.lt_or_ge before.length word.length with hlt | hle
  · have hlonger : before ++ [c] <+: word :=
      List.prefix_of_prefix_length_le ⟨rest, by simp⟩ h (by simpa using hlt)
    exact absurd (hlonger.subset (by simp)) hc
  · exact List.prefix_of_prefix_length_le h (List.prefix_append _ _) hle

/-- A word without the separator lies on one side of it. -/
theorem isInfix_or_of_notMem {word before : List Char} (h : word <:+: before ++ c :: rest)
    (hc : c ∉ word) : word <:+: before ∨ word <:+: rest := by
  induction before with
  | nil =>
    rcases List.infix_cons_iff.mp h with hprefix | hinfix
    · exact .inl (prefix_of_notMem [] hprefix hc).isInfix
    · exact .inr hinfix
  | cons a before ih =>
    rcases List.infix_cons_iff.mp h with hprefix | hinfix
    · exact .inl (prefix_of_notMem (a :: before) hprefix hc).isInfix
    · exact (ih hinfix).imp_left fun h ↦ h.trans (List.suffix_cons a before).isInfix

/-- A word without the separator lies in one of the fields. -/
theorem exists_mem_splitOn_of_isInfix {word : List Char} (h : word <:+: text) (hc : c ∉ word) :
    ∃ field ∈ splitOn c text, word <:+: field := by
  rw [← joinWith_splitOn c text] at h
  generalize hfields : splitOn c text = fields at h
  replace hfields : fields ≠ [] := hfields ▸ splitOn_ne_nil c text
  induction fields with
  | nil => exact absurd rfl hfields
  | cons field fields ih =>
    cases fields with
    | nil => exact ⟨field, List.mem_cons_self, h⟩
    | cons next fields =>
      rw [joinWith_cons (List.cons_ne_nil _ _), List.append_assoc] at h
      rcases isInfix_or_of_notMem h hc with hhere | hlater
      · exact ⟨field, List.mem_cons_self, hhere⟩
      · obtain ⟨found, hfound, hword⟩ := ih hlater (List.cons_ne_nil _ _)
        exact ⟨found, List.mem_cons_of_mem _ hfound, hword⟩

/-- A word does not begin among characters that are all different from its first one. -/
theorem isInfix_of_append {word before : List Char} (h : word <:+: before ++ rest)
    (hhead : ∀ a ∈ before, word.head? ≠ some a) (hword : word ≠ []) : word <:+: rest := by
  induction before with
  | nil => exact h
  | cons a before ih =>
    rcases List.infix_cons_iff.mp h with hprefix | hinfix
    · obtain ⟨b, word, rfl⟩ := List.exists_cons_of_ne_nil hword
      obtain ⟨rfl, -⟩ := List.cons_prefix_cons.mp hprefix
      exact absurd rfl (hhead b List.mem_cons_self)
    · exact ih hinfix fun b hb ↦ hhead b (List.mem_cons_of_mem _ hb)

end StaticSite.Text
