import StaticSite.Proofs.Tidy.Line

/-!
# Open elements

Which element is open after a line, by the tags on it. Only tags change it, so it is the same after
a line without them (`openAfter_of_notMem`). White space at the end of a line changes it only if it
follows the name of a start tag (`openAfter_append_blanks`).
-/

namespace StaticSite.Text

variable {text : List Char}

/-- White space has no case. -/
theorem toLower_of_isBlank {c : Char} (h : isBlank c) : c.toLower = c := by
  have hletter : ¬ (c.val ≥ 'A'.val ∧ c.val ≤ 'Z'.val) := by
    rintro ⟨hge, hle⟩
    replace hge : 65 ≤ c.toNat := UInt32.le_iff_toNat_le.mp hge
    replace hle : c.toNat ≤ 90 := UInt32.le_iff_toNat_le.mp hle
    simp only [isBlank, Bool.or_eq_true, Bool.and_eq_true, decide_eq_true_eq, beq_iff_eq] at h
    omega
  rw [Char.toLower, dif_neg hletter]

theorem asciiLower_append (text more : List Char) :
    asciiLower (text ++ more) = asciiLower text ++ asciiLower more :=
  List.map_append

theorem asciiLower_of_blank (h : ∀ c ∈ text, isBlank c) : asciiLower text = text := by
  rw [asciiLower, List.map_eq_map_iff.mpr fun c hc ↦ toLower_of_isBlank (h c hc), List.map_id']

/-- A pattern without white space at the front of a text is not completed by white space. -/
theorem isPrefix_append_blanks_iff {pattern blanks : List Char}
    (hpattern : ∀ c ∈ pattern, isBlank c = false) (hblanks : ∀ c ∈ blanks, isBlank c) :
    pattern <+: text ++ blanks ↔ pattern <+: text := by
  refine ⟨fun h ↦ ?_, fun h ↦ h.trans (List.prefix_append text blanks)⟩
  induction pattern generalizing text with
  | nil => exact List.nil_prefix
  | cons p pattern ih =>
    cases text with
    | nil =>
      have hp : p ∈ blanks := h.subset List.mem_cons_self
      exact absurd (hblanks p hp) (by simp [hpattern p List.mem_cons_self])
    | cons c text =>
      obtain ⟨rfl, hrest⟩ := List.cons_prefix_cons.mp h
      exact List.cons_prefix_cons.mpr
        ⟨rfl, ih (fun c hc ↦ hpattern c (List.mem_cons_of_mem _ hc)) hrest⟩

theorem startsWith_iff {pattern : List Char} : startsWith pattern text ↔ pattern <+: text := by
  rw [startsWith, ← not_iff_not, ← stripPrefix?_eq_none_iff]
  simp

end StaticSite.Text

namespace StaticSite.Tidy

variable {element : Element} {state : Option Element} {text blanks : List Char}

/-! ## Tags -/

theorem opensWith_iff :
    opensWith element text ↔ ∃ rest, text = '<' :: element.name ++ rest ∧ endsName rest := by
  rw [opensWith]
  constructor
  · intro h
    split at h
    · next rest hrest => exact ⟨rest, Text.stripPrefix?_eq_some hrest, h⟩
    · cases h
  · rintro ⟨rest, rfl, hends⟩
    rw [Text.stripPrefix?_append]
    exact hends

theorem closesWith_iff : closesWith element text ↔ '<' :: '/' :: element.name <+: text :=
  Text.startsWith_iff

theorem Element.name_pre : Element.pre.name = ['p', 'r', 'e'] := rfl

theorem Element.name_textarea :
    Element.textarea.name = ['t', 'e', 'x', 't', 'a', 'r', 'e', 'a'] := rfl

theorem isBlank_of_mem_name {c : Char} (h : c ∈ element.name) : Text.isBlank c = false := by
  cases element with
  | pre =>
    simp only [Element.name_pre, List.mem_cons, List.not_mem_nil, or_false] at h
    rcases h with rfl | rfl | rfl <;> rfl
  | textarea =>
    simp only [Element.name_textarea, List.mem_cons, List.not_mem_nil, or_false] at h
    rcases h with rfl | rfl | rfl | rfl | rfl | rfl | rfl | rfl <;> rfl

theorem opensWith_cons_of_ne {c : Char} (h : c ≠ '<') : opensWith element (c :: text) = false := by
  rw [Bool.eq_false_iff, Ne, opensWith_iff]
  rintro ⟨rest, htext, -⟩
  exact h (List.cons.inj htext).1

/-- Where no bracket opens, no tag begins. -/
theorem openAfter_append_of_notMem {chars : List Char} (h : '<' ∉ chars) (text : List Char) :
    openAfter state (chars ++ text) = openAfter state text := by
  induction chars with
  | nil => rfl
  | cons c chars ih =>
    rw [List.mem_cons, not_or] at h
    have hopens (element : Element) : opensWith element (c :: (chars ++ text)) = false :=
      opensWith_cons_of_ne (Ne.symm h.1)
    cases state with
    | none => simpa [openAfter, hopens] using ih h.2
    | some element =>
      have hcloses : closesWith element (c :: (chars ++ text)) = false := by
        rw [Bool.eq_false_iff, Ne, closesWith_iff, List.cons_prefix_cons]
        exact fun hprefix ↦ h.1 hprefix.1
      simpa [openAfter, hcloses] using ih h.2

theorem openAfter_of_notMem (h : '<' ∉ text) : openAfter state text = state := by
  rw [← List.append_nil text, openAfter_append_of_notMem h]
  cases state <;> rfl

private theorem notMem_of_blank {c : Char} (hc : Text.isBlank c = false)
    (h : ∀ c ∈ text, Text.isBlank c) : c ∉ text :=
  fun hmem ↦ by simp [h c hmem] at hc

/-- An element that is open at one end of a blank line is open at the other end. -/
theorem openAfter_of_blank (h : ∀ c ∈ text, Text.isBlank c) :
    openAfter state (Text.asciiLower text) = state := by
  rw [Text.asciiLower_of_blank h, openAfter_of_notMem (notMem_of_blank (by decide) h)]

private theorem closesWith_append_blanks (text : List Char) (h : ∀ c ∈ blanks, Text.isBlank c) :
    closesWith element (text ++ blanks) = closesWith element text := by
  rw [Bool.eq_iff_iff, closesWith_iff, closesWith_iff]
  refine Text.isPrefix_append_blanks_iff (fun c hc ↦ ?_) h
  rw [List.mem_cons, List.mem_cons] at hc
  rcases hc with rfl | rfl | hc
  · decide
  · decide
  · exact isBlank_of_mem_name hc

private theorem opensWith_append_blanks (text : List Char) (h : ∀ c ∈ blanks, Text.isBlank c)
    (hname : text ≠ '<' :: element.name) :
    opensWith element (text ++ blanks) = opensWith element text := by
  have hends (c : Char) (rest : List Char) :
      endsName (c :: rest ++ blanks) = endsName (c :: rest) := rfl
  rw [Bool.eq_iff_iff, opensWith_iff, opensWith_iff]
  constructor
  · rintro ⟨rest, htext, hrest⟩
    have hprefix : '<' :: element.name <+: text := by
      refine (Text.isPrefix_append_blanks_iff (fun c hc ↦ ?_) h).mp ⟨rest, htext.symm⟩
      rcases List.mem_cons.mp hc with rfl | hc
      · decide
      · exact isBlank_of_mem_name hc
    obtain ⟨front, rfl⟩ := hprefix
    obtain ⟨c, front, rfl⟩ := List.exists_cons_of_ne_nil (l := front) (by rintro rfl; simp at hname)
    rw [List.append_assoc, List.append_cancel_left_eq] at htext
    exact ⟨c :: front, rfl, by rwa [← hends, htext]⟩
  · rintro ⟨rest, rfl, hrest⟩
    obtain ⟨c, rest, rfl⟩ := List.exists_cons_of_ne_nil (l := rest) (by rintro rfl; simp at hname)
    exact ⟨c :: rest ++ blanks, List.append_assoc _ _ _, by rwa [hends]⟩

/-- White space at the end of a line matters only to a start tag that it ends. -/
theorem openAfter_append_blanks (h : ∀ c ∈ blanks, Text.isBlank c)
    (hname : ∀ element : Element, ¬ '<' :: element.name <:+ text) :
    openAfter state (text ++ blanks) = openAfter state text := by
  induction text generalizing state with
  | nil =>
    rw [List.nil_append, openAfter_of_notMem (notMem_of_blank (by decide) h)]
    cases state <;> rfl
  | cons c text ih =>
    replace ih (state : Option Element) : openAfter state (text ++ blanks) = openAfter state text :=
      ih fun element hsuffix ↦ hname element (hsuffix.trans (List.suffix_cons c text))
    have hopens (element : Element) :
        opensWith element (c :: (text ++ blanks)) = opensWith element (c :: text) :=
      opensWith_append_blanks (c :: text) h fun htext ↦
        hname element (htext ▸ List.suffix_rfl)
    have hcloses (element : Element) :
        closesWith element (c :: (text ++ blanks)) = closesWith element (c :: text) :=
      closesWith_append_blanks (c :: text) h
    cases state with
    | none => rw [List.cons_append, openAfter, openAfter, hopens, hopens, ih, ih, ih]
    | some element => rw [List.cons_append, openAfter, openAfter, hcloses, ih, ih]

/-! ## Lines -/

variable {lines : List (List Char)} {line : Line}

/-- The element that is open after some lines, where `read` says which one is open after a line. -/
def elementAfter (read : Option Element → List Char → Option Element) (state : Option Element)
    (lines : List (List Char)) : Option Element :=
  lines.foldl (fun state line ↦ read state (Text.asciiLower line)) state

theorem map_text_places (state : Option Element) (lines : List (List Char)) :
    (places state lines).map Line.text = lines := by
  induction lines generalizing state with
  | nil => rfl
  | cons line rest ih => rw [places, List.map_cons, ih]

theorem text_mem_of_mem_places (h : line ∈ places state lines) : line.text ∈ lines := by
  rw [← map_text_places state lines]
  exact List.mem_map_of_mem h

/-- A line is inside if an element is open before it or after it. -/
theorem getElem?_places (state : Option Element) (lines : List (List Char)) (i : ℕ) :
    (places state lines)[i]? = lines[i]?.map fun line ↦
      ⟨line, (elementAfter openAfter state (lines.take i)).isSome ||
        (elementAfter openAfter state (lines.take (i + 1))).isSome⟩ := by
  induction lines generalizing state i with
  | nil => rfl
  | cons line rest ih =>
    rw [places]
    cases i with
    | zero => rfl
    | succ i =>
      rw [List.getElem?_cons_succ, ih, List.getElem?_cons_succ]
      rfl

end StaticSite.Tidy
