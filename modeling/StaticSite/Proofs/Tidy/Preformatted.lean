import StaticSite.Proofs.Tidy.Normal

/-!
# Preformatted content

An element is open from a start tag on up to its end tag, where the name of either tag is over
behind it. Tidying takes the name of an open element behind a bracket and a slash for its end tag
whatever follows. Where every such name is over, it leaves all lines on which an element is open as
they are and where they are (`keepsInside_of_endsNames`); where one is not, a line of the element
may lose white space (`not_keepsInside_of_longer_name`).
-/

namespace StaticSite.Tidy

variable {state : Option Element} {text : List Char}

/-! ## Elements by whole tags -/

/-- Whether the text, in lower case, begins with an end tag of the element. -/
def endsWith (element : Element) (text : List Char) : Bool :=
  match Text.stripPrefix? ('<' :: '/' :: element.name) text with
  | some rest => endsName rest
  | none => false

/-- The element that is open at the end of a line in lower case, given the one open at its start. -/
def insideAfter : Option Element → List Char → Option Element
  | state, [] => state
  | some element, c :: text =>
    if endsWith element (c :: text) then insideAfter none text else insideAfter (some element) text
  | none, c :: text =>
    if opensWith .pre (c :: text) then insideAfter (some .pre) text
    else if opensWith .textarea (c :: text) then insideAfter (some .textarea) text
    else insideAfter none text

/-- What follows the names of open elements behind a bracket and a slash on a line in lower case. -/
def closings : Option Element → List Char → List (List Char)
  | _, [] => []
  | some element, c :: text =>
    match Text.stripPrefix? ('<' :: '/' :: element.name) (c :: text) with
    | some rest => rest :: closings none text
    | none => closings (some element) text
  | none, c :: text =>
    if opensWith .pre (c :: text) then closings (some .pre) text
    else if opensWith .textarea (c :: text) then closings (some .textarea) text
    else closings none text

/-- An element is open at the start or at the end of a line. -/
def IsInside (lines : List (List Char)) (i : ℕ) : Prop :=
  (elementAfter insideAfter none (lines.take i)).isSome ∨
    (elementAfter insideAfter none (lines.take (i + 1))).isSome

/-- Wherever the name of an open element stands behind a bracket and a slash, it is over there. -/
def EndsNames (lines : List (List Char)) : Prop :=
  ∀ (i : ℕ) (hi : i < lines.length),
    ∀ rest ∈ closings (elementAfter insideAfter none (lines.take i)) (Text.asciiLower lines[i]),
      endsName rest

/-- Where the names in end tags are over, it does not matter that this is not looked at. -/
theorem insideAfter_eq_openAfter (h : ∀ rest ∈ closings state text, endsName rest) :
    insideAfter state text = openAfter state text := by
  fun_induction closings state text with
  | case1 state => cases state <;> rfl
  | case2 element c text rest hstrip ih =>
    rw [List.forall_mem_cons] at h
    have hends : endsWith element (c :: text) := by simpa [endsWith, hstrip] using h.1
    have hcloses : closesWith element (c :: text) := by
      simp [closesWith, Text.startsWith, hstrip]
    rw [insideAfter, openAfter, if_pos hends, if_pos hcloses, ih h.2]
  | case3 element c text hstrip ih =>
    have hends : ¬ endsWith element (c :: text) := by simp [endsWith, hstrip]
    have hcloses : ¬ closesWith element (c :: text) := by
      simp [closesWith, Text.startsWith, hstrip]
    rw [insideAfter, openAfter, if_neg hends, if_neg hcloses, ih h]
  | case4 c text hpre ih => rw [insideAfter, openAfter, if_pos hpre, if_pos hpre, ih h]
  | case5 c text hpre htextarea ih =>
    rw [insideAfter, openAfter, if_neg hpre, if_neg hpre, if_pos htextarea, if_pos htextarea, ih h]
  | case6 c text hpre htextarea ih =>
    rw [insideAfter, openAfter, if_neg hpre, if_neg hpre, if_neg htextarea, if_neg htextarea, ih h]

theorem elementAfter_concat (read : Option Element → List Char → Option Element)
    (state : Option Element) (lines : List (List Char)) (line : List Char) :
    elementAfter read state (lines ++ [line]) =
      read (elementAfter read state lines) (Text.asciiLower line) := by
  simp [elementAfter]

private theorem elementAfter_take_eq {lines : List (List Char)} (h : EndsNames lines) {i : ℕ}
    (hi : i ≤ lines.length) :
    elementAfter insideAfter none (lines.take i) = elementAfter openAfter none (lines.take i) := by
  induction i with
  | zero => rfl
  | succ i ih =>
    rw [List.take_succ_eq_append_getElem hi, elementAfter_concat, elementAfter_concat,
      insideAfter_eq_openAfter (h i hi), ih (by omega)]

/-! ## Where lines are left -/

section Position

variable {started : Bool} {line : Line} {lines : List Line} {i j : ℕ}

/-- The position of a line among those that are left. -/
private def position (lines : List Line) (i : ℕ) : ℕ :=
  (tidied false (lines.take (i + 1))).length - 1

private theorem take_succ_eq (h : lines[i]? = some line) :
    lines.take (i + 1) = lines.take i ++ [line] := by
  obtain ⟨hi, rfl⟩ := List.getElem?_eq_some_iff.mp h
  exact List.take_succ_eq_append_getElem hi

private theorem tidied_take_drop (started : Bool) (h : lines[i]? = some line)
    (hline : line.isBlank = false) :
    tidied started lines =
      tidied started (lines.take (i + 1)) ++ tidied true (lines.drop (i + 1)) := by
  have hsplit :
      tidied started (lines.take i ++ line :: lines.drop (i + 1)) =
        tidied started (lines.take i ++ [line]) ++ tidied true (lines.drop (i + 1)) :=
    tidied_append (lines.take i) hline
  rwa [List.append_cons, ← take_succ_eq h, List.take_append_drop] at hsplit

/-- A line that is not blank is found where it should be. -/
private theorem getElem?_position (h : lines[i]? = some line) (hline : line.isBlank = false) :
    (tidied false lines)[position lines i]? = some line.trimmed := by
  obtain ⟨front, hfront⟩ := exists_tidied_concat false (lines.take i) hline
  rw [← take_succ_eq h] at hfront
  have hposition : position lines i = front.length := by simp [position, hfront]
  rw [tidied_take_drop false h hline, hfront, hposition]
  simp

private theorem length_tidied_take_pos (started : Bool) (h : lines[i]? = some line)
    (hline : line.isBlank = false) :
    0 < (tidied started (lines.take (i + 1))).length := by
  obtain ⟨front, hfront⟩ := exists_tidied_concat started (lines.take i) hline
  simp [take_succ_eq h, hfront]

/-- From one line that is not blank to a later one, the position grows by the lines that are left
in between. -/
private theorem position_eq_add {later : Line} (hij : i < j) (h : lines[i]? = some line)
    (hline : line.isBlank = false) (hlater : lines[j]? = some later) :
    position lines j = position lines i +
      (tidied true ((lines.take j).drop (i + 1) ++ [later])).length := by
  have hj : j < lines.length := (List.getElem?_eq_some_iff.mp hlater).1
  have htake : (lines.take (j + 1)).take (i + 1) = lines.take (i + 1) := by
    rw [List.take_take, min_eq_left (by omega)]
  have hdrop : (lines.take (j + 1)).drop (i + 1) = (lines.take j).drop (i + 1) ++ [later] := by
    rw [take_succ_eq hlater, List.drop_append_of_le_length (by rw [List.length_take]; omega)]
  have hfound : (lines.take (j + 1))[i]? = some line := by
    rw [List.getElem?_take_of_lt (by omega), h]
  have hsplit := tidied_take_drop false hfound hline
  have hpos := length_tidied_take_pos false h hline
  rw [htake, hdrop] at hsplit
  rw [position, position, hsplit, List.length_append]
  omega

private theorem position_lt_position {later : Line} (hij : i < j) (h : lines[i]? = some line)
    (hline : line.isBlank = false) (hlater : lines[j]? = some later)
    (hvisible : later.isBlank = false) : position lines i < position lines j := by
  obtain ⟨front, hfront⟩ :=
    exists_tidied_concat true ((lines.take j).drop (i + 1)) hvisible
  rw [position_eq_add hij h hline hlater, hfront]
  simp

private theorem position_succ {next : Line} (h : lines[i]? = some line)
    (hline : line.isBlank = false) (hnext : lines[i + 1]? = some next)
    (hvisible : next.isBlank = false) : position lines (i + 1) = position lines i + 1 := by
  rw [position_eq_add (Nat.lt_succ_self i) h hline hnext,
    List.drop_of_length_le (by rw [List.length_take]; omega), List.nil_append,
    tidied_cons_of_not_isBlank hvisible]
  rfl

end Position

private theorem getElem?_places_of_isInside {lines : List (List Char)} (h : EndsNames lines) {i : ℕ}
    {line : List Char} (hline : lines[i]? = some line) (hinside : IsInside lines i) :
    (places none lines)[i]? = some ⟨line, true⟩ := by
  have hi : i < lines.length := (List.getElem?_eq_some_iff.mp hline).1
  rw [IsInside, elementAfter_take_eq h hi.le, elementAfter_take_eq h hi, ← Bool.or_eq_true]
    at hinside
  rw [getElem?_places, hline, Option.map_some, hinside]

end StaticSite.Tidy

namespace StaticSite

open Tidy

/-- Every line on which an element is open is left as it is: each has a position in the tidied text,
where it is found unchanged, in the order of the text, and two lines with an element open from one
to the other stay side by side. -/
def KeepsInside (text : String) : Prop :=
  let lines := Text.lines text.toList
  ∃ position : ℕ → ℕ,
    (∀ i line, lines[i]? = some line → IsInside lines i →
      (Text.splitOn '\n' (tidy text).toList)[position i]? = some line) ∧
    (∀ i j, i < j → j < lines.length → IsInside lines i → IsInside lines j →
      position i < position j) ∧
    ∀ i, i + 1 < lines.length → (elementAfter insideAfter none (lines.take (i + 1))).isSome →
      position (i + 1) = position i + 1

/-- Tidying keeps preformatted content where the names in end tags are over. -/
theorem keepsInside_of_endsNames {text : String} (h : EndsNames (Text.lines text.toList)) :
    KeepsInside text := by
  generalize hlines : Text.lines text.toList = lines at h
  have hplace (i : ℕ) (hi : i < lines.length) (hinside : IsInside lines i) :
      (places none lines)[i]? = some ⟨lines[i], true⟩ :=
    getElem?_places_of_isInside h (List.getElem?_eq_getElem hi) hinside
  rw [KeepsInside, splitOn_tidy, hlines]
  refine ⟨position (places none lines), fun i line hline hinside ↦ ?_,
    fun i j hij hj hi' hj' ↦ ?_, fun i hi hopen ↦ ?_⟩
  · have hleft := getElem?_position (getElem?_places_of_isInside h hline hinside) rfl
    rw [List.getElem?_append_left, List.getElem?_map, hleft]
    · rfl
    · rw [List.length_map]
      exact (List.getElem?_eq_some_iff.mp hleft).1
  · exact position_lt_position hij (hplace i (hij.trans hj) hi') rfl (hplace j hj hj') rfl
  · exact position_succ (hplace i (by omega) (.inr hopen)) rfl (hplace (i + 1) hi (.inl hopen)) rfl

/-- Elements with attributes, in any case and inside of each other. -/
theorem keepsInside_nested :
    let text :=
      "<P>  \n<PRE class=a>  \n\n\n<textarea>\t\n</Pre> \n\n\n<textarea\n</pre>  \n</TextArea>  \n"
    EndsNames (Text.lines text.toList) ∧ KeepsInside text := by
  intro text
  have hends : EndsNames (Text.lines text.toList) := by
    unfold EndsNames
    decide +kernel
  exact ⟨hends, keepsInside_of_endsNames hends⟩

/-- A name that only begins like that of the open element closes it, and the next line loses its
white space. -/
theorem not_keepsInside_of_longer_name : ¬ KeepsInside "<pre>\n</prefix>\nx  \n</pre>" := by
  rintro ⟨position, hfound, -⟩
  have hline := hfound 2 "x  ".toList (by decide +kernel) (.inl (by decide +kernel))
  have hmem : "x  ".toList ∉ Text.splitOn '\n' (tidy "<pre>\n</prefix>\nx  \n</pre>").toList := by
    decide +kernel
  exact hmem (List.mem_of_getElem? hline)

end StaticSite
