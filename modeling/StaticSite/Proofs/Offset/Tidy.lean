import StaticSite.Proofs.Offset.Cutting
import StaticSite.Proofs.Tidy.Element

/-!
# Open elements at byte offsets

Tidying looks for tags in a copy of each line in lower case, with a byte offset in this copy: at a
tag it goes on behind the name of the element. No tag begins in a name, so nothing is missed, and
the offsets are those of rests of the copy (`openFrom_offsetOf`). Only the copy is cut there, never
the line itself.
-/

namespace StaticSite.Offset

open Tidy
open Text (byteLength)

variable {text rest : List Char} {element : Element} {state : Option Element} {c : Char}
  {rounds : ℕ}

/-- The offset of the first start tag of an element from a position on. -/
def startTagFrom (element : Element) (text : List Char) : ℕ → ℕ → Cutting (Option ℕ)
  | 0, _ => throw .unfinished
  | rounds + 1, position => do
    match ← seek ('<' :: element.name) text position with
    | none => pure none
    | some start =>
      let behind := start + byteLength ('<' :: element.name)
      let rest ← dropBytes behind text
      if endsName rest then pure (some start) else startTagFrom element text rounds behind

/-- The offset of the first start tag of an element in a text. -/
def startTagIn (element : Element) (text : List Char) : Cutting (Option ℕ) :=
  startTagFrom element text (text.length + 1) 0

/-- The first of two start tags; one of preformatted text comes before another one at the same
offset. -/
def earlier : Option ℕ → Option ℕ → Option (ℕ × Element)
  | none, none => none
  | some i, none => some (i, .pre)
  | none, some j => some (j, .textarea)
  | some i, some j => if i ≤ j then some (i, .pre) else some (j, .textarea)

/-- The element open at the end of a line in lower case, given the one open at a position. -/
def openFrom (lower : List Char) : ℕ → Option Element → ℕ → Cutting (Option Element)
  | 0, _, _ => throw .unfinished
  | rounds + 1, some element, position => do
    match ← seek ('<' :: '/' :: element.name) lower position with
    | none => pure (some element)
    | some start => openFrom lower rounds none (start + (byteLength element.name + 2))
  | rounds + 1, none, position => do
    let rest ← dropBytes position lower
    let pre ← startTagIn .pre rest
    let textarea ← startTagIn .textarea rest
    match earlier pre textarea with
    | none => pure none
    | some (offset, element) =>
      openFrom lower rounds (some element) (position + (offset + (byteLength element.name + 1)))

/-- The element open at the end of a line, given the one open at its start. -/
def openPreformatted (line : List Char) (state : Option Element) : Cutting (Option Element) :=
  openFrom (Text.asciiLower line) ((Text.asciiLower line).length + 1) state 0

/-- The tidied lines. -/
def tidiedLines (state : State) : List (List Char) → Cutting (List Char)
  | [] => pure []
  | line :: rest => do
    let element ← openPreformatted line state.element
    if state.element.isSome || element.isSome then
      (emit state.blank line ++ ·) <$> tidiedLines ⟨element, true, false⟩ rest
    else
      let line := Text.trimEnd line
      if line.isEmpty then tidiedLines ⟨none, state.started, state.started⟩ rest
      else (emit state.blank line ++ ·) <$> tidiedLines ⟨none, true, false⟩ rest

/-! ## Start tags -/

/-- The offset of the first start tag of an element. -/
def startTag? (element : Element) : List Char → Option ℕ
  | [] => none
  | c :: text =>
    if opensWith element (c :: text) then some 0
    else (startTag? element text).map (c.utf8Size + ·)

/-- The offset of the first start tag, with its element. -/
def firstTag? : List Char → Option (ℕ × Element)
  | [] => none
  | c :: text =>
    if opensWith .pre (c :: text) then some (0, .pre)
    else if opensWith .textarea (c :: text) then some (0, .textarea)
    else (firstTag? text).map fun (offset, element) ↦ (c.utf8Size + offset, element)

theorem notMem_name (element : Element) : '<' ∉ element.name := by
  cases element <;> decide

/-- A loop that searches first depends only on what it finds. -/
private theorem startTagFrom_congr {position position' : ℕ}
    (h : seek ('<' :: element.name) text position = seek ('<' :: element.name) text position') :
    startTagFrom element text rounds position = startTagFrom element text rounds position' := by
  cases rounds with
  | zero => rfl
  | succ rounds => rw [startTagFrom, startTagFrom, h]

/-- Behind a tag the search for start tags may as well go on with the name of the tag. -/
private theorem startTagFrom_name (h : element.name ++ rest <:+ text) :
    startTagFrom element text rounds (offsetOf text (element.name ++ rest)) =
      startTagFrom element text rounds (offsetOf text rest) :=
  startTagFrom_congr (seek_append_of_notMem h (notMem_name element))

private theorem opensWith_name (element : Element) (rest : List Char) :
    opensWith element ('<' :: (element.name ++ rest)) = endsName rest := by
  rw [opensWith, ← List.cons_append, Text.stripPrefix?_append]

theorem startTagFrom_offsetOf (h : rest <:+ text) (hrounds : rest.length < rounds) :
    startTagFrom element text rounds (offsetOf text rest) =
      pure ((startTag? element rest).map (offsetOf text rest + ·)) := by
  induction rest generalizing rounds with
  | nil =>
    obtain ⟨rounds, rfl⟩ := Nat.exists_eq_add_one_of_ne_zero (Nat.ne_zero_of_lt hrounds)
    rw [startTagFrom, seek_nil (List.cons_ne_nil _ _), pure_bind]
    rfl
  | cons c rest ih =>
    have hrest := (List.suffix_cons c rest).trans h
    -- Without a start tag at this character, the first one is the first one behind it.
    have hnext (hopens : opensWith element (c :: rest) = false) {rounds : ℕ}
        (hrounds : rest.length < rounds) :
        startTagFrom element text rounds (offsetOf text rest) =
          pure ((startTag? element (c :: rest)).map (offsetOf text (c :: rest) + ·)) := by
      rw [ih hrest hrounds, startTag?, hopens, if_neg Bool.false_ne_true, Option.map_map,
        offsetOf_cons h]
      exact congrArg pure (Option.map_congr fun i _ ↦ Nat.add_assoc _ _ _)
    by_cases hname : '<' :: element.name <+: c :: rest
    · obtain ⟨after, hafter⟩ := hname
      rw [List.cons_append] at hafter
      obtain ⟨rfl, rfl⟩ := List.cons.inj hafter
      have hopens := opensWith_name element after
      have hseek : seek ('<' :: element.name) text
          (offsetOf text ('<' :: (element.name ++ after))) =
          pure (some (offsetOf text ('<' :: (element.name ++ after)))) := seek_append h
      have hbehind : offsetOf text after = offsetOf text ('<' :: (element.name ++ after)) +
          byteLength ('<' :: element.name) := @offsetOf_suffix text ('<' :: element.name) after h
      have hdrop := dropBytes_offsetOf ((List.suffix_append _ _).trans hrest)
      obtain ⟨rounds, rfl⟩ := Nat.exists_eq_add_one_of_ne_zero (Nat.ne_zero_of_lt hrounds)
      rw [startTagFrom, hseek, pure_bind]
      simp only [← hbehind, hdrop, pure_bind]
      split_ifs with hends
      · simp [startTag?, hopens, hends]
      · rw [← startTagFrom_name hrest,
          hnext (by rw [hopens]; simpa using hends) (by simpa using hrounds)]
    · have hopens : opensWith element (c :: rest) = false := by
        rw [opensWith, Text.stripPrefix?_eq_none_iff.mpr hname]
      rw [startTagFrom_congr (seek_cons h hname),
        hnext hopens (Nat.lt_of_succ_lt hrounds)]

theorem startTagIn_eq (element : Element) (text : List Char) :
    startTagIn element text = pure (startTag? element text) := by
  rw [startTagIn, ← offsetOf_self text,
    startTagFrom_offsetOf List.suffix_rfl (Nat.lt_succ_self _), offsetOf_self]
  simp

theorem earlier_map_add (n : ℕ) (i j : Option ℕ) :
    earlier (i.map (n + ·)) (j.map (n + ·)) =
      (earlier i j).map fun (offset, element) ↦ (n + offset, element) := by
  cases i <;> cases j <;> simp [earlier, apply_ite]

theorem earlier_zero (j : Option ℕ) : earlier (some 0) j = some (0, .pre) := by
  cases j <;> simp [earlier]

theorem earlier_startTag? (text : List Char) :
    earlier (startTag? .pre text) (startTag? .textarea text) = firstTag? text := by
  induction text with
  | nil => rfl
  | cons c text ih =>
    rw [startTag?, startTag?, firstTag?]
    split_ifs with hpre htextarea htextarea
    · exact earlier_zero _
    · exact earlier_zero _
    · cases startTag? .pre text with
      | none => rfl
      | some i =>
        have hpos := c.utf8Size_pos
        exact if_neg (show ¬ c.utf8Size + i ≤ 0 by omega)
    · rw [earlier_map_add, ih]

/-! ## Open elements -/

/-- How the search goes on where no element is open. -/
private theorem openFrom_none (h : rest <:+ text) :
    openFrom text (rounds + 1) none (offsetOf text rest) =
      match firstTag? rest with
      | none => pure none
      | some (offset, element) =>
        openFrom text rounds (some element)
          (offsetOf text rest + (offset + (byteLength element.name + 1))) := by
  rw [openFrom]
  simp only [dropBytes_offsetOf h, startTagIn_eq, pure_bind, earlier_startTag?]

/-- The search may begin anywhere in front of the first start tag. -/
private theorem openFrom_none_append {front : List Char} (h : front ++ rest <:+ text)
    (hfirst : firstTag? (front ++ rest) =
      (firstTag? rest).map fun (offset, element) ↦ (byteLength front + offset, element)) :
    openFrom text rounds none (offsetOf text (front ++ rest)) =
      openFrom text rounds none (offsetOf text rest) := by
  cases rounds with
  | zero => rfl
  | succ rounds =>
    have hrest := (List.suffix_append _ _).trans h
    rw [openFrom_none h, openFrom_none hrest, hfirst, offsetOf_suffix h]
    cases firstTag? rest with
    | none => rfl
    | some found => simp only [Option.map_some, Nat.add_assoc]

theorem firstTag?_append_of_notMem {chars : List Char} (h : '<' ∉ chars) (text : List Char) :
    firstTag? (chars ++ text) =
      (firstTag? text).map fun (offset, element) ↦ (byteLength chars + offset, element) := by
  induction chars with
  | nil => simp [byteLength]
  | cons c chars ih =>
    rw [List.mem_cons, not_or] at h
    rw [List.cons_append, firstTag?, opensWith_cons_of_ne (Ne.symm h.1),
      opensWith_cons_of_ne (Ne.symm h.1), ih h.2, if_neg Bool.false_ne_true,
      if_neg Bool.false_ne_true, Option.map_map]
    exact Option.map_congr fun found _ ↦ congrArg (·, found.2) (Nat.add_assoc _ _ _).symm

private theorem openFrom_some_congr {position position' : ℕ}
    (h : seek ('<' :: '/' :: element.name) text position =
      seek ('<' :: '/' :: element.name) text position') :
    openFrom text rounds (some element) position =
      openFrom text rounds (some element) position' := by
  cases rounds with
  | zero => rfl
  | succ rounds => rw [openFrom, openFrom, h]

/-- Behind a tag the search may as well go on with the name of the tag. -/
private theorem openFrom_append_of_notMem {chars : List Char} (h : chars ++ rest <:+ text)
    (hchars : '<' ∉ chars) :
    openFrom text rounds state (offsetOf text (chars ++ rest)) =
      openFrom text rounds state (offsetOf text rest) := by
  cases state with
  | none => exact openFrom_none_append h (firstTag?_append_of_notMem hchars rest)
  | some element => exact openFrom_some_congr (seek_append_of_notMem h hchars)

/-- Behind a start tag its element is open. -/
private theorem openFrom_opensWith (h : c :: rest <:+ text)
    (hopens : opensWith element (c :: rest)) :
    openFrom text rounds (some element)
        (offsetOf text (c :: rest) + (0 + (byteLength element.name + 1))) =
      openFrom text rounds (some element) (offsetOf text rest) := by
  obtain ⟨after, hafter, -⟩ := opensWith_iff.mp hopens
  rw [List.cons_append] at hafter
  obtain ⟨rfl, rfl⟩ := List.cons.inj hafter
  have hrest := (List.suffix_cons _ _).trans h
  have hbehind : offsetOf text ('<' :: (element.name ++ after)) +
      (0 + (byteLength element.name + 1)) = offsetOf text after := by
    rw [offsetOf_suffix hrest, offsetOf_cons h, show '<'.utf8Size = 1 from rfl]
    omega
  rw [hbehind, openFrom_append_of_notMem hrest (notMem_name element)]

/-- Behind an end tag no element is open. -/
private theorem openFrom_closesWith (h : c :: rest <:+ text)
    (hcloses : closesWith element (c :: rest)) :
    openFrom text (rounds + 1) (some element) (offsetOf text (c :: rest)) =
      openFrom text rounds none (offsetOf text rest) := by
  obtain ⟨after, hafter⟩ := closesWith_iff.mp hcloses
  rw [List.cons_append] at hafter
  obtain ⟨rfl, rfl⟩ := List.cons.inj hafter
  have hrest := (List.suffix_cons _ _).trans h
  have hseek : seek ('<' :: '/' :: element.name) text
      (offsetOf text ('<' :: ('/' :: element.name ++ after))) =
        pure (some (offsetOf text ('<' :: ('/' :: element.name ++ after)))) := seek_append h
  have hbehind : offsetOf text ('<' :: ('/' :: element.name ++ after)) +
      (byteLength element.name + 2) = offsetOf text after := by
    rw [offsetOf_suffix hrest, offsetOf_cons h, show '<'.utf8Size = 1 from rfl,
      show byteLength ('/' :: element.name) = 1 + byteLength element.name from rfl]
    omega
  rw [openFrom]
  simp only [hseek, pure_bind, hbehind]
  exact (openFrom_append_of_notMem hrest (by simp [notMem_name])).symm

theorem openFrom_offsetOf (h : rest <:+ text) (hrounds : rest.length < rounds) :
    openFrom text rounds state (offsetOf text rest) = pure (openAfter state rest) := by
  induction rest generalizing state rounds with
  | nil =>
    obtain ⟨rounds, rfl⟩ := Nat.exists_eq_add_one_of_ne_zero (Nat.ne_zero_of_lt hrounds)
    cases state with
    | none =>
      rw [openFrom_none h]
      rfl
    | some element =>
      rw [openFrom]
      simp only [seek_nil (List.cons_ne_nil _ _), pure_bind]
      rfl
  | cons c rest ih =>
    have hrest := (List.suffix_cons c rest).trans h
    obtain ⟨rounds, rfl⟩ := Nat.exists_eq_add_one_of_ne_zero (Nat.ne_zero_of_lt hrounds)
    have hlength : rest.length < rounds := by simpa using hrounds
    cases state with
    | none =>
      rw [openAfter]
      split_ifs with hpre htextarea
      · rw [openFrom_none h, firstTag?, if_pos hpre]
        exact (openFrom_opensWith h hpre).trans (ih hrest hlength)
      · rw [openFrom_none h, firstTag?, if_neg hpre, if_pos htextarea]
        exact (openFrom_opensWith h htextarea).trans (ih hrest hlength)
      · have hfirst : firstTag? (c :: rest) = _ := (if_neg hpre).trans (if_neg htextarea)
        rw [show openFrom text (rounds + 1) none (offsetOf text (c :: rest)) = _ from
          @openFrom_none_append _ _ _ [c] h hfirst, ih hrest (Nat.lt_succ_of_lt hlength)]
    | some element =>
      rw [openAfter]
      split_ifs with hcloses
      · rw [openFrom_closesWith h hcloses, ih hrest hlength]
      · rw [openFrom_some_congr (seek_cons h (mt closesWith_iff.mpr hcloses)),
          ih hrest (Nat.lt_succ_of_lt hlength)]

theorem openPreformatted_eq (line : List Char) (state : Option Element) :
    openPreformatted line state = pure (openAfter state (Text.asciiLower line)) := by
  rw [openPreformatted, ← offsetOf_self (Text.asciiLower line)]
  exact openFrom_offsetOf List.suffix_rfl (Nat.lt_succ_self _)

theorem tidiedLines_eq (state : State) (lines : List (List Char)) :
    tidiedLines state lines = pure (tidyLines state lines) := by
  induction lines generalizing state with
  | nil => rfl
  | cons line rest ih =>
    rw [tidiedLines, tidyLines, openPreformatted_eq, pure_bind]
    simp only [ih, map_pure]
    split_ifs <;> rfl

theorem tidiedLines_lines (text : String) :
    String.ofList <$> tidiedLines ⟨none, false, false⟩ (Text.lines text.toList) =
      pure (tidy text) := by
  rw [tidiedLines_eq, map_pure]
  rfl

end StaticSite.Offset
