/-!
# Slices of text

Text is cut into lists of characters. The functions here look for a pattern, take it off the
front, split at it and join again; none of them loses a character. `breakOn?_append` states this
for the search on which the others rest.
-/

namespace StaticSite.Text

/-- The rest of the text after a pattern at its front. -/
def stripPrefix? : (pattern text : List Char) → Option (List Char)
  | [], text => some text
  | _ :: _, [] => none
  | p :: pattern, c :: text => if p = c then stripPrefix? pattern text else none

theorem stripPrefix?_eq_some {pattern text rest : List Char}
    (h : stripPrefix? pattern text = some rest) : text = pattern ++ rest := by
  induction pattern generalizing text with
  | nil => simpa [stripPrefix?] using h
  | cons p pattern ih =>
    cases text with
    | nil => simp [stripPrefix?] at h
    | cons c text =>
      by_cases hpc : p = c
      · simp only [stripPrefix?, hpc, if_true] at h
        simp [hpc, ih h]
      · simp [stripPrefix?, hpc] at h

theorem stripPrefix?_append (pattern rest : List Char) :
    stripPrefix? pattern (pattern ++ rest) = some rest := by
  induction pattern with
  | nil => rfl
  | cons p pattern ih => simp [stripPrefix?, ih]

/-- Whether the text begins with the pattern. -/
def startsWith (pattern text : List Char) : Bool := (stripPrefix? pattern text).isSome

/-- The text before and after the leftmost occurrence of a pattern. -/
def breakOn? (pattern : List Char) : List Char → Option (List Char × List Char)
  | [] => (stripPrefix? pattern []).map fun rest => ([], rest)
  | c :: text =>
    match stripPrefix? pattern (c :: text) with
    | some rest => some ([], rest)
    | none => (breakOn? pattern text).map fun (before, rest) => (c :: before, rest)

theorem breakOn?_append {pattern text before rest : List Char}
    (h : breakOn? pattern text = some (before, rest)) : text = before ++ pattern ++ rest := by
  induction text generalizing before with
  | nil =>
    simp only [breakOn?, Option.map_eq_some_iff, Prod.mk.injEq] at h
    obtain ⟨r, hr, rfl, rfl⟩ := h
    simpa using stripPrefix?_eq_some hr
  | cons c text ih =>
    simp only [breakOn?] at h
    split at h
    · next r hr =>
      simp only [Option.some.injEq, Prod.mk.injEq] at h
      obtain ⟨rfl, rfl⟩ := h
      simpa using stripPrefix?_eq_some hr
    · simp only [Option.map_eq_some_iff, Prod.mk.injEq, Prod.exists] at h
      obtain ⟨b, r, hb, rfl, rfl⟩ := h
      simp [ih hb]

/-- The text before and after the rightmost occurrence of a pattern. -/
def breakOnLast? (pattern : List Char) : List Char → Option (List Char × List Char)
  | [] => (stripPrefix? pattern []).map fun rest => ([], rest)
  | c :: text =>
    match breakOnLast? pattern text with
    | some (before, rest) => some (c :: before, rest)
    | none => (stripPrefix? pattern (c :: text)).map fun rest => ([], rest)

/-- Whether the pattern occurs in the text. -/
def contains (pattern text : List Char) : Bool := (breakOn? pattern text).isSome

/-- The fields between the separators, one more than there are separators. -/
def splitOn (separator : Char) : List Char → List (List Char)
  | [] => [[]]
  | c :: text =>
    if c = separator then [] :: splitOn separator text
    else
      match splitOn separator text with
      | [] => [[c]]
      | field :: fields => (c :: field) :: fields

/-- The pieces, with a separator between neighbours. -/
def joinWith (separator : List Char) : List (List Char) → List Char
  | [] => []
  | [piece] => piece
  | piece :: pieces => piece ++ separator ++ joinWith separator pieces

/-- Every occurrence of a nonempty pattern is replaced, from left to right and without overlap; the
number bounds the characters looked at. -/
def replaceWithin (pattern replacement : List Char) : Nat → List Char → List Char
  | 0, text => text
  | _, [] => []
  | n + 1, c :: text =>
    match stripPrefix? pattern (c :: text) with
    | some rest => replacement ++ replaceWithin pattern replacement n rest
    | none => c :: replaceWithin pattern replacement n text

/-- Every occurrence of a nonempty pattern is replaced. An empty pattern occurs before each
character and at the end. -/
def replaceAll (pattern replacement text : List Char) : List Char :=
  match pattern with
  | [] => replacement ++ text.flatMap fun c => c :: replacement
  | _ :: _ => replaceWithin pattern replacement text.length text

/-- The longest front of the text whose characters all satisfy the test, and the rest. -/
def spanOf (p : Char → Bool) : List Char → List Char × List Char
  | [] => ([], [])
  | c :: text =>
    if p c then
      let (front, rest) := spanOf p text
      (c :: front, rest)
    else ([], c :: text)

theorem spanOf_append (p : Char → Bool) (text : List Char) :
    (spanOf p text).1 ++ (spanOf p text).2 = text := by
  induction text with
  | nil => rfl
  | cons c text ih =>
    by_cases h : p c
    · simp [spanOf, h, ih]
    · simp [spanOf, h]

theorem length_spanOf_snd_le (p : Char → Bool) (text : List Char) :
    (spanOf p text).2.length ≤ text.length := by
  have h := congrArg List.length (spanOf_append p text)
  simp only [List.length_append] at h
  omega

/-- The number of bytes of the text in UTF-8. -/
def byteLength (text : List Char) : Nat := text.foldr (fun c n => c.utf8Size + n) 0

end StaticSite.Text
