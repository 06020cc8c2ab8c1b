import Mathlib
import StaticSite.Text.Slice

/-!
# Searching text

What the functions on slices of text find, said without them: a pattern is taken off exactly when
it stands at the front, the span of a test is the longest front that passes it, and a search stops
at the leftmost occurrence. A front of a text is known by the number of its bytes.
-/

namespace StaticSite.Text

variable {p : Char → Bool} {pattern text before rest : List Char}

/-- A pattern is not taken off exactly when it is no prefix of the text. -/
theorem stripPrefix?_eq_none_iff : stripPrefix? pattern text = none ↔ ¬ pattern <+: text := by
  rw [Option.eq_none_iff_forall_ne_some]
  constructor
  · rintro h ⟨rest, rfl⟩
    exact h rest (stripPrefix?_append pattern rest)
  · rintro h rest hrest
    exact h ⟨rest, (stripPrefix?_eq_some hrest).symm⟩

theorem spanOf_eq_takeWhile_dropWhile (p : Char → Bool) (text : List Char) :
    spanOf p text = (text.takeWhile p, text.dropWhile p) := by
  induction text with
  | nil => rfl
  | cons c text ih =>
    by_cases hc : p c
    · simp [spanOf, hc, ih]
    · simp [spanOf, hc]

/-- Characters that pass a test are dropped, up to one that does not. -/
theorem dropWhile_append_of_all (hfront : ∀ c ∈ before, p c) (hrest : ∀ c ∈ rest.head?, p c = false) :
    (before ++ rest).dropWhile p = rest := by
  rw [List.dropWhile_append_of_pos hfront]
  cases rest with
  | nil => rfl
  | cons c rest => simp [hrest c rfl]

/-- The span of a test ends at the first character that does not pass it. -/
theorem spanOf_append_of_all (hfront : ∀ c ∈ before, p c) (hrest : ∀ c ∈ rest.head?, p c = false) :
    spanOf p (before ++ rest) = (before, rest) := by
  have htake : rest.takeWhile p = [] := by
    cases rest with
    | nil => rfl
    | cons c rest => simp [hrest c rfl]
  rw [spanOf_eq_takeWhile_dropWhile, dropWhile_append_of_all hfront hrest,
    List.takeWhile_append_of_pos hfront, htake, List.append_nil]

theorem all_spanOf_fst (p : Char → Bool) (text : List Char) : ∀ c ∈ (spanOf p text).1, p c := by
  rw [spanOf_eq_takeWhile_dropWhile]
  exact fun c hc ↦ List.mem_takeWhile_imp hc

/-- Whether a pattern begins before a place where it stands is told without its last character
there. -/
private theorem isPrefix_append_dropLast_iff (hbefore : before ≠ []) :
    pattern <+: before ++ pattern.dropLast ↔ pattern <+: before ++ pattern ++ rest := by
  have hcut : before ++ pattern.dropLast <+: before ++ pattern ++ rest :=
    ((List.prefix_append_right_inj _).mpr (List.dropLast_prefix _)).trans (List.prefix_append _ _)
  refine ⟨fun hstart ↦ hstart.trans hcut, fun hstart ↦ List.prefix_of_prefix_length_le hstart hcut ?_⟩
  have hpos := List.length_pos_iff.mpr hbefore
  rw [List.length_append, List.length_dropLast]
  omega

/-- A search finds the leftmost occurrence: none ends before the pattern that was found does. -/
theorem breakOn?_eq_some_iff (hpattern : pattern ≠ []) :
    breakOn? pattern text = some (before, rest) ↔
      text = before ++ pattern ++ rest ∧ ¬ pattern <:+: before ++ pattern.dropLast := by
  induction text generalizing before with
  | nil =>
    have hnone : stripPrefix? pattern [] = none := by
      rw [stripPrefix?_eq_none_iff]
      simpa using hpattern
    simp [breakOn?, hnone, hpattern]
  | cons c text ih =>
    have hshort : ¬ pattern <:+: pattern.dropLast := by
      intro hocc
      have hle := hocc.length_le
      have hpos := List.length_pos_iff.mpr hpattern
      rw [List.length_dropLast] at hle
      omega
    cases hstrip : stripPrefix? pattern (c :: text) with
    | some found =>
      have htext := stripPrefix?_eq_some hstrip
      simp only [breakOn?, hstrip, Option.some.injEq, Prod.mk.injEq]
      constructor
      · rintro ⟨rfl, rfl⟩
        exact ⟨by simpa using htext, by simpa using hshort⟩
      · rintro ⟨hsplit, hfirst⟩
        cases before with
        | nil =>
          refine ⟨rfl, ?_⟩
          rw [htext] at hsplit
          simpa using hsplit
        | cons b before =>
          -- The pattern at the front would be an occurrence further to the left.
          have hstart : pattern <+: b :: before ++ pattern ++ rest :=
            ⟨found, htext.symm.trans hsplit⟩
          exact absurd ((isPrefix_append_dropLast_iff (by simp)).mpr hstart).isInfix hfirst
    | none =>
      have hfront := stripPrefix?_eq_none_iff.mp hstrip
      simp only [breakOn?, hstrip, Option.map_eq_some_iff, Prod.exists, Prod.mk.injEq]
      constructor
      · rintro ⟨b, r, hfound, rfl, rfl⟩
        obtain ⟨htext, hfirst⟩ := ih.mp hfound
        refine ⟨by simp [htext], ?_⟩
        rw [List.cons_append, List.infix_cons_iff]
        rintro (hstart | hocc)
        · rw [htext] at hfront
          exact hfront ((isPrefix_append_dropLast_iff (List.cons_ne_nil c b)).mp hstart)
        · exact hfirst hocc
      · rintro ⟨hsplit, hfirst⟩
        cases before with
        | nil => exact absurd ⟨rest, hsplit.symm⟩ hfront
        | cons b before =>
          rw [List.cons_append, List.cons_append, List.cons.injEq] at hsplit
          obtain ⟨rfl, htext⟩ := hsplit
          refine ⟨before, rest, ih.mpr ⟨htext, fun hocc ↦ hfirst ?_⟩, rfl, rfl⟩
          rw [List.cons_append, List.infix_cons_iff]
          exact Or.inr hocc

/-! ## Bytes -/

theorem byteLength_eq_utf8ByteSize (text : List Char) :
    byteLength text = (String.ofList text).utf8ByteSize := by
  induction text with
  | nil => rfl
  | cons c text ih =>
    rw [String.ofList_cons, String.utf8ByteSize_append, String.utf8ByteSize_singleton, ← ih]
    rfl

theorem byteLength_append (front rest : List Char) :
    byteLength (front ++ rest) = byteLength front + byteLength rest := by
  simp only [byteLength_eq_utf8ByteSize, String.ofList_append, String.utf8ByteSize_append]

theorem byteLength_eq_zero_iff : byteLength text = 0 ↔ text = [] := by
  rw [byteLength_eq_utf8ByteSize, String.utf8ByteSize_eq_zero_iff, String.ofList_eq_empty_iff]

/-- A text has just one front of a given size. -/
theorem append_inj_of_byteLength {front front' rest' : List Char}
    (h : front ++ rest = front' ++ rest') (hlen : byteLength front = byteLength front') :
    front = front' ∧ rest = rest' := by
  rcases List.append_eq_append_iff.mp h with ⟨x, rfl, rfl⟩ | ⟨x, rfl, rfl⟩ <;>
  · rw [byteLength_append] at hlen
    obtain rfl : x = [] := byteLength_eq_zero_iff.mp (by omega)
    simp

end StaticSite.Text
