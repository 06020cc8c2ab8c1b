import StaticSite.Proofs.Text.Search
import StaticSite.Text.Blank

/-!
# Cutting text at byte offsets

Text is kept in UTF-8 and cut at offsets that count its bytes. A cut behind the end of the text or
inside a character is a fault, with which the whole run ends. A cut succeeds at the offsets that are
positions of the text as a string, and at no others (`exists_cut_eq_pure_iff`). A loop is given a
number of rounds, and it is a fault too if these are not enough.

A reader goes through a text from front to back, so the text that is left to it is a rest of the
whole, and it stands at the offset of this rest. What the reader does there, cuts included, depends
on the rest alone (`seek_offsetOf`, `eat_offsetOf`, `span_offsetOf`).
-/

namespace StaticSite.Offset

open Text (byteLength byteLength_append breakOn? stripPrefix? startsWith spanOf)

variable {text front rest more pattern before after : List Char} {c : Char} {n : ℕ}

/-- Why a run has no result. -/
inductive Fault where
  /-- A text was cut behind its end. -/
  | beyondEnd
  /-- A text was cut inside a character. -/
  | insideCharacter
  /-- A loop was not over after its rounds. -/
  | unfinished
  deriving DecidableEq, Repr

/-- A run that may come to a fault. -/
abbrev Cutting := Except Fault

/-- The text before an offset and the text behind it. -/
def cut : ℕ → List Char → Cutting (List Char × List Char)
  | 0, text => pure ([], text)
  | _ + 1, [] => throw .beyondEnd
  | n + 1, c :: text =>
    if c.utf8Size ≤ n + 1 then
      (fun parts ↦ (c :: parts.1, parts.2)) <$> cut (n + 1 - c.utf8Size) text
    else throw .insideCharacter

/-- The text behind an offset. -/
def dropBytes (n : ℕ) (text : List Char) : Cutting (List Char) := Prod.snd <$> cut n text

/-- The text before an offset. -/
def takeBytes (n : ℕ) (text : List Char) : Cutting (List Char) := Prod.fst <$> cut n text

/-- The text between two offsets. -/
def slice (start stop : ℕ) (text : List Char) : Cutting (List Char) :=
  takeBytes stop text >>= dropBytes start

/-- The text with another one put in at an offset. -/
def insertAt (n : ℕ) (piece text : List Char) : Cutting (List Char) :=
  (fun parts ↦ parts.1 ++ piece ++ parts.2) <$> cut n text

/-! ## Where a text can be cut -/

theorem cut_add_utf8Size (n : ℕ) (c : Char) (text : List Char) :
    cut (c.utf8Size + n) (c :: text) =
      (fun parts ↦ (c :: parts.1, parts.2)) <$> cut n text := by
  obtain ⟨m, hm⟩ : ∃ m, c.utf8Size + n = m + 1 :=
    ⟨c.utf8Size + n - 1, by have := c.utf8Size_pos; omega⟩
  rw [hm, cut, if_pos (by omega), show m + 1 - c.utf8Size = n by omega]

/-- A text is cut behind a front of it at the length of the front. -/
@[simp] theorem cut_byteLength (front rest : List Char) :
    cut (byteLength front) (front ++ rest) = pure (front, rest) := by
  induction front with
  | nil => exact cut.eq_1 rest
  | cons c front ih =>
    rw [show byteLength (c :: front) = c.utf8Size + byteLength front from rfl, List.cons_append,
      cut_add_utf8Size, ih, map_pure]

/-- A run that is over has only one result. -/
theorem pure_injective {α : Type} : Function.Injective (pure : α → Cutting α) :=
  fun _ _ ↦ Except.ok.inj

private theorem exists_of_map_eq_pure {α β : Type} {f : α → β} {run : Cutting α} {b : β}
    (h : f <$> run = pure b) : ∃ a, run = pure a ∧ f a = b := by
  cases run with
  | error fault => cases h
  | ok a => exact ⟨a, rfl, pure_injective h⟩

theorem cut_eq_pure_iff :
    cut n text = pure (front, rest) ↔ text = front ++ rest ∧ n = byteLength front := by
  refine ⟨fun h ↦ ?_, fun ⟨htext, hn⟩ ↦ by rw [htext, hn, cut_byteLength]⟩
  induction text generalizing n front with
  | nil =>
    cases n with
    | zero =>
      obtain ⟨rfl, rfl⟩ := Prod.mk.inj (pure_injective h)
      exact ⟨rfl, rfl⟩
    | succ n => cases h
  | cons c text ih =>
    cases n with
    | zero =>
      obtain ⟨rfl, rfl⟩ := Prod.mk.inj (pure_injective h)
      exact ⟨rfl, rfl⟩
    | succ n =>
      rw [cut] at h
      split_ifs at h with hsize
      · obtain ⟨⟨front, rest⟩, hcut, hparts⟩ := exists_of_map_eq_pure h
        obtain ⟨rfl, rfl⟩ := Prod.mk.inj hparts
        obtain ⟨rfl, hn⟩ := ih hcut
        exact ⟨rfl, show n + 1 = c.utf8Size + byteLength front by omega⟩
      · cases h

/-- A text can be cut exactly at the positions between its characters. -/
theorem exists_cut_eq_pure_iff :
    (∃ parts, cut n text = pure parts) ↔ String.Pos.Raw.IsValid (String.ofList text) ⟨n⟩ := by
  simp only [Prod.exists, cut_eq_pure_iff, String.Pos.Raw.isValid_iff_exists_append]
  constructor
  · rintro ⟨front, rest, rfl, rfl⟩
    exact ⟨String.ofList front, String.ofList rest, String.ofList_append,
      by rw [Text.byteLength_eq_utf8ByteSize]; rfl⟩
  · rintro ⟨front, rest, htext, hn⟩
    refine ⟨front.toList, rest.toList, ?_, ?_⟩
    · simpa using congrArg String.toList htext
    · rw [Text.byteLength_eq_utf8ByteSize, String.ofList_toList]
      exact congrArg String.Pos.Raw.byteIdx hn

/-- The second letter takes up two bytes. -/
example : cut 2 "né".toList = throw .insideCharacter := rfl

@[simp] theorem dropBytes_byteLength (front rest : List Char) :
    dropBytes (byteLength front) (front ++ rest) = pure rest := by
  rw [dropBytes, cut_byteLength, map_pure]

@[simp] theorem takeBytes_byteLength (front rest : List Char) :
    takeBytes (byteLength front) (front ++ rest) = pure front := by
  rw [takeBytes, cut_byteLength, map_pure]

@[simp] theorem insertAt_byteLength (front rest piece : List Char) :
    insertAt (byteLength front) piece (front ++ rest) = pure (front ++ piece ++ rest) := by
  rw [insertAt, cut_byteLength, map_pure]

@[simp] theorem dropBytes_zero (text : List Char) : dropBytes 0 text = pure text :=
  dropBytes_byteLength [] text

/-! ## The offset of a rest -/

/-- The offset at which a rest of a text begins. -/
def offsetOf (text rest : List Char) : ℕ := byteLength text - byteLength rest

theorem offsetOf_append (front rest : List Char) :
    offsetOf (front ++ rest) rest = byteLength front := by
  rw [offsetOf, byteLength_append, Nat.add_sub_cancel]

@[simp] theorem offsetOf_self (text : List Char) : offsetOf text text = 0 := Nat.sub_self _

/-- A rest begins behind what it leaves of a longer one. -/
theorem offsetOf_suffix (h : front ++ rest <:+ text) :
    offsetOf text rest = offsetOf text (front ++ rest) + byteLength front := by
  obtain ⟨first, rfl⟩ := h
  rw [offsetOf_append, ← List.append_assoc, offsetOf_append, byteLength_append]

theorem offsetOf_cons (h : c :: rest <:+ text) :
    offsetOf text rest = offsetOf text (c :: rest) + c.utf8Size :=
  @offsetOf_suffix text [c] rest h

/-- Offsets in a rest are counted from the offset of the rest. -/
theorem offsetOf_add (hmore : more <:+ rest) (hrest : rest <:+ text) :
    offsetOf text rest + offsetOf rest more = offsetOf text more := by
  obtain ⟨front, rfl⟩ := hmore
  rw [offsetOf_suffix hrest, offsetOf_append]

theorem offsetOf_le_byteLength (text rest : List Char) : offsetOf text rest ≤ byteLength text :=
  Nat.sub_le _ _

theorem dropBytes_offsetOf (h : rest <:+ text) :
    dropBytes (offsetOf text rest) text = pure rest := by
  obtain ⟨front, rfl⟩ := h
  rw [offsetOf_append, dropBytes_byteLength]

/-- Between the offsets of two rests is what the longer one has before the shorter one. -/
theorem slice_offsetOf (h : front ++ rest <:+ text) :
    slice (offsetOf text (front ++ rest)) (offsetOf text rest) text = pure front := by
  rw [offsetOf_suffix h]
  obtain ⟨first, rfl⟩ := h
  rw [offsetOf_append, ← byteLength_append, ← List.append_assoc, slice, takeBytes_byteLength,
    pure_bind, dropBytes_byteLength]

/-! ## Reading at an offset -/

/-- The offset of the leftmost occurrence of a pattern. -/
def find? (pattern text : List Char) : Option ℕ :=
  (breakOn? pattern text).map fun parts ↦ byteLength parts.1

/-- The offset of the leftmost occurrence of a pattern behind a position. -/
def seek (pattern text : List Char) (position : ℕ) : Cutting (Option ℕ) :=
  (fun rest ↦ (find? pattern rest).map (position + ·)) <$> dropBytes position text

/-- The position behind a token, if the token stands at a position. -/
def eat (token text : List Char) (position : ℕ) : Cutting (Option ℕ) :=
  (fun rest ↦ if startsWith token rest then some (position + byteLength token) else none) <$>
    dropBytes position text

/-- The characters from a position on that pass a test, with the position behind them. -/
def span (p : Char → Bool) (text : List Char) (position : ℕ) : Cutting (List Char × ℕ) := do
  let rest ← dropBytes position text
  let length := byteLength (spanOf p rest).1
  let front ← takeBytes length rest
  pure (front, position + length)

/-- The position behind white space. -/
def skip (text : List Char) (position : ℕ) : Cutting ℕ :=
  Prod.snd <$> span Text.isBlank text position

theorem takeBytes_of_breakOn? (h : breakOn? pattern text = some (before, after)) :
    takeBytes (byteLength before) text = pure before := by
  rw [Text.breakOn?_append h, List.append_assoc, takeBytes_byteLength]

/-- What is behind an occurrence begins behind the text before it and the pattern. -/
theorem offsetOf_of_breakOn? (h : rest <:+ text)
    (hbreak : breakOn? pattern rest = some (before, after)) :
    offsetOf text after = offsetOf text rest + byteLength before + byteLength pattern := by
  rw [Text.breakOn?_append hbreak] at h ⊢
  rw [offsetOf_suffix h, byteLength_append, Nat.add_assoc]

theorem seek_offsetOf (h : rest <:+ text) :
    seek pattern text (offsetOf text rest) =
      pure ((breakOn? pattern rest).map fun parts ↦ offsetOf text (pattern ++ parts.2)) := by
  rw [seek, dropBytes_offsetOf h, map_pure, find?, Option.map_map]
  refine congrArg pure (Option.map_congr fun parts hparts ↦ ?_)
  have hrest := Text.breakOn?_append hparts
  rw [List.append_assoc] at hrest
  subst hrest
  exact (offsetOf_suffix h).symm

/-- A pattern is found where it stands. -/
theorem seek_append (h : pattern ++ after <:+ text) :
    seek pattern text (offsetOf text (pattern ++ after)) =
      pure (some (offsetOf text (pattern ++ after))) := by
  have hbreak : breakOn? pattern (pattern ++ after) = some ([], after) := by
    have hstrip := Text.stripPrefix?_append pattern after
    cases hwhole : pattern ++ after with
    | nil => rw [breakOn?, ← hwhole, hstrip, Option.map_some]
    | cons c rest => rw [breakOn?, ← hwhole, hstrip]
  rw [seek_offsetOf h, hbreak, Option.map_some]

/-- A search goes on behind a character at which no pattern begins. -/
theorem seek_cons (h : c :: rest <:+ text) (hpattern : ¬ pattern <+: c :: rest) :
    seek pattern text (offsetOf text (c :: rest)) = seek pattern text (offsetOf text rest) := by
  have hstrip := Text.stripPrefix?_eq_none_iff.mpr hpattern
  rw [seek_offsetOf h, seek_offsetOf ((List.suffix_cons c rest).trans h), breakOn?]
  simp only [hstrip, Option.map_map]
  rfl

/-- A search passes over characters with which the pattern does not begin. -/
theorem seek_append_of_notMem {chars : List Char} (h : chars ++ rest <:+ text) (hc : c ∉ chars) :
    seek (c :: pattern) text (offsetOf text (chars ++ rest)) =
      seek (c :: pattern) text (offsetOf text rest) := by
  induction chars with
  | nil => rfl
  | cons d chars ih =>
    rw [List.mem_cons, not_or] at hc
    have hpattern : ¬ c :: pattern <+: d :: (chars ++ rest) :=
      fun hprefix ↦ hc.1 (List.cons_prefix_cons.mp hprefix).1
    exact (seek_cons h hpattern).trans (ih ((List.suffix_cons _ _).trans h) hc.2)

theorem seek_nil (hpattern : pattern ≠ []) :
    seek pattern text (offsetOf text []) = pure none := by
  obtain ⟨c, pattern, rfl⟩ := List.exists_cons_of_ne_nil hpattern
  exact seek_offsetOf (List.nil_suffix)

theorem eat_offsetOf (h : rest <:+ text) (token : List Char) :
    eat token text (offsetOf text rest) =
      pure ((stripPrefix? token rest).map (offsetOf text)) := by
  rw [eat, dropBytes_offsetOf h, map_pure, startsWith]
  cases htoken : stripPrefix? token rest with
  | none => rfl
  | some more =>
    obtain rfl := Text.stripPrefix?_eq_some htoken
    exact congrArg (pure ∘ some) (offsetOf_suffix h).symm

theorem span_offsetOf (h : rest <:+ text) (p : Char → Bool) :
    span p text (offsetOf text rest) =
      pure ((spanOf p rest).1, offsetOf text (spanOf p rest).2) := by
  have hrest := Text.spanOf_append p rest
  simp only [span, dropBytes_offsetOf h, pure_bind]
  generalize spanOf p rest = parts at hrest ⊢
  subst hrest
  rw [takeBytes_byteLength, pure_bind, offsetOf_suffix h]

theorem skip_offsetOf (h : rest <:+ text) :
    skip text (offsetOf text rest) = pure (offsetOf text (rest.dropWhile Text.isBlank)) := by
  rw [skip, span_offsetOf h, map_pure, Text.spanOf_eq_takeWhile_dropWhile]

end StaticSite.Offset
