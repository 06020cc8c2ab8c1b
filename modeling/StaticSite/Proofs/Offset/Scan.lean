import StaticSite.Marker.Token
import StaticSite.Proofs.Offset.Marker
import StaticSite.Proofs.Render.Skeleton

/-!
# Scans at byte offsets

The scans for markers as they run: each searches a text for two braces from a position on, reads
what begins there, and goes on behind it. Where no marker is read, the scans for template markers go
on behind the first brace (`tokensFrom_eq`, `spansFrom_eq`), and the one that fills a page behind
both (`filledFrom_eq`). So every position at which they cut the text is one where a rest of it
begins, and what they find is what the scans of lists of characters find.
-/

namespace StaticSite.Offset

open Marker
open Text (byteLength)

variable {text rest after : List Char} {c : Char} {marker : Meaning}
  {rounds : ℕ}

/-! ## Template markers -/

/-- The text between two positions as ordinary text, unless there is none. -/
def literalBetween (text : List Char) (start stop : ℕ) : Cutting (List Token) :=
  if start < stop then (fun chars ↦ [.literal (String.ofList chars)]) <$> slice start stop text
  else pure []

/-- The tokens from a position on, behind ordinary text that begins at an earlier one. -/
def tokensFrom (text : List Char) : ℕ → ℕ → ℕ → Cutting (List Token)
  | 0, _, _ => throw .unfinished
  | rounds + 1, literalStart, position => do
    match ← seek opening text position with
    | none => literalBetween text literalStart (byteLength text)
    | some start =>
      match ← markerAt text start with
      | none => tokensFrom text rounds literalStart (start + 1)
      | some (stop, marker) =>
        let literal ← literalBetween text literalStart start
        let tokens ← tokensFrom text rounds stop stop
        pure (literal ++ marker.toToken :: tokens)

/-- The markers from a position on, from left to right and without overlap. -/
def spansFrom (text : List Char) : ℕ → ℕ → Cutting (List Span)
  | 0, _ => throw .unfinished
  | rounds + 1, position => do
    match ← seek opening text position with
    | none => pure []
    | some start =>
      match ← markerAt text start with
      | none => spansFrom text rounds (start + 1)
      | some (stop, marker) =>
        let spans ← spansFrom text rounds stop
        pure (⟨start, stop, marker⟩ :: spans)

private theorem literalBetween_offsetOf {literal : List Char} (h : literal ++ rest <:+ text) :
    literalBetween text (offsetOf text (literal ++ rest)) (offsetOf text rest) =
      pure ((literalPiece literal).map Piece.token) := by
  rw [literalBetween, literalPiece, slice_offsetOf h, offsetOf_suffix h]
  by_cases hempty : literal = []
  · subst hempty
    exact if_neg (Nat.lt_irrefl _)
  · have hpos := mt Text.byteLength_eq_zero_iff.mp hempty
    rw [if_pos (by omega), map_pure, if_neg (by simpa using hempty)]
    rfl

theorem read?_suffix (h : read? rest = some (marker, after)) : after <:+ rest := by
  obtain ⟨source, -, rfl⟩ := read?_eq_some_iff.mp h
  exact List.suffix_append source after

/-- Where a marker is read, two braces stand, and the search finds them. -/
private theorem search_of_read? (h : rest <:+ text) (hread : read? rest = some (marker, after)) :
    seek opening text (offsetOf text rest) = pure (some (offsetOf text rest)) ∧
      markerAt text (offsetOf text rest) = pure (some (offsetOf text after, marker)) := by
  have hopening : opening <+: rest := by
    by_contra hopening
    rw [read?, Text.stripPrefix?_eq_none_iff.mpr hopening] at hread
    cases hread
  obtain ⟨body, rfl⟩ := hopening
  rw [markerAt_offsetOf h, hread]
  exact ⟨seek_append h, rfl⟩

/-- Where no marker is read, the search goes on behind the character that stands there. -/
private theorem search_of_read?_eq_none (h : c :: rest <:+ text)
    (hread : read? (c :: rest) = none) :
    seek opening text (offsetOf text (c :: rest)) = seek opening text (offsetOf text rest) ∨
      seek opening text (offsetOf text (c :: rest)) = pure (some (offsetOf text (c :: rest))) ∧
        markerAt text (offsetOf text (c :: rest)) = pure none ∧
        offsetOf text (c :: rest) + 1 = offsetOf text rest := by
  by_cases hopening : opening <+: c :: rest
  · obtain ⟨body, hbody⟩ := hopening
    obtain rfl : '\x7b' = c := (List.cons.inj hbody).1
    have hnext : offsetOf text rest = offsetOf text ('\x7b' :: rest) + 1 :=
      offsetOf_cons h
    rw [hnext]
    rw [← hbody] at h hread ⊢
    rw [markerAt_offsetOf h, hread]
    exact .inr ⟨seek_append h, rfl, rfl⟩
  · exact .inl (seek_cons h hopening)

/-- A loop that searches first depends only on what it finds. -/
private theorem tokensFrom_congr {literalStart position position' : ℕ}
    (h : seek opening text position = seek opening text position') :
    tokensFrom text rounds literalStart position =
      tokensFrom text rounds literalStart position' := by
  cases rounds with
  | zero => rfl
  | succ rounds => rw [tokensFrom, tokensFrom, h]

/-- Every round takes up a character, so as many are enough as there are characters, with one for
the end. -/
theorem tokensFrom_offsetOf {literal : List Char} (h : literal.reverse ++ rest <:+ text)
    (hrounds : rest.length < rounds) :
    tokensFrom text rounds (offsetOf text (literal.reverse ++ rest)) (offsetOf text rest) =
      pure ((piecesAfter literal rest).map Piece.token) := by
  fun_induction piecesAfter literal rest generalizing rounds with
  | case1 literal =>
    obtain ⟨rounds, rfl⟩ := Nat.exists_eq_add_one_of_ne_zero (Nat.ne_zero_of_lt hrounds)
    rw [tokensFrom, seek_nil (by decide), pure_bind]
    exact literalBetween_offsetOf h
  | case2 literal c rest marker after hread ih =>
    have hrest := (List.suffix_append _ _).trans h
    have hafter := (read?_suffix hread).trans hrest
    obtain ⟨hseek, hmarker⟩ := search_of_read? hrest hread
    obtain ⟨rounds, rfl⟩ := Nat.exists_eq_add_one_of_ne_zero (Nat.ne_zero_of_lt hrounds)
    have hlength : after.length < (c :: rest).length := length_of_read? hread
    have htokens : tokensFrom text rounds (offsetOf text after) (offsetOf text after) = _ :=
      ih hafter (by omega)
    rw [tokensFrom, hseek, pure_bind]
    simp only [hmarker, pure_bind, literalBetween_offsetOf h, htokens]
    simp
  | case3 literal c rest hread ih =>
    have hrest := (List.suffix_append _ _).trans h
    have hliteral : (c :: literal).reverse ++ rest = literal.reverse ++ c :: rest := by simp
    rw [hliteral] at ih
    rw [List.length_cons] at hrounds
    rcases search_of_read?_eq_none hrest hread with hseek | ⟨hseek, hmarker, hnext⟩
    · rw [tokensFrom_congr hseek, ih h (by omega)]
    · obtain ⟨rounds, rfl⟩ := Nat.exists_eq_add_one_of_ne_zero (Nat.ne_zero_of_lt hrounds)
      rw [tokensFrom, hseek, pure_bind]
      simp only [hmarker, pure_bind, hnext]
      exact ih h (by omega)

theorem tokensFrom_eq (text : String) :
    tokensFrom text.toList (text.toList.length + 1) 0 0 = pure (tokenize text) := by
  rw [← offsetOf_self text.toList]
  exact @tokensFrom_offsetOf text.toList text.toList _ [] List.suffix_rfl (Nat.lt_succ_self _)

private theorem spansFrom_congr {position position' : ℕ}
    (h : seek opening text position = seek opening text position') :
    spansFrom text rounds position = spansFrom text rounds position' := by
  cases rounds with
  | zero => rfl
  | succ rounds => rw [spansFrom, spansFrom, h]

theorem spansFrom_offsetOf (h : rest <:+ text) (hrounds : rest.length < rounds) :
    spansFrom text rounds (offsetOf text rest) = pure (scanFrom (offsetOf text rest) rest) := by
  generalize hposition : offsetOf text rest = position
  revert rounds
  fun_induction scanFrom position rest with
  | case1 position =>
    intro rounds hrounds
    obtain ⟨rounds, rfl⟩ := Nat.exists_eq_add_one_of_ne_zero (Nat.ne_zero_of_lt hrounds)
    rw [← hposition, spansFrom, seek_nil (by decide), pure_bind]
  | case2 position c rest marker after hread stop ih =>
    intro rounds hrounds
    obtain ⟨rounds, rfl⟩ := Nat.exists_eq_add_one_of_ne_zero (Nat.ne_zero_of_lt hrounds)
    have hlength : after.length < (c :: rest).length := length_of_read? hread
    have hstop : offsetOf text after = stop := by
      rw [← offsetOf_add (read?_suffix hread) h, hposition]
      rfl
    have hspans := ih ((read?_suffix hread).trans h) hstop (by omega : after.length < rounds)
    obtain ⟨hseek, hmarker⟩ := search_of_read? h hread
    rw [hposition] at hseek hmarker
    rw [spansFrom, hseek, pure_bind]
    simp only [hmarker, hstop, pure_bind, hspans]
  | case3 position c rest hread ih =>
    intro rounds hrounds
    rw [List.length_cons] at hrounds
    have hrest := (List.suffix_cons c rest).trans h
    have hnext : offsetOf text rest = position + c.utf8Size := hposition ▸ offsetOf_cons h
    rcases search_of_read?_eq_none h hread with hseek | ⟨hseek, hmarker, hone⟩
    · rw [← hposition, spansFrom_congr hseek, hposition, hnext, ih hrest hnext (by omega)]
    · obtain ⟨rounds, rfl⟩ := Nat.exists_eq_add_one_of_ne_zero (Nat.ne_zero_of_lt hrounds)
      rw [← hposition, spansFrom, hseek, pure_bind]
      simp only [hmarker, pure_bind, hone]
      rw [hposition, hnext, ih hrest hnext (by omega)]

theorem spansFrom_eq (text : String) :
    (fun spans ↦ spans.findSome? Span.reference?) <$>
      spansFrom text.toList (text.toList.length + 1) 0 = pure (findReference? text) := by
  rw [← offsetOf_self text.toList, spansFrom_offsetOf List.suffix_rfl (Nat.lt_succ_self _),
    map_pure, offsetOf_self]
  rfl

/-! ## Markers of a page -/

/-- The text from a position on, with the values of a context for its markers. -/
def filledFrom (context : PageContext) (text : List Char) :
    ℕ → ℕ → Cutting (Except RenderError (List Char))
  | 0, _ => throw .unfinished
  | rounds + 1, position => do
    match ← seek opening text position with
    | none => Except.ok <$> dropBytes position text
    | some start =>
      let rest ← dropBytes start text
      match ← renderMarkerAt rest with
      | some (length, name) =>
        match context.get? name with
        | none => pure (.error (.missingValue name))
        | some value =>
          let kept ← slice position start text
          let more ← filledFrom context text rounds (start + length)
          pure (more.map ((kept ++ value.display.toList) ++ ·))
      | none =>
        let kept ← slice position (start + 2) text
        let more ← filledFrom context text rounds (start + 2)
        pure (more.map (kept ++ ·))

section Filling

open Renderer

variable {context : PageContext} {name : String} {source : List Char}

/-- How the scan goes on at two braces, behind text that is kept. -/
private theorem filledFrom_opening (context : PageContext) (front : List Char)
    (h : front ++ (opening ++ rest) <:+ text)
    (hseek : seek opening text (offsetOf text (front ++ (opening ++ rest))) =
      pure (some (offsetOf text (opening ++ rest)))) :
    filledFrom context text (rounds + 1) (offsetOf text (front ++ (opening ++ rest))) =
      match readRenderMarker? (opening ++ rest) with
      | some (name, after) =>
        match context.get? name with
        | none => pure (.error (.missingValue name))
        | some value =>
          Except.map ((front ++ value.display.toList) ++ ·) <$>
            filledFrom context text rounds (offsetOf text after)
      | none =>
        Except.map ((front ++ opening) ++ ·) <$>
          filledFrom context text rounds (offsetOf text rest) := by
  have hrest := (List.suffix_append _ _).trans h
  have hstop : offsetOf text (opening ++ rest) + 2 = offsetOf text rest :=
    (offsetOf_suffix hrest).symm
  rw [filledFrom, hseek, pure_bind]
  simp only [dropBytes_offsetOf hrest, renderMarkerAt_eq, pure_bind]
  cases hread : readRenderMarker? (opening ++ rest) with
  | none =>
    have hkept : slice (offsetOf text (front ++ (opening ++ rest))) (offsetOf text rest) text =
        pure (front ++ opening) := by
      rw [← List.append_assoc] at h ⊢
      exact slice_offsetOf h
    simp only [Option.map_none, hstop, hkept, pure_bind, bind_pure_comp]
  | some found =>
    have hafter : found.2 <:+ opening ++ rest := by
      obtain ⟨source, -, hsource⟩ := readRenderMarker?_eq_some_iff.mp hread
      exact hsource ▸ List.suffix_append source found.2
    simp only [Option.map_some, offsetOf_add hafter hrest, slice_offsetOf h, pure_bind,
      bind_pure_comp]

/-- Text that is kept in two parts. -/
private theorem map_append_map_append (front more : List Char)
    (run : Cutting (Except RenderError (List Char))) :
    Except.map (front ++ ·) <$> Except.map (more ++ ·) <$> run =
      Except.map ((front ++ more) ++ ·) <$> run := by
  rw [Functor.map_map]
  refine congrArg (· <$> run) (funext fun result ↦ ?_)
  cases result with
  | error fault => rfl
  | ok chars => exact congrArg Except.ok (List.append_assoc front more chars).symm

/-- A character at which no two braces begin is kept. -/
private theorem filledFrom_cons (context : PageContext) (h : c :: rest <:+ text)
    (hopen : ¬ opening <+: c :: rest) :
    filledFrom context text rounds (offsetOf text (c :: rest)) =
      Except.map ([c] ++ ·) <$> filledFrom context text rounds (offsetOf text rest) := by
  cases rounds with
  | zero => rfl
  | succ rounds =>
    have hrest := (List.suffix_cons c rest).trans h
    have hbehind : seek opening text (offsetOf text rest) = _ := seek_offsetOf hrest
    have hseek := (seek_cons h hopen).trans hbehind
    cases hbreak : Text.breakOn? opening rest with
    | none =>
      rw [hbreak] at hbehind hseek
      rw [filledFrom, hseek, filledFrom, hbehind]
      simp only [Option.map_none, pure_bind, dropBytes_offsetOf h, dropBytes_offsetOf hrest,
        map_pure]
      rfl
    | some parts =>
      obtain ⟨before, after⟩ := parts
      obtain rfl : rest = before ++ (opening ++ after) :=
        (Text.breakOn?_append hbreak).trans (List.append_assoc _ _ _)
      rw [hbreak] at hbehind hseek
      have hstep : filledFrom context text (rounds + 1)
          (offsetOf text (c :: (before ++ (opening ++ after)))) = _ :=
        filledFrom_opening context (c :: before) h hseek
      rw [hstep, filledFrom_opening context before hrest hbehind]
      cases readRenderMarker? (opening ++ after) with
      | none => exact (map_append_map_append [c] (before ++ opening) _).symm
      | some found =>
        dsimp only
        cases context.get? found.1 with
        | none => rfl
        | some value => exact (map_append_map_append [c] (before ++ value.display.toList) _).symm

theorem filledFrom_offsetOf {skeleton : Skeleton} (hcuts : Cuts rest skeleton) (h : rest <:+ text)
    (hrounds : rest.length < rounds) :
    filledFrom context text rounds (offsetOf text rest) = pure (skeleton.filled context) := by
  induction hcuts generalizing rounds with
  | nil =>
    obtain ⟨rounds, rfl⟩ := Nat.exists_eq_add_one_of_ne_zero (Nat.ne_zero_of_lt hrounds)
    rw [filledFrom, seek_nil (by decide), pure_bind, dropBytes_offsetOf h]
    rfl
  | @char c rest skeleton hopen _ ih =>
    rw [List.length_cons] at hrounds
    have hfilled := ih ((List.suffix_cons c rest).trans h) (by omega : rest.length < rounds)
    rw [filledFrom_cons context h hopen, hfilled, map_pure, Skeleton.filled_keep]
  | @braces rest skeleton hread _ ih =>
    obtain ⟨rounds, rfl⟩ := Nat.exists_eq_add_one_of_ne_zero (Nat.ne_zero_of_lt hrounds)
    have hlength : rest.length < rounds := by
      simp only [opening, List.length_append, List.length_cons] at hrounds
      omega
    have hstep : filledFrom context text (rounds + 1) (offsetOf text (opening ++ rest)) = _ :=
      filledFrom_opening context [] h (seek_append h)
    rw [hstep, hread, ih ((List.suffix_append _ _).trans h) hlength, Skeleton.filled_keep]
    rfl
  | @marker name source rest skeleton hspells _ ih =>
    obtain ⟨body, rfl⟩ := hspells.opening_isPrefix
    have hread := readRenderMarker?_eq_some_iff.mpr
      ⟨_, hspells, (rfl : (opening ++ body) ++ rest = _)⟩
    have hrest := (List.suffix_append _ _).trans h
    obtain ⟨rounds, rfl⟩ := Nat.exists_eq_add_one_of_ne_zero (Nat.ne_zero_of_lt hrounds)
    have hlength : rest.length < rounds := by
      have hpos := hspells.length_pos
      rw [List.length_append] at hrounds
      omega
    rw [List.append_assoc] at h hread ⊢
    have hstep :
        filledFrom context text (rounds + 1) (offsetOf text (opening ++ (body ++ rest))) = _ :=
      filledFrom_opening context [] h (seek_append h)
    rw [hstep, hread, Skeleton.filled_behind]
    dsimp only
    rw [ih hrest hlength]
    cases context.get? name <;> rfl

theorem filledFrom_eq (body : String) (context : PageContext) :
    Except.map String.ofList <$> filledFrom context body.toList (body.toList.length + 1) 0 =
      pure (fillMarkers body context) := by
  obtain ⟨skeleton, hcuts⟩ := Cuts.exists_cuts body.toList
  rw [← offsetOf_self body.toList,
    filledFrom_offsetOf hcuts List.suffix_rfl (Nat.lt_succ_self _), map_pure, fillMarkers,
    hcuts.fillParts_bodyParts _ le_rfl]

end Filling

end StaticSite.Offset
