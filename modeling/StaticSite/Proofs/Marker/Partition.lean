import StaticSite.Marker.Token
import StaticSite.Proofs.Marker.Grammar
import StaticSite.Proofs.Text.Table

/-!
# Cutting text into tokens

The pieces of a text cover it without gaps (`flatMap_source_pieces`). A literal piece holds no
marker at any of its positions, and any other piece is the spelling of its marker
(`isCut_of_mem_pieces`). So a text is ordinary as a whole exactly when no marker can be read
anywhere in it (`isPlain_iff`). The search for the leftmost reference passes over the same text as the
cutting (`findReference?_eq_firstReference?`), so it finds none exactly when no token is a reference
(`findReference?_eq_none_iff`).
-/

namespace StaticSite.Marker

/-- A text in which no marker can be read at any position. -/
def IsPlain (text : List Char) : Prop := ∀ v, v <:+ text → read? v = none

/-- How a piece can come about: as ordinary text or as the text of a marker. -/
inductive Piece.IsCut : Piece → Prop
  | literal {source : List Char} (ne_nil : source ≠ []) (plain : IsPlain source) :
      IsCut ⟨source, .literal (String.ofList source)⟩
  | marker {source : List Char} {marker : Meaning} (spells : Spells marker source) :
      IsCut ⟨source, marker.toToken⟩

variable {text : List Char}

theorem read?_nil : read? [] = none := rfl

/-- A text without opening braces is plain. -/
theorem isPlain_of_not_mem (h : '\x7b' ∉ text) : IsPlain text := by
  intro v hv
  rw [Option.eq_none_iff_forall_ne_some]
  rintro ⟨marker, rest⟩ hread
  obtain ⟨source, hspells, rfl⟩ := read?_eq_some_iff.mp hread
  obtain ⟨body, rfl⟩ := hspells.head_eq
  exact h (hv.subset (by simp))

theorem IsPlain.cons {c : Char} (h : IsPlain text) (hread : read? (c :: text) = none) :
    IsPlain (c :: text) := by
  intro v hv
  rcases List.suffix_cons_iff.mp hv with rfl | hv
  · exact hread
  · exact h v hv

/-- Text without opening braces keeps what follows it plain. -/
theorem IsPlain.append_of_notMem {chars : List Char} (h : IsPlain text) (hchars : '\x7b' ∉ chars) :
    IsPlain (chars ++ text) := by
  induction chars with
  | nil => exact h
  | cons c chars ih =>
    rw [List.mem_cons, not_or] at hchars
    refine (ih hchars.2).cons (Option.eq_none_iff_forall_ne_some.mpr ?_)
    rintro ⟨marker, rest⟩ hread
    obtain ⟨source, hspells, hsource⟩ := read?_eq_some_iff.mp hread
    obtain ⟨body, rfl⟩ := hspells.head_eq
    exact hchars.1 (List.cons.inj hsource).1.symm

/-- A text is plain when none of its positions begins a marker of a longer text. -/
theorem isPlain_of_append {more : List Char}
    (h : ∀ v, v ≠ [] → v <:+ text → read? (v ++ more) = none) : IsPlain text := by
  intro v hv
  by_cases hnil : v = []
  · rw [hnil, read?_nil]
  · rw [Option.eq_none_iff_forall_ne_some]
    rintro ⟨marker, rest⟩ hread
    simpa [read?_append hread] using h v hnil hv

/-- The text that a marker was read off is what its piece holds. -/
theorem take_eq_source {c : Char} {source rest : List Char}
    (h : c :: text = source ++ rest) :
    (c :: text).take (text.length + 1 - rest.length) = source := by
  have hlen : text.length + 1 - rest.length = source.length := by
    have := congrArg List.length h
    simp only [List.length_cons, List.length_append] at this
    omega
  rw [hlen, h, List.take_left]

theorem flatMap_source_literalPiece (source : List Char) :
    (literalPiece source).flatMap Piece.source = source := by
  unfold literalPiece
  split_ifs with h
  · simpa using h.symm
  · simp

private theorem flatMap_source_piecesAfter (literal text : List Char) :
    (piecesAfter literal text).flatMap Piece.source = literal.reverse ++ text := by
  fun_induction piecesAfter literal text with
  | case1 literal => simpa using flatMap_source_literalPiece literal.reverse
  | case2 literal c text marker rest h ih =>
    obtain ⟨source, -, hsource⟩ := read?_eq_some_iff.mp h
    rw [List.flatMap_append, List.flatMap_cons, flatMap_source_literalPiece, ih,
      take_eq_source hsource, hsource, List.reverse_nil, List.nil_append]
  | case3 literal c text h ih => simpa using ih

/-- The pieces of a text cover it from its start to its end. -/
theorem flatMap_source_pieces (text : List Char) : (pieces text).flatMap Piece.source = text :=
  flatMap_source_piecesAfter [] text

theorem source_isInfix_of_mem_pieces {piece : Piece} (h : piece ∈ pieces text) :
    piece.source <:+: text := by
  obtain ⟨before, after, hsplit⟩ := List.append_of_mem h
  rw [← flatMap_source_pieces text, hsplit]
  exact ⟨before.flatMap Piece.source, after.flatMap Piece.source, by simp⟩

private theorem isCut_of_mem_literalPiece {source : List Char} (hplain : IsPlain source)
    {piece : Piece} (h : piece ∈ literalPiece source) : piece.IsCut := by
  unfold literalPiece at h
  split_ifs at h with hempty
  · simp at h
  · rw [List.mem_singleton.mp h]
    exact .literal (by simpa using hempty) hplain

private theorem isCut_of_mem_piecesAfter {literal text : List Char}
    (hliteral : ∀ v, v ≠ [] → v <:+ literal.reverse → read? (v ++ text) = none)
    {piece : Piece} (h : piece ∈ piecesAfter literal text) : piece.IsCut := by
  fun_induction piecesAfter literal text with
  | case1 literal => exact isCut_of_mem_literalPiece (isPlain_of_append hliteral) h
  | case2 literal c text marker rest hread ih =>
    obtain ⟨source, hspells, hsource⟩ := read?_eq_some_iff.mp hread
    rw [List.mem_append, List.mem_cons, take_eq_source hsource] at h
    rcases h with h | rfl | h
    · exact isCut_of_mem_literalPiece (isPlain_of_append hliteral) h
    · exact .marker hspells
    · exact ih (fun v hnil hv ↦ absurd (List.suffix_nil.mp hv) hnil) h
  | case3 literal c text hread ih =>
    refine ih (fun v hnil hv ↦ ?_) h
    rw [List.reverse_cons, List.suffix_concat_iff] at hv
    rcases hv with rfl | ⟨u, rfl, hu⟩
    · exact absurd rfl hnil
    · by_cases hu' : u = []
      · simpa [hu'] using hread
      · simpa using hliteral u hu' hu

/-- Every piece is ordinary text without markers or the spelling of a marker. -/
theorem isCut_of_mem_pieces {piece : Piece} (h : piece ∈ pieces text) : piece.IsCut :=
  isCut_of_mem_piecesAfter (fun _ hnil hv ↦ absurd (List.suffix_nil.mp hv) hnil) h

theorem Meaning.toToken_injective : Function.Injective Meaning.toToken := by
  rintro (r | p) (r' | p') h <;> cases h <;> rfl

/-- The piece of a marker holds its spelling. -/
theorem Piece.IsCut.spells {piece : Piece} {marker : Meaning} (h : piece.IsCut)
    (htoken : piece.token = marker.toToken) : Spells marker piece.source := by
  cases h with
  | literal => cases marker <;> cases htoken
  | marker hspells => exact Meaning.toToken_injective htoken ▸ hspells

/-- A marker among the tokens of a text is spelled in the text. -/
theorem exists_spells_of_mem_tokenize {text : String} (marker : Meaning)
    (h : marker.toToken ∈ tokenize text) :
    ∃ source, Spells marker source ∧ source <:+: text.toList := by
  obtain ⟨piece, hpiece, htoken⟩ := List.mem_map.mp h
  exact ⟨piece.source, (isCut_of_mem_pieces hpiece).spells htoken,
    source_isInfix_of_mem_pieces hpiece⟩

/-! ## Plain texts -/

private theorem piecesAfter_of_isPlain {literal text : List Char} (h : IsPlain text) :
    piecesAfter literal text = literalPiece (literal.reverse ++ text) := by
  fun_induction piecesAfter literal text with
  | case1 literal => simp
  | case2 literal c text marker rest hread ih => simp [h _ List.suffix_rfl] at hread
  | case3 literal c text hread ih =>
    rw [ih fun v hv ↦ h v (hv.trans (List.suffix_cons c text))]
    simp

private theorem isPlain_of_forall_piecesAfter (literal : List Char) {text : List Char}
    (h : ∀ piece ∈ piecesAfter literal text, ∃ s, piece.token = .literal s) : IsPlain text := by
  fun_induction piecesAfter literal text with
  | case1 literal =>
    intro v hv
    rw [List.suffix_nil.mp hv, read?_nil]
  | case2 literal c text marker rest hread ih =>
    obtain ⟨s, hs⟩ := h _ (List.mem_append_right _ List.mem_cons_self)
    cases marker <;> simp [Meaning.toToken] at hs
  | case3 literal c text hread ih =>
    intro v hv
    rcases List.suffix_cons_iff.mp hv with rfl | hv
    · exact hread
    · exact ih h v hv

/-- A text is plain exactly when all of its tokens are ordinary text. -/
theorem isPlain_iff {text : String} :
    IsPlain text.toList ↔ ∀ token ∈ tokenize text, ∃ s, token = .literal s := by
  constructor
  · intro h token htoken
    rw [tokenize, pieces, piecesAfter_of_isPlain h, List.mem_map] at htoken
    obtain ⟨piece, hpiece, rfl⟩ := htoken
    unfold literalPiece at hpiece
    split_ifs at hpiece
    · simp at hpiece
    · rw [List.mem_singleton.mp hpiece]
      exact ⟨_, rfl⟩
  · intro h
    refine isPlain_of_forall_piecesAfter [] fun piece hpiece ↦ ?_
    exact h piece.token (List.mem_map_of_mem hpiece)

/-- A text that begins with a marker has this marker for its first token. -/
theorem tokenize_cons_of_read? {text : String} {marker : Meaning} {rest : List Char}
    (h : read? text.toList = some (marker, rest)) :
    tokenize text = marker.toToken :: tokenize (String.ofList rest) := by
  rw [tokenize, tokenize, pieces, pieces, String.toList_ofList]
  generalize text.toList = chars at h
  cases chars with
  | nil => simp [read?_nil] at h
  | cons c chars =>
    rw [piecesAfter]
    split
    · next found rest' hfound =>
      obtain ⟨rfl, rfl⟩ := Prod.mk.inj (Option.some.inj (hfound.symm.trans h))
      simp [literalPiece]
    · next hnone => simp [hnone] at h

/-- A text that is a marker has this marker for its only token. -/
theorem tokenize_of_read? {text : String} {marker : Meaning}
    (h : read? text.toList = some (marker, [])) : tokenize text = [marker.toToken] := by
  rw [tokenize_cons_of_read? h]
  simp [tokenize, pieces, piecesAfter, literalPiece]

/-- A plain text is a single token, or none if it is empty. -/
theorem tokenize_of_isPlain {text : String} (h : IsPlain text.toList) :
    tokenize text = if text = "" then [] else [.literal text] := by
  rw [tokenize, pieces, piecesAfter_of_isPlain h]
  unfold literalPiece
  by_cases hempty : text = "" <;> simp [hempty]

/-! ## Tokens -/

/-- What every token of a text satisfies: ordinary text is not empty and holds no marker, values of
parameters hold no braces, and names and fallbacks of placeholders are spelled as such. -/
def Token.WellFormed : Token → Prop
  | .literal s => s ≠ "" ∧ IsPlain s.toList
  | .reference r => ∀ param ∈ r.params, ∀ c ∈ param.2.toList, isSegmentChar c
  | .placeholder p => (∀ c ∈ p.name.toList, isIdentifierChar c) ∧
      ∀ fallback ∈ p.fallback, ¬ tripleClosing <:+: fallback.toList

private theorem trim_isInfix (text : List Char) : Text.trim text <:+: text := by
  have hstart : Text.trimStart text <:+ text := List.dropWhile_suffix _
  have hend : (Text.trimStart text).reverse.dropWhile Text.isBlank <:+
      (Text.trimStart text).reverse := List.dropWhile_suffix _
  have hcut : Text.trim text <+: Text.trimStart text := by
    have := List.reverse_prefix.mpr hend
    rwa [List.reverse_reverse] at this
  exact hcut.isInfix.trans hstart.isInfix

private theorem isSegmentChar_of_mem_addParams {params : Table String} {segments : List Segment}
    (hparams : ∀ param ∈ params, ∀ c ∈ param.2.toList, isSegmentChar c)
    (hsegments : ∀ segment ∈ segments, segment.WellFormed) :
    ∀ param ∈ addParams params segments, ∀ c ∈ param.2.toList, isSegmentChar c := by
  induction segments generalizing params with
  | nil => exact hparams
  | cons segment segments ih =>
    refine ih (fun param hparam c hc ↦ ?_) fun s hs ↦ hsegments s (List.mem_cons_of_mem _ hs)
    rcases Table.mem_insert hparam with rfl | hparam
    · have hvalue : c ∈ Text.trim segment.value := by simpa [Segment.param] using hc
      exact (hsegments segment List.mem_cons_self).value_chars c ((trim_isInfix _).subset hvalue)
    · exact hparams param hparam c hc

theorem SpellsReference.wellFormed {r : Reference} {source : List Char}
    (h : SpellsReference r source) : (Token.reference r).WellFormed := by
  obtain @⟨before, name, after, segments, -, -, -, -, hwf⟩ := h
  exact isSegmentChar_of_mem_addParams (by simp) hwf

theorem SpellsPlaceholder.wellFormed {p : Placeholder} {source : List Char}
    (h : SpellsPlaceholder p source) : (Token.placeholder p).WellFormed := by
  cases h with
  | bare hbefore hname hchars hafter => exact ⟨by simpa using hchars, by simp⟩
  | withFallback hbefore hname hchars hafter hline hfirst =>
    refine ⟨by simpa using hchars, fun fallback hfallback hocc ↦ hfirst ?_⟩
    rw [← Option.some.inj hfallback, String.toList_ofList] at hocc
    exact hocc.trans ((trim_isInfix _).trans (List.prefix_append _ _).isInfix)

/-- Every token of a text is well formed. -/
theorem wellFormed_of_mem_tokenize {text : String} {token : Token} (h : token ∈ tokenize text) :
    token.WellFormed := by
  obtain ⟨piece, hpiece, rfl⟩ := List.mem_map.mp h
  cases isCut_of_mem_pieces hpiece with
  | literal hne hplain => exact ⟨by simpa using hne, by simpa using hplain⟩
  | @marker source marker hspells =>
    cases marker with
    | reference r => exact SpellsReference.wellFormed hspells
    | placeholder p => exact SpellsPlaceholder.wellFormed hspells

/-- Whether a token is ordinary text. -/
def Token.IsLiteral (token : Token) : Prop := ∃ s, token = .literal s

private theorem isChain_piecesAfter (literal text : List Char) :
    ((piecesAfter literal text).map Piece.token).IsChain
      fun first second ↦ first.IsLiteral → ¬ second.IsLiteral := by
  fun_induction piecesAfter literal text with
  | case1 literal =>
    unfold literalPiece
    split_ifs <;> simp
  | case2 literal c text marker rest hread ih =>
    have hmarker : ¬ marker.toToken.IsLiteral := by
      rintro ⟨s, hs⟩
      cases marker <;> simp [Meaning.toToken] at hs
    unfold literalPiece
    split_ifs <;> simp [List.isChain_cons, hmarker, ih]
  | case3 literal c text hread ih => exact ih

/-- Ordinary text is cut off in one piece: no two literals stand side by side. -/
theorem isChain_tokenize (text : String) :
    (tokenize text).IsChain fun first second ↦ first.IsLiteral → ¬ second.IsLiteral :=
  isChain_piecesAfter [] text.toList

/-- A text with a placeholder holds three closing braces. -/
theorem tripleClosing_isInfix_of_mem_tokenize {text : String} {p : Placeholder}
    (h : .placeholder p ∈ tokenize text) : tripleClosing <:+: text.toList := by
  obtain ⟨source, hspells, hsource⟩ := exists_spells_of_mem_tokenize (.placeholder p) h
  exact (SpellsPlaceholder.tripleClosing_isInfix hspells).trans hsource

/-- References are named by texts without blanks, bars and braces. -/
theorem isNameChar_of_mem_tokenize {text : String} {r : Reference}
    (h : .reference r ∈ tokenize text) : ∀ c ∈ r.name.toList, isNameChar c := by
  obtain ⟨source, hspells, -⟩ := exists_spells_of_mem_tokenize (.reference r) h
  cases hspells with
  | intro _ _ hchars => simpa using hchars

/-! ## The leftmost reference -/

/-- The first reference among pieces, the first of which begins at a position. -/
def firstReference? (position : Nat) : List Piece → Option Occurrence
  | [] => none
  | piece :: rest =>
    let after := position + Text.byteLength piece.source
    match piece.token with
    | .reference r => some ⟨position, after, r⟩
    | _ => firstReference? after rest

/-- Ordinary text is passed over. -/
private theorem firstReference?_literalPiece_append (position : Nat) (source : List Char)
    (list : List Piece) : firstReference? position (literalPiece source ++ list) =
      firstReference? (position + Text.byteLength source) list := by
  unfold literalPiece
  split_ifs with hempty
  · rw [List.isEmpty_iff.mp hempty]
    rfl
  · rfl

private theorem findSome?_scanFrom (position : Nat) (literal text : List Char) :
    (scanFrom (position + Text.byteLength literal.reverse) text).findSome? Span.reference? =
      firstReference? position (piecesAfter literal text) := by
  -- The two loops take the same steps; the ordinary text that the tokens keep back is already
  -- counted in the position of the search.
  fun_induction piecesAfter literal text generalizing position with
  | case1 literal =>
    have hpieces := firstReference?_literalPiece_append position literal.reverse []
    rw [List.append_nil] at hpieces
    rw [hpieces]
    simp [scanFrom, firstReference?]
  | case2 literal c text marker rest hread ih =>
    obtain ⟨source, -, hsource⟩ := read?_eq_some_iff.mp hread
    have hlength : Text.byteLength (c :: text) - Text.byteLength rest = Text.byteLength source := by
      rw [hsource, Text.byteLength_append, Nat.add_sub_cancel]
    rw [firstReference?_literalPiece_append, take_eq_source hsource, scanFrom]
    split
    · next found rest' hfound =>
      obtain ⟨rfl, rfl⟩ := Prod.mk.inj (Option.some.inj (hfound.symm.trans hread))
      cases found with
      | reference r =>
        simp [List.findSome?_cons, Span.reference?, firstReference?, Meaning.toToken, hlength]
      | placeholder p =>
        have hnext := ih (position + Text.byteLength literal.reverse + Text.byteLength source)
        rw [List.reverse_nil, show Text.byteLength [] = 0 from rfl, Nat.add_zero] at hnext
        simpa [List.findSome?_cons, Span.reference?, firstReference?, Meaning.toToken, hlength]
          using hnext
    · next hnone => cases hread.symm.trans hnone
  | case3 literal c text hread ih =>
    have hposition : position + Text.byteLength (c :: literal).reverse =
        position + Text.byteLength literal.reverse + c.utf8Size := by
      rw [List.reverse_cons, Text.byteLength_append, Nat.add_assoc]
      rfl
    rw [← ih position, hposition, scanFrom]
    split
    · next found rest' hfound => cases hread.symm.trans hfound
    · rfl

/-- The search over the text finds the first reference among its pieces. -/
theorem findReference?_eq_firstReference? (text : String) :
    findReference? text = firstReference? 0 (pieces text.toList) :=
  findSome?_scanFrom 0 [] text.toList

private theorem firstReference?_eq_none_iff {position : Nat} {list : List Piece} :
    firstReference? position list = none ↔ ∀ r, ∀ piece ∈ list, piece.token ≠ .reference r := by
  induction list generalizing position with
  | nil => simp [firstReference?]
  | cons piece list ih =>
    rw [firstReference?]
    cases htoken : piece.token with
    | reference r =>
      constructor
      · intro h
        cases h
      · intro h
        exact absurd htoken (h r piece List.mem_cons_self)
    | literal s => simp [ih, htoken]
    | placeholder p => simp [ih, htoken]

/-- A text has no leftmost reference exactly when none of its tokens is a reference. -/
theorem findReference?_eq_none_iff {text : String} :
    findReference? text = none ↔ ∀ r, .reference r ∉ tokenize text := by
  rw [findReference?_eq_firstReference?, firstReference?_eq_none_iff]
  simp [tokenize]

/-- A plain text has no reference. -/
theorem findReference?_of_isPlain {text : String} (h : IsPlain text.toList) :
    findReference? text = none := by
  rw [findReference?_eq_none_iff]
  intro r hr
  obtain ⟨s, hs⟩ := isPlain_iff.mp h _ hr
  cases hs

end StaticSite.Marker
