import StaticSite.Proofs.Marker.Partition

/-!
# Tokens side by side

The pieces of a text lie side by side on it. Ordinary text goes on up to where a marker begins, and a
marker takes up what is read for it; there is just one way to cut a text like this, which is that of
`pieces` (`tiles_iff`).
-/

namespace StaticSite.Marker

/-- Pieces lie side by side on a text: each begins where the one before it ends, and the last one
ends with the text. -/
inductive Tiles : List Char → List Piece → Prop
  | nil : Tiles [] []
  /-- Ordinary text in which no marker begins, with no more ordinary text behind it. -/
  | literal {source rest : List Char} {list : List Piece} (ne_nil : source ≠ [])
      (no_marker : ∀ v, v ≠ [] → v <:+ source → read? (v ++ rest) = none)
      (maximal : ∀ piece ∈ list.head?, ¬ piece.token.IsLiteral) (tail : Tiles rest list) :
      Tiles (source ++ rest) (⟨source, .literal (String.ofList source)⟩ :: list)
  /-- A marker that is read where its text begins, up to where its text ends. -/
  | marker {source rest : List Char} {marker : Meaning} {list : List Piece}
      (reads : read? (source ++ rest) = some (marker, rest)) (tail : Tiles rest list) :
      Tiles (source ++ rest) (⟨source, marker.toToken⟩ :: list)

variable {text source rest literal : List Char} {list : List Piece} {marker : Meaning}

theorem Meaning.not_isLiteral (marker : Meaning) : ¬ marker.toToken.IsLiteral := by
  rintro ⟨s, hs⟩
  cases marker <;> cases hs

/-! ## The pieces of a text -/

private theorem Tiles.literalPiece_append
    (hsource : ∀ v, v ≠ [] → v <:+ source → read? (v ++ rest) = none)
    (hmaximal : ∀ piece ∈ list.head?, ¬ piece.token.IsLiteral) (h : Tiles rest list) :
    Tiles (source ++ rest) (literalPiece source ++ list) := by
  unfold literalPiece
  split_ifs with hempty
  · rw [List.isEmpty_iff] at hempty
    simpa [hempty] using h
  · exact .literal (by simpa using hempty) hsource hmaximal h

private theorem tiles_piecesAfter
    (hliteral : ∀ v, v ≠ [] → v <:+ literal.reverse → read? (v ++ text) = none) :
    Tiles (literal.reverse ++ text) (piecesAfter literal text) := by
  fun_induction piecesAfter literal text with
  | case1 literal =>
    simpa using Tiles.literalPiece_append hliteral (fun piece hpiece ↦ by cases hpiece) Tiles.nil
  | case2 literal c text marker rest hread ih =>
    obtain ⟨source, -, hsource⟩ := read?_eq_some_iff.mp hread
    rw [take_eq_source hsource]
    have hrest : Tiles rest (piecesAfter [] rest) :=
      ih fun v hnil hv ↦ absurd (List.suffix_nil.mp hv) hnil
    have hmarker : Tiles (c :: text) (⟨source, marker.toToken⟩ :: piecesAfter [] rest) := by
      rw [hsource] at hread ⊢
      exact .marker hread hrest
    refine Tiles.literalPiece_append hliteral (fun piece hpiece ↦ ?_) hmarker
    obtain rfl : _ = piece := Option.some.inj hpiece
    exact marker.not_isLiteral
  | case3 literal c text hread ih =>
    have hnext := ih fun v hnil hv ↦ ?_
    · simpa using hnext
    rw [List.reverse_cons, List.suffix_concat_iff] at hv
    rcases hv with rfl | ⟨u, rfl, hu⟩
    · exact absurd rfl hnil
    · by_cases hu' : u = []
      · simpa [hu'] using hread
      · simpa using hliteral u hu' hu

/-- Where no marker begins, the text is ordinary. -/
private theorem piecesAfter_append
    (hsource : ∀ v, v ≠ [] → v <:+ source → read? (v ++ rest) = none) :
    piecesAfter literal (source ++ rest) = piecesAfter (source.reverse ++ literal) rest := by
  induction source generalizing literal with
  | nil => rfl
  | cons c source ih =>
    have hread : read? (c :: (source ++ rest)) = none :=
      hsource _ (List.cons_ne_nil c source) List.suffix_rfl
    rw [List.cons_append, piecesAfter]
    split
    · next found rest' hfound => rw [hread] at hfound; cases hfound
    · rw [ih fun v hnil hv ↦ hsource v hnil (hv.trans (List.suffix_cons c source))]
      simp

/-- Pieces behind some ordinary text begin with it. -/
private theorem exists_head?_piecesAfter (hliteral : literal ≠ []) (text : List Char) :
    ∃ piece ∈ (piecesAfter literal text).head?, piece.token.IsLiteral := by
  have hpiece (literal : List Char) (hliteral : literal ≠ []) :
      literalPiece literal.reverse = [⟨literal.reverse, .literal (String.ofList literal.reverse)⟩] :=
    if_neg (by simpa using hliteral)
  fun_induction piecesAfter literal text with
  | case1 literal =>
    rw [hpiece literal hliteral]
    exact ⟨_, rfl, _, rfl⟩
  | case2 literal c text marker rest hread ih =>
    rw [hpiece literal hliteral]
    exact ⟨_, rfl, _, rfl⟩
  | case3 literal c text hread ih => exact ih (List.cons_ne_nil c literal)

/-- Ordinary text ends where the pieces of the rest begin with a marker. -/
private theorem piecesAfter_of_maximal
    (hmaximal : ∀ piece ∈ (pieces rest).head?, ¬ piece.token.IsLiteral) :
    piecesAfter literal rest = literalPiece literal.reverse ++ pieces rest := by
  cases rest with
  | nil => simp [pieces, piecesAfter, literalPiece]
  | cons c text =>
    rw [pieces, piecesAfter] at hmaximal ⊢
    rw [piecesAfter]
    split at hmaximal
    · rfl
    · obtain ⟨piece, hhead, hliteral⟩ := exists_head?_piecesAfter (List.cons_ne_nil c []) text
      exact absurd hliteral (hmaximal piece hhead)

/-- A text that begins with a marker has its piece first. -/
theorem pieces_of_read? (h : read? (source ++ rest) = some (marker, rest)) :
    pieces (source ++ rest) = ⟨source, marker.toToken⟩ :: pieces rest := by
  generalize htext : source ++ rest = text at h
  cases text with
  | nil => cases h
  | cons c text =>
    rw [pieces, piecesAfter]
    split
    · next found rest' hfound =>
      obtain ⟨rfl, rfl⟩ := Prod.mk.inj (Option.some.inj (hfound.symm.trans h))
      rw [take_eq_source htext.symm]
      rfl
    · next hnone => rw [hnone] at h; cases h

/-- There is just one way to cut a text into ordinary text and markers. -/
theorem tiles_iff : Tiles text list ↔ list = pieces text := by
  constructor
  · intro h
    induction h with
    | nil => simp [pieces, piecesAfter, literalPiece]
    | @literal source rest list hnil hno hmaximal htail ih =>
      rw [ih] at hmaximal
      have hsource : pieces (source ++ rest) = literalPiece source ++ pieces rest := by
        rw [pieces, piecesAfter_append hno, piecesAfter_of_maximal hmaximal, List.append_nil,
          List.reverse_reverse]
      rw [hsource, literalPiece, if_neg (by simpa using hnil), ih]
      rfl
    | marker hread htail ih => rw [ih, pieces_of_read? hread]
  · rintro rfl
    have hnothing : ∀ v, v ≠ [] → v <:+ [].reverse → read? (v ++ text) = none :=
      fun v hnil hv ↦ absurd (List.suffix_nil.mp hv) hnil
    exact tiles_piecesAfter hnothing

/-- Every text is cut into its tokens without a gap and in just one way: a token of ordinary text is
the part of the text that it lies on, and a marker is what is read where its part begins, up to
where it ends. No ordinary text is empty or beside other ordinary text, and none holds a marker. -/
theorem tokenize_tiles (text : String) :
    (∃ list, (∀ other, Tiles text.toList other ↔ other = list) ∧
      list.flatMap Piece.source = text.toList ∧ list.map Piece.token = tokenize text) ∧
    (tokenize text).IsChain (fun first second ↦ first.IsLiteral → ¬ second.IsLiteral) ∧
    ∀ s, .literal s ∈ tokenize text → s ≠ "" ∧ tokenize s = [.literal s] := by
  refine ⟨⟨pieces text.toList, fun other ↦ tiles_iff, flatMap_source_pieces _, rfl⟩,
    isChain_tokenize text, fun s hs ↦ ?_⟩
  obtain ⟨hne, hplain⟩ : s ≠ "" ∧ IsPlain s.toList := wellFormed_of_mem_tokenize hs
  exact ⟨hne, by rw [tokenize_of_isPlain hplain, if_neg hne]⟩

end StaticSite.Marker
