import StaticSite.Proofs.Marker.Reading
import StaticSite.Proofs.Marker.Tiling

/-!
# Where a marker lies

The tokens of a text and the bytes that they take up. A marker begins at a position exactly if it is
read there and no marker before it goes on over the position (`lies_marker_iff`), and
`findReference?` gives the first of the references with its bytes (`findReference?_eq_some_iff`).

Three braces that open no placeholder are passed over one brace at a time. So no reference begins
with the first of them, and one begins with the second exactly if the two braces left open it
(`noReferenceAt_three_braces`).
-/

namespace StaticSite.Marker

open Text (byteLength byteLength_append)

variable {text : String} {before after : List Char} {front back list : List Piece} {piece : Piece}
  {token : Token} {marker : Meaning} {r : Reference} {start stop position : ℕ}

/-- The bytes that pieces take up together. -/
def spread (list : List Piece) : ℕ := byteLength (list.flatMap Piece.source)

@[simp] theorem spread_nil : spread [] = 0 := rfl

@[simp] theorem spread_cons (piece : Piece) (list : List Piece) :
    spread (piece :: list) = byteLength piece.source + spread list := by
  rw [spread, List.flatMap_cons, byteLength_append, spread]

@[simp] theorem spread_append (front back : List Piece) :
    spread (front ++ back) = spread front + spread back := by
  rw [spread, List.flatMap_append, byteLength_append, spread, spread]

/-- A token is cut from the bytes of a text between two positions. -/
def Lies (text : String) (token : Token) (start stop : ℕ) : Prop :=
  ∃ front piece back, pieces text.toList = front ++ piece :: back ∧ piece.token = token ∧
    spread front = start ∧ start + byteLength piece.source = stop

/-- A marker goes on over a position. -/
def IsCovered (text : String) (position : ℕ) : Prop :=
  ∃ (marker : Meaning) (start stop : ℕ),
    Lies text marker.toToken start stop ∧ start < position ∧ position < stop

/-! ## Pieces at a position -/

/-- Behind some of the pieces, the others lie on the rest of the text. -/
theorem Tiles.drop (h : Tiles after (front ++ list)) :
    ∃ rest, after = front.flatMap Piece.source ++ rest ∧ Tiles rest list := by
  induction front generalizing after with
  | nil => exact ⟨after, rfl, h⟩
  | cons piece front ih =>
    cases h with
    | literal _ _ _ tail | marker _ tail =>
      obtain ⟨rest, rfl, hrest⟩ := ih tail
      exact ⟨rest, by simp, hrest⟩

/-- How the position between two parts of a text lies to its pieces. -/
inductive CutAt (before after : List Char) (list : List Piece) : Prop
  /-- Where pieces begin. -/
  | between (front : List Piece) (hlist : list = front ++ pieces after)
      (hfront : front.flatMap Piece.source = before)
  /-- Where no marker can begin. -/
  | ordinary (hread : read? after = none)
  /-- Inside a marker. -/
  | inside (front : List Piece) {back : List Piece} {source : List Char} {marker : Meaning}
      (hlist : list = front ++ ⟨source, marker.toToken⟩ :: back)
      (hstart : spread front < byteLength before)
      (hstop : byteLength before < spread front + byteLength source)

private theorem CutAt.cons (h : CutAt before after list) (piece : Piece) :
    CutAt (piece.source ++ before) after (piece :: list) := by
  cases h with
  | between front hlist hfront =>
    exact .between (piece :: front) (congrArg (piece :: ·) hlist)
      (by rw [List.flatMap_cons, hfront])
  | ordinary hread => exact .ordinary hread
  | inside front hlist hstart hstop =>
    refine .inside (piece :: front) (congrArg (piece :: ·) hlist) ?_ ?_ <;>
    · rw [spread_cons, byteLength_append]
      omega

/-- A position of a text is where pieces begin, or lies inside ordinary text, or inside a marker. -/
theorem Tiles.cutAt {whole : List Char} (h : Tiles whole list) (hwhole : whole = before ++ after) :
    CutAt before after list := by
  induction h generalizing before with
  | nil =>
    obtain ⟨rfl, rfl⟩ := List.append_eq_nil_iff.mp hwhole.symm
    exact .between [] (tiles_iff.mp .nil) rfl
  | @literal source rest list hnil hno hmaximal tail ih =>
    rcases List.append_eq_append_iff.mp hwhole with ⟨x, rfl, hrest⟩ | ⟨x, rfl, rfl⟩
    · exact (ih hrest).cons ⟨source, .literal (String.ofList source)⟩
    by_cases hx : x = []
    · subst hx
      have hnext := (ih (List.nil_append rest).symm).cons
        ⟨before ++ [], .literal (String.ofList (before ++ []))⟩
      simpa using hnext
    · exact .ordinary (hno x hx (List.suffix_append before x))
  | @marker source rest marker list hread tail ih =>
    rcases List.append_eq_append_iff.mp hwhole with ⟨x, rfl, hrest⟩ | ⟨x, rfl, rfl⟩
    · exact (ih hrest).cons ⟨source, marker.toToken⟩
    by_cases hx : x = []
    · subst hx
      have hnext := (ih (List.nil_append rest).symm).cons ⟨before ++ [], marker.toToken⟩
      simpa using hnext
    by_cases hbefore : before = []
    · subst hbefore
      exact .between [] (tiles_iff.mp (Tiles.marker hread tail)) rfl
    · have hpos := mt Text.byteLength_eq_zero_iff.mp hx
      have hpos' := mt Text.byteLength_eq_zero_iff.mp hbefore
      refine .inside [] rfl ?_ ?_ <;>
      · simp only [spread_nil, byteLength_append]
        omega

/-- Two pieces of a list begin together, or one begins where the other one ends or behind it. -/
private theorem spread_le_or_le {front' back' : List Piece} {piece' : Piece}
    (h : front ++ piece :: back = front' ++ piece' :: back') :
    spread front + byteLength piece.source ≤ spread front' ∨ spread front = spread front' ∨
      spread front' + byteLength piece'.source ≤ spread front := by
  rcases List.append_eq_append_iff.mp h with ⟨x, rfl, hx⟩ | ⟨x, rfl, hx⟩ <;>
  · cases x with
    | nil => simp
    | cons first x =>
      obtain ⟨rfl, -⟩ := List.cons.inj hx
      simp only [spread_append, spread_cons]
      omega

/-- No marker goes on over the position where a token begins. -/
theorem Lies.not_isCovered (h : Lies text token start stop) : ¬ IsCovered text start := by
  rintro ⟨marker, start', stop', ⟨front', piece', back', hpieces', -, rfl, rfl⟩, hlt, hgt⟩
  obtain ⟨front, piece, back, hpieces, -, rfl, rfl⟩ := h
  rcases spread_le_or_le (hpieces'.symm.trans hpieces) with hle | heq | hle <;> omega

/-- A marker begins at a position exactly if it is read from there on and no marker before it goes
on over the position. It ends where the text that is left begins. -/
theorem lies_marker_iff (htext : text.toList = before ++ after) :
    Lies text marker.toToken (byteLength before) stop ↔
      (∃ rest, read? after = some (marker, rest) ∧
        stop + byteLength rest = byteLength text.toList) ∧
      ¬ IsCovered text (byteLength before) := by
  constructor
  · intro h
    refine ⟨?_, h.not_isCovered⟩
    obtain ⟨front, ⟨source, token⟩, back, hpieces, rfl, hstart, rfl⟩ := h
    obtain ⟨rest, hrest, hdrop⟩ := (hpieces ▸ tiles_iff.mpr rfl : Tiles text.toList _).drop
    obtain ⟨rfl, rfl⟩ := Text.append_inj_of_byteLength (hrest.symm.trans htext) hstart
    generalize htoken : marker.toToken = token at hdrop
    cases hdrop with
    | literal => exact absurd ⟨_, htoken⟩ marker.not_isLiteral
    | @marker source rest found list hread tail =>
      obtain rfl := Meaning.toToken_injective htoken
      refine ⟨rest, hread, ?_⟩
      simp only [hrest, byteLength_append]
      omega
  · rintro ⟨⟨rest, hread, hstop⟩, hcovered⟩
    obtain ⟨source, -, rfl⟩ := read?_eq_some_iff.mp hread
    cases (tiles_iff.mpr rfl : Tiles text.toList _).cutAt htext with
    | between front hpieces hfront =>
      rw [pieces_of_read? hread] at hpieces
      refine ⟨front, _, _, hpieces, rfl, congrArg byteLength hfront, ?_⟩
      simp only [htext, byteLength_append] at hstop ⊢
      omega
    | ordinary hnone =>
      rw [hread] at hnone
      cases hnone
    | inside front hpieces hlt hgt =>
      exact absurd ⟨_, _, _, ⟨front, _, _, hpieces, rfl, rfl, rfl⟩, hlt, hgt⟩ hcovered

theorem lies_reference_iff (htext : text.toList = before ++ after) :
    Lies text (.reference r) (byteLength before) stop ↔
      (∃ rest, read? after = some (.reference r, rest) ∧
        stop + byteLength rest = byteLength text.toList) ∧
      ¬ IsCovered text (byteLength before) :=
  show Lies text (Meaning.reference r).toToken (byteLength before) stop ↔ _ from
    lies_marker_iff htext

/-! ## The first reference -/

private theorem firstReference?_eq_some_iff {occurrence : Occurrence} :
    firstReference? position list = some occurrence ↔
      ∃ front piece back, list = front ++ piece :: back ∧
        piece.token = .reference occurrence.reference ∧
        (∀ other ∈ front, ∀ r, other.token ≠ .reference r) ∧
        position + spread front = occurrence.start ∧
        occurrence.start + byteLength piece.source = occurrence.stop := by
  induction list generalizing position with
  | nil => simp [firstReference?]
  | cons first list ih =>
    by_cases hfirst : ∃ r, first.token = .reference r
    · obtain ⟨r, hr⟩ := hfirst
      rw [firstReference?, hr]
      constructor
      · rintro ⟨⟩
        exact ⟨[], first, list, rfl, hr, by simp, rfl, rfl⟩
      · rintro ⟨front, piece, back, hlist, htoken, hno, hstart, hstop⟩
        cases front with
        | nil =>
          obtain ⟨rfl, -⟩ := List.cons.inj hlist
          obtain rfl := Token.reference.inj (hr.symm.trans htoken)
          obtain rfl : position = occurrence.start := hstart
          exact congrArg some (congrArg (Occurrence.mk _ · _) hstop)
        | cons other front =>
          obtain ⟨rfl, -⟩ := List.cons.inj hlist
          exact absurd hr (hno first List.mem_cons_self r)
    · have hnext : firstReference? position (first :: list) =
          firstReference? (position + byteLength first.source) list := by
        rw [firstReference?]
        split
        · next r hr => exact absurd ⟨r, hr⟩ hfirst
        · rfl
      rw [hnext, ih]
      constructor
      · rintro ⟨front, piece, back, rfl, htoken, hno, hstart, hstop⟩
        refine ⟨first :: front, piece, back, rfl, htoken, ?_, ?_, hstop⟩
        · rintro other (_ | ⟨_, hother⟩) r hr
          · exact hfirst ⟨r, hr⟩
          · exact hno other hother r hr
        · rw [spread_cons, ← Nat.add_assoc, hstart]
      · rintro ⟨front, piece, back, hlist, htoken, hno, hstart, hstop⟩
        cases front with
        | nil =>
          obtain ⟨rfl, -⟩ := List.cons.inj hlist
          exact absurd ⟨_, htoken⟩ hfirst
        | cons other front =>
          obtain ⟨rfl, rfl⟩ := List.cons.inj hlist
          refine ⟨front, piece, back, rfl, htoken,
            fun other hother ↦ hno other (List.mem_cons_of_mem _ hother), ?_, hstop⟩
          rw [← hstart, spread_cons, Nat.add_assoc]

theorem source_ne_nil_of_mem_pieces {text : List Char} (h : piece ∈ pieces text) :
    piece.source ≠ [] := by
  cases isCut_of_mem_pieces h with
  | literal hne => exact hne
  | marker hspells => exact hspells.ne_nil

/-- The leftmost reference of a text is the first piece that is one. -/
theorem findReference?_eq_some_iff_pieces {occurrence : Occurrence} :
    findReference? text = some occurrence ↔
      ∃ front piece back, pieces text.toList = front ++ piece :: back ∧
        piece.token = .reference occurrence.reference ∧
        (∀ other ∈ front, ∀ r, other.token ≠ .reference r) ∧
        spread front = occurrence.start ∧
        occurrence.start + byteLength piece.source = occurrence.stop := by
  rw [findReference?_eq_firstReference?, firstReference?_eq_some_iff]
  simp only [Nat.zero_add]

/-- The leftmost reference of a text is the one that begins before all others, with the bytes that
it is cut from. -/
theorem findReference?_eq_some_iff {occurrence : Occurrence} :
    findReference? text = some occurrence ↔
      Lies text (.reference occurrence.reference) occurrence.start occurrence.stop ∧
        ∀ r start stop, Lies text (.reference r) start stop → occurrence.start ≤ start := by
  rw [findReference?_eq_some_iff_pieces]
  constructor
  · rintro ⟨front, piece, back, hpieces, htoken, hno, hstart, hstop⟩
    refine ⟨⟨front, piece, back, hpieces, htoken, hstart, hstop⟩, ?_⟩
    rintro r _ _ ⟨front', piece', back', hpieces', htoken', rfl, -⟩
    rcases List.append_eq_append_iff.mp (hpieces.symm.trans hpieces') with
      ⟨x, rfl, -⟩ | ⟨x, rfl, hx⟩
    · rw [← hstart, spread_append]
      omega
    · cases x with
      | nil => simp [← hstart]
      | cons other x =>
        obtain ⟨rfl, -⟩ := List.cons.inj hx
        exact absurd htoken' (hno piece' (by simp) r)
  · rintro ⟨⟨front, piece, back, hpieces, htoken, hstart, hstop⟩, hfirst⟩
    refine ⟨front, piece, back, hpieces, htoken, fun other hother r hr ↦ ?_, hstart, hstop⟩
    obtain ⟨before, behind, rfl⟩ := List.append_of_mem hother
    have hle := hfirst r _ _ ⟨before, other, behind ++ piece :: back, by simpa using hpieces, hr,
      rfl, rfl⟩
    have hmem : other ∈ pieces text.toList := by simp [hpieces]
    have hpos := mt Text.byteLength_eq_zero_iff.mp (source_ne_nil_of_mem_pieces hmem)
    simp only [← hstart, spread_append, spread_cons] at hle
    omega

/-! ## Three braces -/

/-- No reference begins at a position, among the tokens or as the leftmost one. -/
def NoReferenceAt (text : String) (position : ℕ) : Prop :=
  (∀ r stop, ¬ Lies text (.reference r) position stop) ∧
    ∀ occurrence, findReference? text = some occurrence → occurrence.start ≠ position

theorem noReferenceAt_iff :
    NoReferenceAt text position ↔ ∀ r stop, ¬ Lies text (.reference r) position stop := by
  refine ⟨And.left, fun h ↦ ⟨h, ?_⟩⟩
  rintro occurrence hfind rfl
  exact h _ _ (findReference?_eq_some_iff.mp hfind).1

/-- Two braces open a reference also where a third one stands in front of them. -/
private theorem read?_opening_eq_some_reference_iff {body rest : List Char} :
    read? (opening ++ body) = some (.reference r, rest) ↔ readReference? body = some (r, rest) := by
  by_cases hbody : ∃ tail, body = '\x7b' :: tail
  · obtain ⟨tail, rfl⟩ := hbody
    have hnone : readReference? ('\x7b' :: tail) = none := by
      simp [readReference?, Text.spanOf, show Text.isBlank '\x7b' = false by decide,
        show isNameChar '\x7b' = false by decide]
    simp [read?, Text.stripPrefix?_append, hnone]
  · rw [read?, Text.stripPrefix?_append]
    split
    · next heq => cases heq
    · next tail heq => exact absurd ⟨tail, Option.some.inj heq⟩ hbody
    · next found hne heq =>
      obtain rfl := Option.some.inj heq
      simp

private theorem read?_three_braces {body : List Char} (hbody : readPlaceholder? body = none) :
    read? (opening ++ '\x7b' :: body) = none := by
  simp [read?, Text.stripPrefix?_append, hbody]

/-- No reference begins with the first of three braces that open no placeholder. One begins with
the second brace exactly if it would without the first one, and no marker that is begun before goes
on over it. So there is none with the second brace either exactly if the text behind the braces
does not go on as a reference, or if a marker goes on over them. -/
theorem noReferenceAt_three_braces {before body : List Char}
    (htext : text.toList = before ++ (opening ++ '\x7b' :: body))
    (hbody : readPlaceholder? body = none) :
    NoReferenceAt text (byteLength before) ∧
    (∀ r stop, Lies text (.reference r) (byteLength before + 1) stop ↔
      (∃ rest, readReference? body = some (r, rest) ∧
        stop + byteLength rest = byteLength text.toList) ∧
      ¬ IsCovered text (byteLength before + 1)) ∧
    (NoReferenceAt text (byteLength before + 1) ↔
      readReference? body = none ∨ IsCovered text (byteLength before + 1)) := by
  have hfirst : NoReferenceAt text (byteLength before) := by
    refine noReferenceAt_iff.mpr fun r stop hlies ↦ ?_
    obtain ⟨rest, hread, -⟩ := ((lies_reference_iff htext).mp hlies).1
    rw [read?_three_braces hbody] at hread
    cases hread
  have hsecond (r : Reference) (stop : ℕ) :
      Lies text (.reference r) (byteLength before + 1) stop ↔
        (∃ rest, readReference? body = some (r, rest) ∧
          stop + byteLength rest = byteLength text.toList) ∧
        ¬ IsCovered text (byteLength before + 1) := by
    have htext' : text.toList = (before ++ ['\x7b']) ++ (opening ++ body) := by
      simp [htext, opening]
    have hlen : byteLength (before ++ ['\x7b']) = byteLength before + 1 :=
      byteLength_append before ['\x7b']
    rw [← hlen, lies_reference_iff htext']
    simp only [read?_opening_eq_some_reference_iff]
  refine ⟨hfirst, hsecond, ?_⟩
  rw [noReferenceAt_iff]
  simp only [hsecond, not_and_not_right]
  constructor
  · intro h
    cases hread : readReference? body with
    | none => exact .inl rfl
    | some result =>
      obtain ⟨r, rest⟩ := result
      obtain ⟨source, -, rfl⟩ := readReference?_eq_some_iff.mp hread
      refine .inr (h r (byteLength before + byteLength (opening ++ '\x7b' :: source))
        ⟨rest, hread, ?_⟩)
      simp only [htext, ← List.cons_append, byteLength_append, Nat.add_assoc]
  · rintro (hnone | hcovered) r stop ⟨rest, hread, -⟩
    · rw [hnone] at hread
      cases hread
    · exact hcovered

/-- Words in three braces are neither a placeholder nor a reference. -/
theorem noReferenceAt_two_words :
    "x \x7b\x7b\x7b two words \x7d\x7d\x7d".toList =
      "x ".toList ++ (opening ++ '\x7b' :: " two words \x7d\x7d\x7d".toList) ∧
    readPlaceholder? " two words \x7d\x7d\x7d".toList = none ∧
    NoReferenceAt "x \x7b\x7b\x7b two words \x7d\x7d\x7d" 2 ∧
    NoReferenceAt "x \x7b\x7b\x7b two words \x7d\x7d\x7d" 3 := by
  have htext : "x \x7b\x7b\x7b two words \x7d\x7d\x7d".toList =
      "x ".toList ++ (opening ++ '\x7b' :: " two words \x7d\x7d\x7d".toList) := by decide +kernel
  have hbody : readPlaceholder? " two words \x7d\x7d\x7d".toList = none := by decide +kernel
  have hreference : readReference? " two words \x7d\x7d\x7d".toList = none := by decide +kernel
  obtain ⟨hfirst, -, hsecond⟩ := noReferenceAt_three_braces htext hbody
  exact ⟨htext, hbody, hfirst, hsecond.mpr (.inl hreference)⟩

/-- A reference begins with the second of three braces that open no placeholder: the name of a
template file is no identifier. -/
theorem not_noReferenceAt_second_brace :
    "\x7b\x7b\x7b a.html \x7d\x7d\x7d".toList =
      [] ++ (opening ++ '\x7b' :: " a.html \x7d\x7d\x7d".toList) ∧
    readPlaceholder? " a.html \x7d\x7d\x7d".toList = none ∧
    tokenize "\x7b\x7b\x7b a.html \x7d\x7d\x7d" =
      [.literal "\x7b", .reference ⟨"a.html", []⟩, .literal "\x7d"] ∧
    findReference? "\x7b\x7b\x7b a.html \x7d\x7d\x7d" = some ⟨1, 13, ⟨"a.html", []⟩⟩ ∧
    ¬ NoReferenceAt "\x7b\x7b\x7b a.html \x7d\x7d\x7d" (byteLength [] + 1) := by
  have hfind : findReference? "\x7b\x7b\x7b a.html \x7d\x7d\x7d" =
      some ⟨1, 13, ⟨"a.html", []⟩⟩ := by decide +kernel
  exact ⟨by decide +kernel, by decide +kernel, by decide +kernel, hfind,
    fun h ↦ h.2 _ hfind rfl⟩

end StaticSite.Marker
