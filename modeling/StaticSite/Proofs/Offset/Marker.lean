import StaticSite.Marker.RenderMarker
import StaticSite.Proofs.Offset.Cutting

/-!
# Markers at byte offsets

The readers of markers as they run: each goes over the text that it is given with a byte offset, and
cuts the text there. They never cut it where it cannot be cut, and they read what the readers of
lists of characters read (`markerAt_offsetOf`, `renderMarkerAt_eq`).
-/

namespace StaticSite.Offset

open Marker
open Text (byteLength stripPrefix? startsWith spanOf)

variable {text rest body : List Char} {rounds : ℕ}

/-- The placeholder whose name begins at a position or behind white space there, with the position
behind it. -/
def placeholderFrom (text : List Char) (position : ℕ) : Cutting (Option (ℕ × Placeholder)) := do
  let position ← skip text position
  let (name, position) ← span isIdentifierChar text position
  if name.isEmpty then pure none
  else
    let position ← skip text position
    match ← eat tripleClosing text position with
    | some stop => pure (some (stop, ⟨String.ofList name, none⟩))
    | none =>
      match ← eat ['='] text position with
      | none => pure none
      | some position =>
        let remaining ← dropBytes position text
        match find? tripleClosing remaining with
        | none => pure none
        | some close =>
          let fallback ← takeBytes close remaining
          if fallback.contains '\n' then pure none
          else
            pure (some (position + close + 3,
              ⟨String.ofList name, some (String.ofList (Text.trim fallback))⟩))

/-- The parameters that begin at a position, up to and with the closing braces, with the position
behind these. -/
def paramsFrom (text : List Char) : ℕ → Table String → ℕ → Cutting (Option (ℕ × Table String))
  | 0, _, _ => throw .unfinished
  | rounds + 1, params, position => do
    match ← eat closing text position with
    | some stop => pure (some (stop, params))
    | none =>
      match ← eat ['|'] text position with
      | none => pure none
      | some position =>
        let (segment, position) ← span isSegmentChar text position
        match readParam? segment with
        | none => pure none
        | some (key, value) => paramsFrom text rounds (params.insert key value) position

/-- The reference whose name begins at a position or behind white space there, with the position
behind it. -/
def referenceFrom (text : List Char) (position : ℕ) : Cutting (Option (ℕ × Reference)) := do
  let position ← skip text position
  let (name, position) ← span isNameChar text position
  if name.isEmpty then pure none
  else
    let position ← skip text position
    let params ← paramsFrom text (text.length + 1) [] position
    pure (params.map fun (stop, params) ↦ (stop, ⟨String.ofList name, params⟩))

/-- The marker at a position where two braces stand, with the position behind it. -/
def markerAt (text : List Char) (start : ℕ) : Cutting (Option (ℕ × Meaning)) := do
  let rest ← dropBytes start text
  if startsWith ('\x7b' :: opening) rest then
    let found ← placeholderFrom rest 3
    pure (found.map fun (length, p) ↦ (start + length, .placeholder p))
  else
    let found ← referenceFrom rest 2
    pure (found.map fun (length, r) ↦ (start + length, .reference r))

/-- The marker for the page at the front of a text, by its length and its name. -/
def renderMarkerAt (text : List Char) : Cutting (Option (ℕ × String)) := do
  match ← eat opening text 0 with
  | none => pure none
  | some position =>
    let remaining ← dropBytes position text
    if startsWith ['\x7b'] remaining then pure none
    else
      let position ← skip text position
      let (name, position) ← span isIdentifierChar text position
      if name.isEmpty then pure none
      else
        let position ← skip text position
        match ← eat ['|'] text position with
        | none => pure none
        | some position =>
          let position ← skip text position
          match ← eat "safe".toList text position with
          | none => pure none
          | some position =>
            let position ← skip text position
            let stop ← eat closing text position
            pure (stop.map fun stop ↦ (stop, String.ofList name))

/-! ## What is read -/

private theorem dropBlanks_suffix (h : rest <:+ text) :
    rest.dropWhile Text.isBlank <:+ text :=
  (List.dropWhile_suffix _).trans h

private theorem behindSpan_suffix (h : rest <:+ text) (p : Char → Bool) :
    (spanOf p rest).2 <:+ text :=
  List.IsSuffix.trans ⟨_, Text.spanOf_append p rest⟩ h

private theorem behindToken_suffix {token more : List Char} (h : rest <:+ text)
    (htoken : stripPrefix? token rest = some more) : more <:+ text :=
  List.IsSuffix.trans ⟨token, (Text.stripPrefix?_eq_some htoken).symm⟩ h

/-- Whether a character stands at the front of a text, with the text behind it. -/
private theorem stripPrefix?_char (c : Char) (text : List Char) :
    (∃ rest, text = c :: rest ∧ stripPrefix? [c] text = some rest) ∨
      (∀ rest, text ≠ c :: rest) ∧ stripPrefix? [c] text = none := by
  cases text with
  | nil => exact .inr ⟨fun rest ↦ (List.cons_ne_nil c rest).symm, rfl⟩
  | cons d text =>
    by_cases hc : c = d
    · exact .inl ⟨text, by rw [hc], if_pos hc⟩
    · exact .inr ⟨fun rest hrest ↦ hc (List.cons.inj hrest).1.symm, if_neg hc⟩

theorem placeholderFrom_offsetOf (h : body <:+ text) :
    placeholderFrom text (offsetOf text body) =
      pure ((readPlaceholder? body).map fun found ↦ (offsetOf text found.2, found.1)) := by
  have hname := dropBlanks_suffix h
  have hafter := behindSpan_suffix hname isIdentifierChar
  simp only [placeholderFrom, readPlaceholder?, skip_offsetOf h, span_offsetOf hname, pure_bind]
  generalize spanOf isIdentifierChar (body.dropWhile Text.isBlank) = parts at hafter ⊢
  obtain ⟨name, rest⟩ := parts
  split_ifs with hempty
  · rfl
  have hrest := dropBlanks_suffix hafter
  simp only [skip_offsetOf hafter, pure_bind, eat_offsetOf hrest]
  generalize rest.dropWhile Text.isBlank = rest at hrest ⊢
  cases hclosing : stripPrefix? tripleClosing rest with
  | some more => rfl
  | none =>
    simp only [Option.map_none]
    rcases stripPrefix?_char '=' rest with ⟨body, rfl, hequals⟩ | ⟨hne, hequals⟩
    · have hbehind := (List.suffix_cons _ _).trans hrest
      simp only [hequals, Option.map_some, dropBytes_offsetOf hbehind, pure_bind, find?]
      cases hbreak : Text.breakOn? tripleClosing body with
      | none => rfl
      | some parts =>
        have hstop := offsetOf_of_breakOn? hbehind hbreak
        simp only [Option.map_some, takeBytes_of_breakOn? hbreak, pure_bind]
        split_ifs
        · rfl
        · rw [Option.map_some, hstop]
          rfl
    · simp only [hequals, Option.map_none]

/-- How the parameters go on at a bar. -/
private theorem paramsFrom_bar {params : Table String} (h : '|' :: body <:+ text) :
    paramsFrom text (rounds + 1) params (offsetOf text ('|' :: body)) =
      match readParam? (spanOf isSegmentChar body).1 with
      | none => pure none
      | some (key, value) =>
        paramsFrom text rounds (params.insert key value)
          (offsetOf text (spanOf isSegmentChar body).2) := by
  have hclosing : stripPrefix? closing ('|' :: body) = none := if_neg (by decide)
  have hbody : body <:+ text := (List.suffix_cons _ _).trans h
  rw [paramsFrom]
  simp only [eat_offsetOf h, hclosing, Option.map_none, pure_bind]
  simp only [stripPrefix?, if_true, Option.map_some, span_offsetOf hbody, pure_bind]

/-- Every segment takes up a character, so there is a round for each of them. -/
theorem paramsFrom_offsetOf {params : Table String} (h : body <:+ text)
    (hrounds : body.length < rounds) :
    paramsFrom text rounds params (offsetOf text body) =
      pure ((readParams? params body).map fun found ↦ (offsetOf text found.2, found.1)) := by
  fun_induction readParams? params body generalizing rounds with
  | case1 params body rest hclosing =>
    obtain ⟨rounds, rfl⟩ := Nat.exists_eq_add_one_of_ne_zero (Nat.ne_zero_of_lt hrounds)
    rw [paramsFrom, eat_offsetOf h, hclosing]
    rfl
  | case2 params hclosing =>
    obtain ⟨rounds, rfl⟩ := Nat.exists_eq_add_one_of_ne_zero (Nat.ne_zero_of_lt hrounds)
    rw [paramsFrom]
    simp only [eat_offsetOf h, hclosing, Option.map_none, pure_bind]
    rfl
  | case3 params body hparam =>
    obtain ⟨rounds, rfl⟩ := Nat.exists_eq_add_one_of_ne_zero (Nat.ne_zero_of_lt hrounds)
    rw [paramsFrom_bar h, hparam]
    rfl
  | case4 params body key value hparam hclosing ih =>
    obtain ⟨rounds, rfl⟩ := Nat.exists_eq_add_one_of_ne_zero (Nat.ne_zero_of_lt hrounds)
    have hlength := Text.length_spanOf_snd_le isSegmentChar body
    rw [List.length_cons] at hrounds
    rw [paramsFrom_bar h, hparam]
    exact ih (behindSpan_suffix ((List.suffix_cons _ _).trans h) isSegmentChar) (by omega)
  | case5 params c body hbar hclosing =>
    obtain ⟨rounds, rfl⟩ := Nat.exists_eq_add_one_of_ne_zero (Nat.ne_zero_of_lt hrounds)
    have heat : stripPrefix? ['|'] (c :: body) = none := if_neg (Ne.symm hbar)
    rw [paramsFrom]
    simp only [eat_offsetOf h, hclosing, heat, Option.map_none, pure_bind]

theorem referenceFrom_offsetOf (h : body <:+ text) :
    referenceFrom text (offsetOf text body) =
      pure ((readReference? body).map fun found ↦ (offsetOf text found.2, found.1)) := by
  have hname := dropBlanks_suffix h
  have hafter := behindSpan_suffix hname isNameChar
  have hparams := dropBlanks_suffix hafter
  simp only [referenceFrom, readReference?, skip_offsetOf h, span_offsetOf hname, pure_bind,
    skip_offsetOf hafter, paramsFrom_offsetOf hparams (Nat.lt_succ_of_le hparams.length_le)]
  split_ifs
  · rfl
  · rw [Option.map_map, Option.map_map]
    rfl

/-- Two braces and no third one open a reference. -/
private theorem read?_opening (h : ∀ tail, body ≠ '\x7b' :: tail) :
    read? (opening ++ body) =
      (readReference? body).map fun found ↦ (.reference found.1, found.2) := by
  rw [read?, Text.stripPrefix?_append]
  split
  · next heq => cases heq
  · next heq => exact absurd (Option.some.inj heq) (h _)
  · next heq => rw [Option.some.inj heq]

/-- A marker is read at every position where two braces stand. -/
theorem markerAt_offsetOf (h : opening ++ body <:+ text) :
    markerAt text (offsetOf text (opening ++ body)) =
      pure ((read? (opening ++ body)).map fun found ↦ (offsetOf text found.2, found.1)) := by
  have hinside {found : List Char} (hfound : found <:+ body) :
      offsetOf text (opening ++ body) + offsetOf (opening ++ body) found = offsetOf text found :=
    offsetOf_add (hfound.trans (List.suffix_append _ _)) h
  rw [markerAt, dropBytes_offsetOf h, pure_bind]
  rcases stripPrefix?_char '\x7b' body with ⟨tail, rfl, -⟩ | ⟨hne, hbrace⟩
  · have hopens : startsWith ('\x7b' :: opening) (opening ++ '\x7b' :: tail) := rfl
    have hplaceholder : placeholderFrom (opening ++ '\x7b' :: tail) 3 = _ :=
      (offsetOf_append (opening ++ ['\x7b']) tail).symm ▸
        placeholderFrom_offsetOf (List.suffix_append (opening ++ ['\x7b']) tail)
    have hread : read? (opening ++ '\x7b' :: tail) =
        (readPlaceholder? tail).map fun found ↦ (.placeholder found.1, found.2) := rfl
    rw [if_pos hopens, hplaceholder, hread, pure_bind, Option.map_map, Option.map_map]
    refine congrArg pure (Option.map_congr fun found hfound ↦ ?_)
    have hsuffix := (readPlaceholder?_suffix hfound).trans (List.suffix_cons '\x7b' tail)
    exact congrArg (·, Meaning.placeholder found.1) (hinside hsuffix)
  · have hopens : ¬ startsWith ('\x7b' :: opening) (opening ++ body) :=
      Bool.eq_false_iff.mp (congrArg Option.isSome hbrace)
    have hreference : referenceFrom (opening ++ body) 2 = _ :=
      (offsetOf_append opening body).symm ▸ referenceFrom_offsetOf (List.suffix_append opening body)
    rw [if_neg hopens, hreference, read?_opening hne, pure_bind, Option.map_map, Option.map_map]
    refine congrArg pure (Option.map_congr fun found hfound ↦ ?_)
    exact congrArg (·, Meaning.reference found.1) (hinside (readReference?_suffix hfound))

theorem renderMarkerAt_eq (text : List Char) :
    renderMarkerAt text =
      pure ((readRenderMarker? text).map fun found ↦ (offsetOf text found.2, found.1)) := by
  have hself : eat opening text 0 = pure ((stripPrefix? opening text).map (offsetOf text)) := by
    rw [← offsetOf_self text]
    exact eat_offsetOf List.suffix_rfl opening
  rw [renderMarkerAt, hself, readRenderMarker?]
  cases hopening : stripPrefix? opening text with
  | none => rfl
  | some body =>
    have hbody := behindToken_suffix List.suffix_rfl hopening
    simp only [Option.map_some, dropBytes_offsetOf hbody, pure_bind, startsWith]
    rcases stripPrefix?_char '\x7b' body with ⟨tail, rfl, hbrace⟩ | ⟨hne, hbrace⟩
    · rfl
    have hname := dropBlanks_suffix hbody
    have hafter := behindSpan_suffix hname isIdentifierChar
    have hbar := dropBlanks_suffix hafter
    simp only [hbrace, Option.isSome_none, Bool.false_eq_true, if_false, skip_offsetOf hbody,
      span_offsetOf hname, skip_offsetOf hafter, eat_offsetOf hbar, pure_bind]
    -- Nothing but the bar and what is behind it is left to be read.
    generalize spanOf isIdentifierChar (body.dropWhile Text.isBlank) = parts at hbar ⊢
    generalize parts.2.dropWhile Text.isBlank = bar at hbar ⊢
    rcases stripPrefix?_char '|' bar with ⟨word, rfl, hword⟩ | ⟨hnebar, hword⟩
    · have hbehind := (List.suffix_cons _ _).trans hbar
      have hsafe := dropBlanks_suffix hbehind
      simp only [hword, Option.map_some, skip_offsetOf hbehind, eat_offsetOf hsafe, pure_bind]
      cases hend : stripPrefix? "safe".toList (word.dropWhile Text.isBlank) with
      | none => split_ifs <;> rfl
      | some after =>
        have hclose := behindToken_suffix hsafe hend
        simp only [Option.map_some, skip_offsetOf hclose, eat_offsetOf (dropBlanks_suffix hclose),
          pure_bind]
        split_ifs
        · rfl
        · rw [Option.map_map, Option.map_map]
          rfl
    · simp only [hword, Option.map_none]
      split_ifs <;> rfl

theorem markerAt_eq (before body : List Char) :
    markerAt (before ++ (opening ++ body)) (byteLength before) =
      pure ((read? (opening ++ body)).map fun found ↦
        (offsetOf (before ++ (opening ++ body)) found.2, found.1)) := by
  rw [← offsetOf_append before (opening ++ body)]
  exact markerAt_offsetOf (List.suffix_append _ _)

theorem measureRenderMarker?_eq (text : String) :
    renderMarkerAt text.toList = pure (measureRenderMarker? text) := by
  rw [renderMarkerAt_eq]
  rfl

end StaticSite.Offset
