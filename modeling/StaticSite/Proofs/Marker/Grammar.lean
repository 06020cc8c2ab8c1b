import StaticSite.Marker.Basic
import StaticSite.Proofs.Text.Search

/-!
# The grammar of markers

How a marker is spelled, said without reading it: a reference is a name with segments `key=value`
behind bars, a placeholder is an identifier with or without a fallback. Reading accepts exactly
these spellings (`read?_eq_some_iff`). Since a spelling says nothing of the text behind it, a marker
is read in the same way whatever follows it (`read?_append`, `read?_of_append`).
-/

namespace StaticSite.Marker

/-- The text of a parameter, cut at its first equals sign. -/
structure Segment where
  /-- The text before the equals sign. -/
  key : List Char
  /-- The text after the equals sign. -/
  value : List Char

namespace Segment

/-- The segment as written, with its bar. -/
def source (segment : Segment) : List Char := '|' :: (segment.key ++ '=' :: segment.value)

/-- What may stand in a segment: no bars, no braces, and a key that is not blank. -/
structure WellFormed (segment : Segment) : Prop where
  key_chars : ∀ c ∈ segment.key, isSegmentChar c
  key_no_equals : '=' ∉ segment.key
  key_not_blank : Text.trim segment.key ≠ []
  value_chars : ∀ c ∈ segment.value, isSegmentChar c

/-- The parameter that a segment passes on. -/
def param (segment : Segment) : String × String :=
  (String.ofList (Text.trim segment.key), String.ofList (Text.trim segment.value))

end Segment

/-- The parameters of segments added to some that are known; a later one replaces an earlier
one. -/
def addParams (params : Table String) (segments : List Segment) : Table String :=
  segments.foldl (fun table segment ↦ table.insert segment.param.1 segment.param.2) params

/-- The texts that spell a reference. -/
inductive SpellsReference : Reference → List Char → Prop
  | intro {before name after : List Char} {segments : List Segment}
      (before_blank : ∀ c ∈ before, Text.isBlank c) (name_ne_nil : name ≠ [])
      (name_chars : ∀ c ∈ name, isNameChar c) (after_blank : ∀ c ∈ after, Text.isBlank c)
      (segments_wellFormed : ∀ segment ∈ segments, segment.WellFormed) :
      SpellsReference ⟨String.ofList name, addParams [] segments⟩
        (opening ++ (before ++ (name ++ (after ++ (segments.flatMap Segment.source ++ closing)))))

/-- The texts that spell a placeholder. A fallback ends at the first three closing braces. -/
inductive SpellsPlaceholder : Placeholder → List Char → Prop
  | bare {before name after : List Char} (before_blank : ∀ c ∈ before, Text.isBlank c)
      (name_ne_nil : name ≠ []) (name_chars : ∀ c ∈ name, isIdentifierChar c)
      (after_blank : ∀ c ∈ after, Text.isBlank c) :
      SpellsPlaceholder ⟨String.ofList name, none⟩
        (opening ++ '\x7b' :: (before ++ (name ++ (after ++ tripleClosing))))
  | withFallback {before name after fallback : List Char}
      (before_blank : ∀ c ∈ before, Text.isBlank c) (name_ne_nil : name ≠ [])
      (name_chars : ∀ c ∈ name, isIdentifierChar c) (after_blank : ∀ c ∈ after, Text.isBlank c)
      (one_line : '\n' ∉ fallback) (first_closing : ¬ tripleClosing <:+: fallback ++ closing) :
      SpellsPlaceholder ⟨String.ofList name, some (String.ofList (Text.trim fallback))⟩
        (opening ++ '\x7b' :: (before ++ (name ++ (after ++ '=' :: (fallback ++ tripleClosing)))))

/-- The texts that spell a marker. -/
def Spells : Meaning → List Char → Prop
  | .reference r, source => SpellsReference r source
  | .placeholder p, source => SpellsPlaceholder p source

/-! ## Classes of characters -/

theorem isBlank_eq_false_of_isNameChar {c : Char} (h : isNameChar c) : Text.isBlank c = false := by
  simpa using (Bool.and_eq_true_iff.mp h).2

/-- Identifiers are made of ASCII letters, digits and underscores, none of which is blank. -/
theorem isBlank_eq_false_of_isIdentifierChar {c : Char} (h : isIdentifierChar c) :
    Text.isBlank c = false := by
  have hrange : 48 ≤ c.toNat ∧ c.toNat ≤ 122 := by
    simp only [isIdentifierChar, Char.isAlphanum, Char.isAlpha, Char.isUpper, Char.isLower,
      Char.isDigit, Bool.or_eq_true, Bool.and_eq_true, decide_eq_true_eq, beq_iff_eq] at h
    rcases h with ((⟨h₁, h₂⟩ | ⟨h₁, h₂⟩) | ⟨h₁, h₂⟩) | rfl
    · exact ⟨le_trans (by decide) (UInt32.le_iff_toNat_le.mp h₁),
        le_trans (UInt32.le_iff_toNat_le.mp h₂) (by decide)⟩
    · exact ⟨le_trans (by decide) (UInt32.le_iff_toNat_le.mp h₁),
        le_trans (UInt32.le_iff_toNat_le.mp h₂) (by decide)⟩
    · exact ⟨UInt32.le_iff_toNat_le.mp h₁,
        le_trans (UInt32.le_iff_toNat_le.mp h₂) (by decide)⟩
    · decide
  simp only [Text.isBlank, Bool.or_eq_false_iff, Bool.and_eq_false_iff, decide_eq_false_iff_not,
    beq_eq_false_iff_ne]
  omega

theorem isIdentifierChar_ne_brace {c : Char} (h : isIdentifierChar c) : c ≠ '\x7b' ∧ c ≠ '\x7d' := by
  constructor <;> rintro rfl <;> exact absurd h (by decide)

theorem isNameChar_of_isIdentifierChar {c : Char} (h : isIdentifierChar c) : isNameChar c := by
  have hbar : c ≠ '|' := by
    rintro rfl
    exact absurd h (by decide)
  obtain ⟨hopen, hclose⟩ := isIdentifierChar_ne_brace h
  simp [isNameChar, isSegmentChar, hbar, hopen, hclose, isBlank_eq_false_of_isIdentifierChar h]

/-! ## Parameters -/

theorem splitOnce?_eq_some_iff {separator : Char} {text before after : List Char} :
    splitOnce? separator text = some (before, after) ↔
      text = before ++ separator :: after ∧ separator ∉ before := by
  constructor
  · intro h
    have hchars := Text.all_spanOf_fst (· != separator) text
    have htext := Text.spanOf_append (· != separator) text
    have hhead := List.head?_dropWhile_not (· != separator) text
    rw [splitOnce?] at h
    split at h
    · simp at h
    · next front c rest hspan =>
      rw [hspan] at hchars htext
      rw [Text.spanOf_eq_takeWhile_dropWhile, Prod.mk.injEq] at hspan
      have hc : c = separator := by simpa [hspan.2] using hhead
      simp only [Option.some.injEq, Prod.mk.injEq] at h
      obtain ⟨rfl, rfl⟩ := h
      refine ⟨by rw [← htext, hc], fun hmem ↦ ?_⟩
      simpa using hchars separator hmem
  · rintro ⟨rfl, hmem⟩
    have hspan : Text.spanOf (· != separator) (before ++ separator :: after) =
        (before, separator :: after) := by
      refine Text.spanOf_append_of_all (fun c hc ↦ ?_) (by simp)
      simpa using fun h : c = separator ↦ hmem (h ▸ hc)
    simp [splitOnce?, hspan]

/-- A parameter is read exactly from a key that is not blank, an equals sign and a value. -/
theorem readParam?_eq_some_iff {text : List Char} {param : String × String} :
    readParam? text = some param ↔
      ∃ segment : Segment, text = segment.key ++ '=' :: segment.value ∧ '=' ∉ segment.key ∧
        Text.trim segment.key ≠ [] ∧ param = segment.param := by
  constructor
  · intro h
    unfold readParam? at h
    split at h
    · simp at h
    · next key value hsplit =>
      obtain ⟨htext, hkey⟩ := splitOnce?_eq_some_iff.mp hsplit
      split_ifs at h with hblank
      exact ⟨⟨key, value⟩, htext, hkey, by simpa using hblank, (Option.some.inj h).symm⟩
  · rintro ⟨⟨key, value⟩, htext, hkey, hblank, rfl⟩
    have hsplit := splitOnce?_eq_some_iff.mpr ⟨htext, hkey⟩
    simpa [readParam?, hsplit, Segment.param] using hblank

theorem readParam?_of_wellFormed {segment : Segment} (h : segment.WellFormed) :
    readParam? (segment.key ++ '=' :: segment.value) = some segment.param :=
  readParam?_eq_some_iff.mpr ⟨segment, rfl, h.key_no_equals, h.key_not_blank, rfl⟩

private theorem readParams?_closing (params : Table String) (rest : List Char) :
    readParams? params (closing ++ rest) = some (params, rest) := by
  rw [readParams?.eq_def, Text.stripPrefix?_append]

private theorem readParams?_source {segment : Segment} (h : segment.WellFormed)
    (params : Table String) {rest : List Char} (hrest : ∀ c ∈ rest.head?, isSegmentChar c = false) :
    readParams? params (segment.source ++ rest) =
      readParams? (params.insert segment.param.1 segment.param.2) rest := by
  have hopen : Text.stripPrefix? closing (segment.source ++ rest) = none := by
    simp [Segment.source, closing, Text.stripPrefix?]
  have hspan : Text.spanOf isSegmentChar (segment.key ++ '=' :: segment.value ++ rest) =
      (segment.key ++ '=' :: segment.value, rest) := by
    refine Text.spanOf_append_of_all ?_ hrest
    simp only [List.mem_append, List.mem_cons]
    rintro c (hc | rfl | hc)
    · exact h.key_chars c hc
    · decide
    · exact h.value_chars c hc
  rw [readParams?.eq_def, hopen]
  simp only [Segment.source, List.cons_append, hspan, readParam?_of_wellFormed h, if_true]

/-- Parameters are read exactly from segments with the two closing braces behind them. -/
theorem readParams?_eq_some_iff {params table : Table String} {text rest : List Char} :
    readParams? params text = some (table, rest) ↔
      ∃ segments : List Segment, (∀ segment ∈ segments, segment.WellFormed) ∧
        text = segments.flatMap Segment.source ++ (closing ++ rest) ∧
          table = addParams params segments := by
  constructor
  · intro h
    fun_induction readParams? params text with
    | case1 params text found hclose =>
      simp only [Option.some.injEq, Prod.mk.injEq] at h
      obtain ⟨rfl, rfl⟩ := h
      exact ⟨[], by simp, by simpa using Text.stripPrefix?_eq_some hclose, rfl⟩
    | case2 => simp at h
    | case3 => simp at h
    | case4 params body key value hparam hclose ih =>
      obtain ⟨segments, hwf, hbody, rfl⟩ := ih h
      obtain ⟨segment, hsegment, hequals, hblank, hkv⟩ := readParam?_eq_some_iff.mp hparam
      have hchars := Text.all_spanOf_fst isSegmentChar body
      rw [hsegment] at hchars
      have hfirst : segment.WellFormed :=
        ⟨fun c hc ↦ hchars c (List.mem_append_left _ hc), hequals, hblank,
          fun c hc ↦ hchars c (List.mem_append_right _ (List.mem_cons_of_mem _ hc))⟩
      refine ⟨segment :: segments, ?_, ?_, ?_⟩
      · rintro s (_ | ⟨_, hs⟩)
        · exact hfirst
        · exact hwf s hs
      · rw [← Text.spanOf_append isSegmentChar body, hsegment, hbody]
        simp [Segment.source]
      · rw [addParams, addParams, List.foldl_cons, ← hkv]
    | case5 => simp at h
  · rintro ⟨segments, hwf, rfl, rfl⟩
    induction segments generalizing params with
    | nil => exact readParams?_closing params rest
    | cons segment segments ih =>
      have hnext : ∀ c ∈ (segments.flatMap Segment.source ++ (closing ++ rest)).head?,
          isSegmentChar c = false := by
        cases segments <;> simp [Segment.source, closing, isSegmentChar]
      rw [List.flatMap_cons, List.append_assoc,
        readParams?_source (hwf segment List.mem_cons_self) params hnext]
      exact ih fun s hs ↦ hwf s (List.mem_cons_of_mem _ hs)

/-! ## Names -/

/-- What is read as a name, with the white space around it, is all of the text before the rest. -/
theorem exists_blanks_around (p : Char → Bool) (text : List Char) :
    ∃ before after : List Char, (∀ c ∈ before, Text.isBlank c) ∧ (∀ c ∈ after, Text.isBlank c) ∧
      text = before ++ ((Text.spanOf p (text.dropWhile Text.isBlank)).1 ++ (after ++
        (Text.spanOf p (text.dropWhile Text.isBlank)).2.dropWhile Text.isBlank)) := by
  refine ⟨text.takeWhile Text.isBlank,
    (Text.spanOf p (text.dropWhile Text.isBlank)).2.takeWhile Text.isBlank,
    fun c hc ↦ List.mem_takeWhile_imp hc, fun c hc ↦ List.mem_takeWhile_imp hc, ?_⟩
  rw [List.takeWhile_append_dropWhile, Text.spanOf_append, List.takeWhile_append_dropWhile]

/-- A name with white space around it is read as it is spelled. -/
theorem spanOf_dropWhile_spelled {p : Char → Bool} {before name after : List Char}
    (rest : List Char) (hp : ∀ c, p c → Text.isBlank c = false)
    (hbefore : ∀ c ∈ before, Text.isBlank c) (hname : name ≠ []) (hchars : ∀ c ∈ name, p c)
    (hafter : ∀ c ∈ after, Text.isBlank c)
    (hrest : ∀ c ∈ rest.head?, p c = false) :
    Text.spanOf p ((before ++ (name ++ (after ++ rest))).dropWhile Text.isBlank) =
      (name, after ++ rest) := by
  rw [Text.dropWhile_append_of_all hbefore, Text.spanOf_append_of_all hchars]
  · cases after with
    | nil => exact hrest
    | cons c after =>
      have hblank := hafter c List.mem_cons_self
      have hc : p c = false := Bool.eq_false_iff.mpr fun hc ↦ by simp [hp c hc] at hblank
      simpa using hc
  · cases name with
    | nil => exact absurd rfl hname
    | cons c name => simpa using hp c (hchars c List.mem_cons_self)

/-! ## Markers -/

/-- A reference is read exactly from a text that spells it. -/
theorem readReference?_eq_some_iff {text rest : List Char} {r : Reference} :
    readReference? text = some (r, rest) ↔
      ∃ source, SpellsReference r (opening ++ source) ∧ text = source ++ rest := by
  constructor
  · intro h
    obtain ⟨before, after, hbefore, hafter, htext⟩ := exists_blanks_around isNameChar text
    simp only [readReference?] at h
    split_ifs at h with hname
    simp only [Option.map_eq_some_iff, Prod.exists, Prod.mk.injEq] at h
    obtain ⟨table, found, hparams, rfl, rfl⟩ := h
    obtain ⟨segments, hwf, hsegments, rfl⟩ := readParams?_eq_some_iff.mp hparams
    rw [hsegments] at htext
    exact ⟨_, .intro hbefore (by simpa using hname) (Text.all_spanOf_fst isNameChar _) hafter hwf,
      by simpa only [List.append_assoc] using htext⟩
  · rintro ⟨source, hspells, rfl⟩
    generalize hsource : opening ++ source = full at hspells
    obtain @⟨before, name, after, segments, hbefore, hname, hchars, hafter, hwf⟩ := hspells
    have hhead : ∀ c ∈ (segments.flatMap Segment.source ++ (closing ++ rest)).head?,
        isNameChar c = false ∧ Text.isBlank c = false := by
      cases segments <;> simp [Segment.source, closing] <;> decide
    have hspan := spanOf_dropWhile_spelled _ (fun c ↦ isBlank_eq_false_of_isNameChar) hbefore hname
      hchars hafter fun c hc ↦ (hhead c hc).1
    have hdrop := Text.dropWhile_append_of_all hafter fun c hc ↦ (hhead c hc).2
    have hparams : readParams? [] (segments.flatMap Segment.source ++ (closing ++ rest)) =
        some (addParams [] segments, rest) :=
      readParams?_eq_some_iff.mpr ⟨segments, hwf, rfl, rfl⟩
    rw [List.append_cancel_left hsource]
    simp only [readReference?, List.append_assoc, hspan, hdrop, hparams]
    simpa using hname

/-- A placeholder is read exactly from a text that spells it. -/
theorem readPlaceholder?_eq_some_iff {text rest : List Char} {p : Placeholder} :
    readPlaceholder? text = some (p, rest) ↔
      ∃ source, SpellsPlaceholder p (opening ++ '\x7b' :: source) ∧ text = source ++ rest := by
  constructor
  · intro h
    obtain ⟨before, after, hbefore, hafter, htext⟩ := exists_blanks_around isIdentifierChar text
    have hchars := Text.all_spanOf_fst isIdentifierChar (text.dropWhile Text.isBlank)
    simp only [readPlaceholder?] at h
    split_ifs at h with hname
    replace hname : (Text.spanOf isIdentifierChar (text.dropWhile Text.isBlank)).1 ≠ [] := by
      simpa using hname
    split at h
    · next found hclose =>
      simp only [Option.some.injEq, Prod.mk.injEq] at h
      obtain ⟨rfl, rfl⟩ := h
      rw [Text.stripPrefix?_eq_some hclose] at htext
      exact ⟨_, .bare hbefore hname hchars hafter, by simpa only [List.append_assoc] using htext⟩
    · split at h
      · next body hbody =>
        split at h
        · simp at h
        · next fallback found hbreak =>
          split_ifs at h with hline
          simp only [Option.some.injEq, Prod.mk.injEq] at h
          obtain ⟨rfl, rfl⟩ := h
          obtain ⟨hsplit, hfirst⟩ := (Text.breakOn?_eq_some_iff (by simp [tripleClosing])).mp hbreak
          rw [hbody, hsplit] at htext
          refine ⟨_, .withFallback hbefore hname hchars hafter (by simpa using hline) hfirst, ?_⟩
          simpa only [List.append_assoc, List.cons_append] using htext
      · simp at h
  · rintro ⟨source, hspells, rfl⟩
    generalize hsource : opening ++ '\x7b' :: source = full at hspells
    cases hspells with
    | @bare before name after hbefore hname hchars hafter =>
      have hspan := spanOf_dropWhile_spelled (tripleClosing ++ rest)
        (fun c ↦ isBlank_eq_false_of_isIdentifierChar) hbefore hname hchars hafter
        (by simp [tripleClosing]; decide)
      have hdrop : (after ++ (tripleClosing ++ rest)).dropWhile Text.isBlank =
          tripleClosing ++ rest :=
        Text.dropWhile_append_of_all hafter (by simp [tripleClosing]; decide)
      rw [List.tail_eq_of_cons_eq (List.append_cancel_left hsource)]
      simp only [readPlaceholder?, List.append_assoc, hspan, hdrop, Text.stripPrefix?_append]
      simpa using hname
    | @withFallback before name after fallback hbefore hname hchars hafter hline hfirst =>
      have hspan := spanOf_dropWhile_spelled ('=' :: (fallback ++ (tripleClosing ++ rest)))
        (fun c ↦ isBlank_eq_false_of_isIdentifierChar) hbefore hname hchars hafter (by simp; decide)
      have hdrop : (after ++ '=' :: (fallback ++ (tripleClosing ++ rest))).dropWhile Text.isBlank =
          '=' :: (fallback ++ (tripleClosing ++ rest)) :=
        Text.dropWhile_append_of_all hafter (by simp; decide)
      have hopen : Text.stripPrefix? tripleClosing
          ('=' :: (fallback ++ (tripleClosing ++ rest))) = none := by
        simp [tripleClosing, Text.stripPrefix?]
      have hbreak : Text.breakOn? tripleClosing (fallback ++ (tripleClosing ++ rest)) =
          some (fallback, rest) :=
        (Text.breakOn?_eq_some_iff (by simp [tripleClosing])).mpr
          ⟨(List.append_assoc fallback tripleClosing rest).symm, hfirst⟩
      rw [List.tail_eq_of_cons_eq (List.append_cancel_left hsource)]
      simp only [readPlaceholder?, List.append_assoc, List.cons_append, hspan, hdrop, hopen, hbreak]
      simpa [hline] using hname

/-- White space and a name have no brace at their front. -/
theorem exists_cons_of_spelled {p : Char → Bool} {before name : List Char} (rest : List Char)
    (hbrace : p '\x7b' = false) (hbefore : ∀ c ∈ before, Text.isBlank c) (hname : name ≠ [])
    (hchars : ∀ c ∈ name, p c) : ∃ c body, before ++ (name ++ rest) = c :: body ∧ c ≠ '\x7b' := by
  cases before with
  | cons c before =>
    refine ⟨c, _, rfl, ?_⟩
    rintro rfl
    exact absurd (hbefore _ List.mem_cons_self) (by decide)
  | nil =>
    obtain ⟨c, name, rfl⟩ := List.exists_cons_of_ne_nil hname
    refine ⟨c, _, rfl, ?_⟩
    rintro rfl
    exact absurd (hchars _ List.mem_cons_self) (by simp [hbrace])

/-- After the two opening braces of a reference comes no third one. -/
private theorem SpellsReference.eq_opening {r : Reference} {source : List Char}
    (h : SpellsReference r source) :
    ∃ c body, source = opening ++ c :: body ∧ c ≠ '\x7b' := by
  obtain @⟨before, name, after, segments, hbefore, hname, hchars, -, -⟩ := h
  obtain ⟨c, body, htext, hc⟩ := exists_cons_of_spelled
    (after ++ (segments.flatMap Segment.source ++ closing)) (by decide) hbefore hname hchars
  exact ⟨c, body, by rw [htext], hc⟩

private theorem SpellsPlaceholder.eq_opening {p : Placeholder} {source : List Char}
    (h : SpellsPlaceholder p source) : ∃ body, source = opening ++ '\x7b' :: body := by
  cases h <;> exact ⟨_, rfl⟩

/-- A marker is read exactly from a text that spells it. -/
theorem read?_eq_some_iff {text rest : List Char} {marker : Meaning} :
    read? text = some (marker, rest) ↔ ∃ source, Spells marker source ∧ text = source ++ rest := by
  constructor
  · intro h
    unfold read? at h
    split at h
    · simp at h
    · next body hopen =>
      simp only [Option.map_eq_some_iff, Prod.exists, Prod.mk.injEq] at h
      obtain ⟨p, found, hp, rfl, rfl⟩ := h
      obtain ⟨source, hspells, rfl⟩ := readPlaceholder?_eq_some_iff.mp hp
      exact ⟨_, hspells, by simpa using Text.stripPrefix?_eq_some hopen⟩
    · next body _ hopen =>
      simp only [Option.map_eq_some_iff, Prod.exists, Prod.mk.injEq] at h
      obtain ⟨r, found, hr, rfl, rfl⟩ := h
      obtain ⟨source, hspells, rfl⟩ := readReference?_eq_some_iff.mp hr
      exact ⟨_, hspells, by simpa using Text.stripPrefix?_eq_some hopen⟩
  · rintro ⟨source, hspells, rfl⟩
    cases marker with
    | reference r =>
      obtain ⟨c, body, rfl, hc⟩ := hspells.eq_opening
      have hread : readReference? (c :: body ++ rest) = some (r, rest) :=
        readReference?_eq_some_iff.mpr ⟨_, hspells, rfl⟩
      rw [read?, List.append_assoc, Text.stripPrefix?_append]
      split
      · next h => simp at h
      · next h => simp_all
      · next body' _ h =>
        obtain rfl : c :: body ++ rest = body' := Option.some.inj h
        simp only [hread, Option.map_some]
    | placeholder p =>
      obtain ⟨body, rfl⟩ := hspells.eq_opening
      have hread : readPlaceholder? (body ++ rest) = some (p, rest) :=
        readPlaceholder?_eq_some_iff.mpr ⟨_, hspells, rfl⟩
      rw [read?, List.append_assoc, Text.stripPrefix?_append]
      simp [hread]

/-! ## Markers in longer texts -/

variable {text rest more : List Char} {marker : Meaning}

/-- A marker is the same marker when more text follows. -/
theorem read?_append (h : read? text = some (marker, rest)) :
    read? (text ++ more) = some (marker, rest ++ more) := by
  obtain ⟨source, hspells, rfl⟩ := read?_eq_some_iff.mp h
  exact read?_eq_some_iff.mpr ⟨source, hspells, List.append_assoc _ _ _⟩

/-- A marker is the same marker when text behind it is left out. -/
theorem read?_of_append (h : read? (text ++ more) = some (marker, rest ++ more)) :
    read? text = some (marker, rest) := by
  obtain ⟨source, hspells, htext⟩ := read?_eq_some_iff.mp h
  rw [← List.append_assoc] at htext
  exact read?_eq_some_iff.mpr ⟨source, hspells, List.append_cancel_right htext⟩

/-- The text of a placeholder ends with three closing braces. -/
theorem SpellsPlaceholder.tripleClosing_isInfix {p : Placeholder} {source : List Char}
    (h : SpellsPlaceholder p source) : tripleClosing <:+: source := by
  cases h with
  | @bare before name after =>
    exact ⟨opening ++ '\x7b' :: (before ++ (name ++ after)), [], by simp⟩
  | @withFallback before name after fallback =>
    exact ⟨opening ++ '\x7b' :: (before ++ (name ++ (after ++ '=' :: fallback))), [], by simp⟩

/-- The text of a marker begins with a brace. -/
theorem Spells.head_eq {source : List Char} (h : Spells marker source) :
    ∃ body, source = '\x7b' :: body := by
  cases marker with
  | reference r => obtain ⟨c, body, rfl, -⟩ := SpellsReference.eq_opening h; exact ⟨_, rfl⟩
  | placeholder p => obtain ⟨body, rfl⟩ := SpellsPlaceholder.eq_opening h; exact ⟨_, rfl⟩

end StaticSite.Marker
