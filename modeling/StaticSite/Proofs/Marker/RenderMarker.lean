import StaticSite.Marker.RenderMarker
import StaticSite.Proofs.Marker.Partition

/-!
# Markers that are left for the page

A composition writes a marker where it leaves a value open, and the page is filled where a marker is
read. What is written is read back with its name, whatever follows it
(`readRenderMarker?_renderMarker`), and no template marker is read in it
(`isPlain_renderMarker`). But a brace in front of it is taken for the third one of a
placeholder, and hides it (`readRenderMarker?_of_brace`).
-/

namespace StaticSite.Marker

/-- A name that can be read back from a marker: an identifier, and not the empty one. -/
structure IsIdentifier (name : String) : Prop where
  ne_empty : name ≠ ""
  chars : ∀ c ∈ name.toList, isIdentifierChar c

variable {name : String}

namespace IsIdentifier

theorem toList_ne_nil (h : IsIdentifier name) : name.toList ≠ [] := by
  simpa using h.ne_empty

theorem not_mem_of_ne {c : Char} (h : IsIdentifier name) (hc : isIdentifierChar c = false) :
    c ∉ name.toList := by
  intro hmem
  simp [h.chars c hmem] at hc

end IsIdentifier

/-- Placeholders are named by identifiers. -/
theorem isIdentifier_of_mem_tokenize {text : String} {p : Placeholder}
    (h : .placeholder p ∈ tokenize text) : IsIdentifier p.name := by
  obtain ⟨source, hspells, -⟩ := exists_spells_of_mem_tokenize (.placeholder p) h
  cases hspells with
  | bare _ hne hchars => exact ⟨by simpa using hne, by simpa using hchars⟩
  | withFallback _ hne hchars => exact ⟨by simpa using hne, by simpa using hchars⟩

theorem toList_renderMarker (name : String) :
    (renderMarker name).toList = opening ++ ' ' :: (name.toList ++ " | safe \x7d\x7d".toList) := by
  simp [renderMarker, opening]

private theorem isBlank_space : ∀ c ∈ [' '], Text.isBlank c := by
  simp
  decide

/-- The texts that spell a marker for the page: an identifier and the word `safe` behind a bar. -/
inductive SpellsRenderMarker : String → List Char → Prop
  | intro {before name beforeBar behindBar after : List Char}
      (before_blank : ∀ c ∈ before, Text.isBlank c) (name_ne_nil : name ≠ [])
      (name_chars : ∀ c ∈ name, isIdentifierChar c)
      (beforeBar_blank : ∀ c ∈ beforeBar, Text.isBlank c)
      (behindBar_blank : ∀ c ∈ behindBar, Text.isBlank c)
      (after_blank : ∀ c ∈ after, Text.isBlank c) :
      SpellsRenderMarker (String.ofList name)
        (opening ++ (before ++ (name ++ (beforeBar ++ '|' ::
          (behindBar ++ ("safe".toList ++ (after ++ closing)))))))

namespace SpellsRenderMarker

variable {source : List Char}

/-- The braces of a marker that open are those at its front, and one that closes is at its end. -/
theorem exists_body (h : SpellsRenderMarker name source) :
    ∃ body, source = opening ++ (body ++ ['\x7d']) ∧ '\x7b' ∉ body := by
  obtain @⟨before, name, beforeBar, behindBar, after, hbefore, -, hname, hbeforeBar, hbehindBar,
    hafter⟩ := h
  have hblank {text : List Char} (h : ∀ c ∈ text, Text.isBlank c) : '\x7b' ∉ text :=
    fun hmem ↦ absurd (h _ hmem) (by decide)
  have hchars : '\x7b' ∉ name := fun hmem ↦ absurd (hname _ hmem) (by decide)
  refine ⟨before ++ (name ++ (beforeBar ++ '|' :: (behindBar ++ ("safe".toList ++
    (after ++ ['\x7d']))))), by simp [closing], ?_⟩
  simp [hblank hbefore, hchars, hblank hbeforeBar, hblank hbehindBar, hblank hafter]

theorem opening_isPrefix (h : SpellsRenderMarker name source) : opening <+: source := by
  obtain ⟨body, rfl, -⟩ := h.exists_body
  exact List.prefix_append _ _

theorem length_pos (h : SpellsRenderMarker name source) : 0 < source.length :=
  lt_of_lt_of_le (by decide) h.opening_isPrefix.length_le

/-- No two braces that open begin behind the first character of a marker. -/
theorem not_opening_isPrefix {front tail : List Char} (h : SpellsRenderMarker name (front ++ tail))
    (hfront : front ≠ []) (htail : tail ≠ []) (rest : List Char) : ¬ opening <+: tail ++ rest := by
  obtain ⟨body, hsource, hbody⟩ := h.exists_body
  have hbrace : '\x7b' ∉ body ++ ['\x7d'] := by simpa using hbody
  obtain ⟨c, tail, rfl⟩ := List.exists_cons_of_ne_nil htail
  rintro ⟨more, hmore⟩
  obtain ⟨rfl, hmore⟩ : c = '\x7b' ∧ '\x7b' :: more = tail ++ rest := by
    simpa [opening, eq_comm] using hmore
  obtain ⟨first, front, rfl⟩ := List.exists_cons_of_ne_nil hfront
  cases front with
  | nil =>
    obtain rfl : tail = body ++ ['\x7d'] := (by simpa [opening] using hsource : _ ∧ _).2
    cases body <;> simp_all
  | cons second front =>
    have hmem : front ++ '\x7b' :: tail = body ++ ['\x7d'] :=
      (List.cons.inj (List.cons.inj hsource).2).2
    exact hbrace (hmem ▸ List.mem_append_right _ List.mem_cons_self)

end SpellsRenderMarker

/-- What a test drops from a text comes before what is left of it. -/
private theorem exists_of_dropWhile (p : Char → Bool) (text : List Char) :
    ∃ dropped : List Char, (∀ c ∈ dropped, p c) ∧ text = dropped ++ text.dropWhile p :=
  ⟨text.takeWhile p, fun _ hc ↦ List.mem_takeWhile_imp hc, List.takeWhile_append_dropWhile.symm⟩

/-- A marker for the page is read exactly from a text that spells it. -/
theorem readRenderMarker?_eq_some_iff {text rest : List Char} :
    readRenderMarker? text = some (name, rest) ↔
      ∃ source, SpellsRenderMarker name source ∧ text = source ++ rest := by
  constructor
  · intro h
    unfold readRenderMarker? at h
    split at h
    · simp at h
    · simp at h
    next body _ hopen =>
    obtain ⟨before, beforeBar, hbefore, hbeforeBar, hbody⟩ :=
      exists_blanks_around isIdentifierChar body
    have hchars := Text.all_spanOf_fst isIdentifierChar (body.dropWhile Text.isBlank)
    simp only at h
    split_ifs at h with hname
    split at h
    · next bar hbar =>
      split at h
      · simp at h
      next word hword =>
      obtain ⟨found, hclose, hfound⟩ := Option.map_eq_some_iff.mp h
      obtain ⟨rfl, rfl⟩ := Prod.mk.inj hfound
      obtain ⟨behindBar, hbehindBar, hbehind⟩ := exists_of_dropWhile Text.isBlank bar
      obtain ⟨after, hafter, hend⟩ := exists_of_dropWhile Text.isBlank word
      rw [Text.stripPrefix?_eq_some hword, hend, Text.stripPrefix?_eq_some hclose] at hbehind
      rw [hbar, hbehind] at hbody
      refine ⟨_, .intro hbefore (by simpa using hname) hchars hbeforeBar hbehindBar hafter, ?_⟩
      exact (Text.stripPrefix?_eq_some hopen).trans ((congrArg (opening ++ ·) hbody).trans (by simp))
    · simp at h
  · rintro ⟨source, @⟨before, name, beforeBar, behindBar, after, hbefore, hname, hchars, hbeforeBar,
      hbehindBar, hafter⟩, rfl⟩
    have hspan := spanOf_dropWhile_spelled
      ('|' :: (behindBar ++ ("safe".toList ++ (after ++ (closing ++ rest)))))
      (fun c ↦ isBlank_eq_false_of_isIdentifierChar) hbefore hname hchars hbeforeBar
      (by simp; decide)
    have hbar : (beforeBar ++ '|' :: (behindBar ++ ("safe".toList ++ (after ++ (closing ++ rest))))
        ).dropWhile Text.isBlank = _ :=
      Text.dropWhile_append_of_all hbeforeBar (by simp; decide)
    have hword : (behindBar ++ ("safe".toList ++ (after ++ (closing ++ rest)))).dropWhile
        Text.isBlank = _ :=
      Text.dropWhile_append_of_all hbehindBar (by simp; decide)
    have hend : (after ++ (closing ++ rest)).dropWhile Text.isBlank = closing ++ rest :=
      Text.dropWhile_append_of_all hafter (by simp [closing]; decide)
    have hempty : name.isEmpty = false := by simpa using hname
    simp only [List.append_assoc, List.cons_append]
    rw [readRenderMarker?, Text.stripPrefix?_append]
    split
    · next heq => cases heq
    · next heq =>
      obtain ⟨c, body, htext, hc⟩ := exists_cons_of_spelled _ (by decide) hbefore hname hchars
      rw [htext] at heq
      exact absurd (List.cons.inj (Option.some.inj heq)).1 hc
    · next body _ heq =>
      obtain rfl := Option.some.inj heq
      simp only [hspan, hempty, hbar, hword, hend, Text.stripPrefix?_append, Bool.false_eq_true,
        if_false, Option.map_some]

theorem spellsRenderMarker_renderMarker (h : IsIdentifier name) :
    SpellsRenderMarker name (renderMarker name).toList := by
  have hspells := SpellsRenderMarker.intro isBlank_space h.toList_ne_nil h.chars isBlank_space
    isBlank_space isBlank_space
  rw [String.ofList_toList] at hspells
  simpa [toList_renderMarker, closing] using hspells

/-- A marker is read back with its name, whatever follows it. -/
theorem readRenderMarker?_renderMarker (h : IsIdentifier name) (rest : List Char) :
    readRenderMarker? ((renderMarker name).toList ++ rest) = some (name, rest) :=
  readRenderMarker?_eq_some_iff.mpr ⟨_, spellsRenderMarker_renderMarker h, rfl⟩

/-- A brace in front of a marker hides it. -/
theorem readRenderMarker?_of_brace (text : List Char) :
    readRenderMarker? (opening ++ '\x7b' :: text) = none := by
  simp [readRenderMarker?, Text.stripPrefix?_append]

/-- The second part of such a marker is no parameter, so that the marker is no reference, whatever
follows it. -/
private theorem read?_renderMarker (hne : name ≠ "") (hchars : ∀ c ∈ name.toList, isNameChar c)
    (rest : List Char) : read? ((renderMarker name).toList ++ rest) = none := by
  have hspan := spanOf_dropWhile_spelled ("| safe \x7d\x7d".toList ++ rest)
    (fun c ↦ isBlank_eq_false_of_isNameChar) isBlank_space (by simpa using hne) hchars isBlank_space
    (by simp; decide)
  have hbar : ([' '] ++ ("| safe \x7d\x7d".toList ++ rest)).dropWhile Text.isBlank =
      "| safe \x7d\x7d".toList ++ rest :=
    Text.dropWhile_append_of_all isBlank_space (by simp; decide)
  have hparams : readParams? [] ("| safe \x7d\x7d".toList ++ rest) = none := by
    have hsegment : Text.spanOf isSegmentChar (" safe ".toList ++ '\x7d' :: '\x7d' :: rest) =
        (" safe ".toList, '\x7d' :: '\x7d' :: rest) :=
      Text.spanOf_append_of_all (by simp; decide) (by simp; decide)
    have hparam : readParam? " safe ".toList = none := by decide
    have hclose : Text.stripPrefix? closing
        ('|' :: (" safe ".toList ++ '\x7d' :: '\x7d' :: rest)) = none := rfl
    rw [show "| safe \x7d\x7d".toList ++ rest =
      '|' :: (" safe ".toList ++ '\x7d' :: '\x7d' :: rest) from rfl, readParams?]
    simp only [hclose, hsegment, hparam, if_true]
  have htext : (renderMarker name).toList ++ rest =
      opening ++ ([' '] ++ (name.toList ++ ([' '] ++ ("| safe \x7d\x7d".toList ++ rest)))) := by
    simp [toList_renderMarker]
  have hreference : readReference?
      ([' '] ++ (name.toList ++ ([' '] ++ ("| safe \x7d\x7d".toList ++ rest)))) = none := by
    simp only [readReference?, hspan, hbar, hparams, Option.map_none, ite_self]
  rw [htext, read?, Text.stripPrefix?_append]
  split
  · next heq => cases heq
  · next heq => simp at heq
  · next body _ heq =>
    obtain rfl := Option.some.inj heq
    rw [hreference, Option.map_none]

/-- No template marker is read in a marker for the page, nor in one that names a part of a value, nor
across its end. -/
theorem isPlain_renderMarker_append (hne : name ≠ "") (hchars : ∀ c ∈ name.toList, isNameChar c)
    {rest : List Char} (hrest : IsPlain rest) : IsPlain ((renderMarker name).toList ++ rest) := by
  have hnot : '\x7b' ∉ name.toList := fun hmem ↦ absurd (hchars _ hmem) (by decide)
  have htail : IsPlain (' ' :: (name.toList ++ " | safe \x7d\x7d".toList) ++ rest) :=
    hrest.append_of_notMem (by simp [hnot])
  have hbrace : read? ('\x7b' :: (' ' :: (name.toList ++ " | safe \x7d\x7d".toList) ++ rest)) =
      none := by
    simp [read?, opening, Text.stripPrefix?]
  have hmarker := read?_renderMarker hne hchars rest
  rw [toList_renderMarker] at hmarker ⊢
  exact (htail.cons hbrace).cons hmarker

theorem isPlain_renderMarker (hne : name ≠ "") (hchars : ∀ c ∈ name.toList, isNameChar c) :
    IsPlain (renderMarker name).toList := by
  simpa using isPlain_renderMarker_append hne hchars (isPlain_of_not_mem List.not_mem_nil)

theorem IsIdentifier.isPlain_renderMarker (h : IsIdentifier name) :
    IsPlain (renderMarker name).toList :=
  Marker.isPlain_renderMarker h.ne_empty fun c hc ↦ isNameChar_of_isIdentifierChar (h.chars c hc)

end StaticSite.Marker
