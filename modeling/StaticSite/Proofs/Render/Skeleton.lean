import Mathlib.Algebra.Group.Nat.Even
import StaticSite.Proofs.Marker.RenderMarker
import StaticSite.Renderer

/-!
# The skeleton of a page body

A body is cut at its markers before any value is known: where it is cut is up to the body alone, and
every context only puts its values into the gaps (`exists_skeleton`). So no value can add a marker,
take one away or be taken for a part of one. Where the markers of a body stand is told from the
braces in front of them (`Cuts.standsAt_iff`): two that begin no marker are passed over together, so
a marker behind an odd number of braces is not seen.
-/

namespace StaticSite.Renderer

open Marker

/-! ## The scan -/

section Scan

variable {context : PageContext} {name : String} {source rest : List Char}

/-- Two braces are told from the first character and the one behind it. -/
theorem opening_isPrefix_cons {c : Char} {text : List Char} :
    opening <+: c :: text ↔ c = '\x7b' ∧ text.head? = some '\x7b' := by
  cases text <;> simp [opening, eq_comm]

/-- A character that begins no two braces is kept. -/
theorem bodyParts_cons {c : Char} {text : List Char} (hopen : ¬ opening <+: c :: text) (n : Nat) :
    bodyParts (n + 1) (c :: text) = .text [c] :: bodyParts n text := by
  have hstrip := Text.stripPrefix?_eq_none_iff.mpr hopen
  simp only [bodyParts, hstrip]

/-- How the scan goes on at two braces. -/
private theorem bodyParts_opening (n : Nat) (rest : List Char) :
    bodyParts (n + 1) (opening ++ rest) =
      match readRenderMarker? (opening ++ rest) with
      | some (name, rest) => .marker name :: bodyParts n rest
      | none => .text opening :: bodyParts n rest := by
  have hstrip := Text.stripPrefix?_append opening rest
  rw [show opening ++ rest = '\x7b' :: '\x7b' :: rest from rfl] at hstrip ⊢
  cases hread : readRenderMarker? ('\x7b' :: '\x7b' :: rest) with
  | none => simp only [bodyParts, hstrip, hread]
  | some found => simp only [bodyParts, hstrip, hread]

/-- Two braces that begin no marker are passed over together. -/
theorem bodyParts_braces (hread : readRenderMarker? (opening ++ rest) = none) (n : Nat) :
    bodyParts (n + 1) (opening ++ rest) = .text opening :: bodyParts n rest := by
  rw [bodyParts_opening, hread]

/-- A marker is read as one part. -/
theorem bodyParts_marker (spells : SpellsRenderMarker name source) (rest : List Char) (n : Nat) :
    bodyParts (n + 1) (source ++ rest) = .marker name :: bodyParts n rest := by
  have hread := readRenderMarker?_eq_some_iff.mpr ⟨source, spells, (rfl : source ++ rest = _)⟩
  obtain ⟨body, rfl⟩ := spells.opening_isPrefix
  rw [List.append_assoc] at hread ⊢
  rw [bodyParts_opening, hread]

theorem fillParts_text (chars : List Char) (parts : List BodyPart) :
    fillParts context (.text chars :: parts) = (fillParts context parts).map (chars ++ ·) := by
  rw [fillParts]
  cases fillParts context parts <;> rfl

theorem fillParts_marker (name : String) (parts : List BodyPart) :
    fillParts context (.marker name :: parts) =
      match context.get? name with
      | none => .error (.missingValue name)
      | some value => (fillParts context parts).map (value.display.toList ++ ·) := by
  rw [fillParts]
  cases context.get? name <;> cases fillParts context parts <;> rfl

end Scan

/-! ## Skeletons -/

/-- A marker of a body, as it is written, and the text behind it. -/
structure Slot where
  /-- The name of the value that is asked for. -/
  name : String
  /-- The marker itself. -/
  source : List Char
  /-- The text up to the next marker. -/
  after : List Char
  /-- What is written is a marker with this name. -/
  spells : SpellsRenderMarker name source

/-- A body that has been cut at its markers. -/
structure Skeleton where
  /-- The text in front of the first marker. -/
  front : List Char
  /-- The markers in their order. -/
  slots : List Slot

namespace Skeleton

variable {context : PageContext} {skeleton : Skeleton} {slot : Slot}

/-- The body that was cut. -/
def text (skeleton : Skeleton) : List Char :=
  skeleton.front ++ skeleton.slots.flatMap fun slot ↦ slot.source ++ slot.after

/-- The body with texts in place of its markers. -/
def fill (skeleton : Skeleton) (value : String → String) : List Char :=
  skeleton.front ++ skeleton.slots.flatMap fun slot ↦ (value slot.name).toList ++ slot.after

/-- The text that a context shows for a name. -/
def shownValue (context : PageContext) (name : String) : String :=
  ((context.get? name).map Value.display).getD ""

/-- The body with the values of a context, or the first name for which it has none. -/
def filled (skeleton : Skeleton) (context : PageContext) : Except RenderError (List Char) :=
  match skeleton.slots.find? fun slot ↦ (context.get? slot.name).isNone with
  | some slot => .error (.missingValue slot.name)
  | none => .ok (skeleton.fill (shownValue context))

/-- A skeleton with more text at its front. -/
def keep (skeleton : Skeleton) (chars : List Char) : Skeleton :=
  ⟨chars ++ skeleton.front, skeleton.slots⟩

/-- A skeleton behind one more marker. -/
def behind (skeleton : Skeleton) {name : String} {source : List Char}
    (spells : SpellsRenderMarker name source) : Skeleton :=
  ⟨[], ⟨name, source, skeleton.front, spells⟩ :: skeleton.slots⟩

variable {name : String} {source : List Char} {spells : SpellsRenderMarker name source}

@[simp] theorem text_keep (chars : List Char) :
    (skeleton.keep chars).text = chars ++ skeleton.text := by
  simp [keep, text]

@[simp] theorem text_behind : (skeleton.behind spells).text = source ++ skeleton.text := by
  simp [behind, text]

theorem filled_keep (chars : List Char) :
    (skeleton.keep chars).filled context = (skeleton.filled context).map (chars ++ ·) := by
  simp only [filled, keep]
  split
  · rfl
  · simp [fill, Except.map]

theorem filled_behind :
    (skeleton.behind spells).filled context =
      match context.get? name with
      | none => .error (.missingValue name)
      | some value => (skeleton.filled context).map (value.display.toList ++ ·) := by
  cases hvalue : context.get? name with
  | none => simp [filled, behind, hvalue]
  | some value =>
    cases hmissing : skeleton.slots.find? fun slot ↦ (context.get? slot.name).isNone with
    | some slot => simp [filled, behind, hvalue, hmissing, Except.map]
    | none => simp [filled, behind, hvalue, hmissing, fill, shownValue, Except.map]

/-- A body without markers is the same with every context. -/
theorem filled_of_slots_eq_nil (h : skeleton.slots = []) :
    skeleton.filled context = .ok skeleton.text := by
  simp [filled, fill, text, h]

end Skeleton

/-- How a body is cut, from its first character on. -/
inductive Cuts : List Char → Skeleton → Prop
  | nil : Cuts [] ⟨[], []⟩
  /-- A character that begins no two braces is kept. -/
  | char {c : Char} {text : List Char} {skeleton : Skeleton} (hopen : ¬ opening <+: c :: text)
      (hrest : Cuts text skeleton) : Cuts (c :: text) (skeleton.keep [c])
  /-- Two braces that begin no marker are kept together. -/
  | braces {rest : List Char} {skeleton : Skeleton}
      (hread : readRenderMarker? (opening ++ rest) = none) (hrest : Cuts rest skeleton) :
      Cuts (opening ++ rest) (skeleton.keep opening)
  /-- A marker is cut out. -/
  | marker {name : String} {source rest : List Char} {skeleton : Skeleton}
      (spells : SpellsRenderMarker name source) (hrest : Cuts rest skeleton) :
      Cuts (source ++ rest) (skeleton.behind spells)

namespace Cuts

variable {context : PageContext} {text before rest : List Char} {skeleton : Skeleton}

theorem text_eq (h : Cuts text skeleton) : skeleton.text = text := by
  induction h with
  | nil => rfl
  | char _ _ ih => simp [ih]
  | braces _ _ ih => simp [ih]
  | marker _ _ ih => simp [ih]

theorem exists_cuts (text : List Char) : ∃ skeleton, Cuts text skeleton := by
  induction hn : text.length using Nat.strong_induction_on generalizing text with
  | h n ih =>
    subst hn
    cases text with
    | nil => exact ⟨_, nil⟩
    | cons c text =>
      by_cases hopen : opening <+: c :: text
      · obtain ⟨rest, hrest⟩ := hopen
        rw [← hrest] at ih ⊢
        cases hread : readRenderMarker? (opening ++ rest) with
        | none =>
          obtain ⟨skeleton, hcuts⟩ := ih rest.length (by simp [opening]) rest rfl
          exact ⟨_, hcuts.braces hread⟩
        | some found =>
          obtain ⟨name, rest'⟩ := found
          obtain ⟨source, hspells, htext⟩ := readRenderMarker?_eq_some_iff.mp hread
          rw [htext] at ih ⊢
          obtain ⟨skeleton, hcuts⟩ :=
            ih rest'.length (by simpa using hspells.length_pos) rest' rfl
          exact ⟨_, hcuts.marker hspells⟩
      · obtain ⟨skeleton, hcuts⟩ := ih text.length (by simp) text rfl
        exact ⟨_, hcuts.char hopen⟩

/-- The scan cuts a body as far as it goes, and fills what it has cut. -/
theorem fillParts_bodyParts (h : Cuts text skeleton) :
    ∀ n, text.length ≤ n → fillParts context (bodyParts n text) = skeleton.filled context := by
  induction h with
  | nil => rintro (_ | n) - <;> rfl
  | char hopen _ ih =>
    rintro (_ | n) hn
    · simp at hn
    · rw [bodyParts_cons hopen, fillParts_text, Skeleton.filled_keep, ih n (by simpa using hn)]
  | @braces rest _ hread _ ih =>
    rintro (_ | n) hn
    · simp [opening] at hn
    · have hrest : rest.length ≤ n := by
        simp only [opening, List.length_append, List.length_cons] at hn
        omega
      rw [bodyParts_braces hread, fillParts_text, Skeleton.filled_keep, ih n hrest]
  | @marker _ _ rest _ spells _ ih =>
    have hpos := spells.length_pos
    rintro (_ | n) hn
    · simp only [List.length_append] at hn
      omega
    · have hrest : rest.length ≤ n := by
        rw [List.length_append] at hn
        omega
      rw [bodyParts_marker spells, fillParts_marker, Skeleton.filled_behind, ih n hrest]

/-- A marker is only cut out where one can be read. -/
theorem slots_eq_nil (h : Cuts text skeleton)
    (hread : ∀ before rest, text = before ++ rest → readRenderMarker? rest = none) :
    skeleton.slots = [] := by
  rw [← h.text_eq] at hread
  cases hslots : skeleton.slots with
  | nil => rfl
  | cons slot slots =>
    have hnone := hread skeleton.front
      (slot.source ++ (slot.after ++ slots.flatMap fun slot ↦ slot.source ++ slot.after))
      (by simp [Skeleton.text, hslots])
    rw [readRenderMarker?_eq_some_iff.mpr ⟨slot.source, slot.spells, rfl⟩] at hnone
    cases hnone

end Cuts

/-- Values cannot bring markers into a body. It is cut at its markers before any value is known, and
what it shows is the text between them, as it is, with the values in between; it cannot be shown
exactly if a value is missing, and the first one of these is reported. A body in which no marker can
be read anywhere is shown as it is. -/
theorem exists_skeleton (body : String) :
    ∃ skeleton : Skeleton, String.ofList skeleton.text = body ∧
      (∀ context, fillMarkers body context = (skeleton.filled context).map String.ofList) ∧
      ((∀ before rest, body.toList = before ++ rest → readRenderMarker? rest = none) →
        ∀ context, fillMarkers body context = .ok body) := by
  obtain ⟨skeleton, hcuts⟩ := Cuts.exists_cuts body.toList
  have htext : String.ofList skeleton.text = body := by
    rw [hcuts.text_eq, String.ofList_toList]
  have hfill (context : PageContext) :
      fillMarkers body context = (skeleton.filled context).map String.ofList := by
    rw [fillMarkers, hcuts.fillParts_bodyParts _ le_rfl]
  refine ⟨skeleton, htext, hfill, fun hread context ↦ ?_⟩
  rw [hfill, Skeleton.filled_of_slots_eq_nil (hcuts.slots_eq_nil hread), Except.map, htext]

/-- A marker in a value stays as it is. -/
example :
    fillMarkers "<\x7b\x7b a | safe \x7d\x7d>" ⟨[("a", .text "\x7b\x7b b | safe \x7d\x7d")]⟩ =
      .ok "<\x7b\x7b b | safe \x7d\x7d>" := by
  rfl

/-! ## Where the markers stand -/

/-- The number of braces at the end of a text. -/
def bracesAtEnd (text : List Char) : Nat := (text.rtakeWhile (· == '\x7b')).length

theorem bracesAtEnd_concat {c : Char} (text : List Char) (h : c ≠ '\x7b') :
    bracesAtEnd (text ++ [c]) = 0 := by
  simp [bracesAtEnd, h]

theorem bracesAtEnd_append (text more : List Char) :
    bracesAtEnd (text ++ more) =
      bracesAtEnd more + if ∀ c ∈ more, c = '\x7b' then bracesAtEnd text else 0 := by
  have hall : (more.reverse.takeWhile (· == '\x7b')).length = more.reverse.length ↔
      ∀ c ∈ more, c = '\x7b' := by
    have hself : (more.reverse.takeWhile (· == '\x7b')).length = more.reverse.length ↔
        more.reverse.takeWhile (· == '\x7b') = more.reverse :=
      ⟨(List.takeWhile_prefix _).eq_of_length, congrArg List.length⟩
    rw [hself, List.takeWhile_eq_self_iff]
    simp
  unfold bracesAtEnd List.rtakeWhile
  simp only [List.reverse_append, List.takeWhile_append, hall]
  split_ifs with h
  · simp [hall.mpr h, Nat.add_comm]
  · simp

/-- A character that begins no two braces adds none to those in front of a marker. -/
theorem bracesAtEnd_cons {c : Char} {before rest : List Char}
    (hopen : ¬ opening <+: c :: (before ++ rest)) (hopening : opening <+: rest) :
    bracesAtEnd (c :: before) = bracesAtEnd before := by
  have hzero : (if ∀ c ∈ before, c = '\x7b' then bracesAtEnd [c] else 0) = 0 := by
    split_ifs with hall
    · have hhead : (before ++ rest).head? = some '\x7b' := by
        obtain ⟨more, rfl⟩ := hopening
        cases before with
        | nil => rfl
        | cons second before => rw [hall second List.mem_cons_self]; rfl
      exact bracesAtEnd_concat [] fun h ↦ hopen (opening_isPrefix_cons.mpr ⟨h, hhead⟩)
    · rfl
  rw [← List.singleton_append, bracesAtEnd_append, hzero, Nat.add_zero]

theorem even_bracesAtEnd_opening (before : List Char) :
    Even (bracesAtEnd (opening ++ before)) ↔ Even (bracesAtEnd before) := by
  have heven : Even (if ∀ c ∈ before, c = '\x7b' then bracesAtEnd opening else 0) := by
    split_ifs <;> decide
  rw [bracesAtEnd_append, Nat.even_add, iff_true_right heven]

theorem bracesAtEnd_marker {name : String} {source : List Char}
    (spells : SpellsRenderMarker name source) (before : List Char) :
    bracesAtEnd (source ++ before) = bracesAtEnd before := by
  have hzero : bracesAtEnd source = 0 := by
    obtain ⟨body, rfl, -⟩ := spells.exists_body
    exact bracesAtEnd_concat (opening ++ body) (by decide)
  rw [bracesAtEnd_append, hzero, ite_self, Nat.add_zero]

namespace Skeleton

variable {skeleton : Skeleton} {before : List Char}

/-- One of the markers stands behind a text. -/
def StandsAt (skeleton : Skeleton) (before : List Char) : Prop :=
  ∃ passed slot later, skeleton.slots = passed ++ slot :: later ∧
    before = (⟨skeleton.front, passed⟩ : Skeleton).text

theorem StandsAt.isPrefix (h : skeleton.StandsAt before) : skeleton.front <+: before := by
  obtain ⟨passed, slot, later, -, rfl⟩ := h
  exact List.prefix_append _ _

theorem standsAt_keep (chars : List Char) :
    (skeleton.keep chars).StandsAt (chars ++ before) ↔ skeleton.StandsAt before := by
  simp [StandsAt, keep, text]

theorem standsAt_behind_nil {name : String} {source : List Char}
    {spells : SpellsRenderMarker name source} : (skeleton.behind spells).StandsAt [] :=
  ⟨[], _, _, rfl, rfl⟩

theorem standsAt_behind {name : String} {source : List Char}
    {spells : SpellsRenderMarker name source} :
    (skeleton.behind spells).StandsAt (source ++ before) ↔ skeleton.StandsAt before := by
  have hpos := spells.length_pos
  constructor
  · rintro ⟨_ | ⟨first, passed⟩, slot, later, hslots, hbefore⟩
    · simp [behind, text] at hbefore
      simp [hbefore] at hpos
    · obtain ⟨rfl, htail⟩ := List.cons.inj hslots
      exact ⟨passed, slot, later, htail, by simpa [behind, text] using hbefore⟩
  · rintro ⟨passed, slot, later, hslots, rfl⟩
    exact ⟨⟨name, source, skeleton.front, spells⟩ :: passed, slot, later, by simp [behind, hslots],
      by simp [behind, text]⟩

end Skeleton

namespace Cuts

variable {before rest : List Char} {skeleton : Skeleton}

/-- Among the places of a body where a marker can be read, those are taken that have an even number
of braces in front of them. -/
theorem standsAt_iff (h : Cuts (before ++ rest) skeleton)
    (hread : (readRenderMarker? rest).isSome) :
    skeleton.StandsAt before ↔ Even (bracesAtEnd before) := by
  obtain ⟨⟨name, behind⟩, hfound⟩ := Option.isSome_iff_exists.mp hread
  obtain ⟨marker, hspells, hrest⟩ := readRenderMarker?_eq_some_iff.mp hfound
  have hopening : opening <+: rest :=
    hrest ▸ hspells.opening_isPrefix.trans (List.prefix_append _ _)
  generalize htext : before ++ rest = text at h
  induction h generalizing before with
  | nil =>
    obtain ⟨-, rfl⟩ := List.append_eq_nil_iff.mp htext
    simp [opening] at hopening
  | @char c text skeleton hopen _ ih =>
    cases before with
    | nil => exact absurd (htext ▸ hopening) hopen
    | cons first before =>
      obtain ⟨rfl, rfl⟩ := List.cons.inj htext
      rw [bracesAtEnd_cons hopen hopening]
      exact (Skeleton.standsAt_keep [first]).trans (ih rfl)
  | @braces rest' skeleton hnone _ ih =>
    rcases before with _ | ⟨first, _ | ⟨second, before⟩⟩
    · rw [← htext, List.nil_append, hfound] at hnone
      cases hnone
    · obtain ⟨rfl, -⟩ := List.cons.inj htext
      have hnot : ¬ (skeleton.keep opening).StandsAt ['\x7b'] := fun h ↦ by
        have hle := h.isPrefix.length_le
        simp [Skeleton.keep, opening] at hle
      exact iff_of_false hnot (by decide)
    · obtain ⟨rfl, hsecond⟩ := List.cons.inj htext
      obtain ⟨rfl, rfl⟩ := List.cons.inj hsecond
      exact (Skeleton.standsAt_keep opening).trans
        ((ih rfl).trans (even_bracesAtEnd_opening before).symm)
  | @marker _ source rest' skeleton spells _ ih =>
    obtain hle | hlt := le_or_gt source.length before.length
    · obtain ⟨before, rfl⟩ := List.prefix_of_prefix_length_le ⟨rest', rfl⟩ ⟨rest, htext⟩ hle
      rw [bracesAtEnd_marker spells]
      exact Skeleton.standsAt_behind.trans (ih (by simpa using htext))
    · obtain ⟨tail, rfl⟩ := List.prefix_of_prefix_length_le ⟨rest, htext⟩ ⟨rest', rfl⟩ hlt.le
      obtain rfl : rest = tail ++ rest' := by simpa using htext
      have htail : tail ≠ [] := by
        rintro rfl
        simp at hlt
      -- Only at its front can a marker be read in one that is cut out.
      obtain rfl : before = [] := by
        by_contra hbefore
        exact spells.not_opening_isPrefix hbefore htail rest' hopening
      exact iff_of_true Skeleton.standsAt_behind_nil Even.zero

end Cuts

end StaticSite.Renderer
