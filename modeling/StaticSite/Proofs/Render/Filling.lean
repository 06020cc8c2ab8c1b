import StaticSite.Proofs.Compose.OpenValue
import StaticSite.Proofs.Render.Skeleton

/-!
# Filling what a composition leaves open

The body of a page is filled by a scan of its own, which knows only the markers that a composition
writes. Where a marker stands behind text without a brace at its end, the scan finds it
(`Fills.marker`). A brace in front of it, though, makes three with those of the marker, which the
scan passes over two at a time, and the marker stays as it is (`Fills.hidden`). So a composed page
shows the values of its open placeholders, save for those right behind a brace
(`fillMarkers_compose`).
-/

namespace StaticSite.Renderer

open Marker Compose

variable {context : PageContext} {text rest out : List Char}

/-- The filled text, however far the scan is allowed to go. -/
def Fills (context : PageContext) (text out : List Char) : Prop :=
  ∀ n, text.length ≤ n → fillParts context (bodyParts n text) = .ok out

namespace Fills

theorem nil : Fills context [] [] := by
  rintro (_ | n) -
  · rfl
  · rfl

/-- A character that begins no two braces is kept. -/
theorem cons {c : Char} (h : Fills context text out) (hopen : ¬ opening <+: c :: text) :
    Fills context (c :: text) (c :: out) := by
  rintro (_ | n) hn
  · simp at hn
  · rw [bodyParts_cons hopen, fillParts_text, h n (by simpa using hn)]
    rfl

/-- Text without two braces is kept, and so is a single brace at its end if no other one follows. -/
theorem append {chars : List Char} (h : Fills context rest out)
    (hopen : ¬ opening <:+: chars ++ rest.take 1) : Fills context (chars ++ rest) (chars ++ out) := by
  induction chars with
  | nil => exact h
  | cons c chars ih =>
    rw [List.cons_append, List.infix_cons_iff, not_or] at hopen
    refine (ih hopen.2).cons fun hstart ↦ hopen.1 ?_
    rw [opening_isPrefix_cons] at hstart ⊢
    simpa [List.head?_append, List.head?_take] using hstart

/-- Two braces do not end with the character behind a text that holds no brace. -/
theorem not_opening_isInfix {chars : List Char} (h : '\x7b' ∉ chars) (rest : List Char) :
    ¬ opening <:+: chars ++ rest.take 1 := by
  intro hocc
  have hcount := hocc.sublist.count_le '\x7b'
  have hone : (rest.take 1).count '\x7b' ≤ 1 := List.count_le_length.trans (by simp)
  rw [List.count_append, List.count_eq_zero.mpr h] at hcount
  simp [opening] at hcount
  omega

/-- A marker is filled with its value. -/
theorem marker {name : String} {value : Value} (h : Fills context rest out)
    (hname : IsIdentifier name) (hvalue : context.get? name = some value) :
    Fills context ((renderMarker name).toList ++ rest) (value.display.toList ++ out) := by
  have hspells := spellsRenderMarker_renderMarker hname
  have hpos := hspells.length_pos
  intro n hn
  rw [List.length_append] at hn
  obtain ⟨n, rfl⟩ : ∃ m, n = m + 1 := ⟨n - 1, by omega⟩
  rw [bodyParts_marker hspells, fillParts_marker, hvalue, h n (by omega)]
  rfl

/-- Two braces that begin no marker are passed over together. -/
theorem braces (h : Fills context rest out) (hread : readRenderMarker? (opening ++ rest) = none) :
    Fills context (opening ++ rest) (opening ++ out) := by
  rintro (_ | n) hn
  · simp [opening] at hn
  · have hrest : rest.length ≤ n := by
      simp only [opening, List.length_append, List.length_cons] at hn
      omega
    rw [bodyParts_braces hread, fillParts_text, h n hrest]
    rfl

/-- A marker behind a brace stays as it is. -/
theorem hidden {name : String} (h : Fills context rest out) (hname : IsIdentifier name) :
    Fills context ('\x7b' :: ((renderMarker name).toList ++ rest))
      ('\x7b' :: ((renderMarker name).toList ++ out)) := by
  have hchars : '\x7b' ∉ ' ' :: (name.toList ++ " | safe \x7d\x7d".toList) := by
    simp [hname.not_mem_of_ne (c := '\x7b') (by decide)]
  have htail := (h.append (not_opening_isInfix hchars rest)).cons (c := '\x7b')
    (by simp [opening_isPrefix_cons])
  simpa [toList_renderMarker, opening] using htail.braces (readRenderMarker?_of_brace _)

end Fills

/-! ## What a page shows -/

/-- The text of a token, with the value of the context for a placeholder. -/
def tokenText (context : PageContext) : Token → String
  | .literal s => s
  | .placeholder p => ((context.get? p.name).map Value.display).getD ""
  | .reference _ => ""

/-- A text with a brace at its end. -/
def EndsInBrace (s : String) : Prop := s.toList.getLast? = some '\x7b'

instance : DecidablePred EndsInBrace := fun s ↦
  inferInstanceAs (Decidable (s.toList.getLast? = some '\x7b'))

/-- Ordinary text that keeps the placeholder behind it from being filled. -/
def Hides (first second : Token) : Prop :=
  ∃ s p, first = .literal s ∧ second = .placeholder p ∧ EndsInBrace s

/-- What a page shows for its tokens; the flag tells whether a brace comes right before them. A
placeholder behind a brace shows the marker that was left for it. -/
def shown (context : PageContext) : Bool → List Token → String
  | _, [] => ""
  | _, .literal s :: tokens => s ++ shown context (decide (EndsInBrace s)) tokens
  | _, .reference _ :: tokens => shown context false tokens
  | false, .placeholder p :: tokens =>
    tokenText context (.placeholder p) ++ shown context false tokens
  | true, .placeholder p :: tokens => renderMarker p.name ++ shown context false tokens

/-- Two braces across the end of a text take one at its end. -/
private theorem not_opening_isInfix_of_not_endsInBrace {s : String} (hs : ¬ opening <:+: s.toList)
    (hend : ¬ EndsInBrace s) (rest : List Char) : ¬ opening <:+: s.toList ++ rest.take 1 := by
  cases rest with
  | nil => simpa using hs
  | cons c rest =>
    rw [List.take_succ_cons, List.take_zero, List.infix_concat_iff, List.suffix_concat_iff]
    rintro ((hnil | ⟨start, hstart, hsuffix⟩) | hocc)
    · cases hnil
    · have hopening : ['\x7b'] ++ ['\x7b'] = start ++ [c] := hstart
      obtain ⟨hbrace, -⟩ := List.append_inj' hopening rfl
      obtain ⟨front, hfront⟩ := hbrace ▸ hsuffix
      exact hend (by rw [EndsInBrace, ← hfront, List.getLast?_concat])
    · exact hs hocc

/-- The markers written for open placeholders are filled, save for those behind a brace. Literals
take turns with placeholders, so a brace at the end of one stands right before a marker. -/
private theorem fills_written {tokens : List Token}
    (hchain : tokens.IsChain fun first second ↦ first.IsLiteral → ¬ second.IsLiteral)
    (hreference : ∀ r, .reference r ∉ tokens)
    (hliteral : ∀ s, .literal s ∈ tokens → ¬ opening <:+: s.toList)
    (hplaceholder : ∀ p, .placeholder p ∈ tokens →
      IsIdentifier p.name ∧ ∃ value, context.get? p.name = some value) :
    Fills context (written tokens).toList (shown context false tokens).toList ∧
      ((∀ first ∈ tokens.head?, ¬ first.IsLiteral) →
        Fills context ('\x7b' :: (written tokens).toList)
          ('\x7b' :: (shown context true tokens).toList)) := by
  induction tokens with
  | nil => exact ⟨.nil, fun _ ↦ Fills.nil.cons (by decide)⟩
  | cons token tokens ih =>
    rw [List.isChain_cons] at hchain
    obtain ⟨hfills, hbehind⟩ := ih hchain.2 (fun r hr ↦ hreference r (List.mem_cons_of_mem _ hr))
      (fun s hs ↦ hliteral s (List.mem_cons_of_mem _ hs))
      (fun p hp ↦ hplaceholder p (List.mem_cons_of_mem _ hp))
    cases token with
    | reference r => exact absurd List.mem_cons_self (hreference r)
    | literal s =>
      refine ⟨?_, fun h ↦ absurd ⟨s, rfl⟩ (h (.literal s) rfl)⟩
      have hopen := hliteral s List.mem_cons_self
      rw [written_cons, writtenText, shown, String.toList_append, String.toList_append]
      by_cases hend : EndsInBrace s
      · obtain ⟨front, hfront⟩ := List.getLast?_eq_some_iff.mp hend
        have hnext := hbehind fun first hfirst ↦ hchain.1 first hfirst ⟨s, rfl⟩
        rw [hfront] at hopen ⊢
        have hkept : Fills context (front ++ '\x7b' :: (written tokens).toList)
            (front ++ '\x7b' :: (shown context true tokens).toList) :=
          hnext.append (by simpa using hopen)
        simpa [hend] using hkept
      · simpa [hend] using hfills.append (not_opening_isInfix_of_not_endsInBrace hopen hend _)
    | placeholder p =>
      obtain ⟨hname, value, hvalue⟩ := hplaceholder p List.mem_cons_self
      have hmarker := hfills.marker hname hvalue
      rw [written_cons, writtenText, shown, shown, String.toList_append, String.toList_append]
      exact ⟨by simpa [tokenText, hvalue] using hmarker,
        fun _ ↦ by simpa using hfills.hidden hname⟩

/-- Where no placeholder is hidden by a brace, a page shows the literals and the values in the order
of the tokens. -/
theorem shown_eq_join {tokens : List Token} {behindBrace : Bool}
    (h : tokens.IsChain fun first second ↦ ¬ Hides first second)
    (hfirst : behindBrace → ∀ p, tokens.head? ≠ some (.placeholder p)) :
    shown context behindBrace tokens = String.join (tokens.map (tokenText context)) := by
  induction tokens generalizing behindBrace with
  | nil => rfl
  | cons token tokens ih =>
    rw [List.isChain_cons] at h
    rw [List.map_cons, String.join_cons]
    cases token with
    | literal s =>
      rw [shown, ih h.2 fun hend p hp ↦ h.1 _ hp ⟨s, p, rfl, rfl, of_decide_eq_true hend⟩]
      rfl
    | reference r =>
      rw [shown, ih h.2 (by simp)]
      simp [tokenText]
    | placeholder p =>
      cases behindBrace with
      | false => rw [shown, ih h.2 (by simp)]
      | true => exact absurd rfl (hfirst rfl p)

/-- A page that leaves all of its placeholders open is composed and filled: it shows its literals
and the values of its placeholders in their order, save that a placeholder right behind a brace
shows the marker that the composition left for it. -/
theorem fillMarkers_composed {setting : Setting} {text : String} {location : Location}
    {context : PageContext} (hreference : ∀ r, .reference r ∉ tokenize text)
    (hliteral : ∀ s, .literal s ∈ tokenize text → ¬ opening <:+: s.toList)
    (hopen : ∀ p, .placeholder p ∈ tokenize text → IsOpen setting.globals [] p)
    (hvalue : ∀ p, .placeholder p ∈ tokenize text → ∃ value, context.get? p.name = some value) :
    ∃ composed, (composeTidied false setting text location).result = .ok composed ∧
      fillMarkers composed context = .ok (shown context false (tokenize text)) ∧
      ((tokenize text).IsChain (fun first second ↦ ¬ Hides first second) →
        shown context false (tokenize text) =
          String.join ((tokenize text).map (tokenText context))) := by
  refine ⟨written (tokenize text), ?_, ?_, fun h ↦ shown_eq_join h (by simp)⟩
  · simp [composeTidied, compose_of_open hreference hopen, Except.map]
  · have hfills := (fills_written (isChain_tokenize text) hreference hliteral fun p hp ↦
      ⟨isIdentifier_of_mem_tokenize hp, hvalue p hp⟩).1
    rw [fillMarkers, hfills _ le_rfl]
    simp [Except.map]

/-- A site without templates and without values of all pages. -/
def bareSetting : Setting where
  source location := .error (.unreachable location.display)
  root := ⟨"/t"⟩
  globals := []

/-- The values of a page with a title. -/
def titled : PageContext := ⟨[("title", .text "Home")]⟩

theorem fillMarkers_composed_of_heading :
    let text := "<h1>\x7b\x7b\x7b title \x7d\x7d\x7d</h1>"
    (∀ r, .reference r ∉ tokenize text) ∧
      (∀ s, .literal s ∈ tokenize text → ¬ opening <:+: s.toList) ∧
      (∀ p, .placeholder p ∈ tokenize text → IsOpen bareSetting.globals [] p) ∧
      (∀ p, .placeholder p ∈ tokenize text → ∃ value, titled.get? p.name = some value) ∧
      ∃ composed,
        (composeTidied false bareSetting text (.file ⟨"/o/a.html"⟩)).result = .ok composed ∧
        fillMarkers composed titled = .ok (shown titled false (tokenize text)) ∧
        ((tokenize text).IsChain (fun first second ↦ ¬ Hides first second) →
          shown titled false (tokenize text) =
            String.join ((tokenize text).map (tokenText titled))) := by
  intro text
  have htokens : tokenize text =
      [.literal "<h1>", .placeholder ⟨"title", none⟩, .literal "</h1>"] := by cbv
  have hreference : ∀ r, .reference r ∉ tokenize text := by simp [htokens]
  have hliteral : ∀ s, .literal s ∈ tokenize text → ¬ opening <:+: s.toList := by
    simp [htokens]
    decide
  have hopen : ∀ p, .placeholder p ∈ tokenize text → IsOpen bareSetting.globals [] p := by
    intro p hp
    obtain rfl : p = ⟨"title", none⟩ := by simpa [htokens] using hp
    exact ⟨rfl, rfl, rfl⟩
  have hvalue : ∀ p, .placeholder p ∈ tokenize text → ∃ value, titled.get? p.name = some value := by
    intro p hp
    obtain rfl : p = ⟨"title", none⟩ := by simpa [htokens] using hp
    exact ⟨.text "Home", rfl⟩
  exact ⟨hreference, hliteral, hopen, hvalue, fillMarkers_composed hreference hliteral hopen hvalue⟩

/-- A brace right before a placeholder keeps it from being filled. -/
theorem fillMarkers_behind_brace :
    let text := "\x7b\x7b\x7b\x7b title \x7d\x7d\x7d"
    tokenize text = [.literal "\x7b", .placeholder ⟨"title", none⟩] ∧
      IsOpen bareSetting.globals [] ⟨"title", none⟩ ∧
      titled.get? "title" = some (.text "Home") ∧
      (composeTidied false bareSetting text (.file ⟨"/o/a.html"⟩)).result =
        .ok "\x7b\x7b\x7b title | safe \x7d\x7d" ∧
      fillMarkers "\x7b\x7b\x7b title | safe \x7d\x7d" titled =
        .ok "\x7b\x7b\x7b title | safe \x7d\x7d" ∧
      ¬ ∃ composed,
        (composeTidied false bareSetting text (.file ⟨"/o/a.html"⟩)).result = .ok composed ∧
        fillMarkers composed titled = .ok (String.join ((tokenize text).map (tokenText titled))) := by
  intro text
  have htokens : tokenize text = [.literal "\x7b", .placeholder ⟨"title", none⟩] := by cbv
  have hcomposed : (composeTidied false bareSetting text (.file ⟨"/o/a.html"⟩)).result =
      .ok "\x7b\x7b\x7b title | safe \x7d\x7d" := by
    have hcompose : compose bareSetting text (.file ⟨"/o/a.html"⟩) =
        ⟨.ok (written (tokenize text)), []⟩ :=
      compose_of_open (by simp [htokens]) fun p hp ↦ by
        obtain rfl : p = ⟨"title", none⟩ := by simpa [htokens] using hp
        exact ⟨rfl, rfl, rfl⟩
    simp only [composeTidied, hcompose, htokens, Except.map]
    rfl
  have hfilled : fillMarkers "\x7b\x7b\x7b title | safe \x7d\x7d" titled =
      .ok "\x7b\x7b\x7b title | safe \x7d\x7d" := by cbv
  refine ⟨htokens, ⟨rfl, rfl, rfl⟩, rfl, hcomposed, hfilled, ?_⟩
  rintro ⟨composed, hresult, hclaim⟩
  obtain rfl := Except.ok.inj (hcomposed.symm.trans hresult)
  rw [hfilled, htokens] at hclaim
  exact absurd hclaim (by decide)

end StaticSite.Renderer
