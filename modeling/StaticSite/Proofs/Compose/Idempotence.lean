import StaticSite.Proofs.Compose.Refinement
import StaticSite.Proofs.Marker.Partition

/-!
# Composing twice

A composed text is the text of the fragments of its expansion. Ordinary text among them holds no
marker, and a value that is copied holds no reference, since one that does is expanded
(`Expands.wellFormed`). Two ways remain for a marker to get into the text: a value that is
copied may hold a placeholder, and a marker may begin in one fragment and end in another. Exactly
where neither happens, the composed text is free of markers and composing it again changes nothing
(`compose_eq_self_iff`).
-/

namespace StaticSite.Compose

open Marker

/-- What holds of the fragments of an expansion: ordinary text is free of markers and a value of
references. -/
def Fragment.WellFormed : Fragment → Prop
  | .literal text => IsPlain text.toList
  | .value text => findReference? text = none

/-- A marker begins in one fragment and ends in a later one. -/
def Straddles (fragments : List Fragment) : Prop :=
  ∃ front fragment back before start marker rest,
    fragments = front ++ fragment :: back ∧ fragment.text.toList = before ++ start ∧ start ≠ [] ∧
    read? (start ++ (textOf back).toList) = some (marker, rest) ∧
    rest.length < (textOf back).toList.length

variable {setting : Setting}

/-! ## The fragments of an expansion -/

/-- The fragments of an expansion that has others in front of it. -/
theorem Expansion.behind_result_eq_ok {expansion : Expansion} {fragments all : List Fragment}
    {log : List Location} :
    (expansion.behind fragments log).result = .ok all ↔
      ∃ more, expansion.result = .ok more ∧ all = fragments ++ more := by
  obtain ⟨result, fetched⟩ := expansion
  cases result with
  | error e => simp [behind, Except.map]
  | ok more => simp [behind, Except.map, eq_comm]

/-- Tokens of a text expand to fragments that are well formed. -/
theorem Expands.wellFormed {location : Location} {params : Table String} {path : List Visit}
    {tokens : List Token} {expansion : Expansion}
    (h : Expands setting location params path tokens expansion)
    (htokens : ∀ token ∈ tokens, token.WellFormed) {fragments : List Fragment}
    (hresult : expansion.result = .ok fragments) : ∀ f ∈ fragments, f.WellFormed := by
  induction h generalizing fragments with
  | nil =>
    obtain rfl := Except.ok.inj hresult
    exact List.forall_mem_nil _
  | literal _ ih =>
    obtain ⟨hhead, htail⟩ := List.forall_mem_cons.mp htokens
    obtain ⟨rest, hrest, rfl⟩ := Expansion.behind_result_eq_ok.mp hresult
    exact List.forall_mem_cons.mpr ⟨hhead.2, ih htail hrest⟩
  | value hvalue _ ih =>
    obtain ⟨-, htail⟩ := List.forall_mem_cons.mp htokens
    obtain ⟨rest, hrest, rfl⟩ := Expansion.behind_result_eq_ok.mp hresult
    exact List.forall_mem_cons.mpr ⟨hvalue, ih htail hrest⟩
  | valueText _ _ _ _ ihvalue ih =>
    obtain ⟨-, htail⟩ := List.forall_mem_cons.mp htokens
    obtain ⟨rest, hrest, rfl⟩ := Expansion.behind_result_eq_ok.mp hresult
    have hfront := ihvalue (fun _ ↦ wellFormed_of_mem_tokenize) rfl
    exact List.forall_mem_append.mpr ⟨hfront, ih htail hrest⟩
  | templateText _ _ _ _ ihtemplate ih =>
    obtain ⟨-, htail⟩ := List.forall_mem_cons.mp htokens
    obtain ⟨rest, hrest, rfl⟩ := Expansion.behind_result_eq_ok.mp hresult
    have hfront := ihtemplate (fun _ ↦ wellFormed_of_mem_tokenize) rfl
    exact List.forall_mem_append.mpr ⟨hfront, ih htail hrest⟩
  | valueCycle => cases hresult
  | valueError => cases hresult
  | templateCycle => cases hresult
  | fetchError => cases hresult
  | templateError => cases hresult

/-! ## Markers in the text of fragments -/

private theorem suffix_append_cases {α : Type} {v front back : List α} (h : v <:+ front ++ back) :
    v <:+ back ∨ ∃ start, start ≠ [] ∧ start <:+ front ∧ v = start ++ back := by
  induction front with
  | nil => exact .inl h
  | cons a front ih =>
    rcases List.suffix_cons_iff.mp h with rfl | h
    · exact .inr ⟨a :: front, List.cons_ne_nil _ _, List.suffix_rfl, rfl⟩
    · rcases ih h with h | ⟨start, hne, hstart, rfl⟩
      · exact .inl h
      · exact .inr ⟨start, hne, hstart.trans (List.suffix_cons a front), rfl⟩

/-- A position in the text of fragments lies in one of them. -/
theorem exists_fragment_of_suffix {fragments : List Fragment} {v : List Char} (hne : v ≠ [])
    (h : v <:+ (textOf fragments).toList) :
    ∃ front fragment back start, fragments = front ++ fragment :: back ∧ start ≠ [] ∧
      start <:+ fragment.text.toList ∧ v = start ++ (textOf back).toList := by
  induction fragments with
  | nil => exact absurd (List.suffix_nil.mp h) hne
  | cons fragment fragments ih =>
    rw [textOf, String.toList_append] at h
    rcases suffix_append_cases h with h | ⟨start, hstart, hsuffix, rfl⟩
    · obtain ⟨front, inside, back, start, rfl, hstart, hsuffix, rfl⟩ := ih h
      exact ⟨fragment :: front, inside, back, start, rfl, hstart, hsuffix, rfl⟩
    · exact ⟨[], fragment, fragments, start, rfl, hstart, hsuffix, rfl⟩

/-- A position in a fragment is one in the text of all. -/
private theorem suffix_textOf (front : List Fragment) (fragment : Fragment) (back : List Fragment)
    {start : List Char} (h : start <:+ fragment.text.toList) :
    start ++ (textOf back).toList <:+ (textOf (front ++ fragment :: back)).toList := by
  obtain ⟨before, hbefore⟩ := h
  refine ⟨(textOf front).toList ++ before, ?_⟩
  rw [textOf_append, textOf, String.toList_append, String.toList_append, ← hbefore]
  simp

/-- The text of fragments is free of markers exactly when no value among them holds a placeholder
and no marker straddles a border between them. -/
theorem isPlain_textOf_iff {fragments : List Fragment} (h : ∀ f ∈ fragments, f.WellFormed) :
    IsPlain (textOf fragments).toList ↔
      (∀ text, .value text ∈ fragments → ∀ p, .placeholder p ∉ tokenize text) ∧
      ¬ Straddles fragments := by
  constructor
  · intro hplain
    constructor
    · intro text htext p hp
      have hmarked : ¬ IsPlain text.toList := fun hvalue ↦ by
        obtain ⟨s, hs⟩ := isPlain_iff.mp hvalue _ hp
        cases hs
      obtain ⟨front, back, rfl⟩ := List.append_of_mem htext
      exact hmarked (isPlain_of_append fun v _ hv ↦
        hplain _ (suffix_textOf front (.value text) back hv))
    · rintro ⟨front, fragment, back, before, start, marker, rest, rfl, hbefore, -, hread, -⟩
      have hnone := hplain _ (suffix_textOf front fragment back ⟨before, hbefore.symm⟩)
      rw [hread] at hnone
      cases hnone
  · rintro ⟨hvalues, hstraddles⟩ v hv
    rw [Option.eq_none_iff_forall_ne_some]
    rintro ⟨marker, rest⟩ hread
    have hne : v ≠ [] := fun hnil ↦ by simp [hnil, read?_nil] at hread
    obtain ⟨front, fragment, back, start, rfl, hstart, ⟨before, hbefore⟩, rfl⟩ :=
      exists_fragment_of_suffix hne hv
    by_cases hlength : rest.length < (textOf back).toList.length
    · exact hstraddles
        ⟨front, fragment, back, before, start, marker, rest, rfl, hbefore.symm, hstart, hread,
          hlength⟩
    · -- The marker ends in the fragment in which it begins, so it is one of that fragment.
      obtain ⟨source, -, hsource⟩ := read?_eq_some_iff.mp hread
      have hback : (textOf back).toList <:+ rest :=
        List.suffix_of_suffix_length_le (List.suffix_append _ _)
          (hsource ▸ List.suffix_append source rest) (by omega)
      obtain ⟨left, rfl⟩ := hback
      have hinside := read?_of_append hread
      have hfragment := h fragment (by simp)
      have hmarked : ¬ IsPlain fragment.text.toList := fun hplain ↦ by
        rw [hplain start ⟨before, hbefore⟩] at hinside
        cases hinside
      cases fragment with
      | literal text => exact hmarked hfragment
      | value text =>
        refine hmarked (isPlain_iff.mpr fun token htoken ↦ ?_)
        cases token with
        | literal s => exact ⟨s, rfl⟩
        | reference r => exact absurd htoken (findReference?_eq_none_iff.mp hfragment r)
        | placeholder p => exact absurd htoken (hvalues text (by simp) p)

/-- A text that begins with a reference to a missing template is not composed. -/
theorem compose_of_missing {text : String} {location : Location} {r : Reference}
    {tokens : List Token} {e : FetchError} (htokens : tokenize text = .reference r :: tokens)
    (hne : location.canonical ≠ target setting.root location.canonical r.name)
    (hmissing : setting.source (target setting.root location.canonical r.name) = .error e) :
    compose setting text location =
      ⟨.error (.fetch e), [target setting.root location.canonical r.name]⟩ := by
  rw [compose, compose?, run]
  simp [step, Frame.ofTemplate, htokens, hne, hmissing]

/-! ## Composing a composed text -/

/-- A plain text expands to itself. -/
theorem exists_expands_of_isPlain (setting : Setting) {text : String} (h : IsPlain text.toList)
    (location : Location) (params : Table String) (path : List Visit) :
    ∃ fragments, textOf fragments = text ∧
      Expands setting location params path (tokenize text) ⟨.ok fragments, []⟩ := by
  rw [tokenize_of_isPlain h]
  split_ifs with hempty
  · exact ⟨[], hempty.symm, .nil⟩
  · exact ⟨[.literal text], by simp [textOf, Fragment.text], .literal .nil⟩

/-- A plain text is composed to itself, and nothing is fetched for it. -/
theorem compose_of_isPlain {text : String} (h : IsPlain text.toList) (location : Location) :
    compose setting text location = ⟨.ok text, []⟩ := by
  obtain ⟨fragments, rfl, hexpands⟩ := exists_expands_of_isPlain setting h
    location.canonical [] [.template location.canonical]
  rw [compose_of_expands hexpands]
  rfl

/-- A reference to a template with a plain text gives this text. -/
theorem compose_of_included {text inner behind : String} {location : Location} {r : Reference}
    (htokens : tokenize text = [.reference r, .literal behind])
    (hne : target setting.root location.canonical r.name ≠ location.canonical)
    (hsource : setting.source (target setting.root location.canonical r.name) = .ok inner)
    (hplain : IsPlain inner.toList) : compose setting text location =
      ⟨.ok (inner ++ behind), [target setting.root location.canonical r.name]⟩ := by
  obtain ⟨fragments, rfl, hinner⟩ := exists_expands_of_isPlain setting hplain
    (referred setting location.canonical r) r.params
    [.template (referred setting location.canonical r), .template location.canonical]
  have hbehind : Expands setting location.canonical [] [.template location.canonical]
      [.literal behind] ⟨.ok [.literal behind], []⟩ := .literal .nil
  have hexpands := Expands.templateText (by simpa [referred, target] using hne) hsource hinner hbehind
  rw [← htokens] at hexpands
  rw [compose_of_expands hexpands]
  have htext : textOf (fragments ++ [.literal behind]) = textOf fragments ++ behind := by
    rw [textOf_append]
    simp [textOf, Fragment.text]
  simp [Expansion.behind, Expansion.toComposed, Except.map, htext, referred, target]

/-- A composition that gives a text has an expansion into fragments of that text. -/
theorem exists_fragments_of_compose {text output : String} {location : Location}
    (h : (compose setting text location).result = .ok output) :
    ∃ fragments log,
      Expands setting location.canonical [] [.template location.canonical] (tokenize text)
        ⟨.ok fragments, log⟩ ∧ textOf fragments = output := by
  rw [compose, compose?] at h
  cases hrun : run setting [.ofTemplate location.canonical text []] [] with
  | none => simp [hrun] at h
  | some composed =>
    rw [hrun, Option.getD_some] at h
    obtain ⟨⟨result, log⟩, hexpands, rfl⟩ := run_eq_some_iff_expands.mp hrun
    cases result with
    | error e => simp [Expansion.toComposed, Except.map] at h
    | ok fragments =>
      exact ⟨fragments, log, hexpands, by simpa [Expansion.toComposed, Except.map] using h⟩

/-- A composed text is free of markers, and composed again to itself without a fetch, exactly when
no value that was copied into it holds a placeholder and no marker straddles a border between two of
its fragments. -/
theorem compose_eq_self_iff {text output : String} {location : Location}
    (h : (compose setting text location).result = .ok output) :
    ((∀ token ∈ tokenize output, ∃ s, token = .literal s) ∧
        compose setting output location = ⟨.ok output, []⟩) ↔
      ∃ fragments log,
        Expands setting location.canonical [] [.template location.canonical] (tokenize text)
          ⟨.ok fragments, log⟩ ∧
        (∀ value, .value value ∈ fragments → ∀ p, .placeholder p ∉ tokenize value) ∧
        ¬ Straddles fragments := by
  obtain ⟨fragments, log, hexpands, rfl⟩ := exists_fragments_of_compose h
  have hwf : ∀ f ∈ fragments, f.WellFormed :=
    hexpands.wellFormed (fun _ ↦ wellFormed_of_mem_tokenize) rfl
  constructor
  · rintro ⟨hliteral, -⟩
    exact ⟨fragments, log, hexpands, (isPlain_textOf_iff hwf).mp (isPlain_iff.mpr hliteral)⟩
  · rintro ⟨fragments', log', hexpands', hplain⟩
    obtain ⟨rfl, -⟩ : fragments' = fragments ∧ log' = log := by
      simpa using hexpands'.unique hexpands
    have htext := (isPlain_textOf_iff hwf).mpr hplain
    exact ⟨isPlain_iff.mp htext, compose_of_isPlain htext location⟩

/-- A value of all pages that holds the placeholder of another one. -/
def nested : Setting where
  source location := .error (.unreachable location.display)
  root := ⟨"/t"⟩
  globals := [("a", .text "\x7b\x7b\x7b b \x7d\x7d\x7d"), ("b", .text "B")]

theorem compose_eq_self_iff_of_nested :
    (compose nested "\x7b\x7b\x7b b \x7d\x7d\x7d" (.file ⟨"/t/layout.html"⟩)).result = .ok "B" ∧
      ∃ fragments log,
        Expands nested (Location.file ⟨"/t/layout.html"⟩).canonical []
          [.template (Location.file ⟨"/t/layout.html"⟩).canonical]
          (tokenize "\x7b\x7b\x7b b \x7d\x7d\x7d") ⟨.ok fragments, log⟩ ∧
        (∀ value, .value value ∈ fragments → ∀ p, .placeholder p ∉ tokenize value) ∧
        ¬ Straddles fragments := by
  have h : (compose nested "\x7b\x7b\x7b b \x7d\x7d\x7d" (.file ⟨"/t/layout.html"⟩)).result =
      .ok "B" := by cbv
  have hplain : IsPlain "B".toList := isPlain_of_not_mem (by decide)
  exact ⟨h, (compose_eq_self_iff h).mp ⟨isPlain_iff.mp hplain, compose_of_isPlain hplain _⟩⟩

/-- The value is copied with its placeholder, which a second composition fills. -/
theorem compose_nested_ne_self :
    compose nested "\x7b\x7b\x7b a \x7d\x7d\x7d" (.file ⟨"/t/layout.html"⟩) =
        ⟨.ok "\x7b\x7b\x7b b \x7d\x7d\x7d", []⟩ ∧
      ¬ ((∀ token ∈ tokenize "\x7b\x7b\x7b b \x7d\x7d\x7d", ∃ s, token = .literal s) ∧
        compose nested "\x7b\x7b\x7b b \x7d\x7d\x7d" (.file ⟨"/t/layout.html"⟩) =
          ⟨.ok "\x7b\x7b\x7b b \x7d\x7d\x7d", []⟩) := by
  refine ⟨by cbv, ?_⟩
  rintro ⟨-, hself⟩
  have hfilled : compose nested "\x7b\x7b\x7b b \x7d\x7d\x7d" (.file ⟨"/t/layout.html"⟩) =
      ⟨.ok "B", []⟩ := by cbv
  rw [hfilled] at hself
  simp at hself

end StaticSite.Compose
