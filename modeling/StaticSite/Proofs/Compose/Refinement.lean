import StaticSite.Proofs.Compose.Run

/-!
# The stack computes the expansion

A run on a stack first gives the expansion of the tokens of the innermost frame and then goes on
with that text in the frame below (`run_eq_outcome`). Conversely a run that comes to an end has an
expansion for every frame it works on (`exists_expands_of_runFor`). So a composition and the
recursive expansion agree: in the text or the error, in the locations fetched from and in whether
they come to an end (`run_eq_some_iff_expands`).
-/

namespace StaticSite.Compose

open Marker

variable {setting : Setting}

/-! ## Steps by the first token -/

section

variable {location : Location} {tokens : List Token} {params : Table String} {output : String}
  {name : Option String} {below : List Frame}

theorem step_nil (below : List Frame) :
    step setting (⟨location, [], params, output, name⟩ :: below) = (append output below, none) :=
  rfl

theorem step_literal {text : String} :
    step setting (⟨location, .literal text :: tokens, params, output, name⟩ :: below) =
      (.running (⟨location, tokens, params, output ++ text, name⟩ :: below), none) :=
  rfl

variable {p : Placeholder} {r : Reference}

theorem step_value (h : findReference? (valueOf setting.globals params p) = none) :
    step setting (⟨location, .placeholder p :: tokens, params, output, name⟩ :: below) =
      (.running (⟨location, tokens, params, output ++ valueOf setting.globals params p, name⟩
        :: below), none) := by
  simp [step, append, substitute_eq_valueOf, h]

theorem step_placeholder_cycle (h : findReference? (valueOf setting.globals params p) ≠ none)
    (hcycle : .placeholder p.name ∈
      pathOf (⟨location, .placeholder p :: tokens, params, output, name⟩ :: below)) :
    step setting (⟨location, .placeholder p :: tokens, params, output, name⟩ :: below) =
      (.finished (.error (cycleAt
        (pathOf (⟨location, .placeholder p :: tokens, params, output, name⟩ :: below))
        (.placeholder p.name))), none) := by
  rw [← chainOf_eq]
  rw [mem_pathOf_placeholder] at hcycle
  simp only [step, substitute_eq_valueOf]
  rw [if_neg (by simpa using h), if_pos (by simpa using hcycle)]
  rfl

theorem step_enterValue (h : findReference? (valueOf setting.globals params p) ≠ none)
    (hcycle : .placeholder p.name ∉
      pathOf (⟨location, .placeholder p :: tokens, params, output, name⟩ :: below)) :
    step setting (⟨location, .placeholder p :: tokens, params, output, name⟩ :: below) =
      (.running (⟨location, tokenize (valueOf setting.globals params p), params, "", some p.name⟩
        :: ⟨location, tokens, params, output, name⟩ :: below), none) := by
  rw [mem_pathOf_placeholder] at hcycle
  simp only [step, substitute_eq_valueOf, Frame.ofTemplate]
  rw [if_neg (by simpa using h), if_neg (by simpa using hcycle)]

theorem step_reference_cycle
    (hanchored : Anchored (⟨location, .reference r :: tokens, params, output, name⟩ :: below))
    (hcycle : .template (referred setting location r) ∈
      pathOf (⟨location, .reference r :: tokens, params, output, name⟩ :: below)) :
    step setting (⟨location, .reference r :: tokens, params, output, name⟩ :: below) =
      (.finished (.error (cycleAt
        (pathOf (⟨location, .reference r :: tokens, params, output, name⟩ :: below))
        (.template (referred setting location r)))), none) := by
  rw [← chainOf_eq]
  rw [mem_pathOf_template hanchored] at hcycle
  have hany : ((⟨location, .reference r :: tokens, params, output, name⟩ :: below).any
      fun f ↦ f.location == target setting.root location r.name) = true := by
    simpa [target, referred] using hcycle
  simp only [step, if_pos hany]
  rfl

theorem step_reference
    (hanchored : Anchored (⟨location, .reference r :: tokens, params, output, name⟩ :: below))
    (hcycle : .template (referred setting location r) ∉
      pathOf (⟨location, .reference r :: tokens, params, output, name⟩ :: below)) :
    step setting (⟨location, .reference r :: tokens, params, output, name⟩ :: below) =
      match setting.source (referred setting location r) with
      | .error e => (.finished (.error (.fetch e)), some (referred setting location r))
      | .ok text =>
        (.running (⟨referred setting location r, tokenize text, r.params, "", none⟩
          :: ⟨location, tokens, params, output, name⟩ :: below),
          some (referred setting location r)) := by
  rw [mem_pathOf_template hanchored] at hcycle
  have hany : ¬ ((⟨location, .reference r :: tokens, params, output, name⟩ :: below).any
      fun f ↦ f.location == target setting.root location r.name) = true := by
    simpa [target, referred] using hcycle
  simp only [step, if_neg hany]
  rfl

end

/-! ## Runs by the first step -/

section

variable {stack next : List Frame} {location : Option Location} {fetched : List Location}
  {result : Except ComposeError String} {n : ℕ}

theorem run_of_running (h : step setting stack = (.running next, location)) :
    run setting stack fetched = run setting next (location.toList ++ fetched) := by
  rw [run, h]

theorem run_of_finished (h : step setting stack = (.finished result, location)) :
    run setting stack fetched = some ⟨result, (location.toList ++ fetched).reverse⟩ := by
  rw [run, h]

theorem runFor_of_running (h : step setting stack = (.running next, location)) :
    runFor setting (n + 1) stack fetched = runFor setting n next (location.toList ++ fetched) := by
  rw [runFor, h]

end

/-- What a run gives once the text of its innermost frame is complete. -/
def proceed (setting : Setting) (text : String) (below : List Frame) (fetched : List Location) :
    Option Composed :=
  match append text below with
  | .finished result => some ⟨result, fetched.reverse⟩
  | .running stack => run setting stack fetched

/-- What a run gives once the expansion of the tokens of its innermost frame is known. -/
def outcome (setting : Setting) (output : String) (below : List Frame) (fetched : List Location)
    (expansion : Expansion) : Option Composed :=
  match expansion.result with
  | .error e => some ⟨.error e, fetched.reverse ++ expansion.fetched⟩
  | .ok fragments =>
    proceed setting (output ++ textOf fragments) below (expansion.fetched.reverse ++ fetched)

/-- An expansion whose first fragments are written already goes on behind them. -/
theorem outcome_behind (output : String) (below : List Frame) (fetched log : List Location)
    (fragments : List Fragment) (expansion : Expansion) :
    outcome setting output below fetched (expansion.behind fragments log) =
      outcome setting (output ++ textOf fragments) below (log.reverse ++ fetched) expansion := by
  obtain ⟨result, log'⟩ := expansion
  cases result with
  | error e => simp [outcome, Expansion.behind, Except.map]
  | ok more =>
    simp [outcome, Expansion.behind, Except.map, textOf_append, String.append_assoc]

/-- The text of a frame goes to the frame below it, which goes on with its own tokens. -/
theorem outcome_cons (frame : Frame) (below : List Frame) (fetched : List Location)
    (expansion : Expansion) :
    outcome setting "" (frame :: below) fetched expansion =
      match expansion.result with
      | .error e => some ⟨.error e, fetched.reverse ++ expansion.fetched⟩
      | .ok fragments =>
        run setting ({ frame with output := frame.output ++ textOf fragments } :: below)
          (expansion.fetched.reverse ++ fetched) := by
  obtain ⟨result, log⟩ := expansion
  cases result with
  | error e => rfl
  | ok fragments => simp [outcome, proceed, append]

/-! ## From expansions to runs -/

/-- Once its tokens are expanded, a run goes on with the text in the frame below. -/
theorem run_eq_outcome {location : Location} {params : Table String} {path : List Visit}
    {tokens : List Token} {expansion : Expansion}
    (h : Expands setting location params path tokens expansion) :
    ∀ (output : String) (name : Option String) (below : List Frame) (fetched : List Location),
      Anchored (⟨location, tokens, params, output, name⟩ :: below) →
      pathOf (⟨location, tokens, params, output, name⟩ :: below) = path →
      run setting (⟨location, tokens, params, output, name⟩ :: below) fetched =
        outcome setting output below fetched expansion := by
  induction h with
  | nil =>
    intro output name below fetched _ _
    cases below with
    | nil => simpa [outcome, proceed, append, textOf] using run_of_finished (step_nil [])
    | cons next below =>
      simpa [outcome, proceed, append, textOf] using run_of_running (step_nil (next :: below))
  | literal _ ih =>
    intro output name below fetched hanchored hpath
    rw [run_of_running step_literal, outcome_behind]
    simpa [textOf, Fragment.text] using
      ih _ name below fetched (hanchored.congr_head rfl rfl) hpath
  | value hvalue _ ih =>
    intro output name below fetched hanchored hpath
    rw [run_of_running (step_value hvalue), outcome_behind]
    simpa [textOf, Fragment.text] using
      ih _ name below fetched (hanchored.congr_head rfl rfl) hpath
  | valueCycle hvalue hcycle =>
    intro output name below fetched _ hpath
    rw [← hpath] at hcycle ⊢
    rw [run_of_finished (step_placeholder_cycle hvalue hcycle)]
    simp [outcome]
  | @valueError location params path tokens p e log hvalue hcycle _ ih =>
    intro output name below fetched hanchored hpath
    have hrest : Anchored (⟨location, tokens, params, output, name⟩ :: below) :=
      hanchored.congr_head rfl rfl
    have hin := ih "" (some p.name) (⟨location, tokens, params, output, name⟩ :: below) fetched
      ⟨Or.inr rfl, hrest⟩ (by rw [← hpath]; rfl)
    rw [run_of_running (step_enterValue hvalue (hpath ▸ hcycle)), Option.toList_none,
      List.nil_append, hin]
    rfl
  | @valueText location params path tokens p fragments log more hvalue hcycle _ _ ihvalue ih =>
    intro output name below fetched hanchored hpath
    have hrest : Anchored (⟨location, tokens, params, output, name⟩ :: below) :=
      hanchored.congr_head rfl rfl
    have hin := ihvalue "" (some p.name) (⟨location, tokens, params, output, name⟩ :: below)
      fetched ⟨Or.inr rfl, hrest⟩ (by rw [← hpath]; rfl)
    rw [run_of_running (step_enterValue hvalue (hpath ▸ hcycle)), Option.toList_none,
      List.nil_append, hin, outcome_cons, outcome_behind]
    exact ih _ name below _ (hanchored.congr_head rfl rfl) hpath
  | templateCycle hcycle =>
    intro output name below fetched hanchored hpath
    rw [← hpath] at hcycle ⊢
    rw [run_of_finished (step_reference_cycle hanchored hcycle)]
    simp [outcome]
  | fetchError hcycle hsource =>
    intro output name below fetched hanchored hpath
    have hstep := step_reference hanchored (hpath ▸ hcycle)
    rw [hsource] at hstep
    rw [run_of_finished hstep]
    simp [outcome]
  | @templateError location params path tokens r text e log hcycle hsource _ ih =>
    intro output name below fetched hanchored hpath
    have hrest : Anchored (⟨location, tokens, params, output, name⟩ :: below) :=
      hanchored.congr_head rfl rfl
    have hstep := step_reference hanchored (hpath ▸ hcycle)
    rw [hsource] at hstep
    have hin := ih "" none (⟨location, tokens, params, output, name⟩ :: below)
      (referred setting location r :: fetched) ⟨Or.inl rfl, hrest⟩ (by rw [← hpath]; rfl)
    rw [run_of_running hstep, Option.toList_some, List.singleton_append, hin]
    simp [outcome]
  | @templateText location params path tokens r text fragments log more hcycle hsource _ _
      ihtemplate ih =>
    intro output name below fetched hanchored hpath
    have hrest : Anchored (⟨location, tokens, params, output, name⟩ :: below) :=
      hanchored.congr_head rfl rfl
    have hstep := step_reference hanchored (hpath ▸ hcycle)
    rw [hsource] at hstep
    have hin := ihtemplate "" none (⟨location, tokens, params, output, name⟩ :: below)
      (referred setting location r :: fetched) ⟨Or.inl rfl, hrest⟩ (by rw [← hpath]; rfl)
    rw [run_of_running hstep, Option.toList_some, List.singleton_append, hin, outcome_cons,
      outcome_behind]
    simpa using ih _ name below _ (hanchored.congr_head rfl rfl) hpath

/-! ## From runs to expansions -/

/-- With fewer than a number of steps, a run gives a result once the text of an expansion, behind
what is written already, is added to the frame below. -/
def Resumes (setting : Setting) (n : ℕ) (output : String) (below : List Frame)
    (fetched : List Location) (composed : Composed) (expansion : Expansion) : Prop :=
  ∀ fragments, expansion.result = .ok fragments → ∀ next rest, below = next :: rest →
    ∃ m < n,
      runFor setting m ({ next with output := next.output ++ (output ++ textOf fragments) } :: rest)
        (expansion.fetched.reverse ++ fetched) = some composed

section

variable {n : ℕ} {output : String} {below : List Frame} {fetched log : List Location}
  {composed : Composed} {expansion : Expansion}

theorem Resumes.mono {k : ℕ} (h : Resumes setting n output below fetched composed expansion)
    (hle : n ≤ k) : Resumes setting k output below fetched composed expansion := by
  intro fragments hresult next rest hbelow
  obtain ⟨m, hm, hrun⟩ := h fragments hresult next rest hbelow
  exact ⟨m, Nat.lt_of_lt_of_le hm hle, hrun⟩

theorem Resumes.behind {fragments : List Fragment}
    (h : Resumes setting n (output ++ textOf fragments) below (log.reverse ++ fetched) composed
      expansion) :
    Resumes setting n output below fetched composed (expansion.behind fragments log) := by
  obtain ⟨result, log'⟩ := expansion
  intro all hresult next rest hbelow
  cases result with
  | error e => simp [Expansion.behind, Except.map] at hresult
  | ok more =>
    obtain rfl : fragments ++ more = all := by
      simpa [Expansion.behind, Except.map] using hresult
    simpa [Expansion.behind, textOf_append, String.append_assoc] using
      h more rfl next rest hbelow

theorem resumes_error {e : ComposeError} :
    Resumes setting n output below fetched composed ⟨.error e, log⟩ := by
  intro fragments hresult
  simp at hresult

end

/-- A run that comes to an end has an expansion for the tokens of its innermost frame, and goes on
with the text of that expansion in the frame below. -/
theorem exists_expands_of_runFor {n : ℕ} {location : Location} {tokens : List Token}
    {params : Table String} {path : List Visit} {output : String} {name : Option String}
    {below : List Frame} {fetched : List Location} {composed : Composed}
    (h : runFor setting n (⟨location, tokens, params, output, name⟩ :: below) fetched =
      some composed)
    (hanchored : Anchored (⟨location, tokens, params, output, name⟩ :: below))
    (hpath : pathOf (⟨location, tokens, params, output, name⟩ :: below) = path) :
    ∃ expansion, Expands setting location params path tokens expansion ∧
      Resumes setting n output below fetched composed expansion := by
  induction n using Nat.strongRecOn generalizing location tokens params path output name below
    fetched with
  | _ n ih =>
  obtain _ | n := n
  · simp [runFor] at h
  have hkeep {tokens' : List Token} {output' : String} :
      Anchored (⟨location, tokens', params, output', name⟩ :: below) :=
    hanchored.congr_head rfl rfl
  rcases tokens with _ | ⟨token, tokens⟩
  · refine ⟨_, .nil, ?_⟩
    rintro _ ⟨⟩ next rest rfl
    refine ⟨n, n.lt_succ_self, ?_⟩
    rw [runFor_of_running (step_nil (next :: rest))] at h
    simpa [textOf] using h
  cases token with
  | literal text =>
    rw [runFor_of_running step_literal] at h
    obtain ⟨more, hmore, hresume⟩ := ih n n.lt_succ_self h hkeep hpath
    refine ⟨_, .literal hmore, .behind ?_⟩
    simpa [textOf, Fragment.text] using hresume.mono n.le_succ
  | placeholder p =>
    by_cases hvalue : findReference? (valueOf setting.globals params p) = none
    · rw [runFor_of_running (step_value hvalue)] at h
      obtain ⟨more, hmore, hresume⟩ := ih n n.lt_succ_self h hkeep hpath
      refine ⟨_, .value hvalue hmore, .behind ?_⟩
      simpa [textOf, Fragment.text] using hresume.mono n.le_succ
    by_cases hcycle : .placeholder p.name ∈ path
    · exact ⟨_, .valueCycle hvalue hcycle, resumes_error⟩
    · rw [runFor_of_running (step_enterValue hvalue (hpath ▸ hcycle))] at h
      obtain ⟨⟨result, log⟩, hinner, hresume⟩ :=
        ih n n.lt_succ_self h ⟨Or.inr rfl, hkeep⟩
          (show pathOf _ = .placeholder p.name :: path from hpath ▸ rfl)
      cases result with
      | error e => exact ⟨_, .valueError hvalue hcycle hinner, resumes_error⟩
      | ok fragments =>
        obtain ⟨m, hm, hrun⟩ := hresume fragments rfl _ _ rfl
        obtain ⟨more, hmore, hresume⟩ := ih m (by omega) hrun hkeep hpath
        refine ⟨_, .valueText hvalue hcycle hinner hmore, .behind ?_⟩
        simpa using hresume.mono (by omega)
  | reference r =>
    by_cases hcycle : .template (referred setting location r) ∈ path
    · exact ⟨_, .templateCycle hcycle, resumes_error⟩
    · have hstep := step_reference hanchored (hpath ▸ hcycle)
      cases hsource : setting.source (referred setting location r) with
      | error e => exact ⟨_, .fetchError hcycle hsource, resumes_error⟩
      | ok text =>
        rw [hsource] at hstep
        rw [runFor_of_running hstep] at h
        obtain ⟨⟨result, log⟩, hinner, hresume⟩ :=
          ih n n.lt_succ_self h ⟨Or.inl rfl, hkeep⟩
            (show pathOf _ = .template (referred setting location r) :: path from hpath ▸ rfl)
        cases result with
        | error e => exact ⟨_, .templateError hcycle hsource hinner, resumes_error⟩
        | ok fragments =>
          obtain ⟨m, hm, hrun⟩ := hresume fragments rfl _ _ rfl
          obtain ⟨more, hmore, hresume⟩ := ih m (by omega) hrun hkeep hpath
          refine ⟨_, .templateText hcycle hsource hinner hmore, .behind ?_⟩
          simpa using hresume.mono (by omega)

/-! ## Compositions -/

/-- A composition that starts on a template gives what its expansion amounts to. -/
theorem run_eq_some_iff_expands {location : Location} {text : String} {params : Table String}
    {composed : Composed} :
    run setting [.ofTemplate location text params] [] = some composed ↔
      ∃ expansion,
        Expands setting location params [.template location] (tokenize text) expansion ∧
        expansion.toComposed = composed := by
  have hanchored : Anchored [Frame.ofTemplate location text params] := rfl
  have hrun {expansion : Expansion}
      (h : Expands setting location params [.template location] (tokenize text) expansion) :
      run setting [.ofTemplate location text params] [] = some expansion.toComposed := by
    rw [Frame.ofTemplate, run_eq_outcome h "" none [] [] hanchored rfl]
    obtain ⟨result, log⟩ := expansion
    cases result <;> simp [outcome, proceed, append, Expansion.toComposed, Except.map]
  constructor
  · intro h
    obtain ⟨n, hn⟩ := run_eq_some_iff.mp h
    obtain ⟨expansion, hexpansion, -⟩ := exists_expands_of_runFor hn hanchored rfl
    exact ⟨expansion, hexpansion, Option.some.inj ((hrun hexpansion).symm.trans h)⟩
  · rintro ⟨expansion, hexpansion, rfl⟩
    exact hrun hexpansion

theorem compose_of_expands {location : Location} {text : String} {expansion : Expansion}
    (h : Expands setting location.canonical [] [.template location.canonical] (tokenize text)
      expansion) : compose setting text location = expansion.toComposed := by
  rw [compose, compose?, run_eq_some_iff_expands.mpr ⟨_, h, rfl⟩, Option.getD_some]

/-- A composition comes to an end exactly when its text has a recursive expansion, and gives what
that amounts to: the same text or the same error, and the same locations fetched from in the same
order. -/
theorem compose_eq_iff_expands (setting : Setting) (text : String) (location : Location)
    (composed : Composed) :
    (compose? setting text location = some composed ∧
        compose setting text location = composed) ↔
      ∃ expansion,
        Expands setting location.canonical [] [.template location.canonical] (tokenize text)
          expansion ∧
        expansion.toComposed = composed := by
  rw [← run_eq_some_iff_expands, ← compose?, compose]
  constructor
  · exact fun h ↦ h.1
  · intro h
    exact ⟨h, by rw [h, Option.getD_some]⟩

end StaticSite.Compose
