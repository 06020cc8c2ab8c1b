import StaticSite.Proofs.Compose.Run

/-!
# What a composition reads

A composition reads a location when one of its steps fetches from there, whether or not it comes to
an end. All these locations are in canonical form (`canonical_of_reads`), and a composition that
succeeds is the same with another source that holds the same texts at them (`compose_congr`).
-/

namespace StaticSite.Compose

open Marker

variable {setting setting' : Setting} {stack : List Frame} {fetched : List Location}
  {composed : Composed} {text result : String} {location base : Location}

/-- Whether the composition of a text that was read from `base` reads a location. -/
def Reads (setting : Setting) (text : String) (base location : Location) : Prop :=
  ∃ stack, Reachable setting [.ofTemplate base.canonical text []] stack ∧
    (step setting stack).2 = some location

private theorem canonical_of_step (h : (step setting stack).2 = some location) :
    ∃ other : Location, location = other.canonical := by
  cases stack with
  | nil => simp [step] at h
  | cons frame below =>
    cases htokens : frame.tokens with
    | nil => simp [step, htokens] at h
    | cons token tokens =>
      cases token with
      | literal text => simp [step, htokens] at h
      | placeholder p =>
        simp only [step, htokens] at h
        split_ifs at h
      | reference r =>
        refine ⟨Location.resolveTemplate setting.root frame.location.parent r.name, ?_⟩
        simp only [step, htokens] at h
        split_ifs at h
        split at h <;> exact (Option.some.inj h).symm

/-- A composition reads from locations in canonical form. -/
theorem canonical_of_reads (h : Reads setting text base location) :
    ∃ other : Location, location = other.canonical := by
  obtain ⟨stack, -, hstep⟩ := h
  exact canonical_of_step hstep

/-! ## Other sources -/

/-- Where a step fetches from does not depend on what it finds there. -/
private theorem step_snd_eq (hroot : setting'.root = setting.root)
    (hglobals : setting'.globals = setting.globals) (stack : List Frame) :
    (step setting' stack).2 = (step setting stack).2 := by
  cases stack with
  | nil => rfl
  | cons frame below =>
    cases htokens : frame.tokens with
    | nil => simp [step, htokens]
    | cons token tokens =>
      cases token with
      | literal text => simp [step, htokens]
      | placeholder p => simp [step, htokens, hglobals]
      | reference r =>
        simp only [step, htokens, hroot]
        split_ifs
        · rfl
        · cases setting'.source (target setting.root frame.location r.name) <;>
            cases setting.source (target setting.root frame.location r.name) <;> rfl

/-- A step that succeeds depends on the source only where it fetches from. -/
private theorem step_congr (hroot : setting'.root = setting.root)
    (hglobals : setting'.globals = setting.globals)
    (hsource : ∀ l, (step setting' stack).2 = some l → ∀ text,
      setting'.source l = .ok text → setting.source l = .ok text)
    (hok : ∀ e, (step setting' stack).1 ≠ .finished (.error e)) :
    step setting stack = step setting' stack := by
  cases stack with
  | nil => rfl
  | cons frame below =>
    cases htokens : frame.tokens with
    | nil => simp [step, htokens]
    | cons token tokens =>
      cases token with
      | literal text => simp [step, htokens]
      | placeholder p => simp [step, htokens, hglobals]
      | reference r =>
        simp only [step, htokens, hroot] at hsource hok ⊢
        split_ifs at hsource hok ⊢
        · rfl
        · cases hfetch : setting'.source (target setting.root frame.location r.name) with
          | error e => simp [hfetch] at hok
          | ok text =>
            have hfetch' : setting.source (target setting.root frame.location r.name) = .ok text :=
              hsource _ (by simp [hfetch]) text hfetch
            simp [hfetch']

private theorem runFor_congr {n : Nat} (hroot : setting'.root = setting.root)
    (hglobals : setting'.globals = setting.globals)
    (h : runFor setting' n stack fetched = some composed) (hresult : composed.result = .ok result)
    (hsource : ∀ next l, Reachable setting stack next → (step setting next).2 = some l →
      ∀ text, setting'.source l = .ok text → setting.source l = .ok text) :
    runFor setting n stack fetched = some composed := by
  induction n generalizing stack fetched with
  | zero => simp [runFor] at h
  | succ n ih =>
    rw [runFor] at h
    have hsame (hok : ∀ e, (step setting' stack).1 ≠ .finished (.error e)) :
        step setting stack = step setting' stack := by
      refine step_congr hroot hglobals (fun l hl ↦ hsource stack l .refl ?_) hok
      rw [← hl, step_snd_eq hroot hglobals]
    cases hstep : step setting' stack with
    | mk state location =>
      rw [hstep] at h hsame
      cases state with
      | finished found =>
        obtain rfl := Option.some.inj h
        obtain rfl : found = .ok result := hresult
        rw [runFor, hsame (by simp)]
      | running next =>
        have hmove : LeadsTo setting stack next := ⟨location, hsame (by simp)⟩
        rw [runFor, hsame (by simp)]
        exact ih h fun later l hlater ↦ hsource later l (hlater.head hmove)

theorem compose?_of_result (h : (compose setting text base).result = .ok result) :
    compose? setting text base = some (compose setting text base) := by
  rw [compose] at h ⊢
  cases hrun : compose? setting text base with
  | none => simp [hrun] at h
  | some composed => rfl

/-- A composition that succeeds with one source is the same with another one that holds the same
texts wherever the composition reads. -/
theorem compose_congr (hroot : setting'.root = setting.root)
    (hglobals : setting'.globals = setting.globals)
    (hresult : (compose setting' text base).result = .ok result)
    (hreads : ∀ l, Reads setting text base l → ∀ text,
      setting'.source l = .ok text → setting.source l = .ok text) :
    compose setting text base = compose setting' text base := by
  obtain ⟨n, hn⟩ := run_eq_some_iff.mp (compose?_of_result hresult)
  have hrun := run_eq_some_iff.mpr ⟨n, runFor_congr hroot hglobals hn hresult
    fun next l hnext hl ↦ hreads l ⟨next, hnext, hl⟩⟩
  rw [compose, compose?, hrun]
  rfl

private theorem mem_fetched_of_runFor {n : Nat}
    (h : runFor setting n stack fetched = some composed) :
    (∀ l ∈ fetched, l ∈ composed.fetched) ∧
      ∀ next l, Reachable setting stack next → (step setting next).2 = some l →
        l ∈ composed.fetched := by
  induction n generalizing stack fetched with
  | zero => simp [runFor] at h
  | succ n ih =>
    rw [runFor] at h
    cases hstep : step setting stack with
    | mk state location =>
      rw [hstep] at h
      cases state with
      | finished found =>
        obtain rfl := Option.some.inj h
        refine ⟨fun l hl ↦ by simp [hl], fun next l hnext hl ↦ ?_⟩
        rcases hnext.cases_head with rfl | ⟨middle, ⟨fetch, hmove⟩, -⟩
        · rw [hstep] at hl
          simp [show location = some l from hl]
        · simp [hstep] at hmove
      | running following =>
        obtain ⟨hbefore, hlater⟩ := ih h
        refine ⟨fun l hl ↦ hbefore l (List.mem_append_right _ hl), fun next l hnext hl ↦ ?_⟩
        rcases hnext.cases_head with rfl | ⟨middle, ⟨fetch, hmove⟩, hrest⟩
        · rw [hstep] at hl
          exact hbefore l (by simp [show location = some l from hl])
        · obtain ⟨hsame, -⟩ := Prod.mk.inj (hstep.symm.trans hmove)
          exact hlater next l (State.running.inj hsame ▸ hrest) hl

/-- A composition that succeeds has fetched from all locations that it reads. -/
theorem mem_fetched_of_reads (h : (compose setting text base).result = .ok result)
    (hreads : Reads setting text base location) : location ∈ (compose setting text base).fetched := by
  obtain ⟨n, hn⟩ := run_eq_some_iff.mp (compose?_of_result h)
  obtain ⟨stack, hreachable, hstep⟩ := hreads
  exact (mem_fetched_of_runFor hn).2 stack location hreachable hstep

/-- A composition depends on the location of its text only by the canonical form. -/
theorem compose_of_canonical {other : Location} (h : other.canonical = base.canonical) :
    compose setting text other = compose setting text base := by
  rw [compose, compose?, h]
  rfl

end StaticSite.Compose
