import Mathlib.Data.List.Nodup
import Mathlib.Logic.Relation
import StaticSite.Proofs.Compose.Expansion

/-!
# Runs of a composition

What a single step can do to the stack (`move_of_step`), what therefore holds of every stack that a
composition reaches (`wellFormed_of_reachable`), and runs of a bounded number of steps, of which the
run without a bound is the limit (`run_eq_some_iff`). A run has the result with which one of these
stacks ends (`exists_run_iff`).
-/

namespace StaticSite.Compose

open Marker

variable {setting : Setting}

/-- A step leads from a stack to another one. -/
def LeadsTo (setting : Setting) (stack next : List Frame) : Prop :=
  ∃ location, step setting stack = (.running next, location)

/-- The stacks that a composition comes to. -/
def Reachable (setting : Setting) : List Frame → List Frame → Prop :=
  Relation.ReflTransGen (LeadsTo setting)

/-- What a step that does not end the composition can do. -/
inductive Move (setting : Setting) : List Frame → List Frame → Prop
  | literal {frame : Frame} {below : List Frame} {text : String} {tokens : List Token}
      (tokens_eq : frame.tokens = .literal text :: tokens) :
      Move setting (frame :: below)
        ({ frame with tokens, output := frame.output ++ text } :: below)
  | value {frame : Frame} {below : List Frame} {p : Placeholder} {tokens : List Token}
      (tokens_eq : frame.tokens = .placeholder p :: tokens)
      (no_reference : findReference? (substitute setting.globals frame.params p) = none) :
      Move setting (frame :: below)
        ({ frame with
            tokens
            output := frame.output ++ substitute setting.globals frame.params p } :: below)
  | enterValue {frame : Frame} {below : List Frame} {p : Placeholder} {tokens : List Token}
      (tokens_eq : frame.tokens = .placeholder p :: tokens)
      (reference : findReference? (substitute setting.globals frame.params p) ≠ none)
      (fresh : ∀ f ∈ frame :: below, f.placeholder ≠ some p.name) :
      Move setting (frame :: below)
        ({ Frame.ofTemplate frame.location (substitute setting.globals frame.params p)
              frame.params with placeholder := some p.name }
            :: { frame with tokens } :: below)
  | enterTemplate {frame : Frame} {below : List Frame} {r : Reference} {tokens : List Token}
      {text : String} (tokens_eq : frame.tokens = .reference r :: tokens)
      (fresh : ∀ f ∈ frame :: below, f.location ≠ target setting.root frame.location r.name)
      (source_eq : setting.source (target setting.root frame.location r.name) = .ok text) :
      Move setting (frame :: below)
        (Frame.ofTemplate (target setting.root frame.location r.name) text r.params
            :: { frame with tokens } :: below)
  | leave {frame next : Frame} {below : List Frame} (tokens_eq : frame.tokens = []) :
      Move setting (frame :: next :: below)
        ({ next with output := next.output ++ frame.output } :: below)

/-- A step that does not end the composition is one of the moves. -/
theorem move_of_leadsTo {stack next : List Frame} (h : LeadsTo setting stack next) :
    Move setting stack next := by
  obtain ⟨location, h⟩ := h
  match stack with
  | [] => simp [step] at h
  | ⟨base, tokens, params, output, name⟩ :: below =>
    match tokens with
    | [] =>
      match below with
      | [] => simp [step, append] at h
      | under :: below =>
        simp only [step, append, Prod.mk.injEq, State.running.injEq] at h
        obtain ⟨rfl, -⟩ := h
        exact .leave rfl
    | .literal text :: tokens =>
      simp only [step, append, Prod.mk.injEq, State.running.injEq] at h
      obtain ⟨rfl, -⟩ := h
      exact .literal rfl
    | .placeholder p :: tokens =>
      simp only [step, append] at h
      split_ifs at h with hvalue hcycle
      · simp only [Prod.mk.injEq, State.running.injEq] at h
        obtain ⟨rfl, -⟩ := h
        exact .value rfl (Option.isNone_iff_eq_none.mp hvalue)
      · simp at h
      · simp only [Prod.mk.injEq, State.running.injEq] at h
        obtain ⟨rfl, -⟩ := h
        refine .enterValue rfl (fun hnone ↦ hvalue (by simp [hnone])) ?_
        simpa using hcycle
    | .reference r :: tokens =>
      simp only [step] at h
      split_ifs at h with hcycle
      · simp at h
      · split at h
        · simp at h
        · next text htext =>
          simp only [Prod.mk.injEq, State.running.injEq] at h
          obtain ⟨rfl, -⟩ := h
          refine .enterTemplate rfl ?_ htext
          simpa using hcycle

/-! ## Stacks -/

/-- The visit that a frame stands for. -/
def Frame.visit (frame : Frame) : Visit :=
  match frame.placeholder with
  | some name => .placeholder name
  | none => .template frame.location

/-- The visits of the frames of a stack, with the innermost first. -/
def pathOf (stack : List Frame) : List Visit := stack.map Frame.visit

/-- The value of a placeholder is expanded at the location of the frame below it, and the outermost
frame is that of a template. -/
def Anchored : List Frame → Prop
  | [] => True
  | [frame] => frame.placeholder = none
  | frame :: next :: below =>
    (frame.placeholder = none ∨ frame.location = next.location) ∧ Anchored (next :: below)

theorem Frame.label_eq (frame : Frame) : frame.label = frame.visit.label := by
  unfold Frame.label Frame.visit
  cases frame.placeholder <;> rfl

theorem chainOf_eq (stack : List Frame) (visit : Visit) :
    ComposeError.cycle (chainOf stack visit.label) = cycleAt (pathOf stack) visit := by
  simp only [chainOf, cycleAt, pathOf, List.map_reverse, List.map_map]
  congr 3
  exact List.map_congr_left fun frame _ ↦ frame.label_eq

/-- A stack stays anchored when its innermost frame keeps its place. -/
theorem Anchored.congr_head {frame frame' : Frame} {below : List Frame}
    (h : Anchored (frame :: below)) (hlocation : frame'.location = frame.location)
    (hplaceholder : frame'.placeholder = frame.placeholder) : Anchored (frame' :: below) := by
  cases below with
  | nil => simpa [Anchored, hplaceholder] using h
  | cons next below => simpa [Anchored, hplaceholder, hlocation] using h

theorem Anchored.tail {frame : Frame} {below : List Frame} (h : Anchored (frame :: below)) :
    Anchored below := by
  cases below with
  | nil => trivial
  | cons next below => exact h.2

theorem mem_pathOf_placeholder {stack : List Frame} {name : String} :
    .placeholder name ∈ pathOf stack ↔ ∃ f ∈ stack, f.placeholder = some name := by
  simp only [pathOf, List.mem_map]
  refine exists_congr fun f ↦ and_congr_right fun _ ↦ ?_
  unfold Frame.visit
  cases f.placeholder <;> simp

/-- On an anchored stack a location is that of a frame exactly when its template is on the path. -/
theorem mem_pathOf_template {stack : List Frame} (h : Anchored stack) {location : Location} :
    .template location ∈ pathOf stack ↔ ∃ f ∈ stack, f.location = location := by
  induction stack with
  | nil => simp [pathOf]
  | cons frame below ih =>
    have hbelow := ih h.tail
    simp only [pathOf, List.map_cons, List.mem_cons, exists_eq_or_imp] at hbelow ⊢
    rw [hbelow, Frame.visit]
    cases hp : frame.placeholder with
    | none => simp [eq_comm]
    | some name =>
      -- A placeholder has its location from the frame below, which is on the path as well.
      cases below with
      | nil => simp [Anchored, hp] at h
      | cons next below =>
        have hlocation : frame.location = next.location := by simpa [Anchored, hp] using h.1
        simp only [reduceCtorEq, false_or, hlocation, iff_or_self]
        exact fun hnext ↦ ⟨next, List.mem_cons_self, hnext⟩

/-- What holds of every stack of a composition. -/
structure WellFormed (stack : List Frame) : Prop where
  anchored : Anchored stack
  nodup : (pathOf stack).Nodup

theorem wellFormed_singleton (location : Location) (text : String) (params : Table String) :
    WellFormed [Frame.ofTemplate location text params] :=
  ⟨rfl, List.nodup_singleton _⟩

/-- A move keeps a stack well formed: what it enters is not on the path yet. -/
theorem Move.wellFormed {stack next : List Frame} (h : Move setting stack next)
    (hstack : WellFormed stack) : WellFormed next := by
  obtain ⟨hanchored, hnodup⟩ := hstack
  cases h with
  | literal => exact ⟨hanchored.congr_head rfl rfl, hnodup⟩
  | value => exact ⟨hanchored.congr_head rfl rfl, hnodup⟩
  | @enterValue frame below p tokens _ _ fresh =>
    have hfresh : .placeholder p.name ∉ pathOf (frame :: below) := fun hmem ↦ by
      obtain ⟨f, hf, hname⟩ := mem_pathOf_placeholder.mp hmem
      exact fresh f hf hname
    exact ⟨⟨Or.inr rfl, hanchored.congr_head rfl rfl⟩, List.nodup_cons.mpr ⟨hfresh, hnodup⟩⟩
  | @enterTemplate frame below r tokens text _ fresh _ =>
    have hfresh : .template (target setting.root frame.location r.name) ∉
        pathOf (frame :: below) := fun hmem ↦ by
      obtain ⟨f, hf, hlocation⟩ := (mem_pathOf_template hanchored).mp hmem
      exact fresh f hf hlocation
    exact ⟨⟨Or.inl rfl, hanchored.congr_head rfl rfl⟩, List.nodup_cons.mpr ⟨hfresh, hnodup⟩⟩
  | leave => exact ⟨hanchored.tail.congr_head rfl rfl, (List.nodup_cons.mp hnodup).2⟩

/-- Every stack that a composition comes to is well formed. -/
theorem wellFormed_of_reachable {start stack : List Frame} (h : Reachable setting start stack)
    (hstart : WellFormed start) : WellFormed stack := by
  induction h with
  | refl => exact hstart
  | tail _ hstep ih => exact (move_of_leadsTo hstep).wellFormed ih

/-! ## Runs of a bounded number of steps -/

/-- Runs at most a number of steps. -/
def runFor (setting : Setting) : Nat → List Frame → List Location → Option Composed
  | 0, _, _ => none
  | n + 1, stack, fetched =>
    match step setting stack with
    | (.finished result, location) => some ⟨result, (location.toList ++ fetched).reverse⟩
    | (.running stack, location) => runFor setting n stack (location.toList ++ fetched)

/-- A run gives a result exactly when some number of steps is enough for it. -/
theorem run_eq_some_iff {stack : List Frame} {fetched : List Location} {composed : Composed} :
    run setting stack fetched = some composed ↔
      ∃ n, runFor setting n stack fetched = some composed := by
  constructor
  · intro h
    refine run.partial_correctness setting
      (fun stack fetched composed ↦ ∃ n, runFor setting n stack fetched = some composed)
      (fun rec ih stack fetched composed h ↦ ?_) stack fetched composed h
    split at h
    · next result location hstep => exact ⟨1, by simpa [runFor, hstep] using h⟩
    · next next location hstep =>
      obtain ⟨n, hn⟩ := ih _ _ _ h
      exact ⟨n + 1, by simpa [runFor, hstep] using hn⟩
  · rintro ⟨n, h⟩
    induction n generalizing stack fetched with
    | zero => simp [runFor] at h
    | succ n ih =>
      rw [runFor] at h
      rw [run]
      split at h
      · next hstep => simpa [hstep] using h
      · next hstep => simpa [hstep] using ih h

/-- A run gives the result with which one of the stacks that it comes to ends. -/
theorem exists_run_iff (fetched : List Location) {stack : List Frame}
    {result : Except ComposeError String} :
    (∃ log, run setting stack fetched = some ⟨result, log⟩) ↔
      ∃ last location, Reachable setting stack last ∧
        step setting last = (.finished result, location) := by
  simp only [run_eq_some_iff]
  constructor
  · rintro ⟨log, n, h⟩
    induction n generalizing stack fetched with
    | zero => cases h
    | succ n ih =>
      rw [runFor] at h
      split at h
      · next found location hstep =>
        obtain ⟨rfl, -⟩ := Composed.mk.inj (Option.some.inj h)
        exact ⟨stack, location, .refl, hstep⟩
      · next next location hstep =>
        obtain ⟨last, fetch, hlast, hfinished⟩ := ih _ h
        exact ⟨last, fetch, hlast.head ⟨location, hstep⟩, hfinished⟩
  · rintro ⟨last, location, hlast, hfinished⟩
    induction hlast using Relation.ReflTransGen.head_induction_on generalizing fetched with
    | refl => exact ⟨_, 1, by rw [runFor, hfinished]⟩
    | head hstep _ ih =>
      obtain ⟨fetch, hstep⟩ := hstep
      obtain ⟨log, n, hn⟩ := ih (fetch.toList ++ fetched)
      exact ⟨log, n + 1, by rw [runFor, hstep]; exact hn⟩

/-- A composition ends with an error exactly if a stack that it comes to ends with it. -/
theorem compose_eq_error_iff {text : String} {location : Location} {e : ComposeError}
    (he : e ≠ .endless) : (compose setting text location).result = .error e ↔
      ∃ last fetch, Reachable setting [.ofTemplate location.canonical text []] last ∧
        step setting last = (.finished (.error e), fetch) := by
  rw [← exists_run_iff [], compose, compose?]
  cases hrun : run setting [.ofTemplate location.canonical text []] [] with
  | none => simpa using Ne.symm he
  | some composed =>
    obtain ⟨result, log⟩ := composed
    simp

end StaticSite.Compose
