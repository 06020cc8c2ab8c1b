import StaticSite.Fetch
import StaticSite.Proofs.Config.Environment

/-!
# Attempts of a fetch

A fetch is to make the attempts that are configured: it ends with the first text among them, or
after the last of them with its error (`MakesAttempts`). It goes from one attempt to the next by
comparing their count with the retries (`attemptFrom_eq`), and through all that fail
(`fetch_eq_attemptFrom`). Since the count has 32 bits, the attempts are made exactly unless the
retries are as many as can be counted and so many attempts fail (`makesAttempts_fetch_iff`).
-/

namespace StaticSite.Fetch

variable {retries attempt n : Nat} {location : Location} {name text : String}
  {outcome : Nat → Except FetchError String} {last : FetchError}

/-! ## From one attempt to the next -/

/-- A text ends the attempts. A failure ends them behind the retries, and before that where it
cannot be counted further. -/
theorem attemptFrom_eq (hle : attempt ≤ retries + 1) :
    attemptFrom name outcome attempt (retries + 1 - attempt) =
      match outcome attempt with
      | .ok text => ⟨attempt, some (.ok text)⟩
      | .error e =>
        if attempt ≤ retries then
          if attempt < maxAttempts then
            attemptFrom name outcome (attempt + 1) (retries + 1 - (attempt + 1))
          else ⟨attempt, none⟩
        else ⟨attempt, some (.error (.exhausted name attempt e))⟩ := by
  by_cases hmore : attempt ≤ retries
  · have hleft : retries + 1 - attempt = retries + 1 - (attempt + 1) + 1 := by omega
    rw [hleft, attemptFrom]
    cases outcome attempt with
    | ok text => rfl
    | error e => exact (if_pos hmore).symm
  · have hleft : retries + 1 - attempt = 0 := by omega
    rw [hleft, attemptFrom]
    cases outcome attempt with
    | ok text => rfl
    | error e => exact (if_neg hmore).symm

/-- Whether the first attempts, up to a number of them, fail. -/
def Fails (outcome : Nat → Except FetchError String) (n : Nat) : Prop :=
  ∀ i, 1 ≤ i → i ≤ n → ∃ e, outcome i = .error e

theorem Fails.mono {m : Nat} (h : Fails outcome n) (hle : m ≤ n) : Fails outcome m :=
  fun i hpos hi ↦ h i hpos (Nat.le_trans hi hle)

/-- Attempts that fail are passed, as far as they are due and can be counted. -/
theorem fetch_eq_attemptFrom (hfails : Fails outcome n) (hretries : n ≤ retries)
    (hcount : n < maxAttempts) :
    fetch retries location outcome =
      attemptFrom location.display outcome (n + 1) (retries + 1 - (n + 1)) := by
  induction n with
  | zero => rfl
  | succ n ih =>
    obtain ⟨e, he⟩ := hfails (n + 1) (by omega) (Nat.le_refl _)
    rw [ih (hfails.mono (by omega)) (by omega) (by omega), attemptFrom_eq (by omega), he]
    simp only [hretries, hcount, if_true]

/-! ## How a fetch ends -/

/-- A fetch ends with the first text. -/
theorem fetch_of_text (hfails : Fails outcome n) (htext : outcome (n + 1) = .ok text)
    (hretries : n ≤ retries) (hcount : n < maxAttempts) :
    fetch retries location outcome = ⟨n + 1, some (.ok text)⟩ := by
  rw [fetch_eq_attemptFrom hfails hretries hcount, attemptFrom_eq (by omega), htext]

/-- A fetch ends behind the retries with the last error. -/
theorem fetch_of_fails (hfails : Fails outcome retries)
    (hlast : outcome (retries + 1) = .error last) (hcount : retries < maxAttempts) :
    fetch retries location outcome =
      ⟨retries + 1, some (.error (.exhausted location.display (retries + 1) last))⟩ := by
  have hend : ¬ retries + 1 ≤ retries := by omega
  rw [fetch_eq_attemptFrom hfails (Nat.le_refl _) hcount, attemptFrom_eq (Nat.le_refl _), hlast]
  simp only [hend, if_false]

/-- A fetch comes to nothing where one more attempt is due than can be counted. -/
theorem fetch_of_fails_maxAttempts (hfails : Fails outcome maxAttempts)
    (hretries : maxAttempts ≤ retries) :
    fetch retries location outcome = ⟨maxAttempts, none⟩ := by
  have hlast : maxAttempts - 1 + 1 = maxAttempts := rfl
  obtain ⟨e, he⟩ := hfails maxAttempts (by decide) (Nat.le_refl _)
  rw [fetch_eq_attemptFrom (hfails.mono (Nat.sub_le _ 1)) (by omega) (by decide), hlast,
    attemptFrom_eq (by omega), he]
  simp [hretries]

/-! ## The attempts that are configured -/

/-- Whether a fetch makes the attempts that are configured: it ends with the first text among them,
or after the last of them with its error. -/
structure MakesAttempts (retries : Nat) (location : Location)
    (outcome : Nat → Except FetchError String) (fetched : Fetched) : Prop where
  /-- The first text is fetched, and no attempt is made after it. -/
  text : ∀ n text, n ≤ retries → Fails outcome n → outcome (n + 1) = .ok text →
    fetched = ⟨n + 1, some (.ok text)⟩
  /-- Without a text the last error is final, with the count of all attempts. -/
  exhausted : ∀ last, Fails outcome retries → outcome (retries + 1) = .error last →
    fetched = ⟨retries + 1, some (.error (.exhausted location.display (retries + 1) last))⟩

/-- The first attempts fail, or one of them is the first one with a text. -/
theorem fails_or_exists_text (outcome : Nat → Except FetchError String) (n : Nat) :
    Fails outcome n ∨ ∃ m < n, ∃ text, Fails outcome m ∧ outcome (m + 1) = .ok text := by
  induction n with
  | zero => exact .inl fun i hpos hi ↦ absurd (Nat.le_trans hpos hi) (by decide)
  | succ n ih =>
    obtain hfails | ⟨m, hm, text, h⟩ := ih
    · cases hnext : outcome (n + 1) with
      | ok text => exact .inr ⟨n, n.lt_succ_self, text, hfails, hnext⟩
      | error e =>
        refine .inl fun i hpos hi ↦ ?_
        obtain hlt | rfl := Nat.lt_or_eq_of_le hi
        · exact hfails i hpos (Nat.le_of_lt_succ hlt)
        · exact ⟨e, hnext⟩
    · exact .inr ⟨m, Nat.lt_succ_of_lt hm, text, h⟩

/-- Attempts that are made as configured come to something. -/
theorem MakesAttempts.result?_ne_none {fetched : Fetched}
    (h : MakesAttempts retries location outcome fetched) : fetched.result? ≠ none := by
  obtain hfails | ⟨n, hn, text, hfails, htext⟩ := fails_or_exists_text outcome retries
  · cases hlast : outcome (retries + 1) with
    | ok text => simp [h.text retries text (Nat.le_refl _) hfails hlast]
    | error e => simp [h.exhausted e hfails hlast]
  · simp [h.text n text (Nat.le_of_lt hn) hfails htext]

/-- The attempts that are configured are made where they can be counted. -/
theorem makesAttempts_fetch (location : Location)
    (h : ¬ (maxAttempts ≤ retries ∧ Fails outcome maxAttempts)) :
    MakesAttempts retries location outcome (fetch retries location outcome) := by
  -- Attempts that fail are fewer than can be counted, or else the first of them are too many.
  have hcount {n : Nat} (hn : n ≤ retries) (hfails : Fails outcome n) : n < maxAttempts :=
    Nat.lt_of_not_le fun hmax ↦ h ⟨Nat.le_trans hmax hn, hfails.mono hmax⟩
  exact ⟨fun n text hn hfails htext ↦ fetch_of_text hfails htext hn (hcount hn hfails),
    fun last hfails hlast ↦ fetch_of_fails hfails hlast (hcount (Nat.le_refl _) hfails)⟩

/-- A fetch makes the attempts that are configured, and comes to something, unless the retries are
as many as can be counted and so many attempts fail. -/
theorem makesAttempts_fetch_iff (retries : Nat) (location : Location)
    (outcome : Nat → Except FetchError String) :
    (MakesAttempts retries location outcome (fetch retries location outcome) ↔
      ¬ (maxAttempts ≤ retries ∧ Fails outcome maxAttempts)) ∧
    ((fetch retries location outcome).result? = none ↔
      maxAttempts ≤ retries ∧ Fails outcome maxAttempts) := by
  have hnone (h : maxAttempts ≤ retries ∧ Fails outcome maxAttempts) :
      (fetch retries location outcome).result? = none := by
    rw [fetch_of_fails_maxAttempts h.2 h.1]
  refine ⟨⟨fun hmade h ↦ hmade.result?_ne_none (hnone h), makesAttempts_fetch location⟩,
    fun h ↦ ?_, hnone⟩
  exact Classical.byContradiction fun hfew ↦ (makesAttempts_fetch location hfew).result?_ne_none h

/-- With the most retries that can be configured, a missing file is not given up on after one
attempt more than these. -/
theorem not_makesAttempts_missing :
    ¬ MakesAttempts 4294967295 (.file ⟨"missing.html"⟩)
      (fun _ ↦ .error (.io "missing.html" .missing))
      (fetch 4294967295 (.file ⟨"missing.html"⟩) fun _ ↦ .error (.io "missing.html" .missing)) := by
  intro h
  refine h.result?_ne_none ?_
  rw [fetch_of_fails_maxAttempts (fun _ _ _ ↦ ⟨_, rfl⟩) (by decide)]

/-- All retries that can be configured are made, but for the largest number of them. -/
theorem makesAttempts_of_load {files : FileTree} {environment : List (String × String)}
    {path : Path} {config : Config} (h : Config.load files environment path = .ok config)
    (hne : config.retries ≠ Config.maxRetries) (location : Location)
    (outcome : Nat → Except FetchError String) :
    MakesAttempts config.retries location outcome (fetch config.retries location outcome) :=
  makesAttempts_fetch location fun hmax ↦
    hne (Nat.le_antisymm (Config.retries_le_of_load h) hmax.1)

end StaticSite.Fetch
