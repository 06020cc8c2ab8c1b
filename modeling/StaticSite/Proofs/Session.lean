import StaticSite.Session

/-!
# Steps of a session

What a command does, taken apart along its steps. Printing leaves the files alone.
-/

namespace StaticSite.Work

variable {α β : Type} {part : Work α} {next : α → Work β} {session middle : Session} {a : α}
  {error : CommandError}

theorem run_bind (part : Work α) (next : α → Work β) (session : Session) :
    (part >>= next) session =
      match part session with
      | (.ok a, middle) => next a middle
      | (.error error, middle) => ((.error error, middle) : Except CommandError β × Session) := by
  have hrun : (part >>= next) session =
      ExceptT.bindCont next (part session).1 (part session).2 := rfl
  rw [hrun]
  cases part session with
  | mk found middle => cases found <;> rfl

theorem bind_eq (h : part session = (.ok a, middle)) :
    (part >>= next) session = next a middle := by
  rw [run_bind, h]

theorem bind_eq_of_error (h : part session = (.error error, middle)) :
    (part >>= next) session = ((.error error, middle) : Except CommandError β × Session) := by
  rw [run_bind, h]

/-- Work that succeeds does so in all of its steps. -/
theorem exists_of_bind {b : β} {later : Session} (h : (part >>= next) session = (.ok b, later)) :
    ∃ a middle, part session = (.ok a, middle) ∧ next a middle = (.ok b, later) := by
  rw [run_bind] at h
  cases hpart : part session with
  | mk found middle =>
    rw [hpart] at h
    cases found with
    | error error => exact absurd (Prod.mk.inj h).1 (by simp)
    | ok a => exact ⟨a, middle, rfl, h⟩

theorem exists_of_ofExcept {ε : Type} {asError : ε → CommandError} {found : Except ε α}
    (h : ofExcept asError found session = (.ok a, middle)) : found = .ok a ∧ session = middle := by
  cases found with
  | error e => exact absurd (Prod.mk.inj h).1 (by simp)
  | ok found =>
    obtain ⟨hsame, rfl⟩ := Prod.mk.inj h
    exact ⟨congrArg Except.ok (Except.ok.inj hsame), rfl⟩

/-- Failures are printed, and nothing else is done about them. -/
theorem warnFailures_eq (failures : List Failure) (session : Session) :
    ∃ middle, warnFailures failures session = (.ok (), middle) ∧ middle.files = session.files := by
  induction failures generalizing session with
  | nil => exact ⟨session, rfl, rfl⟩
  | cons failure failures ih =>
    obtain ⟨middle, hrest, hfiles⟩ := ih
      (warn ("  " ++ failure.path.text ++ ": " ++ failure.error.message) session).2
    exact ⟨middle, (bind_eq rfl).trans hrest, hfiles⟩

theorem reportBuild_eq (result : BuildResult) (session : Session) :
    ∃ middle, reportBuild result session = (.ok (), middle) ∧ middle.files = session.files := by
  rw [reportBuild]
  obtain ⟨middle, hrest, hfiles⟩ := warnFailures_eq result.failures
    (say ("Built " ++ toString result.pages ++ " pages, " ++ toString result.assets
      ++ " static files" ++ (if result.removed > 0 then
        ", removed " ++ toString result.removed ++ " file(s)" else "")) session).2
  exact ⟨middle, (bind_eq rfl).trans hrest, hfiles⟩

end StaticSite.Work
