import Mathlib.Data.List.Lex
import Mathlib.Data.Prod.Lex
import Mathlib.Data.String.Basic
import StaticSite.Proofs.Path.Parts
import StaticSite.Site.Content

/-!
# The order of paths

Paths are in the order of their components, which is a linear one (`precedes_iff`). Sorting puts
paths with different components in strict order (`pairwise_sorted`), and below one directory the
order of paths is that of the names that lead to them (`precedes_iff_names`).
-/

namespace StaticSite

namespace Component

/-- The rank of a component and its text, which decide its order. -/
def key (c : Component) : ℕ ×ₗ String := toLex (c.rank, c.text)

theorem precedes_iff {a b : Component} : a.precedes b ↔ a.key < b.key := by
  rw [key, key, Prod.Lex.toLex_lt_toLex]
  cases a <;> cases b <;> simp [precedes, rank, text]

theorem key_injective : Function.Injective key := by
  intro a b h
  have hpair := toLex.injective h
  cases a <;> cases b <;> simp_all [rank, text]

end Component

namespace Path

variable {as bs front : List Component} {a b : Path} {names names' : List String}
  {paths : List Path}

theorem componentsPrecede_iff : componentsPrecede as bs ↔
    as.map Component.key < bs.map Component.key := by
  induction as generalizing bs with
  | nil => cases bs <;> simp [componentsPrecede]
  | cons a as ih =>
    cases bs with
    | nil => simp [componentsPrecede]
    | cons b bs =>
      simp [componentsPrecede, List.cons_lt_cons_iff, ih, Component.precedes_iff,
        Component.key_injective.eq_iff]

theorem precedes_iff : a.precedes b ↔
    a.components.map Component.key < b.components.map Component.key :=
  componentsPrecede_iff

/-- Of two paths with different components one comes before the other. -/
theorem precedes_of_not_precedes (h : ¬ b.precedes a) (hne : a.components ≠ b.components) :
    a.precedes b := by
  rw [precedes_iff] at h ⊢
  refine lt_of_le_of_ne (not_lt.mp h) fun hsame ↦ hne ?_
  exact Component.key_injective.list_map hsame

/-- Paths with different components are sorted strictly. -/
theorem pairwise_sorted (h : paths.Pairwise fun a b ↦ a.components ≠ b.components) :
    (Path.sorted paths).Pairwise fun a b ↦ a.precedes b := by
  have hsorted : (Path.sorted paths).Pairwise fun a b ↦ (!b.precedes a) = true := by
    refine List.pairwise_mergeSort (fun a b c hab hbc ↦ ?_) (fun a b ↦ ?_) paths
    · simp only [Bool.not_eq_true', ← Bool.not_eq_true, precedes_iff, not_lt] at hab hbc ⊢
      exact hab.trans hbc
    · simp only [Bool.or_eq_true, Bool.not_eq_true', ← Bool.not_eq_true, precedes_iff, not_lt]
      exact le_total _ _
  have hdistinct : (Path.sorted paths).Pairwise fun a b ↦ a.components ≠ b.components :=
    ((List.mergeSort_perm paths _).pairwise_iff fun h ↦ h.symm).mpr h
  refine (hsorted.and hdistinct).imp fun hab ↦ precedes_of_not_precedes ?_ hab.2
  simpa using hab.1

private theorem componentsPrecede_append :
    componentsPrecede (front ++ as) (front ++ bs) = componentsPrecede as bs := by
  induction front with
  | nil => rfl
  | cons c front ih =>
    have hirrefl : c.precedes c = false := by
      rw [← Bool.not_eq_true, Component.precedes_iff]
      exact lt_irrefl _
    simp [componentsPrecede, hirrefl, ih]

private theorem componentsPrecede_names :
    componentsPrecede (names.map .normal) (names'.map .normal) ↔ names < names' := by
  induction names generalizing names' with
  | nil => cases names' <;> simp [componentsPrecede]
  | cons name names ih =>
    cases names' with
    | nil => simp [componentsPrecede]
    | cons name' names' =>
      simp [componentsPrecede, List.cons_lt_cons_iff, ih, Component.precedes]

/-- Below one directory paths are in the order of the names that lead to them. -/
theorem precedes_iff_names (ha : a.components = front ++ names.map .normal)
    (hb : b.components = front ++ names'.map .normal) : a.precedes b ↔ names < names' := by
  rw [precedes, ha, hb, componentsPrecede_append, componentsPrecede_names]

end Path

end StaticSite
