import Mathlib.Data.String.Basic
import StaticSite.Text.Table

/-!
# Sorted tables

A table that is built by insertions lists its names in strict order (`IsSorted.insert`). Such a
table is determined by what is found in it (`IsSorted.ext`), and the table of a list of named values
is the one that holds for each name the value that comes last (`eq_ofList_iff`).
-/

namespace StaticSite.Table

variable {α : Type} {table other : Table α} {name : String} {value : α} {entry : String × α}

/-- Whether the names of a table are in strict order, so that none occurs twice. -/
def IsSorted (table : Table α) : Prop := table.Pairwise fun first second ↦ first.1 < second.1

theorem mem_insert (h : entry ∈ table.insert name value) :
    entry = (name, value) ∨ entry ∈ table := by
  induction table with
  | nil => exact Or.inl (List.mem_singleton.mp h)
  | cons first table ih =>
    rw [Table.insert] at h
    split_ifs at h
    all_goals simp only [List.mem_cons] at h ⊢; tauto

theorem IsSorted.insert (h : table.IsSorted) (name : String) (value : α) :
    (table.insert name value).IsSorted := by
  induction table with
  | nil => exact List.pairwise_singleton _ _
  | cons first table ih =>
    obtain ⟨hfirst, hrest⟩ := List.pairwise_cons.mp h
    rw [Table.insert]
    split_ifs with hsame hbefore
    · exact List.pairwise_cons.mpr ⟨fun entry hentry ↦ hsame ▸ hfirst entry hentry, hrest⟩
    · refine List.pairwise_cons.mpr ⟨fun entry hentry ↦ ?_, h⟩
      rcases List.mem_cons.mp hentry with rfl | hentry
      · exact hbefore
      · exact hbefore.trans (hfirst entry hentry)
    · have hafter : first.1 < name := lt_of_le_of_ne (not_lt.mp hbefore) hsame
      refine List.pairwise_cons.mpr ⟨fun entry hentry ↦ ?_, ih hrest⟩
      rcases mem_insert hentry with rfl | hentry
      · exact hafter
      · exact hfirst entry hentry

/-- A name before all the names of a table is not found in it. -/
theorem get?_eq_none (h : ∀ entry ∈ table, name < entry.1) : table.get? name = none := by
  induction table with
  | nil => rfl
  | cons first table ih =>
    have hne : first.1 ≠ name := (h first List.mem_cons_self).ne'
    rw [get?, if_neg hne]
    exact ih fun entry hentry ↦ h entry (List.mem_cons_of_mem _ hentry)

theorem get?_cons_self (first : String × α) (table : Table α) :
    get? (first :: table) first.1 = some first.2 := if_pos rfl

/-- A name that is found in one of two tables does not come before the first one of the other. -/
private theorem not_first_lt {first second : String × α} (h : IsSorted (second :: other))
    (hget : ∀ name, get? (first :: table) name = get? (second :: other) name) :
    ¬ first.1 < second.1 := by
  intro hlt
  have hnone : get? (second :: other) first.1 = none := by
    refine get?_eq_none fun entry hentry ↦ ?_
    rcases List.mem_cons.mp hentry with rfl | hentry
    · exact hlt
    · exact hlt.trans ((List.pairwise_cons.mp h).1 entry hentry)
  have hfound := hget first.1
  rw [get?_cons_self, hnone] at hfound
  cases hfound

/-- Sorted tables in which the same is found are the same. -/
theorem IsSorted.ext (h : table.IsSorted) (h' : other.IsSorted)
    (hget : ∀ name, table.get? name = other.get? name) : table = other := by
  induction table generalizing other with
  | nil =>
    cases other with
    | nil => rfl
    | cons second other => simpa [get?] using hget second.1
  | cons first table ih =>
    cases other with
    | nil => simpa [get?] using hget first.1
    | cons second other =>
      have hname : first.1 = second.1 :=
        le_antisymm (not_lt.mp (not_first_lt h fun name ↦ (hget name).symm))
          (not_lt.mp (not_first_lt h' hget))
      have hvalue : first.2 = second.2 := by
        have hfound := hget first.1
        rw [get?_cons_self, hname, get?_cons_self] at hfound
        exact Option.some.inj hfound
      obtain ⟨hfirst, hrest⟩ := List.pairwise_cons.mp h
      obtain ⟨hsecond, hrest'⟩ := List.pairwise_cons.mp h'
      have htable : table = other := by
        refine ih hrest hrest' fun name ↦ ?_
        by_cases hsame : first.1 = name
        · rw [← hsame, get?_eq_none hfirst, hname, get?_eq_none hsecond]
        · have hfound := hget name
          rwa [get?, if_neg hsame, get?, if_neg (hname ▸ hsame)] at hfound
      rw [Prod.ext hname hvalue, htable]

/-! ## Tables of lists -/

variable {entries : List (String × α)}

private theorem isSorted_foldl_insert (h : table.IsSorted) (entries : List (String × α)) :
    (entries.foldl (fun table (name, value) ↦ table.insert name value) table).IsSorted := by
  induction entries generalizing table with
  | nil => exact h
  | cons entry entries ih => exact ih (h.insert _ _)

private theorem get?_foldl_insert (entries : List (String × α)) (table : Table α) (name : String) :
    (entries.foldl (fun table (name, value) ↦ table.insert name value) table).get? name =
      (entries.reverse.lookup name).or (table.get? name) := by
  induction entries generalizing table with
  | nil => rfl
  | cons entry entries ih =>
    obtain ⟨n, v⟩ := entry
    have hlast : [(n, v)].lookup name = if n = name then some v else none := by
      rw [List.lookup_cons, List.lookup_nil]
      by_cases hsame : n = name
      · rw [if_pos hsame, hsame, beq_self_eq_true]
      · rw [if_neg hsame, beq_eq_false_iff_ne.mpr (Ne.symm hsame)]
    rw [List.foldl_cons, ih, get?_insert, List.reverse_cons, List.lookup_append, hlast,
      Option.or_assoc]
    split_ifs <;> rfl

/-- The table of a list is the sorted one that holds for each name the value that comes last. -/
theorem eq_ofList_iff : table = ofList entries ↔
    table.IsSorted ∧ ∀ name, table.get? name = entries.reverse.lookup name := by
  have hsorted : (ofList entries).IsSorted := isSorted_foldl_insert List.Pairwise.nil entries
  have hget : ∀ name, (ofList entries).get? name = entries.reverse.lookup name := fun name ↦ by
    rw [ofList, get?_foldl_insert, get?, Option.or_none]
  constructor
  · rintro rfl
    exact ⟨hsorted, hget⟩
  · rintro ⟨hsorted', hget'⟩
    exact hsorted'.ext hsorted fun name ↦ (hget' name).trans (hget name).symm

end StaticSite.Table
