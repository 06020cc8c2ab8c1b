import Mathlib.Data.List.Nodup
import StaticSite.Json.Value

/-!
# Fields in order

Fields that are built by insertions hold each name once and keep the place at which a name first
came up. So the names of extended fields are the old ones followed by the new ones
(`names_extend`), and the values are the later ones where there is one (`get?_extend`).
-/

namespace StaticSite.Fields

variable {fields later : Fields} {name : String} {value : Value}

/-- The names of fields in their order. -/
def names (fields : Fields) : List String := fields.map Prod.fst

@[simp] theorem names_nil : names [] = [] := rfl

@[simp] theorem names_cons (field : String × Value) (fields : Fields) :
    names (field :: fields) = field.1 :: names fields := rfl

theorem nodup_names_nil : (names []).Nodup := List.nodup_nil

theorem get?_cons (field : String × Value) (fields : Fields) (name : String) :
    get? (field :: fields) name = if field.1 = name then some field.2 else get? fields name := rfl

theorem get?_eq_none_iff : fields.get? name = none ↔ name ∉ fields.names := by
  induction fields with
  | nil => simp [get?]
  | cons field fields ih =>
    rw [get?_cons, names_cons, List.mem_cons, not_or]
    split_ifs with hsame
    · simp [hsame]
    · rw [ih]
      exact ⟨fun h ↦ ⟨Ne.symm hsame, h⟩, And.right⟩

/-! ## Insertions -/

/-- An existing field keeps its place, and a new one comes last. -/
theorem names_insert (fields : Fields) (name : String) (value : Value) :
    (fields.insert name value).names =
      if name ∈ fields.names then fields.names else fields.names ++ [name] := by
  induction fields with
  | nil => rfl
  | cons field fields ih =>
    rw [insert]
    by_cases hsame : field.1 = name
    · rw [if_pos hsame, names_cons, names_cons, if_pos (hsame ▸ List.mem_cons_self), hsame]
    · rw [if_neg hsame, names_cons, ih, names_cons]
      by_cases hold : name ∈ names fields
      · rw [if_pos hold, if_pos (List.mem_cons_of_mem _ hold)]
      · have hnew : name ∉ field.1 :: names fields :=
          List.not_mem_cons_of_ne_of_not_mem (Ne.symm hsame) hold
        rw [if_neg hold, if_neg hnew, List.cons_append]

theorem nodup_names_insert (h : fields.names.Nodup) (name : String) (value : Value) :
    (fields.insert name value).names.Nodup := by
  rw [names_insert]
  split_ifs with hold
  · exact h
  · rw [← List.concat_eq_append]
    exact h.concat hold

/-! ## Extensions -/

theorem extend_cons (fields : Fields) (field : String × Value) (later : Fields) :
    fields.extend (field :: later) = (fields.insert field.1 field.2).extend later := rfl

theorem nodup_names_extend (h : fields.names.Nodup) (later : Fields) :
    (fields.extend later).names.Nodup := by
  induction later generalizing fields with
  | nil => exact h
  | cons field later ih => exact ih (nodup_names_insert h _ _)

/-- The old names stay in front, and those that are new follow in their order. -/
theorem names_extend (fields : Fields) (hlater : later.names.Nodup) :
    (fields.extend later).names =
      fields.names ++ later.names.filter (fun name ↦ name ∉ fields.names) := by
  induction later generalizing fields with
  | nil => exact (List.append_nil _).symm
  | cons field later ih =>
    obtain ⟨hfresh, hrest⟩ := List.nodup_cons.mp hlater
    rw [extend_cons, ih _ hrest, names_insert, names_cons]
    by_cases hold : field.1 ∈ fields.names
    · rw [if_pos hold, List.filter_cons_of_neg (by simpa using hold)]
    · have hfilter : (names later).filter (fun name ↦ name ∉ fields.names ++ [field.1]) =
          (names later).filter (fun name ↦ name ∉ fields.names) := by
        refine List.filter_congr fun name hname ↦ ?_
        have hne : name ≠ field.1 := fun hsame ↦ hfresh (hsame ▸ hname)
        simp [hne]
      rw [if_neg hold, List.filter_cons_of_pos (by simpa using hold), hfilter, List.append_assoc,
        List.singleton_append]

/-- The later value of a name counts. -/
theorem get?_extend (fields : Fields) (hlater : later.names.Nodup) (name : String) :
    (fields.extend later).get? name = (later.get? name).or (fields.get? name) := by
  induction later generalizing fields with
  | nil => rfl
  | cons field later ih =>
    obtain ⟨hfresh, hrest⟩ := List.nodup_cons.mp hlater
    rw [extend_cons, ih _ hrest, get?_insert, get?_cons]
    by_cases hsame : field.1 = name
    · rw [if_pos hsame, if_pos hsame, get?_eq_none_iff.mpr (hsame ▸ hfresh), Option.none_or,
        Option.some_or]
    · rw [if_neg hsame, if_neg hsame]

end StaticSite.Fields
