/-!
# Tables sorted by name

A table holds values under names and lists them by name, in the order of the code points, which is
also the order of the bytes in UTF-8. A name occurs at most once; the value inserted last stays.
-/

namespace StaticSite

/-- Values under names, sorted by name. -/
abbrev Table (α : Type) := List (String × α)

namespace Table

variable {α β : Type}

/-- The value under a name. -/
def get? (table : Table α) (name : String) : Option α :=
  match table with
  | [] => none
  | (n, v) :: rest => if n = name then some v else get? rest name

/-- The table with a value under a name. -/
def insert (table : Table α) (name : String) (value : α) : Table α :=
  match table with
  | [] => [(name, value)]
  | (n, v) :: rest =>
    if n = name then (name, value) :: rest
    else if name < n then (name, value) :: (n, v) :: rest
    else (n, v) :: insert rest name value

/-- The table of a list of named values, of which a later one replaces an earlier one. -/
def ofList (entries : List (String × α)) : Table α :=
  entries.foldl (fun table (name, value) => table.insert name value) []

/-- The table with a function applied to every value. -/
def mapValues (f : α → β) (table : Table α) : Table β :=
  table.map fun (name, value) => (name, f value)

/-- The value inserted last is the one that is found. -/
@[simp] theorem get?_insert (table : Table α) (name other : String) (value : α) :
    (table.insert name value).get? other =
      if name = other then some value else table.get? other := by
  induction table with
  | nil => simp [insert, get?]
  | cons entry rest ih =>
    obtain ⟨n, v⟩ := entry
    by_cases hn : n = name
    · subst hn
      by_cases ho : n = other <;> simp [insert, get?, ho]
    · by_cases hlt : name < n
      · by_cases ho : name = other
        · subst ho
          simp [insert, get?, hn, hlt]
        · simp [insert, get?, hn, hlt, ho]
      · by_cases ho : n = other
        · subst ho
          have hne : ¬ name = n := fun e => hn e.symm
          simp [insert, get?, hn, hlt, hne]
        · simp [insert, get?, hn, hlt, ho, ih]

end Table

end StaticSite
