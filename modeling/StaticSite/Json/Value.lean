import StaticSite.Decimal.Written

/-!
# Values

A value is what a configuration, a metadata file and a page context hold: nothing, a truth value, a
number, a text, a list or a record. A record keeps its fields in the order in which their names
first came up, and a name occurs once.
-/

namespace StaticSite

/-- A value of a configuration or of page metadata. -/
inductive Value where
  /-- No value. -/
  | null
  /-- A truth value. -/
  | bool (b : Bool)
  /-- A whole number. -/
  | int (n : Int)
  /-- A floating-point number. -/
  | float (x : Float)
  /-- A text. -/
  | text (s : String)
  /-- A list of values. -/
  | list (items : List Value)
  /-- A record of named values. -/
  | record (fields : List (String × Value))
  deriving BEq, Repr, Inhabited

/-- Named values in order. -/
abbrev Fields := List (String × Value)

namespace Fields

/-- The value under a name. -/
def get? (fields : Fields) (name : String) : Option Value :=
  match fields with
  | [] => none
  | (n, v) :: rest => if n = name then some v else get? rest name

/-- The fields with a value under a name: an existing field keeps its place, a new one comes last. -/
def insert (fields : Fields) (name : String) (value : Value) : Fields :=
  match fields with
  | [] => [(name, value)]
  | (n, v) :: rest =>
    if n = name then (name, value) :: rest else (n, v) :: insert rest name value

/-- The fields with all of the later ones inserted in turn. -/
def extend (fields later : Fields) : Fields :=
  later.foldl (fun acc (name, value) => acc.insert name value) fields

/-- The value inserted last is the one that is found. -/
@[simp] theorem get?_insert (fields : Fields) (name other : String) (value : Value) :
    (fields.insert name value).get? other =
      if name = other then some value else fields.get? other := by
  induction fields with
  | nil => simp [insert, get?]
  | cons field rest ih =>
    obtain ⟨n, v⟩ := field
    by_cases hn : n = name
    · subst hn
      by_cases ho : n = other <;> simp [insert, get?, ho]
    · by_cases ho : n = other
      · subst ho
        have hne : ¬ name = n := fun e => hn e.symm
        simp [insert, get?, hn, hne]
      · simp [insert, get?, hn, ho, ih]

end Fields

end StaticSite
