import StaticSite.Json.Compact

/-!
# Layouts

A layout is text with tags: expressions whose values are put in, conditions, loops, assignments and
filters over a part of the text. This module holds the forms that a layout is made of.
-/

namespace StaticSite.Layout

/-- An operation between two values. -/
inductive Operator where
  /-- Sum. -/
  | plus
  /-- Difference. -/
  | minus
  /-- Product. -/
  | times
  /-- Quotient. -/
  | slash
  /-- Remainder. -/
  | modulo
  /-- Less. -/
  | lt
  /-- Less or equal. -/
  | lte
  /-- Greater. -/
  | gt
  /-- Greater or equal. -/
  | gte
  /-- Equal. -/
  | eq
  /-- Not equal. -/
  | ne
  /-- Both. -/
  | both
  /-- At least one. -/
  | either
  deriving DecidableEq, Repr

/-- A step from a value to a part of it. -/
inductive Access where
  /-- The part of a name, or of a number in a list. -/
  | name (text : String)
  /-- The part named by the value of a variable. -/
  | variable (path : List Access)
  deriving Repr

/-- An expression. -/
inductive Expr where
  /-- A value written out. -/
  | literal (v : Value)
  /-- A variable and the steps to a part of it. -/
  | ident (path : List Access)
  /-- A list. -/
  | array (items : List Expr)
  /-- Texts and numbers put together. -/
  | concat (items : List Expr)
  /-- A call of a function. -/
  | call (name : String) (args : List (String × Expr))
  /-- A call of a macro. -/
  | macroCall (name : String) (args : List (String × Expr))
  /-- A test of a variable. -/
  | test (path : List Access) (negated : Bool) (name : String) (args : List Expr)
  /-- An operation between two values. -/
  | binary (op : Operator) (left right : Expr)
  /-- Whether a value is in a list, a text or a record. -/
  | inside (negated : Bool) (item container : Expr)
  /-- A value after filters. -/
  | filtered (value : Expr) (filters : List (String × List (String × Expr)))
  /-- The opposite of a truth value. -/
  | negation (value : Expr)
  deriving Repr, Inhabited

/-- A part of a layout. -/
inductive Node where
  /-- Text as it is. -/
  | text (chars : List Char)
  /-- Text in which tags have no meaning. -/
  | verbatim (chars : List Char)
  /-- The value of an expression. -/
  | value (e : Expr)
  /-- An assignment, in the innermost scope or the outermost. -/
  | assign (everywhere : Bool) (name : String) (e : Expr)
  /-- Another template; missing ones may be passed over. -/
  | embed (names : List String) (optional : Bool)
  /-- The first body whose condition holds. -/
  | branch (cases : List (Expr × List Node)) (otherwise : List Node)
  /-- A body for each item of a container, or another one if there is no item. -/
  | loop (key : Option String) (item : String) (container : Expr) (body otherwise : List Node)
  /-- A body after a filter. -/
  | filterSection (name : String) (args : List (String × Expr)) (body : List Node)
  /-- A named part. -/
  | block (name : String) (body : List Node)
  /-- The definition of a macro. -/
  | define (name : String) (params : List (String × Option Value)) (body : List Node)
  /-- The end of a loop. -/
  | leave
  /-- The next item of a loop. -/
  | next
  deriving Inhabited

end StaticSite.Layout
