import StaticSite.Layout.Filter
import StaticSite.Layout.Scope

/-!
# Operations in layouts

Arithmetic, comparisons, membership, tests and functions. Whole numbers have 64 bits, and an
operation that leaves them or mixes the signed ones with the largest unsigned ones is refused or
done with floating-point numbers. Numbers of both kinds are compared by size.
-/

namespace StaticSite.Layout

/-- The remainder of a division of floating-point numbers, with the sign of the first one. -/
def floatModulo (x y : Float) : Float :=
  let q := x / y
  x - y * (if q < 0 then q.ceil else q.floor)

/-- Whether a number is one of 64 bits with sign. -/
def isSigned (n : Int) : Bool := -9223372036854775808 ≤ n && n ≤ 9223372036854775807

/-- The result of an operation on whole numbers; `none` if it does not fit. -/
def wholeResult? (a b n : Int) : Option Value :=
  if isSigned a && isSigned b then (if isSigned n then some (.int n) else none)
  else if 0 ≤ n && n < 18446744073709551616 then some (.int n)
  else none

/-- The result of an operation of arithmetic on numbers; there is none where it would not be
finite. -/
def calculate (op : Operator) (a b : Value) : Eval (Option Value) := do
  let floats (f : Float → Float → Float) : Eval (Option Value) := do
    let x := f (← Eval.demand (asFloat? a)) (← Eval.demand (asFloat? b))
    return if x.isFinite then some (.float x) else none
  let whole (n : Int → Int → Int) (i j : Int) : Eval (Option Value) := do
    return some (← Eval.demand (wholeResult? i j (n i j)))
  let mixed (m n : Int) : Bool := (m < 0 && !isSigned n) || (n < 0 && !isSigned m)
  match op, a, b with
  | .slash, _, _ => floats (· / ·)
  | .plus, .int m, .int n => if mixed m n then floats (· + ·) else whole (· + ·) m n
  | .minus, .int m, .int n => if mixed m n then floats (· - ·) else whole (· - ·) m n
  | .times, .int m, .int n => if mixed m n then floats (· * ·) else whole (· * ·) m n
  | .modulo, .int m, .int n =>
    if n == 0 then Eval.fail .mismatch else return some (.int (Int.tmod m n))
  | .plus, _, _ => floats (· + ·)
  | .minus, _, _ => floats (· - ·)
  | .times, _, _ => floats (· * ·)
  | .modulo, _, _ => floats floatModulo
  | _, _, _ => Eval.fail .mismatch

/-- Whether an operation is one of arithmetic. -/
def isArithmetic (op : Operator) : Bool :=
  match op with
  | .plus | .minus | .times | .slash | .modulo => true
  | _ => false

/-- Compares two numbers. -/
def compareFloats (op : Operator) (x y : Float) : Bool :=
  match op with
  | .lt => x < y
  | .lte => x ≤ y
  | .gt => x > y
  | _ => x ≥ y

/-- Whether a container holds a value. -/
def holds? (container item : Value) : Option Bool :=
  match container, item with
  | .list items, v => some (items.contains v)
  | .text s, .text t => some (Text.contains t.toList s.toList)
  | .record fields, .text name => some (Fields.get? fields name).isSome
  | _, _ => none

/-- The result of a test of a value; `none` if it is refused. -/
def testValue? (name : String) (v : Option Value) (args : List Value) : Option Bool :=
  match name, v, args with
  | "defined", v, [] => some v.isSome
  | "undefined", v, [] => some v.isNone
  | "string", some (.text _), [] => some true
  | "string", some _, [] => some false
  | "number", some v, [] => some (asFloat? v).isSome
  | "iterable", some (.list _), [] => some true
  | "iterable", some (.record _), [] => some true
  | "iterable", some _, [] => some false
  | "object", some (.record _), [] => some true
  | "object", some _, [] => some false
  | "odd", some v, [] => (asFloat? v).map fun x => floatModulo x 2.0 != 0.0
  | "even", some v, [] => (asFloat? v).map fun x => floatModulo x 2.0 == 0.0
  | "divisibleby", some v, [d] => do return floatModulo (← asFloat? v) (← asFloat? d) == 0.0
  | "starting_with", some (.text s), [.text p] => some (Text.startsWith p.toList s.toList)
  | "ending_with", some (.text s), [.text p] =>
    some (Text.startsWith p.toList.reverse s.toList.reverse)
  | "containing", some container, [item] => holds? container item
  | _, _, _ => none

/-- The numbers from a start up to an end, with a distance between them. -/
def rangeFrom (stop step : Nat) : (fuel : Nat) → Nat → List Value
  | 0, _ => []
  | fuel + 1, n => if n < stop then .int n :: rangeFrom stop step fuel (n + step) else []

/-- The result of a function; `none` if it is refused. -/
def callFunction? (name : String) (args : Fields) : Option Value :=
  match name with
  | "range" => do
    let stop ← Filter.required? args "end" Filter.count?
    let start ← Filter.optional? args "start" Filter.count? 0
    let step ← Filter.optional? args "step_by" Filter.count? 1
    if start > stop || step == 0 then none
    else some (.list (rangeFrom stop step (stop - start) start))
  | "get_env" => args.get? "default"
  | _ => none

end StaticSite.Layout
