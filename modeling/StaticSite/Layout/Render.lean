import StaticSite.Layout.Operation
import StaticSite.Layout.Reader

/-!
# Rendering layouts

A layout is rendered with the values of a page. Texts are put in as they are. A variable that has
no value ends the rendering, except in a condition, where it counts as false, and before the filter
that gives a usual value.
-/

namespace StaticSite.Layout

/-- The first expression under filters and the filters. -/
def coreOf : Expr → Expr × List (String × List (String × Expr))
  | .filtered e filters => (e, filters)
  | e => (e, [])

/-- Whether the first of some filters gives a usual value, and its arguments. -/
def usualValue? (filters : List (String × List (String × Expr))) :
    Option (List (String × Expr)) :=
  match filters with
  | ("default", args) :: _ => some args
  | _ => none

/-- How the rendering of a part ended. -/
inductive Ending where
  /-- At its end. -/
  | done
  /-- At the end of a loop. -/
  | leave
  /-- At the next item of a loop. -/
  | next
  deriving DecidableEq

/-- The items of a container with their keys. -/
def loopItems? (keyed : Bool) : Value → Option (List (String × Value))
  | .list items => if keyed then none else some (items.map fun v => ("", v))
  | .text s => if keyed then none else some (s.toList.map fun c => ("", .text (String.singleton c)))
  | .record fields => if keyed then some fields else none
  | _ => none

/-- What a loop tells its body about its progress. -/
def progress (index count : Nat) : Value :=
  .record [("index", .int (index + 1)), ("index0", .int index), ("first", .bool (index == 0)),
    ("last", .bool (index + 1 == count))]

/-- Whether the items of an expression can be gone through: those of a variable, of a list that is
written out, and of the result of a function. -/
def canLoop (container : Expr) : Bool :=
  match (coreOf container).1 with
  | .ident _ | .array _ | .call .. => true
  | _ => false

mutual

/-- The value of an expression. Macros cannot be called. -/
def evaluate (fuel : Nat) (e : Expr) : Eval Value :=
  match fuel with
  | 0 => Eval.fail .mismatch
  | fuel + 1 =>
    match e with
    | .literal v => return v
    | .ident path => lookup path
    | .array items => do return .list (← evaluateAll fuel items)
    | .concat items => do
      let parts ← evaluateAll fuel items
      let texts ← parts.mapM fun v =>
        match v with
        | .text s => return s.toList
        | .int n => return Json.writeInt n
        | .float x => return Json.compact (.float x)
        | _ => Eval.fail .mismatch
      return Filter.ofChars texts.flatten
    | .call name args => do
      let args ← evaluateArgs fuel args
      Eval.demand (callFunction? name args)
    | .macroCall .. => Eval.fail .mismatch
    | .test path negated name args => do
      let args ← evaluateAll fuel args
      let result ← Eval.demand (testValue? name (lookupPath? (← get) path) args)
      return .bool (result != negated)
    | .binary op .. =>
      if isArithmetic op then do return (← evaluateNumber fuel e).getD (.text "NaN")
      else do return .bool (← isTrue fuel e)
    | .inside .. => do return .bool (← isTrue fuel e)
    | .filtered inner filters => do
      let start ←
        match inner, usualValue? filters with
        | .ident _, some args =>
          match ← Eval.attempt (evaluate fuel inner) with
          | none | some .null => evaluate fuel (← Eval.demand (args.lookup "value"))
          | some v => pure v
        | _, _ => evaluate fuel inner
      applyFilters fuel filters start
    | .negation inner => do return .bool !(← isTrue fuel inner)

/-- The values of expressions. -/
def evaluateAll (fuel : Nat) (es : List Expr) : Eval (List Value) :=
  match fuel, es with
  | 0, _ => Eval.fail .mismatch
  | _, [] => return []
  | fuel + 1, e :: rest => do
    let v ← evaluate fuel e
    return v :: (← evaluateAll fuel rest)

/-- The values of named arguments. -/
def evaluateArgs (fuel : Nat) (args : List (String × Expr)) : Eval Fields :=
  match fuel, args with
  | 0, _ => Eval.fail .mismatch
  | _, [] => return []
  | fuel + 1, (name, e) :: rest => do
    let v ← evaluate fuel e
    return (name, v) :: (← evaluateArgs fuel rest)

/-- The value of an expression that must be a number; arithmetic need not have a result. -/
def evaluateNumber (fuel : Nat) (e : Expr) : Eval (Option Value) :=
  match fuel with
  | 0 => Eval.fail .mismatch
  | fuel + 1 => do
    match e with
    | .binary op left right =>
      if !isArithmetic op then Eval.fail .mismatch
      let a ← evaluateNumber fuel left
      let b ← evaluateNumber fuel right
      match a, b with
      | some a, some b => calculate op a b
      | _, _ => return none
    | _ =>
      let v ← evaluate fuel e
      if (asFloat? v).isNone then Eval.fail .mismatch
      return some v

/-- The value after filters. -/
def applyFilters (fuel : Nat) (filters : List (String × List (String × Expr))) (v : Value) :
    Eval Value :=
  match fuel, filters with
  | 0, _ => Eval.fail .mismatch
  | _, [] => return v
  | fuel + 1, (name, args) :: rest =>
    if name == "safe" || name == "default" then applyFilters fuel rest v
    else if !Filter.names.contains name then Eval.fail (.unknownFilter name)
    else do
      let args ← evaluateArgs fuel args
      let v ← Eval.demand (Filter.result? name args v)
      applyFilters fuel rest v

/-- Whether a condition holds. A variable without a value counts as false, and so do arithmetic
without a result and a test that is refused. Filters count after variables only. -/
def isTrue (fuel : Nat) (e : Expr) : Eval Bool :=
  match fuel with
  | 0 => Eval.fail .mismatch
  | fuel + 1 =>
    match e with
    | .binary .both left right => do
      if ← isTrue fuel left then isTrue fuel right else return false
    | .binary .either left right => do
      if ← isTrue fuel left then return true else isTrue fuel right
    | .binary .eq left right => do
      return sameValue (← evaluate fuel left) (← evaluate fuel right)
    | .binary .ne left right => do
      let a ← evaluate fuel left
      let b ← evaluate fuel right
      return (asFloat? a).isSome == (asFloat? b).isSome && !sameValue a b
    | .binary op left right => do
      if isArithmetic op then return ((← evaluateNumber fuel e).map isTruthy).getD false
      let a ← evaluateNumber fuel left
      let b ← evaluateNumber fuel right
      return compareFloats op (← Eval.demand (a.bind asFloat?)) (← Eval.demand (b.bind asFloat?))
    | .inside negated item container => do
      let item ← evaluate fuel item
      let container ← evaluate fuel container
      let held ← Eval.demand (holds? container item)
      return held != negated
    | .negation inner => do return !(← isTrue fuel inner)
    | .test .. | .ident _ => do
      return ((← Eval.attempt (evaluate fuel e)).map isTruthy).getD false
    | .call .. => do
      match ← evaluate fuel e with
      | .bool b => return b
      | _ => Eval.fail .mismatch
    | .filtered inner _ =>
      match inner with
      | .ident _ => do return ((← Eval.attempt (evaluate fuel e)).map isTruthy).getD false
      | .concat _ => do return isTruthy (← evaluate fuel e)
      | _ => isTrue fuel inner
    | _ => do return isTruthy (← evaluate fuel e)

/-- The text of the parts of a layout, and how it ended. -/
def renderAll (fuel : Nat) (nodes : List Node) : Eval (List Char × Ending) :=
  match fuel, nodes with
  | 0, _ => Eval.fail .mismatch
  | _, [] => return ([], .done)
  | fuel + 1, node :: rest => do
    let (text, ending) ← renderNode fuel node
    match ending with
    | .done =>
      let (more, ending) ← renderAll fuel rest
      return (text ++ more, ending)
    | _ => return (text, ending)

/-- The text of the first body whose condition holds. -/
def renderBranch (fuel : Nat) (cases : List (Expr × List Node)) (otherwise : List Node) :
    Eval (List Char × Ending) :=
  match fuel, cases with
  | 0, _ => Eval.fail .mismatch
  | fuel + 1, [] => renderAll fuel otherwise
  | fuel + 1, (e, body) :: rest => do
    if ← isTrue fuel e then renderAll fuel body else renderBranch fuel rest otherwise

/-- The texts of a body for items. -/
def renderItems (fuel : Nat) (key : Option String) (item : String) (body : List Node)
    (index count : Nat) (items : List (String × Value)) : Eval (List Char) :=
  match fuel, items with
  | 0, _ => Eval.fail .mismatch
  | _, [] => return []
  | fuel + 1, (k, v) :: rest => do
    let scope : Fields := (key.toList.map fun name => (name, .text k))
      ++ [(item, v), ("loop", progress index count)]
    modify fun scopes => { scopes with loops := scope :: scopes.loops }
    let (text, ending) ← renderAll fuel body
    modify fun scopes => { scopes with loops := scopes.loops.drop 1 }
    if ending = .leave then return text
    else return text ++ (← renderItems fuel key item body (index + 1) count rest)

/-- The text of a part of a layout, and how it ended. Macros cannot be defined. -/
def renderNode (fuel : Nat) (node : Node) : Eval (List Char × Ending) :=
  match fuel with
  | 0 => Eval.fail .mismatch
  | fuel + 1 =>
    match node with
    | .text chars | .verbatim chars => return (chars, .done)
    | .value e => do return (written (← evaluate fuel e), .done)
    | .assign everywhere name e => do
      let v ← evaluate fuel e
      modify fun scopes => scopes.assign everywhere name v
      return ([], .done)
    | .embed _ optional => if optional then return ([], .done) else Eval.fail .mismatch
    | .branch cases otherwise => renderBranch fuel cases otherwise
    | .loop key item container body otherwise => do
      if !canLoop container then Eval.fail .mismatch
      let items ← Eval.demand (loopItems? key.isSome (← evaluate fuel container))
      if items.isEmpty then renderAll fuel otherwise
      else return (← renderItems fuel key item body 0 items.length items, .done)
    | .filterSection name args body => do
      let (text, ending) ← renderAll fuel body
      let v ← applyFilters fuel [(name, args)] (Filter.ofChars text)
      return (written v, ending)
    | .block _ body => renderAll fuel body
    | .define .. => Eval.fail .mismatch
    | .leave => return ([], .leave)
    | .next => return ([], .next)

end

/-- The depth to which the forms of a layout may hold each other. -/
def renderFuel : Nat := 1000000000

/-- The text of a layout with the values of a page. -/
def render (nodes : List Node) (values : Fields) : Except Fault String :=
  match renderAll renderFuel nodes ⟨[], [], values⟩ with
  | .ok ((text, _), _) => .ok (String.ofList text)
  | .error fault => .error fault

end StaticSite.Layout
