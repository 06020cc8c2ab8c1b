import StaticSite.Layout.Basic
import StaticSite.Decimal.Written
import StaticSite.Text.Blank

/-!
# Reading expressions

The grammar of the expressions in layouts, read from left to right. Of several alternatives the
first one that fits is taken, and white space between the parts has no meaning.
-/

namespace StaticSite.Layout

/-- Reads from the front of a text; fails if the text does not fit. -/
abbrev Reader := StateT (List Char) Option

namespace Reader

/-- Whether a character is white space between the parts of a tag. -/
def isGap (c : Char) : Bool := c == ' ' || c == '\t' || c == '\r' || c == '\n'

/-- Skips white space. -/
def gap : Reader Unit := modify (·.dropWhile isGap)

/-- Goes past a text that comes next. -/
def exactly (text : String) : Reader Unit := do
  match Text.stripPrefix? text.toList (← get) with
  | some rest => set rest
  | none => failure

/-- Goes past white space and a text. -/
def symbol (text : String) : Reader Unit := do gap; exactly text

/-- Whether a reader succeeds; if it fails, nothing is read. -/
def optionally (read : Reader Unit) : Reader Bool :=
  (do read; return true) <|> return false

/-- The result of a reader, if it succeeds. -/
def attempt {α : Type} (read : Reader α) : Reader (Option α) :=
  (do return some (← read)) <|> return none

/-- Reads as often as possible, at most a number of times. -/
def many {α : Type} (read : Reader α) : (fuel : Nat) → Reader (List α)
  | 0 => return []
  | fuel + 1 => do
    match ← attempt read with
    | some a => return a :: (← many read fuel)
    | none => return []

/-- Reads one after another, with a text between them. -/
def separated {α : Type} (separator : String) (read : Reader α) : Reader (List α) := do
  let first ← read
  let fuel := (← get).length
  return first :: (← many (do symbol separator; read) fuel)

/-- A word after the word that says what to do; white space must follow that word. -/
def wordThenGap (word : String) : Reader Unit := do
  symbol word
  match (← get).head? with
  | some c => if isGap c then return () else failure
  | none => failure

/-- Whether a character may stand in a name. -/
def isNameChar (c : Char) : Bool := c.isAlphanum || c == '_'

/-- Characters that satisfy a test, at least one. -/
def chars (p : Char → Bool) : Reader (List Char) := do
  let (front, rest) := Text.spanOf p (← get)
  if front.isEmpty then failure
  set rest
  return front

/-- A name that begins here. -/
def bareName : Reader String := do
  match (← get).head? with
  | some c =>
    if c.isAlpha || c == '_' then return String.ofList (← chars isNameChar) else failure
  | none => failure

/-- A name after white space. -/
def name : Reader String := do gap; bareName

/-- A text in quotes that begins here. -/
def bareText : Reader String := do
  match ← get with
  | q :: rest =>
    if q == '"' || q == '\'' || q == '\x60' then
      match Text.breakOn? [q] rest with
      | some (text, rest) => set rest; return String.ofList text
      | none => failure
    else failure
  | [] => failure

/-- A text in quotes after white space. -/
def quotedText : Reader String := do gap; bareText

/-- The digits of a whole number without zeros at the front. -/
def bareDigits : Reader (List Char) := do
  match ← get with
  | '0' :: rest => set rest; return ['0']
  | _ => chars Char.isDigit

/-- A whole number that begins here. -/
def bareInt : Reader Int := do
  let negative ← optionally (exactly "-")
  let digits ← bareDigits
  let n : Int := (Text.readNat? digits).getD 0
  let n := if negative then -n else n
  if -9223372036854775808 ≤ n && n ≤ 9223372036854775807 then return n else failure

/-- A number with a point. -/
def floatNumber : Reader Float := do
  gap
  let negative ← optionally (exactly "-")
  let whole ← bareDigits
  exactly "."
  let fraction ← chars Char.isDigit
  match Decimal.readFloat? (whole ++ '.' :: fraction) with
  | some x => return if negative then -x else x
  | none => failure

/-- The steps to a part of a variable. -/
def accesses : (fuel : Nat) → Reader (List Access)
  | 0 => return []
  | fuel + 1 => do
    let step : Reader Access :=
      (do exactly "."; return .name (String.ofList (← chars isNameChar)))
      <|> (do
        exactly "["
        let inner : Reader Access :=
          (do return .name (toString (← bareInt)))
          <|> (do return .name (← bareText))
          <|> (do
            let first ← bareName
            return .variable (.name first :: (← accesses fuel)))
        let a ← inner
        exactly "]"
        return a)
    match ← attempt step with
    | some a => return a :: (← accesses fuel)
    | none => return []

/-- A variable and the steps to a part of it. -/
def identPath : Reader (List Access) := do
  let first ← name
  return .name first :: (← accesses (← get).length)

/-- One of some symbols, with what it stands for. -/
def oneOf {α : Type} : List (String × α) → Reader α
  | [] => failure
  | (text, a) :: rest => (do symbol text; return a) <|> oneOf rest

/-- The operations of arithmetic. -/
def arithmetic : Reader Operator :=
  oneOf [("+", .plus), ("-", .minus), ("*", .times), ("/", .slash), ("%", .modulo)]

/-- The comparisons. -/
def comparison : Reader Operator :=
  oneOf [("<=", .lte), (">=", .gte), (">", .gt), ("<", .lt), ("==", .eq), ("!=", .ne)]

/-- Whether an operation is done before sums and differences. -/
def bindsTightly (op : Operator) : Bool := op == .times || op == .slash || op == .modulo

/-- The expression of operands with operations between them: products first, then sums, from left
to right. -/
def climb (left : Expr) : List (Operator × Expr) → Expr
  | [] => left
  | (op, right) :: rest =>
    if bindsTightly op then climb (.binary op left right) rest
    else
      let tight := rest.takeWhile fun step => bindsTightly step.1
      let right := tight.foldl (fun l step => .binary step.1 l step.2) right
      climb (.binary op left right) (rest.dropWhile fun step => bindsTightly step.1)
termination_by steps => steps.length
decreasing_by
  · simp
  · have := (List.dropWhile_suffix
      (l := rest) fun step : Operator × Expr => bindsTightly step.1).length_le
    simp only [List.length_cons]
    omega

/-- The expression of conditions with operations between them: conjunctions first. -/
def climbLogic (left : Expr) : List (Operator × Expr) → Expr
  | [] => left
  | (.both, right) :: rest => climbLogic (.binary .both left right) rest
  | (op, right) :: rest =>
    .binary op left (climbLogic right rest)

/-- The value after filters, if there are any. -/
def withFilters (e : Expr) (filters : List (String × List (String × Expr))) : Expr :=
  if filters.isEmpty then e else .filtered e filters

mutual

/-- Named arguments in parentheses. -/
def namedArgs (fuel : Nat) : Reader (List (String × Expr)) :=
  match fuel with
  | 0 => failure
  | fuel + 1 => do
    symbol "("
    let arg : Reader (String × Expr) := do
      let n ← name
      symbol "="
      return (n, ← valueExpr fuel)
    let args ← attempt (separated "," arg)
    let _ ← optionally (if args.isSome then symbol "," else failure)
    symbol ")"
    return args.getD []

/-- A condition or a list. -/
def valueExpr (fuel : Nat) : Reader Expr :=
  match fuel with
  | 0 => failure
  | fuel + 1 => logic fuel <|> arrayWithFilters fuel

/-- Filters after a value. -/
def filters (fuel : Nat) : Reader (List (String × List (String × Expr))) :=
  match fuel with
  | 0 => failure
  | fuel + 1 => do
    many (do
      symbol "|"
      let n ← name
      let args ← attempt (namedArgs fuel)
      return (n, args.getD [])) (← get).length

/-- A list in brackets. -/
def array (fuel : Nat) : Reader Expr :=
  match fuel with
  | 0 => failure
  | fuel + 1 => do
    symbol "["
    let items ← attempt (separated "," (condition fuel))
    let _ ← optionally (if items.isSome then symbol "," else failure)
    symbol "]"
    return .array (items.getD [])

/-- A list with filters. -/
def arrayWithFilters (fuel : Nat) : Reader Expr :=
  match fuel with
  | 0 => failure
  | fuel + 1 => do
    let e ← array fuel
    return withFilters e (← filters fuel)

/-- A call of a function. -/
def call (fuel : Nat) : Reader Expr :=
  match fuel with
  | 0 => failure
  | fuel + 1 => do return .call (← name) (← namedArgs fuel)

/-- A call of a macro of the layout. -/
def macroCall (fuel : Nat) : Reader Expr :=
  match fuel with
  | 0 => failure
  | fuel + 1 => do
    let space ← name
    symbol "::"
    let n ← name
    if space != "self" then failure
    return .macroCall n (← namedArgs fuel)

/-- A test of a variable. -/
def test (fuel : Nat) : Reader Expr :=
  match fuel with
  | 0 => failure
  | fuel + 1 => do
    let path ← identPath
    symbol "is"
    let negated ← optionally (wordThenGap "not")
    let n ← name
    let args : Reader (List Expr) := do
      symbol "("
      let args ← separated "," (valueExpr fuel)
      symbol ")"
      return args
    return .test path negated n ((← attempt args).getD [])

/-- A truth value, a test, a call, a variable or a number. -/
def simpleValue (fuel : Nat) : Reader Expr :=
  match fuel with
  | 0 => failure
  | fuel + 1 =>
    let truth : Reader Expr := do
      let b ← oneOf [("true", true), ("false", false), ("True", true), ("False", false)]
      if ((← get).head?.map isNameChar).getD false then failure
      return .literal (.bool b)
    truth <|> test fuel <|> macroCall fuel <|> call fuel
      <|> (do return .ident (← identPath))
      <|> (do return .literal (.float (← floatNumber)))
      <|> (do gap; return .literal (.int (← bareInt)))

/-- A value or an arithmetic expression in parentheses. -/
def operand (fuel : Nat) : Reader Expr :=
  match fuel with
  | 0 => failure
  | fuel + 1 =>
    (do
      symbol "("
      let e ← sum fuel
      symbol ")"
      return e)
    <|> simpleValue fuel

/-- Values with operations of arithmetic between them. -/
def sum (fuel : Nat) : Reader Expr :=
  match fuel with
  | 0 => failure
  | fuel + 1 => do
    let first ← operand fuel
    let rest ← many (do return (← arithmetic, ← operand fuel)) (← get).length
    return climb first rest

/-- An arithmetic expression with filters. -/
def sumWithFilters (fuel : Nat) : Reader Expr :=
  match fuel with
  | 0 => failure
  | fuel + 1 => do
    let e ← sum fuel
    return withFilters e (← filters fuel)

/-- A text, or several parts put together to a text, with filters. -/
def textWithFilters (fuel : Nat) : Reader Expr :=
  match fuel with
  | 0 => failure
  | fuel + 1 => do
    let quoted : Reader Expr := do return .literal (.text (← quotedText))
    let part : Reader Expr :=
      call fuel <|> (do return .literal (.float (← floatNumber)))
        <|> (do gap; return .literal (.int (← bareInt)))
        <|> quoted <|> (do return .ident (← identPath))
    let joined : Reader Expr := do
      let first ← part
      symbol "~"
      return .concat (first :: (← separated "~" part))
    let e ← joined <|> quoted
    return withFilters e (← filters fuel)

/-- One side of a comparison. -/
def side (fuel : Nat) : Reader Expr :=
  match fuel with
  | 0 => failure
  | fuel + 1 =>
    textWithFilters fuel <|> (do
      let first ← sumWithFilters fuel
      let rest ← many (do return (← arithmetic, ← sumWithFilters fuel)) (← get).length
      return climb first rest)

/-- A comparison or a value. -/
def comparisonExpr (fuel : Nat) : Reader Expr :=
  match fuel with
  | 0 => failure
  | fuel + 1 => do
    let left ← side fuel
    let right ← attempt (do return (← comparison, ← side fuel))
    match right with
    | some (op, right) => return .binary op left right
    | none => return left

/-- Whether a value is in a container. -/
def membership (fuel : Nat) : Reader Expr :=
  match fuel with
  | 0 => failure
  | fuel + 1 => do
    let item ← textWithFilters fuel <|> sumWithFilters fuel
    let negated ← optionally (wordThenGap "not")
    symbol "in"
    let container ← textWithFilters fuel <|> arrayWithFilters fuel
      <|> (do return .ident (← identPath))
    return .inside negated item container

/-- A condition without conjunctions. -/
def condition (fuel : Nat) : Reader Expr :=
  match fuel with
  | 0 => failure
  | fuel + 1 => do
    let negated ← optionally (wordThenGap "not")
    let nested : Reader Expr := do
      symbol "("
      let e ← logic fuel
      symbol ")"
      return e
    let e ← membership fuel <|> comparisonExpr fuel <|> nested
    return if negated then .negation e else e

/-- Conditions with conjunctions between them. -/
def logic (fuel : Nat) : Reader Expr :=
  match fuel with
  | 0 => failure
  | fuel + 1 => do
    let first ← condition fuel
    let op : Reader Operator :=
      (do wordThenGap "or"; return .either) <|> (do wordThenGap "and"; return .both)
    let rest ← many (do return (← op, ← condition fuel)) (← get).length
    return climbLogic first rest

end

end Reader

end StaticSite.Layout
