import StaticSite.Decimal.Written
import StaticSite.Yaml.Node

/-!
# Data of YAML

The datum of a node: a plain scalar is read as no value, a truth value, a number or a text by its
form, and a tag of the document's own is kept. A mapping must not hold a key twice. Whole numbers
beyond 64 bits, up to 128 bits, are refused; longer ones are read as floating-point numbers.
-/

namespace StaticSite.Yaml

/-- A datum. -/
inductive Datum where
  /-- No value. -/
  | null
  /-- A truth value. -/
  | bool (b : Bool)
  /-- A whole number. -/
  | int (n : Int)
  /-- A floating-point number. -/
  | float (x : Float)
  /-- A text. -/
  | text (s : String)
  /-- A sequence. -/
  | sequence (items : List Datum)
  /-- A mapping. -/
  | mapping (entries : List (Datum × Datum))
  /-- A datum under a tag. -/
  | tagged (tag : String) (datum : Datum)
  deriving BEq, Repr, Inhabited

namespace Plain

/-- Whether a plain scalar says that there is no value. -/
def isNull (text : String) : Bool := ["null", "Null", "NULL", "~"].contains text

/-- The truth value a plain scalar says. -/
def readBool? (text : String) : Option Bool :=
  if ["true", "True", "TRUE"].contains text then some true
  else if ["false", "False", "FALSE"].contains text then some false
  else none

/-- Whether a text has the digits of a number with zeros at the front, which makes it no number. -/
def isZeroPadded (text : List Char) : Bool :=
  let digits :=
    match text with
    | '-' :: rest => rest
    | '+' :: rest => rest
    | _ => text
  digits.length > 1 && digits.head? == some '0' && digits.all Char.isDigit

/-- The number in base 16, 8 or 2, after the mark of the base. -/
def readBased? (text : List Char) : Option Nat :=
  let inBase (base : Nat) : List Char → Option Nat :=
    Text.readDigits? (fun c => (Text.hexDigit? c).filter (· < base)) base
  match text with
  | '0' :: 'x' :: digits => inBase 16 digits
  | '0' :: 'o' :: digits => inBase 8 digits
  | '0' :: 'b' :: digits => inBase 2 digits
  | _ => none

/-- The text without a plus sign at its front. -/
def dropPlus (text : List Char) : List Char :=
  match text with
  | '+' :: rest => rest
  | _ => text

/-- The number without a minus sign that a text writes. -/
def readUnsigned? (text : List Char) : Option Nat :=
  match readBased? (dropPlus text) with
  | some n => some n
  | none => if isZeroPadded text then none else Text.readNat? (dropPlus text)

/-- The whole number that a text writes. -/
def readInt? (text : List Char) : Option Int :=
  match readUnsigned? text with
  | some n => some n
  | none =>
    match text with
    | '-' :: rest =>
      match readBased? rest with
      | some n => some (-n)
      | none => if isZeroPadded text then none else (Text.readNat? rest).map fun n => -n
    | _ => none

/-- The largest number of 64 bits. -/
def maxUnsigned : Nat := 18446744073709551615

/-- Whether a number has a place among the numbers of 64 bits, with or without sign. -/
def fits (n : Int) : Bool := -9223372036854775808 ≤ n && n ≤ maxUnsigned

/-- Whether a number has a place among the numbers of 128 bits, with or without sign. -/
def fitsTwice (n : Int) : Bool :=
  -170141183460469231731687303715884105728 ≤ n && n < 340282366920938463463374607431768211456

/-- The floating-point number that a text writes; the infinite ones have names. -/
def readFloat? (text : List Char) : Option Float :=
  let s := String.ofList text
  let unsigned := dropPlus text
  if text.head? == some '+' && (unsigned.head? == some '+' || unsigned.head? == some '-') then none
  else if [".inf", ".Inf", ".INF"].contains (String.ofList unsigned) then some (1.0 / 0.0)
  else if ["-.inf", "-.Inf", "-.INF"].contains s then some (-1.0 / 0.0)
  else if [".nan", ".NaN", ".NAN"].contains s then some (0.0 / 0.0)
  else (Decimal.readFloat? unsigned).filter Float.isFinite

/-- The datum of a plain scalar; `none` for a whole number that is refused. -/
def read? (text : String) : Option Datum :=
  if text.isEmpty || isNull text then some .null
  else
    match readBool? text with
    | some b => some (.bool b)
    | none =>
      let number : Option Int := (readInt? text.toList).filter fitsTwice
      match number with
      | some n => if fits n then some (.int n) else none
      | none =>
        if isZeroPadded text.toList then some (.text text)
        else
          match readFloat? text.toList with
          | some x => some (.float x)
          | none => some (.text text)

end Plain

namespace Datum

/-- The tag of a document's own, without the exclamation mark at its front. -/
def ownTag? (tag : Option String) : Option String :=
  match tag.map String.toList with
  | some ['!'] => some "!"
  | some ('!' :: name) => some (String.ofList name)
  | _ => none

/-- The name under which a tag is shown. -/
def tagName (tag : String) : String := "!" ++ tag

/-- The datum of a scalar, under the tags that fix a kind of value. -/
def ofScalar? (tag : Option String) (written : String) (style : ScalarStyle) : Option Datum :=
  let standard := "tag:yaml.org,2002:"
  if tag == some (standard ++ "bool") then (Plain.readBool? written).map .bool
  else if tag == some (standard ++ "int") then
    match Plain.readInt? written.toList with
    | some n => if Plain.fits n then some (.int n) else none
    | none => none
  else if tag == some (standard ++ "float") then (Plain.readFloat? written.toList).map .float
  else if tag == some (standard ++ "null") then
    if Plain.isNull written then some .null else none
  else if tag.isNone && style == .plain then Plain.read? written
  else some (.text written)

/-- Whether a list holds no key twice. -/
def keysDiffer : List (Datum × Datum) → Bool
  | [] => true
  | (key, _) :: rest => !(rest.any fun entry => entry.1 == key) && keysDiffer rest

/-- The depth to which collections may hold each other. -/
def depthLimit : Nat := 128

mutual

/-- The datum of a node in which collections may hold each other to a depth. -/
def ofNodeWithin? (depth : Nat) : Node → Option Datum
  | .endless => none
  | .scalar tag written style =>
    match ownTag? tag with
    | some name => (ofScalar? none written style).map (.tagged name)
    | none => ofScalar? tag written style
  | .sequence tag items =>
    match depth with
    | 0 => none
    | depth + 1 => do
      let datum := Datum.sequence (← ofItems? depth items)
      some (((ownTag? tag).map fun name => Datum.tagged name datum).getD datum)
  | .mapping tag entries =>
    match depth with
    | 0 => none
    | depth + 1 => do
      let data ← ofEntries? depth entries
      if keysDiffer data then
        let datum := Datum.mapping data
        some (((ownTag? tag).map fun name => Datum.tagged name datum).getD datum)
      else none

/-- The data of the items of a sequence. -/
def ofItems? (depth : Nat) : List Node → Option (List Datum)
  | [] => some []
  | node :: rest => do return (← ofNodeWithin? depth node) :: (← ofItems? depth rest)

/-- The data of the entries of a mapping. -/
def ofEntries? (depth : Nat) : List (Node × Node) → Option (List (Datum × Datum))
  | [] => some []
  | (key, value) :: rest => do
    return (← ofNodeWithin? depth key, ← ofNodeWithin? depth value) :: (← ofEntries? depth rest)

end

/-- The datum of a node. -/
def ofNode? (node : Node) : Option Datum := ofNodeWithin? depthLimit node

/-- The datum of a text; a text without a document has no value, and a malformed one no datum. -/
def ofText? (source : String) : Option Datum :=
  match Node.ofText? source with
  | none => none
  | some none => some .null
  | some (some node) => ofNode? node

end Datum

end StaticSite.Yaml
