import StaticSite.Decimal.Shortest
import StaticSite.Text.Blank

/-!
# Written forms of floating-point numbers

A number is written with its shortest digits. A `Style` says up to which size the point stays among
the digits and how the rest is spelled. Reading goes the other way: the digits and the exponent
give the nearest floating-point number.
-/

namespace StaticSite.Decimal

/-- How the digits of a number are laid out. The number `0.d₁d₂… * 10 ^ k` has `k` as its decade. -/
structure Style where
  /-- Numbers are positional when their decade is at least this. -/
  lowDecade : Int
  /-- Numbers are positional when their decade is at most this. -/
  highDecade : Int
  /-- Whether a whole number shows that it is no integer by a zero after the point. -/
  keepsFraction : Bool
  /-- What separates the digits from a positive exponent. -/
  positiveExponent : List Char
  deriving Repr

/-- Data files write positional numbers from a hundred-thousandth up to sixteen digits, with at
least one digit after the point, and other numbers with a signed exponent. -/
def Style.data : Style := ⟨-4, 16, true, ['e', '+']⟩

/-- Pages always show all digits and no point where none is needed. -/
def Style.page : Style := ⟨-400, 400, false, ['e']⟩

private def zeros (n : Nat) : List Char := List.replicate n '0'

/-- The magnitude in a style. -/
def Number.write (d : Number) (style : Style) : List Char :=
  let digits := Nat.toDigits 10 d.significand
  let decade : Int := digits.length + d.exponent
  let fraction := if style.keepsFraction then ['.', '0'] else []
  if d.significand = 0 then '0' :: fraction
  else if style.lowDecade ≤ decade ∧ decade ≤ style.highDecade then
    if 0 ≤ d.exponent then digits ++ zeros d.exponent.toNat ++ fraction
    else if 0 < decade then digits.take decade.toNat ++ '.' :: digits.drop decade.toNat
    else '0' :: '.' :: zeros (-decade).toNat ++ digits
  else
    let front :=
      match digits with
      | [] => []
      | [c] => [c]
      | c :: rest => c :: '.' :: rest
    let power := decade - 1
    if power < 0 then front ++ 'e' :: '-' :: Nat.toDigits 10 (-power).toNat
    else front ++ style.positiveExponent ++ Nat.toDigits 10 power.toNat

/-- A finite number in a style; zero keeps its sign. -/
def writeFinite (style : Style) (x : Float) : List Char :=
  let bits := x.toBits
  let sign := if bits >>> 63 = 1 then ['-'] else []
  sign ++ (Binary.ofBits bits).shortest.write style

/-- Any number in a style. -/
def write (style : Style) (x : Float) : List Char :=
  if x.isNaN then "NaN".toList
  else if x.isInf then (if x < 0 then "-inf" else "inf").toList
  else writeFinite style x

/-- The floating-point number nearest to a decimal. -/
def Number.toFloat (d : Number) : Float :=
  let size : Int := digitCount d.significand + d.exponent
  if d.significand = 0 ∨ size < -330 then 0.0
  else if size > 310 then 1.0 / 0.0
  else Float.ofScientific d.significand (d.exponent < 0) d.exponent.natAbs

/-- The digits at the front of the text, and the rest. -/
def digitSpan (text : List Char) : List Char × List Char :=
  Text.spanOf Char.isDigit text

/-- An exponent such as `e-7` that fills the text. -/
def readExponent? (text : List Char) : Option Int :=
  match text with
  | [] => some 0
  | mark :: rest =>
    if mark = 'e' ∨ mark = 'E' then
      match rest with
      | '-' :: digits => (Text.readNat? digits).map fun n => -(n : Int)
      | '+' :: digits => (Text.readNat? digits).map fun n => (n : Int)
      | digits => (Text.readNat? digits).map fun n => (n : Int)
    else none

/-- An unsigned decimal such as `12`, `1.5`, `.5`, `5.` or `1e3`. -/
def readDecimal? (text : List Char) : Option Number :=
  let (whole, rest) := digitSpan text
  let (fraction, rest) :=
    match rest with
    | '.' :: after => digitSpan after
    | _ => ([], rest)
  match Text.readNat? (whole ++ fraction), readExponent? rest with
  | some significand, some e => some ⟨significand, e - fraction.length⟩
  | _, _ => none

/-- A signed decimal as a floating-point number. -/
def readFloat? (text : List Char) : Option Float :=
  match text with
  | '-' :: rest => (readDecimal? rest).map fun d => -d.toFloat
  | '+' :: rest => (readDecimal? rest).map Number.toFloat
  | rest => (readDecimal? rest).map Number.toFloat

end StaticSite.Decimal
