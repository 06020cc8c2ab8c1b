/-!
# Shortest decimals

A finite binary floating-point number stands for an interval of reals: those that round to it. The
decimal chosen for it has the fewest digits of all decimals in that interval, and among those of
equal length it is the nearest to the number itself. The search runs over the decimal grids of one
digit, two digits and so on, in exact arithmetic on natural numbers.
-/

namespace StaticSite.Decimal

/-- The number `significand * 10 ^ exponent`. -/
structure Number where
  /-- The digits, read as one number. -/
  significand : Nat
  /-- The power of ten. -/
  exponent : Int
  deriving DecidableEq, Repr, Inhabited

/-- The number `significand * 2 ^ exponent` together with the fact whether the next smaller
floating-point number is only half as far away as the next larger one. -/
structure Binary where
  /-- The significand, below `2 ^ 53`. -/
  significand : Nat
  /-- The power of two. -/
  exponent : Int
  /-- Whether the number is the least of its binade. -/
  lowest : Bool
  deriving DecidableEq, Repr

/-- The binary form of the magnitude of a finite double, from its bits. -/
def Binary.ofBits (bits : UInt64) : Binary :=
  let fraction := (bits &&& 0xFFFFFFFFFFFFF).toNat
  let biased := ((bits >>> 52) &&& 0x7FF).toNat
  if biased = 0 then ⟨fraction, -1074, false⟩
  else ⟨fraction + 4503599627370496, (biased : Int) - 1075, fraction == 0 && biased != 1⟩

/-- The product of a natural number and a power of two or ten, as a quotient of naturals. -/
def scaled (n base : Nat) (exponent : Int) : Nat × Nat :=
  match exponent with
  | .ofNat e => (n * Nat.pow base e, 1)
  | .negSucc e => (n, Nat.pow base (e + 1))

/-- Whether one quotient is less than another. -/
def ratioLt (a b : Nat × Nat) : Bool := a.1 * b.2 < b.1 * a.2

/-- Whether a decimal lies among the reals that round to the binary number: strictly between the
midpoints to its neighbours, or on one of them when the significand is even. -/
def Binary.covers (b : Binary) (d : Number) : Bool :=
  let low := scaled (4 * b.significand - (if b.lowest then 1 else 2)) 2 (b.exponent - 2)
  let high := scaled (4 * b.significand + 2) 2 (b.exponent - 2)
  let value := scaled d.significand 10 d.exponent
  if b.significand % 2 = 0 then !ratioLt value low && !ratioLt high value
  else ratioLt low value && ratioLt value high

/-- The decimal without the zeros at the end of its significand. -/
def Number.strip : (fuel : Nat) → Number → Number
  | 0, d => d
  | fuel + 1, d =>
    if d.significand % 10 = 0 ∧ d.significand ≠ 0 then
      Number.strip fuel ⟨d.significand / 10, d.exponent + 1⟩
    else d

/-- The number of decimal digits of a natural number; zero has one. -/
def digitCount (n : Nat) : Nat := (Nat.toDigits 10 n).length

/-- The exponent `k` with `10 ^ (k - 1) ≤ a / b < 10 ^ k`, for positive `a` and `b`. -/
def decadeOf (a b : Nat) : Int :=
  if a < b then
    let k : Int := (digitCount a : Int) - digitCount b
    if ratioLt (a, b) (scaled 1 10 (k - 1)) then k - 1
    else if ratioLt (a, b) (scaled 1 10 k) then k
    else k + 1
  else digitCount (a / b)

/-- The better of the two neighbours of the number on the grid of multiples of `10 ^ exponent`, if
one of them rounds to it; an exact tie goes to the even one. -/
def Binary.onGrid? (b : Binary) (exponent : Int) : Option Number :=
  let (num, den) := scaled b.significand 2 b.exponent
  let (stepNum, stepDen) := scaled 1 10 exponent
  let top := num * stepDen
  let bottom := den * stepNum
  let below : Number := ⟨top / bottom, exponent⟩
  let above : Number := ⟨top / bottom + 1, exponent⟩
  let twice := 2 * (top % bottom)
  let belowIsNearer := twice < bottom ∨ (twice = bottom ∧ below.significand % 2 = 0)
  match b.covers below && below.significand != 0, b.covers above with
  | true, true => some (if belowIsNearer then below else above)
  | true, false => some below
  | false, true => some above
  | false, false => none

/-- The first grid with a hit, among those of at most `fuel` further digits. -/
def Binary.search (b : Binary) (decade : Int) : (fuel digits : Nat) → Number
  | 0, digits => (b.onGrid? (decade - digits)).getD ⟨0, 0⟩
  | fuel + 1, digits =>
    match b.onGrid? (decade - digits) with
    | some d => d
    | none => b.search decade fuel (digits + 1)

/-- The shortest decimal that rounds to the binary number, without zeros at its end. -/
def Binary.shortest (b : Binary) : Number :=
  if b.significand = 0 then ⟨0, 0⟩
  else
    let (num, den) := scaled b.significand 2 b.exponent
    (b.search (decadeOf num den) 16 1).strip 20

end StaticSite.Decimal
