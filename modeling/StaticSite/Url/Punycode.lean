import StaticSite.Text.Blank

/-!
# Punycode

A label of a domain name with characters beyond ASCII is written in ASCII: its ASCII characters
first, then digits in base 36 that say where the other characters go. The parameters are those of
internationalised domain names.
-/

namespace StaticSite.Url.Punycode

/-- The bias of the digits that follow an insertion. -/
def adapt (delta count : Nat) (first : Bool) : Nat :=
  let delta := if first then delta / 700 else delta / 2
  go 64 0 (delta + delta / count)
where
  /-- Divides until the rest is small, counting the divisions in steps of the base. -/
  go : Nat → Nat → Nat → Nat
    | 0, k, _ => k
    | n + 1, k, delta =>
      if delta > 455 then go n (k + 36) (delta / 35) else k + 36 * delta / (delta + 38)

/-- The threshold of a digit position under a bias. -/
def threshold (k bias : Nat) : Nat :=
  if k ≤ bias then 1 else if k ≥ bias + 26 then 26 else k - bias

/-- The character of a digit. -/
def digitChar (d : Nat) : Char :=
  if d < 26 then Char.ofNat (97 + d) else Char.ofNat (48 + d - 26)

/-- The digit of a character. -/
def digit? (c : Char) : Option Nat :=
  if '0' ≤ c ∧ c ≤ '9' then some (c.toNat - 48 + 26)
  else if 'a' ≤ c ∧ c ≤ 'z' then some (c.toNat - 97)
  else if 'A' ≤ c ∧ c ≤ 'Z' then some (c.toNat - 65)
  else none

/-- The digits of a number of variable length; the first argument bounds their count. -/
def writeNumber : Nat → Nat → Nat → Nat → List Char
  | 0, _, _, q => [digitChar q]
  | n + 1, k, bias, q =>
    let t := threshold k bias
    if q < t then [digitChar q]
    else digitChar (t + (q - t) % (36 - t)) :: writeNumber n (k + 36) bias ((q - t) / (36 - t))

/-- The progress of writing: the last character handled, the steps since the last insertion, the
bias, the count of characters handled, and the digits so far. -/
structure Progress where
  /-- The steps since the last insertion. -/
  delta : Nat
  /-- The bias. -/
  bias : Nat
  /-- The count of characters handled. -/
  handled : Nat
  /-- The digits so far. -/
  digits : List Char

/-- Handles all places of one character. -/
def insertAll (basic n : Nat) (text : List Nat) (progress : Progress) : Progress :=
  text.foldl (fun p c =>
    if c < n then { p with delta := p.delta + 1 }
    else if c = n then
      { delta := 0
        bias := adapt p.delta (p.handled + 1) (p.handled == basic)
        handled := p.handled + 1
        digits := p.digits ++ writeNumber 64 36 p.bias p.delta }
    else p) progress

/-- Handles the characters beyond ASCII in ascending order, beginning at a number. -/
def insertFrom (basic : Nat) (text : List Nat) : Nat → Nat → Progress → Progress
  | 0, _, p => p
  | k + 1, n, p =>
    match (text.filter (n ≤ ·)).min? with
    | none => p
    | some m =>
      let p := { p with delta := p.delta + (m - n) * (p.handled + 1) }
      let p := insertAll basic m text p
      insertFrom basic text k (m + 1) { p with delta := p.delta + 1 }

/-- The Punycode of a label. -/
def encode (label : List Char) : List Char :=
  let ascii := label.filter fun c => c.toNat < 128
  let start := if ascii.isEmpty then [] else ascii ++ ['-']
  (insertFrom ascii.length (label.map Char.toNat) label.length 128
    ⟨0, 72, ascii.length, start⟩).digits

/-- Reads a number of variable length: the number and the digits after it. -/
def readNumber (bias : Nat) : Nat → Nat → Nat → List Char → Option (Nat × List Char)
  | _, _, _, [] => none
  | k, weight, sum, c :: rest =>
    match digit? c with
    | none => none
    | some d =>
      let sum := sum + d * weight
      let t := threshold k bias
      if d < t then some (sum, rest) else readNumber bias (k + 36) (weight * (36 - t)) sum rest

/-- Inserts the characters that the digits stand for; the first argument bounds their count. -/
def decodeFrom : Nat → Nat → Nat → Nat → List Char → List Char → Option (List Char)
  | 0, _, _, _, output, digits => if digits.isEmpty then some output else none
  | _ + 1, _, _, _, output, [] => some output
  | fuel + 1, n, i, bias, output, digits =>
    match readNumber bias 36 1 0 digits with
    | none => none
    | some (step, rest) =>
      let count := output.length + 1
      let place := i + step
      let n := n + place / count
      if n > 0x10FFFF || (0xD800 ≤ n && n < 0xE000) then none
      else
        decodeFrom fuel n (place % count + 1) (adapt step count (i == 0))
          (output.insertIdx (place % count) (Char.ofNat n)) rest

/-- The label that a Punycode stands for. -/
def decode? (code : List Char) : Option (List Char) :=
  match Text.breakOnLast? ['-'] code with
  | some (ascii, digits) => decodeFrom code.length 128 0 72 ascii digits
  | none => decodeFrom code.length 128 0 72 [] code

end StaticSite.Url.Punycode
