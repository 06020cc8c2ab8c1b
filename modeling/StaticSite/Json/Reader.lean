import StaticSite.Json.Value

/-!
# Reading values from data text

The reader goes down the text once; a number given with the text bounds the nesting. Integers
that fit a word are kept exact. Any other number is its significand times or divided by a power of
ten, each rounded on its own. Of two fields of one name the later value stays, in the place of the
earlier.
-/

namespace StaticSite.Json

/-- A value and the text after it. -/
private abbrev ReadResult (α : Type) := Option (α × List Char)

private def isSpace (c : Char) : Bool := c == ' ' || c == '\t' || c == '\n' || c == '\r'

private def skipSpace (text : List Char) : List Char := text.dropWhile isSpace

/-- Four hexadecimal digits as a number. -/
private def readUnit? : List Char → ReadResult Nat
  | a :: b :: c :: d :: rest =>
    (Text.readDigits? Text.hexDigit? 16 [a, b, c, d]).map fun n => (n, rest)
  | _ => none

/-- The characters of a quoted text up to its closing quote. -/
private def readQuoted : (fuel : Nat) → (text acc : List Char) → ReadResult String
  | 0, _, _ => none
  | fuel + 1, text, acc =>
    match text with
    | [] => none
    | '"' :: rest => some (String.ofList acc.reverse, rest)
    | '\\' :: 'u' :: rest =>
      match readUnit? rest with
      | none => none
      | some (high, after) =>
        if 0xD800 ≤ high ∧ high < 0xDC00 then
          match after with
          | '\\' :: 'u' :: low =>
            match readUnit? low with
            | some (n, after) =>
              if 0xDC00 ≤ n ∧ n < 0xE000 then
                let code := 0x10000 + (high - 0xD800) * 1024 + (n - 0xDC00)
                readQuoted fuel after (Char.ofNat code :: acc)
              else none
            | none => none
          | _ => none
        else if 0xDC00 ≤ high ∧ high < 0xE000 then none
        else readQuoted fuel after (Char.ofNat high :: acc)
    | '\\' :: c :: rest =>
      match c with
      | '"' | '\\' | '/' => readQuoted fuel rest (c :: acc)
      | 'b' => readQuoted fuel rest ('\x08' :: acc)
      | 'f' => readQuoted fuel rest ('\x0c' :: acc)
      | 'n' => readQuoted fuel rest ('\n' :: acc)
      | 'r' => readQuoted fuel rest ('\r' :: acc)
      | 't' => readQuoted fuel rest ('\t' :: acc)
      | _ => none
    | c :: rest => if c.toNat < 32 then none else readQuoted fuel rest (c :: acc)

/-- The power of ten nearest to `10 ^ n`. -/
private def powerOfTen (n : Nat) : Float := (Decimal.Number.mk 1 n).toFloat

/-- A significand with a power of ten, rounded once for the significand, once for the power and
once for their product or quotient. -/
def floatOfParts (significand : Nat) (exponent : Int) : Float :=
  let m := (Decimal.Number.mk significand 0).toFloat
  if significand = 0 then 0.0
  else if exponent ≥ 0 then m * powerOfTen exponent.toNat
  else if exponent ≥ -308 then m / powerOfTen exponent.natAbs
  else if exponent ≥ -616 then m / powerOfTen 308 / powerOfTen (exponent.natAbs - 308)
  else 0.0

private def readNumber (text : List Char) : ReadResult Value :=
  let (negative, text) :=
    match text with
    | '-' :: rest => (true, rest)
    | _ => (false, text)
  let (whole, rest) := Text.spanOf Char.isDigit text
  let (hasPoint, fraction, rest) :=
    match rest with
    | '.' :: after =>
      let (digits, rest) := Text.spanOf Char.isDigit after
      (true, digits, rest)
    | _ => (false, [], rest)
  let (hasPower, power, rest) :=
    match rest with
    | e :: after =>
      if e = 'e' ∨ e = 'E' then
        let (minus, after) :=
          match after with
          | '-' :: more => (true, more)
          | '+' :: more => (false, more)
          | _ => (false, after)
        let (digits, rest) := Text.spanOf Char.isDigit after
        (true, (Text.readNat? digits).map fun n => if minus then -(n : Int) else (n : Int), rest)
      else (false, some 0, rest)
    | [] => (false, some 0, rest)
  let badWhole := whole.isEmpty || (whole.length > 1 && whole.head? == some '0')
  if badWhole || (hasPoint && fraction.isEmpty) then none
  else
    match Text.readNat? (whole ++ fraction), power with
    | some n, some e =>
      let real := floatOfParts n (e - fraction.length)
      let exact : Int := if negative then -(n : Int) else (n : Int)
      let fits := -9223372036854775808 ≤ exact && exact < 18446744073709551616 && !(negative && n == 0)
      if !hasPoint && !hasPower && fits then some (.int exact, rest)
      else some (.float (if negative then -real else real), rest)
    | _, _ => none

mutual

/-- A value at the front of the text; `fuel` bounds the nesting and the length of lists. -/
def readValue : (fuel : Nat) → List Char → Option (Value × List Char)
  | 0, _ => none
  | fuel + 1, text =>
    match skipSpace text with
    | 'n' :: 'u' :: 'l' :: 'l' :: rest => some (.null, rest)
    | 't' :: 'r' :: 'u' :: 'e' :: rest => some (.bool true, rest)
    | 'f' :: 'a' :: 'l' :: 's' :: 'e' :: rest => some (.bool false, rest)
    | '"' :: rest => (readQuoted (rest.length + 1) rest []).map fun (s, rest) => (.text s, rest)
    | '[' :: rest =>
      match skipSpace rest with
      | ']' :: rest => some (.list [], rest)
      | _ => (readItems fuel rest []).map fun (items, rest) => (.list items, rest)
    | '\x7b' :: rest =>
      match skipSpace rest with
      | '\x7d' :: rest => some (.record [], rest)
      | _ => (readFields fuel rest []).map fun (fields, rest) => (.record fields, rest)
    | c :: rest => if c = '-' ∨ c.isDigit then readNumber (c :: rest) else none
    | [] => none

/-- The items of a list up to its closing bracket. -/
def readItems : (fuel : Nat) → List Char → List Value → Option (List Value × List Char)
  | 0, _, _ => none
  | fuel + 1, text, acc =>
    match readValue fuel text with
    | none => none
    | some (v, rest) =>
      match skipSpace rest with
      | ',' :: rest => readItems fuel rest (v :: acc)
      | ']' :: rest => some ((v :: acc).reverse, rest)
      | _ => none

/-- The fields of a record up to its closing brace. -/
def readFields : (fuel : Nat) → List Char → Fields → Option (Fields × List Char)
  | 0, _, _ => none
  | fuel + 1, text, acc =>
    match skipSpace text with
    | '"' :: rest =>
      match readQuoted (rest.length + 1) rest [] with
      | none => none
      | some (name, rest) =>
        match skipSpace rest with
        | ':' :: rest =>
          match readValue fuel rest with
          | none => none
          | some (v, rest) =>
            match skipSpace rest with
            | ',' :: rest => readFields fuel rest (acc.insert name v)
            | '\x7d' :: rest => some (acc.insert name v, rest)
            | _ => none
        | _ => none
    | _ => none

end

end StaticSite.Json

namespace StaticSite.Value

/-- The value a data text holds; `none` if the text is no single value. -/
def ofJson? (text : String) : Option Value :=
  let chars := text.toList
  match Json.readValue (chars.length + 1) chars with
  | some (v, rest) => if rest.all (fun c => c == ' ' || c == '\t' || c == '\n' || c == '\r') then some v else none
  | none => none

end StaticSite.Value
