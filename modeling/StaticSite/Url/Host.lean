import StaticSite.Text.Case
import StaticSite.Url.Percent
import StaticSite.Url.Punycode

/-!
# Hosts

The host of a URL is a domain name, an address of four numbers or an address of eight groups in
brackets. A name whose last label is a number must be an address. Domain names are written in
ASCII and in lower case.
-/

namespace StaticSite.Url

/-- The host of a URL. -/
inductive Host where
  /-- A domain name, or any name under a scheme that is not special. -/
  | domain (name : String)
  /-- An address of 32 bits. -/
  | ipv4 (address : Nat)
  /-- An address of eight groups of 16 bits. -/
  | ipv6 (groups : List Nat)
  deriving DecidableEq, Repr

/-- The characters that no host may hold. -/
def isForbiddenInHost (c : Char) : Bool :=
  c.toNat = 0 || "\t\n\r #/:<>?@[\\]^|".toList.contains c

/-- The characters that no domain name may hold. -/
def isForbiddenInDomain (c : Char) : Bool :=
  isForbiddenInHost c || c.toNat < 0x20 || c == '%' || c.toNat == 0x7F

/-- A character of a domain name in its canonical spelling. -/
def mapDomainChar (c : Char) : List Char :=
  let n := c.toNat
  if n == 0x3002 || n == 0xFF0E || n == 0xFF61 then ['.']
  else if 0xFF01 ≤ n && n ≤ 0xFF5E then [(Char.ofNat (n - 0xFEE0)).toLower]
  else if n == 0xAD || n == 0x200B || n == 0x2060 || n == 0xFEFF || (0xFE00 ≤ n && n ≤ 0xFE0F) then
    []
  else Text.lowerChar c

/-- A label of a domain name in ASCII. -/
def labelToAscii? (label : List Char) : Option (List Char) :=
  match Text.stripPrefix? "xn--".toList label with
  | some code =>
    match Punycode.decode? code with
    | some decoded => if decoded.all (·.toNat < 128) then none else some label
    | none => none
  | none =>
    if label.all (·.toNat < 128) then some label
    else some ("xn--".toList ++ Punycode.encode label)

/-- A domain name in ASCII. -/
def domainToAscii? (name : List Char) : Option (List Char) := do
  let labels ← (Text.splitOn '.' (name.flatMap mapDomainChar)).mapM labelToAscii?
  let ascii := Text.joinWith ['.'] labels
  if ascii.any isForbiddenInDomain then none else some ascii

/-- A number of an address: decimal, octal after `0` or hexadecimal after `0x`. -/
def readAddressNumber? (text : List Char) : Option Nat :=
  match text with
  | [] => none
  | ['0'] => some 0
  | '0' :: x :: digits =>
    if x == 'x' || x == 'X' then
      if digits.isEmpty then some 0 else Text.readDigits? Text.hexDigit? 16 digits
    else
      Text.readDigits? (fun c => if '0' ≤ c ∧ c ≤ '7' then some (c.toNat - 48) else none) 8
        (x :: digits)
  | _ => Text.readNat? text

/-- The labels of a name without the empty one after a dot at the end. -/
def addressLabels (name : List Char) : List (List Char) :=
  let labels := Text.splitOn '.' name
  if labels.length > 1 && labels.getLast? == some [] then labels.dropLast else labels

/-- Whether the last label of a name is a number. -/
def endsInNumber (name : List Char) : Bool :=
  match (addressLabels name).getLast? with
  | some last => (readAddressNumber? last).isSome || (!last.isEmpty && last.all Char.isDigit)
  | none => false

/-- An address of up to four numbers, the last of which fills the bytes that remain. -/
def readIpv4? (name : List Char) : Option Nat := do
  let numbers ← (addressLabels name).mapM readAddressNumber?
  let last ← numbers.getLast?
  let front := numbers.dropLast
  if front.length > 3 || front.any (· > 255) || last ≥ Nat.pow 256 (4 - front.length) then none
  else some (front.zipIdx.foldl (fun sum (n, i) => sum + n * Nat.pow 256 (3 - i)) last)

/-- The four numbers of an address, with dots between them. -/
def writeIpv4 (address : Nat) : List Char :=
  Text.joinWith ['.'] ([3, 2, 1, 0].map fun i => Nat.toDigits 10 (address / Nat.pow 256 i % 256))

/-- One group of hexadecimal digits. -/
def readGroup? (text : List Char) : Option Nat :=
  if text.length > 4 then none else Text.readDigits? Text.hexDigit? 16 text

/-- Four decimal numbers as two groups. -/
def readDottedGroups? (text : List Char) : Option (List Nat) := do
  let numbers ← (Text.splitOn '.' text).mapM fun part =>
    if part.length > 1 && part.head? == some '0' then none else Text.readNat? part
  match numbers with
  | [a, b, c, d] =>
    if numbers.any (· > 255) then none else some [a * 256 + b, c * 256 + d]
  | _ => none

/-- Groups with colons between them; the last two may be written as four decimal numbers. -/
def readGroups? (text : List Char) : Option (List Nat) :=
  if text.isEmpty then some []
  else
    let parts := Text.splitOn ':' text
    match parts.getLast? with
    | some last =>
      if last.contains '.' then do
        let front ← parts.dropLast.mapM readGroup?
        let dotted ← readDottedGroups? last
        some (front ++ dotted)
      else parts.mapM readGroup?
    | none => none

/-- Eight groups, of which some may be left out at one place. -/
def readIpv6? (text : List Char) : Option (List Nat) :=
  match Text.breakOn? [':', ':'] text with
  | none =>
    match readGroups? text with
    | some groups => if groups.length = 8 then some groups else none
    | none => none
  | some (left, right) =>
    if left.contains '.' then none
    else
      match readGroups? left, readGroups? right with
      | some front, some back =>
        if front.length + back.length > 7 then none
        else some (front ++ List.replicate (8 - front.length - back.length) 0 ++ back)
      | _, _ => none

/-- The number of zeros at the front. -/
def zerosAtFront (groups : List Nat) : Nat := (groups.takeWhile (· == 0)).length

/-- The place and the length of the longest run of zeros, the first of equal ones. -/
def longestZeros : Nat → List Nat → Nat × Nat
  | _, [] => (0, 0)
  | position, g :: groups =>
    let here := zerosAtFront (g :: groups)
    let (place, count) := longestZeros (position + 1) groups
    if here ≥ count then (position, here) else (place, count)

/-- The groups in lower-case hexadecimal digits; the longest run of two or more zeros is left
out. -/
def writeIpv6 (groups : List Nat) : List Char :=
  let write (gs : List Nat) := Text.joinWith [':'] (gs.map (Nat.toDigits 16))
  let (place, count) := longestZeros 0 groups
  if count < 2 then write groups
  else write (groups.take place) ++ [':', ':'] ++ write (groups.drop (place + count))

namespace Host

/-- The text of a host. -/
def write : Host → List Char
  | .domain name => name.toList
  | .ipv4 address => writeIpv4 address
  | .ipv6 groups => '[' :: writeIpv6 groups ++ [']']

/-- A host in brackets. -/
def readBracketed? (text : List Char) : Option Host :=
  if text.getLast? = some ']' then (readIpv6? text.dropLast).map .ipv6 else none

/-- The host of a URL with a special scheme. -/
def readSpecial? (text : List Char) : Option Host :=
  match text with
  | '[' :: rest => readBracketed? rest
  | _ => do
    let name ← domainToAscii? (← decode? text)
    if name.isEmpty then none
    else if endsInNumber name then (readIpv4? name).map .ipv4
    else some (.domain (String.ofList name))

/-- The host of a URL with another scheme. -/
def readOpaque? (text : List Char) : Option Host :=
  match text with
  | '[' :: rest => readBracketed? rest
  | _ =>
    if text.any isForbiddenInHost then none else some (.domain (String.ofList (encode "" text)))

end Host

end StaticSite.Url
