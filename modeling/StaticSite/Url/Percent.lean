import StaticSite.Text.Blank

/-!
# Percent encoding

A byte that may not stand in a part of a URL is written as a percent sign and two hexadecimal
digits. Each part of a URL has its own set of characters that are encoded; characters beyond ASCII
and control characters are always encoded, byte by byte.
-/

namespace StaticSite.Url

/-- The bytes of a character in UTF-8. -/
def utf8Bytes (c : Char) : List Nat :=
  let n := c.toNat
  if n < 0x80 then [n]
  else if n < 0x800 then [0xC0 + n / 0x40, 0x80 + n % 0x40]
  else if n < 0x10000 then [0xE0 + n / 0x1000, 0x80 + n / 0x40 % 0x40, 0x80 + n % 0x40]
  else [0xF0 + n / 0x40000, 0x80 + n / 0x1000 % 0x40, 0x80 + n / 0x40 % 0x40, 0x80 + n % 0x40]

/-- The upper-case hexadecimal digit of a number below sixteen. -/
def hexUpper (n : Nat) : Char := ((Nat.toDigits 16 n).headD '0').toUpper

/-- A byte in percent encoding. -/
def encodeByte (byte : Nat) : List Char := ['%', hexUpper (byte / 16), hexUpper (byte % 16)]

/-- Whether a character is encoded in every part. -/
def isAlwaysEncoded (c : Char) : Bool := c.toNat < 0x20 || 0x7F ≤ c.toNat

/-- The text with the characters of a set, and all that are always encoded, in percent encoding. -/
def encode (set : String) (text : List Char) : List Char :=
  text.flatMap fun c =>
    if isAlwaysEncoded c || set.toList.contains c then (utf8Bytes c).flatMap encodeByte else [c]

/-- The characters encoded in a fragment. -/
def fragmentSet : String := " \"<>\x60"

/-- The characters encoded in a path. -/
def pathSet : String := fragmentSet ++ "#?\x7b\x7d"

/-- The characters encoded in a user name and a password. -/
def userinfoSet : String := pathSet ++ "/:;=@[\\]^|"

/-- The characters encoded in a query. -/
def querySet : String := " \"#<>"

/-- The characters encoded in the query of a URL with a special scheme. -/
def specialQuerySet : String := querySet ++ "'"

/-- The bytes of a text with its percent encoding undone; a percent sign without two digits stands
for itself. -/
def decodeBytes : List Char → List Nat
  | [] => []
  | [c] => utf8Bytes c
  | [c, d] => utf8Bytes c ++ utf8Bytes d
  | c :: d :: e :: rest =>
    if c = '%' then
      match Text.hexDigit? d, Text.hexDigit? e with
      | some high, some low => (high * 16 + low) :: decodeBytes rest
      | _, _ => utf8Bytes c ++ decodeBytes (d :: e :: rest)
    else utf8Bytes c ++ decodeBytes (d :: e :: rest)

/-- The text with its percent encoding undone, if the bytes are UTF-8. -/
def decode? (text : List Char) : Option (List Char) :=
  (String.fromUTF8? ⟨((decodeBytes text).map Nat.toUInt8).toArray⟩).map String.toList

end StaticSite.Url
