import StaticSite.Url.Host

/-!
# Addresses to listen on

An address is a number of the Internet Protocol and a port. A number of version 4 is written as four
decimal numbers with points between them, one of version 6 in square brackets.
-/

namespace StaticSite

/-- An address and a port. -/
structure SocketAddress where
  /-- The host, which is a number. -/
  host : Url.Host
  /-- The port. -/
  port : Nat

namespace SocketAddress

/-- A part of a number of version 4: at most 255, without zeros at its front. -/
def readOctet? (text : List Char) : Option Nat :=
  if text.length > 3 || (text.length > 1 && text.head? = some '0') then none
  else (Text.readNat? text).filter fun n => n ≤ 255

/-- A number of version 4. -/
def readPlain? (text : List Char) : Option Nat :=
  match (Text.splitOn '.' text).mapM readOctet? with
  | some [a, b, c, d] => some (((a * 256 + b) * 256 + c) * 256 + d)
  | _ => none

/-- A number of version 6, which may name its zone by a number after a percent sign. -/
def readBracketed? (text : List Char) : Option (List Nat) :=
  match Text.spanOf (· != '%') text with
  | (number, []) => Url.readIpv6? number
  | (number, _ :: zone) =>
    if (Text.readNat? zone).any fun n => n ≤ 4294967295 then Url.readIpv6? number else none

/-- The address that a host and a port are; a name is none. -/
def ofText? (host : String) (port : Nat) : Option SocketAddress :=
  match host.toList with
  | '[' :: text =>
    match text.reverse with
    | ']' :: inner => (readBracketed? inner.reverse).map fun groups => ⟨.ipv6 groups, port⟩
    | _ => none
  | text => (readPlain? text).map fun number => ⟨.ipv4 number, port⟩

end SocketAddress

end StaticSite
