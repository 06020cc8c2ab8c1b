import StaticSite.Url.Host

/-!
# URLs

A URL has a scheme, for most schemes an authority with a host, a path, and maybe a query and a
fragment. The parts are held in their encoded form, so that writing a URL only puts them together.
-/

namespace StaticSite

namespace Url

/-- The path of a URL. -/
inductive UrlPath where
  /-- Segments, each after a slash. -/
  | segments (names : List String)
  /-- A text without structure, as in `mailto:`. -/
  | plain (text : String)
  deriving DecidableEq, Repr

/-- The schemes whose URLs always have a host and a path of segments, with their ports. -/
def specialPorts : List (String × Nat) :=
  [("http", 80), ("https", 443), ("ws", 80), ("wss", 443), ("ftp", 21)]

/-- What a scheme asks of the rest of the URL. -/
inductive SchemeKind where
  /-- A host and a path. -/
  | special
  /-- A path on a host that may be left out. -/
  | file
  /-- Any form. -/
  | other
  deriving DecidableEq, Repr

/-- The kind of a scheme. -/
def kindOf (scheme : String) : SchemeKind :=
  if scheme = "file" then .file
  else if (specialPorts.lookup scheme).isSome then .special
  else .other

/-- Whether backslashes separate segments, as slashes do. -/
def SchemeKind.isSpecial : SchemeKind → Bool
  | .other => false
  | _ => true

end Url

/-- A URL in its parts. -/
structure Url where
  /-- The scheme, in lower case. -/
  scheme : String
  /-- The user name. -/
  username : String
  /-- The password. -/
  password : Option String
  /-- The host. -/
  host : Option Url.Host
  /-- The port, unless it is that of the scheme. -/
  port : Option Nat
  /-- The path. -/
  path : Url.UrlPath
  /-- The part after the question mark. -/
  query : Option String
  /-- The part after the number sign. -/
  fragment : Option String
  deriving DecidableEq, Repr

namespace Url

/-- The user name and the password before the host. -/
def userinfo (url : Url) : String :=
  match url.password with
  | some password => url.username ++ ":" ++ password ++ "@"
  | none => if url.username.isEmpty then "" else url.username ++ "@"

/-- The authority with its two slashes. -/
def authority (url : Url) : String :=
  match url.host with
  | none => ""
  | some host =>
    let port :=
      match url.port with
      | some port => ":" ++ String.ofList (Nat.toDigits 10 port)
      | none => ""
    "//" ++ url.userinfo ++ String.ofList host.write ++ port

/-- The text of a path. -/
def UrlPath.write : UrlPath → String
  | .segments names => String.join (names.map fun name => "/" ++ name)
  | .plain text => text

/-- A part after its mark, if there is one. -/
def markedPart (mark : String) : Option String → String
  | some text => mark ++ text
  | none => ""

/-- The text of a URL. -/
def write (url : Url) : String :=
  let gap :=
    match url.host, url.path with
    | none, .segments ("" :: _ :: _) => "/."
    | _, _ => ""
  url.scheme ++ ":" ++ url.authority ++ gap ++ url.path.write ++ markedPart "?" url.query
    ++ markedPart "#" url.fragment

end Url

end StaticSite
