import StaticSite.Config.Basic
import StaticSite.Decimal.Written
import StaticSite.Text.Case

/-!
# Settings from the environment

Variables whose names begin with `RBUILD_`, in any case of letters, override some settings. A value
that reads as a truth value or a number counts as such, and is written out again where a text is
asked for.
-/

namespace StaticSite.Config

/-- The value of a variable. -/
inductive Setting where
  /-- A truth value. -/
  | bool (b : Bool)
  /-- A whole number of 64 bits. -/
  | int (n : Int)
  /-- A floating-point number. -/
  | float (x : Float)
  /-- A text. -/
  | text (s : String)
  deriving Repr

/-- The text in lower case. -/
def lowerText (s : String) : String := String.ofList (Text.lower s.toList)

/-- A whole number of 64 bits with an optional sign. -/
def readSigned? (text : List Char) : Option Int :=
  let number :=
    match text with
    | '-' :: digits => (Text.readNat? digits).map fun n => -(n : Int)
    | '+' :: digits => (Text.readNat? digits).map fun n => (n : Int)
    | digits => (Text.readNat? digits).map fun n => (n : Int)
  number.filter fun n => -9223372036854775808 ≤ n && n ≤ 9223372036854775807

/-- A floating-point number without a sign; infinity and the number that is none have names. -/
def readUnsigned? (text : List Char) : Option Float :=
  let name := String.ofList (Text.asciiLower text)
  if name == "inf" || name == "infinity" then some (1.0 / 0.0)
  else if name == "nan" then some (0.0 / 0.0)
  else (Decimal.readDecimal? text).map Decimal.Number.toFloat

/-- A floating-point number with an optional sign. -/
def readNumber? (text : List Char) : Option Float :=
  match text with
  | '-' :: digits => (readUnsigned? digits).map fun x => -x
  | '+' :: digits => readUnsigned? digits
  | digits => readUnsigned? digits

namespace Setting

/-- The value that a text reads as. -/
def ofText (s : String) : Setting :=
  match lowerText s with
  | "true" => .bool true
  | "false" => .bool false
  | _ =>
    match readSigned? s.toList with
    | some n => .int n
    | none =>
      match readNumber? s.toList with
      | some x => .float x
      | none => .text s

/-- The text of a value. -/
def toText : Setting → String
  | .bool b => if b then "true" else "false"
  | .int n => String.ofList (Json.writeInt n)
  | .float x => String.ofList (Decimal.write .page x)
  | .text s => s

/-- The nearest whole number that is not negative; a number that is none counts as zero, and one
that is too large as the largest of 64 bits. -/
def roundedNat (x : Float) : Nat := if x.isNaN || x < 0 then 0 else x.round.toUInt64.toNat

/-- The number that a value stands for. -/
def toNat? : Setting → Option Nat
  | .bool b => some (if b then 1 else 0)
  | .int n => if n < 0 then none else some n.toNat
  | .float x => some (roundedNat x)
  | .text s =>
    if ["on", "yes"].contains (lowerText s) then some 1
    else if ["off", "no"].contains (lowerText s) then some 0
    else
      let digits :=
        match s.toList with
        | '+' :: rest => rest
        | chars => chars
      (Text.readNat? digits).filter (· < 18446744073709551616)

end Setting

/-- The settings of the environment under the names after `RBUILD_`, in lower case. -/
def environmentSettings (environment : List (String × String)) : List (String × Setting) :=
  environment.filterMap fun (name, value) =>
    (Text.stripPrefix? "rbuild_".toList (Text.lower name.toList)).map fun rest =>
      (String.ofList rest, .ofText value)

/-- The setting of a name; of several the last one counts. -/
def override? (settings : List (String × Setting)) (name : String) : Option Setting :=
  settings.reverse.lookup name

/-- The configuration with the settings of the environment; `none` if the retries are no number of
32 bits. -/
def withEnvironment? (config : Config) (environment : List (String × String)) : Option Config := do
  let settings := environmentSettings environment
  let text (name : String) : Option String := (override? settings name).map Setting.toText
  let path (name : String) (old : Path) : Path := ((text name).map Path.mk).getD old
  let retries ←
    match override? settings "retries" with
    | none => some config.retries
    | some value => value.toNat?.filter (· < 4294967296)
  return { config with
    paths :=
      { templates := path "templates" config.paths.templates
        content := path "content" config.paths.content
        output := path "output" config.paths.output }
    site := { config.site with url := text "site_url" <|> config.site.url }
    retries }

end StaticSite.Config
