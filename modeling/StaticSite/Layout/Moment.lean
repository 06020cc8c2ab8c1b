import StaticSite.Text.Blank
import StaticSite.Text.Slice

/-!
# Moments

A moment is a day of the calendar and a time of that day. It is read from a count of seconds since
the beginning of 1970 or from a text such as `2024-02-29` or `2024-02-29T08:30:00Z`, and written by
a pattern in which a percent sign and a letter stand for a part of it.
-/

namespace StaticSite.Layout

/-- A day and a time of that day. -/
structure Moment where
  /-- The year. -/
  year : Int
  /-- The month, from 1 to 12. -/
  month : Nat
  /-- The day of the month, from 1. -/
  day : Nat
  /-- The hour. -/
  hour : Nat := 0
  /-- The minute. -/
  minute : Nat := 0
  /-- The second. -/
  second : Nat := 0
  deriving Repr

namespace Moment

/-- Whether a year has 366 days. -/
def isLeap (year : Int) : Bool := year % 4 == 0 && (year % 100 != 0 || year % 400 == 0)

/-- The number of days of a month. -/
def monthLength (year : Int) (month : Nat) : Nat :=
  if month == 2 then (if isLeap year then 29 else 28)
  else if [4, 6, 9, 11].contains month then 30
  else 31

/-- The number of days from the beginning of 1970 to a day. The years are counted from March, so
that the day of a leap year comes last. -/
def daysSince1970 (m : Moment) : Int :=
  let year := if m.month ≤ 2 then m.year - 1 else m.year
  let month := (m.month + 9) % 12
  365 * year + year / 4 - year / 100 + year / 400 + ((153 * month + 2) / 5 : Nat) + m.day - 719469

/-- The day that is a number of days after the beginning of 1970. -/
def ofDays (days : Int) : Moment :=
  let shifted := days + 719468
  let era := shifted / 146097
  let inEra := (shifted % 146097).toNat
  let yearInEra := (inEra - inEra / 1460 + inEra / 36524 - inEra / 146096) / 365
  let dayOfYear := inEra - (365 * yearInEra + yearInEra / 4 - yearInEra / 100)
  let shiftedMonth := (5 * dayOfYear + 2) / 153
  let month := if shiftedMonth < 10 then shiftedMonth + 3 else shiftedMonth - 9
  let year : Int := yearInEra + era * 400
  { year := if month ≤ 2 then year + 1 else year
    month
    day := dayOfYear - (153 * shiftedMonth + 2) / 5 + 1 }

/-- The moment that is a number of seconds after the beginning of 1970. -/
def ofSeconds (seconds : Int) : Moment :=
  let inDay := (seconds % 86400).toNat
  { ofDays (seconds / 86400) with
    hour := inDay / 3600, minute := inDay / 60 % 60, second := inDay % 60 }

/-- The number of days of the year before a day. -/
def dayOfYear (m : Moment) : Nat :=
  (m.daysSince1970 - daysSince1970 ⟨m.year, 1, 1, 0, 0, 0⟩).toNat

/-- The day of the week, with Sunday as 0. -/
def weekday (m : Moment) : Nat := ((m.daysSince1970 + 4) % 7).toNat

/-- The names of the months. -/
def monthNames : List String :=
  ["January", "February", "March", "April", "May", "June", "July", "August", "September",
    "October", "November", "December"]

/-- The names of the days of the week. -/
def weekdayNames : List String :=
  ["Sunday", "Monday", "Tuesday", "Wednesday", "Thursday", "Friday", "Saturday"]

/-- A number of a number of digits at least, with some character in front. -/
def padded (fill : Char) (width n : Nat) : List Char :=
  let digits := Nat.toDigits 10 n
  List.replicate (width - digits.length) fill ++ digits

/-- A year, with four digits at least; one of more digits or before the year 0 has a sign. -/
def yearText (year : Int) : List Char :=
  if year < 0 then '-' :: padded '0' 4 year.natAbs
  else if year > 9999 then '+' :: padded '0' 4 year.natAbs
  else padded '0' 4 year.natAbs

/-- The hour on a clock of twelve hours. -/
def clockHour (m : Moment) : Nat := if m.hour % 12 == 0 then 12 else m.hour % 12

/-- A part of the day that is a number: how many digits it has, what stands in front of them, and
the number. -/
def number? (m : Moment) (letter : Char) : Option (Nat × Char × Nat) :=
  match letter with
  | 'C' => some (2, '0', (m.year / 100).toNat)
  | 'y' => some (2, '0', (m.year % 100).toNat)
  | 'm' => some (2, '0', m.month)
  | 'd' => some (2, '0', m.day)
  | 'e' => some (2, ' ', m.day)
  | 'j' => some (3, '0', m.dayOfYear + 1)
  | 'w' => some (1, '0', m.weekday)
  | 'u' => some (1, '0', if m.weekday == 0 then 7 else m.weekday)
  | 'U' => some (2, '0', (m.dayOfYear + 7 - m.weekday) / 7)
  | 'W' => some (2, '0', (m.dayOfYear + 7 - (m.weekday + 6) % 7) / 7)
  | 'H' => some (2, '0', m.hour)
  | 'k' => some (2, ' ', m.hour)
  | 'I' => some (2, '0', m.clockHour)
  | 'l' => some (2, ' ', m.clockHour)
  | 'M' => some (2, '0', m.minute)
  | 'S' => some (2, '0', m.second)
  | _ => none

/-- A part that is a word or the year. -/
def word? (m : Moment) (letter : Char) : Option (List Char) :=
  let month := (monthNames.getD (m.month - 1) "").toList
  let weekday := (weekdayNames.getD m.weekday "").toList
  match letter with
  | 'Y' => some (yearText m.year)
  | 'B' => some month
  | 'b' | 'h' => some (month.take 3)
  | 'A' => some weekday
  | 'a' => some (weekday.take 3)
  | 'P' => some (if m.hour < 12 then "am" else "pm").toList
  | 'p' => some (if m.hour < 12 then "AM" else "PM").toList
  | 's' => some (toString (m.daysSince1970 * 86400 + m.hour * 3600 + m.minute * 60 + m.second)).toList
  | 't' => some ['\t']
  | 'n' => some ['\n']
  | '%' => some ['%']
  | _ => none

/-- The pattern that a letter is short for. -/
def longPattern? (letter : Char) : Option (List Char) :=
  match letter with
  | 'D' | 'x' => some "%m/%d/%y".toList
  | 'F' => some "%Y-%m-%d".toList
  | 'v' => some "%e-%b-%Y".toList
  | 'R' => some "%H:%M".toList
  | 'T' | 'X' => some "%H:%M:%S".toList
  | 'r' => some "%I:%M:%S %p".toList
  | 'c' => some "%a %b %e %H:%M:%S %Y".toList
  | _ => none

/-- The text of a moment by a pattern; a letter without a meaning refuses the pattern. The number
bounds the length of the pattern. -/
def format? (m : Moment) : Nat → List Char → Option (List Char)
  | _, [] => some []
  | 0, _ :: _ => none
  | n + 1, '%' :: '-' :: letter :: rest => do
    let (_, _, k) ← m.number? letter
    return Nat.toDigits 10 k ++ (← format? m n rest)
  | n + 1, '%' :: '_' :: letter :: rest => do
    let (width, _, k) ← m.number? letter
    return padded ' ' width k ++ (← format? m n rest)
  | n + 1, '%' :: '0' :: letter :: rest => do
    let (width, _, k) ← m.number? letter
    return padded '0' width k ++ (← format? m n rest)
  | n + 1, '%' :: letter :: rest =>
    match m.number? letter, m.word? letter, longPattern? letter with
    | some (width, fill, k), _, _ => (format? m n rest).map (padded fill width k ++ ·)
    | none, some word, _ => (format? m n rest).map (word ++ ·)
    | none, none, some pattern => format? m n (pattern ++ rest)
    | none, none, none => none
  | n + 1, c :: rest => if c == '%' then none else (format? m n rest).map (c :: ·)

/-- The text of a moment by a pattern. -/
def write? (m : Moment) (pattern : List Char) : Option (List Char) :=
  m.format? (24 * pattern.length) pattern

/-- A number of a number of digits at most. -/
def readPart? (digits : Nat) (text : List Char) : Option Nat :=
  if text.length ≤ digits then Text.readNat? text else none

/-- Reads a day such as `2024-02-29`. -/
def readDay? (text : List Char) : Option Moment := do
  match Text.splitOn '-' text with
  | [y, m, d] =>
    let year ← readPart? 4 y
    let month ← readPart? 2 m
    let day ← readPart? 2 d
    if 1 ≤ month && month ≤ 12 && 1 ≤ day && day ≤ monthLength year month then
      return { year, month, day }
    else none
  | _ => none

/-- Whether a text is a distance from the time in Greenwich. -/
def isZone (text : List Char) : Bool :=
  match text with
  | [] | ['Z'] | ['z'] => true
  | sign :: rest =>
    (sign == '+' || sign == '-')
      && match Text.splitOn ':' rest with
        | [h, m] => (readPart? 2 h).isSome && (readPart? 2 m).isSome
        | _ => false

/-- Reads a day and a time such as `2024-02-29T08:30:00Z`. -/
def readTime? (text : List Char) : Option Moment := do
  let (front, back) ← Text.breakOn? ['T'] text
  let day ← readDay? front
  let (clock, rest) := Text.spanOf (fun c => c.isDigit || c == ':') back
  let zone :=
    match rest with
    | '.' :: rest => (Text.spanOf Char.isDigit rest).2
    | rest => rest
  match Text.splitOn ':' clock with
  | [h, m, s] =>
    let hour ← readPart? 2 h
    let minute ← readPart? 2 m
    let second ← readPart? 2 s
    if hour < 24 && minute < 60 && second < 60 && isZone zone then
      return { day with hour, minute, second }
    else none
  | _ => none

/-- Reads a day, or a day and a time. -/
def read? (text : List Char) : Option Moment :=
  if text.contains 'T' then readTime? text else readDay? text

end Moment

end StaticSite.Layout
