import Windowing.Text.Quote

set_option autoImplicit false

/-! # Timestamps

The journal writes creation times as RFC 3339 text with up to nine fraction digits
(`2024-05-01T12:00:00.5Z`) and reads them back against the layout
`2006-01-02T15:04:05.999999999Z07:00`, piece by piece:

* the year is exactly four digits;
* the month, the day, the minute and the second are two digits each, the hour one or
  two;
* a fraction, when the text has one, is a `.` or `,` and any number of digits (only the
  first nine count);
* the zone is `Z` or a sign, two digits, `:` and two digits.

A piece that does not fit is named with the text left at that point:
`parsing time "T" as "LAYOUT": cannot parse "REST" as "PIECE"`. A month, hour, minute or
second out of range, a zone offset beyond 24 hours or 60 minutes, a day beyond its month,
and text after the zone each have a message of their own.

YAML scalars are read more loosely (`readYaml`): a text that starts with four digits and
`-` is tried against `2006-1-2T15:4:5.999999999Z07:00`, the same with a lower-case `t`,
`2006-1-2 15:4:5.999999999` (in UTC, with any run of blanks before the time) and
`2006-1-2` (midnight UTC), the first that fits winning. There the month, day, hour, minute
and second have one or two digits.

A moment prints as `2006-01-02 15:04:05.999999999 -0700 MST`, where the zone's name is
`UTC` for a zero offset and the offset again otherwise; as JSON it is its RFC 3339 text,
which has no room for a zone offset of 24 hours or more. -/

namespace Windowing

/-- A moment as its text gave it: the date and time of day, and the zone offset in
seconds east. -/
structure Timestamp where
  year : Int
  month : Nat
  day : Nat
  hour : Nat
  minute : Nat
  second : Nat
  nanos : Nat
  offset : Int
  deriving Inhabited

namespace Timestamp

/-- The layout timestamps are read against. -/
def layout : String := "2006-01-02T15:04:05.999999999Z07:00"

/-- Why a text is not a timestamp. -/
inductive ParseError where
  /-- A piece of the layout does not fit the text left. -/
  | piece (rest piece : String)
  /-- A value is out of range, or the text goes on. -/
  | message (text : String)

/-- Whether a year is a leap year. -/
def isLeap (y : Int) : Bool := y % 4 == 0 && (y % 100 != 0 || y % 400 == 0)

/-- The days of a month of a year. -/
def daysIn (month : Nat) (year : Int) : Nat :=
  if month == 2 then (if isLeap year then 29 else 28)
  else if month == 4 || month == 6 || month == 9 || month == 11 then 30
  else 31

/-- The value of a digit character. -/
def digit (c : Char) : Nat := c.toNat - 48

/-- A number of one or two digits at the front; `fixed` asks for exactly two. -/
def number (fixed : Bool) : List Char → Option (Nat × List Char)
  | a :: b :: rest =>
    if !a.isDigit then none
    else if b.isDigit then some (digit a * 10 + digit b, rest)
    else if fixed then none
    else some (digit a, b :: rest)
  | [a] => if a.isDigit && !fixed then some (digit a, []) else none
  | [] => none

/-- Leave out a literal at the front. -/
def literal (lit : Char) : List Char → Option (List Char)
  | c :: rest => if c == lit then some rest else none
  | [] => none

/-- The fraction of a second at the front, in nanoseconds, when the text has one. -/
def fraction (cs : List Char) : Nat × List Char :=
  match cs with
  | p :: d :: rest =>
    if (p == '.' || p == ',') && d.isDigit then
      let ds := (d :: rest).takeWhile Char.isDigit
      let after := (d :: rest).drop ds.length
      let nine := (ds.take 9) ++ List.replicate (9 - min 9 ds.length) '0'
      (nine.foldl (fun n c => n * 10 + digit c) 0, after)
    else (0, cs)
  | _ => (0, cs)

/-- Read a timestamp. -/
def parse (s : String) : Except ParseError Timestamp := do
  let text (cs : List Char) : String := String.ofList cs
  let cs := s.toList
  -- the year: four digits
  let (year, cs) ← match cs with
    | a :: b :: c :: d :: rest =>
      if [a, b, c, d].all Char.isDigit then
        pure ((digit a * 1000 + digit b * 100 + digit c * 10 + digit d : Nat), rest)
      else throw (.piece (text cs) "2006")
    | _ => throw (.piece (text cs) "2006")
  let cs ← (literal '-' cs).elim (throw (.piece (text cs) "-")) pure
  let (month, cs) ← (number true cs).elim (throw (.piece (text cs) "01")) pure
  if month == 0 || month > 12 then throw (.message ": month out of range")
  let cs ← (literal '-' cs).elim (throw (.piece (text cs) "-")) pure
  let (day, cs) ← (number true cs).elim (throw (.piece (text cs) "02")) pure
  let cs ← (literal 'T' cs).elim (throw (.piece (text cs) "T")) pure
  let (hour, cs) ← (number false cs).elim (throw (.piece (text cs) "15")) pure
  if hour ≥ 24 then throw (.message ": hour out of range")
  let cs ← (literal ':' cs).elim (throw (.piece (text cs) ":")) pure
  let (minute, cs) ← (number true cs).elim (throw (.piece (text cs) "04")) pure
  if minute ≥ 60 then throw (.message ": minute out of range")
  let cs ← (literal ':' cs).elim (throw (.piece (text cs) ":")) pure
  let (second, cs) ← (number true cs).elim (throw (.piece (text cs) "05")) pure
  if second ≥ 60 then throw (.message ": second out of range")
  let (nanos, cs) := fraction cs
  let (offset, cs) ← match cs with
    | 'Z' :: rest => pure ((0 : Int), rest)
    | sign :: h1 :: h2 :: ':' :: m1 :: m2 :: rest =>
      -- the minutes are read only when the hours read; a range error comes before a
      -- bad sign or bad digits, the minutes' before the hours'
      let hours := number true [h1, h2]
      let minutes := if hours.isSome then number true [m1, m2] else none
      let h := (hours.map (·.1)).getD 0
      let m := (minutes.map (·.1)).getD 0
      if m > 60 then throw (.message ": time zone offset minute out of range")
      else if h > 24 then throw (.message ": time zone offset hour out of range")
      else if minutes.isNone then throw (.piece (text cs) "Z07:00")
      else if sign == '+' then pure (((h * 60 + m) * 60 : Nat), rest)
      else if sign == '-' then pure (-(((h * 60 + m) * 60 : Nat) : Int), rest)
      else throw (.piece (text cs) "Z07:00")
    | _ => throw (.piece (text cs) "Z07:00")
  if !cs.isEmpty then throw (.message (": extra text: " ++ Text.quoteOctets (text cs)))
  if day < 1 || day > daysIn month year then throw (.message ": day out of range")
  pure { year, month, day, hour, minute, second, nanos, offset }

/-- The message of a parse error of a text. -/
def ParseError.render (s : String) : ParseError → String
  | .piece rest want =>
    "parsing time " ++ Text.quoteOctets s ++ " as " ++ Text.quoteOctets layout ++
      ": cannot parse " ++ Text.quoteOctets rest ++ " as " ++ Text.quoteOctets want
  | .message m => "parsing time " ++ Text.quoteOctets s ++ m

/-- Days from 1 January of year 1 to a date (proleptic Gregorian calendar), counted in
400-year eras from 1 March of year 0; division rounds down. -/
def daysFromEpoch (year : Int) (month day : Nat) : Int :=
  let y := if month ≤ 2 then year - 1 else year
  let era := y / 400
  let yoe := y - era * 400
  let mp : Int := (month + 9) % 12
  let doy := (153 * mp + 2) / 5 + day - 1
  let doe := yoe * 365 + yoe / 4 - yoe / 100 + doy
  -- days from 1 March of year 0 to 1 January of year 1 is 306
  era * 146097 + doe - 306

/-- Seconds of the moment from midnight, 1 January of year 1, UTC. -/
def seconds (t : Timestamp) : Int :=
  daysFromEpoch t.year t.month t.day * 86400 + t.hour * 3600 + t.minute * 60 + t.second - t.offset

/-- Whether the moment is midnight, 1 January of year 1, UTC: the zero time. -/
def isZero (t : Timestamp) : Bool := t.seconds == 0 && t.nanos == 0

/-- A number written with at least `width` digits. -/
def padded (width : Nat) (n : Nat) : String :=
  let s := toString n
  String.ofList (List.replicate (width - s.length) '0') ++ s

/-- The moment `total` seconds after midnight, 1 January of year 1, UTC, with a fraction of
`nanos` nanoseconds, as date and time fields in UTC. -/
def ofSeconds (total : Int) (nanos : Nat) : Timestamp :=
  let days := total / 86400
  let secs := (total % 86400).toNat
  -- civil date from days since 1 January of year 1
  let z := days + 306
  let era := z / 146097
  let doe := z - era * 146097
  let yoe := (doe - doe / 1460 + doe / 36524 - doe / 146096) / 365
  let doy := doe - (365 * yoe + yoe / 4 - yoe / 100)
  let mp := (5 * doy + 2) / 153
  let d := (doy - (153 * mp + 2) / 5 + 1).toNat
  let m := (if mp < 10 then mp + 3 else mp - 9).toNat
  let y := yoe + era * 400 + (if m ≤ 2 then 1 else 0)
  { year := y, month := m, day := d, hour := secs / 3600, minute := secs % 3600 / 60,
    second := secs % 60, nanos, offset := 0 }

/-- The moment in UTC as date and time fields. -/
def toUtc (t : Timestamp) : Timestamp := ofSeconds t.seconds t.nanos

/-- Seconds from midnight, 1 January of year 1, to the Unix epoch (1 January 1970). -/
def unixEpoch : Int := 62135596800

/-- The moment a count of nanoseconds from the Unix epoch names, in UTC. -/
def ofUnixNanos (n : Int) : Timestamp :=
  ofSeconds (n / 1000000000 + unixEpoch) (n % 1000000000).toNat

/-- The date and time of day as `2006-01-02 15:04:05`, in UTC. -/
def plain (t : Timestamp) : String :=
  let u := t.toUtc
  padded 4 u.year.toNat ++ "-" ++ padded 2 u.month ++ "-" ++ padded 2 u.day ++ " " ++
    padded 2 u.hour ++ ":" ++ padded 2 u.minute ++ ":" ++ padded 2 u.second

/-- A fraction of a second as `.ddd` without trailing zeros; nothing when it is zero. -/
def fractionText (nanos : Nat) : String :=
  if nanos == 0 then ""
  else
    let ds := (padded 9 nanos).toList
    "." ++ String.ofList (ds.reverse.dropWhile (· == '0')).reverse

/-- The moment as RFC 3339 text with the fraction's trailing zeros left out, in its own
zone. -/
def rfc3339 (t : Timestamp) : String :=
  let frac := fractionText t.nanos
  let zone :=
    if t.offset == 0 then "Z"
    else
      let a := t.offset.natAbs
      (if t.offset < 0 then "-" else "+") ++ padded 2 (a / 3600) ++ ":" ++ padded 2 (a % 3600 / 60)
  padded 4 t.year.toNat ++ "-" ++ padded 2 t.month ++ "-" ++ padded 2 t.day ++ "T" ++
    padded 2 t.hour ++ ":" ++ padded 2 t.minute ++ ":" ++ padded 2 t.second ++ frac ++ zone

/-! ## Timestamps in YAML -/

/-- The date at the front of a scalar: four digits, `-`, a month of one or two digits
from 1 to 12, `-`, and a day of one or two digits. -/
def yamlDate (cs : List Char) : Option ((Nat × Nat × Nat) × List Char) := do
  let (year, cs) ← match cs with
    | a :: b :: c :: d :: rest =>
      if [a, b, c, d].all Char.isDigit then
        some (digit a * 1000 + digit b * 100 + digit c * 10 + digit d, rest)
      else none
    | _ => none
  let cs ← literal '-' cs
  let (month, cs) ← number false cs
  if month == 0 || month > 12 then none
  let cs ← literal '-' cs
  let (day, cs) ← number false cs
  pure ((year, month, day), cs)

/-- A time of day `h:m:s` at the front, each of one or two digits and in range, with an
optional fraction: the hour, minute, second and nanoseconds. -/
def yamlClock (cs : List Char) : Option ((Nat × Nat × Nat × Nat) × List Char) := do
  let (hour, cs) ← number false cs
  if hour ≥ 24 then none
  let cs ← literal ':' cs
  let (minute, cs) ← number false cs
  if minute ≥ 60 then none
  let cs ← literal ':' cs
  let (second, cs) ← number false cs
  if second ≥ 60 then none
  let (nanos, cs) := fraction cs
  pure ((hour, minute, second, nanos), cs)

/-- A zone at the front: `Z`, or a sign, two digits, `:` and two digits, with the hours
up to 24 and the minutes up to 60; its offset in seconds east. -/
def yamlZone : List Char → Option (Int × List Char)
  | 'Z' :: rest => some (0, rest)
  | sign :: h1 :: h2 :: ':' :: m1 :: m2 :: rest => do
    let (h, _) ← number true [h1, h2]
    let (m, _) ← number true [m1, m2]
    if h > 24 || m > 60 then none
    let off : Int := ((h * 60 + m) * 60 : Nat)
    if sign == '+' then some (off, rest)
    else if sign == '-' then some (-off, rest)
    else none
  | _ => none

/-- Read a YAML timestamp scalar, trying its layouts in turn. -/
def readYaml (s : String) : Option Timestamp :=
  let cs := s.toList
  if (cs.takeWhile Char.isDigit).length != 4 || (cs.drop 4).head? != some '-' then none
  else
    let make (date : Nat × Nat × Nat) (clock : Nat × Nat × Nat × Nat) (offset : Int) :
        Option Timestamp :=
      let (year, month, day) := date
      let (hour, minute, second, nanos) := clock
      if day < 1 || day > daysIn month year then none
      else some { year, month, day, hour, minute, second, nanos, offset }
    let zoned (sep : Char) : Option Timestamp := do
      let (date, r) ← yamlDate cs
      let r ← literal sep r
      let (clock, r) ← yamlClock r
      let (offset, r) ← yamlZone r
      if !r.isEmpty then none
      make date clock offset
    let spaced : Option Timestamp := do
      let (date, r) ← yamlDate cs
      if r.head? != some ' ' then none
      let (clock, r) ← yamlClock (r.dropWhile (· == ' '))
      if !r.isEmpty then none
      make date clock 0
    let dateOnly : Option Timestamp := do
      let (date, r) ← yamlDate cs
      if !r.isEmpty then none
      make date (0, 0, 0, 0) 0
    (zoned 'T').orElse fun _ => (zoned 't').orElse fun _ => spaced.orElse fun _ => dateOnly

/-- An offset as `±hhmm`. -/
def offsetDigits (offset : Int) : String :=
  let minutes := offset.natAbs / 60
  (if offset < 0 then "-" else "+") ++ padded 2 (minutes / 60) ++ padded 2 (minutes % 60)

/-- The moment as it prints: `2006-01-02 15:04:05.999999999 -0700 MST`, in its own zone. -/
def display (t : Timestamp) : String :=
  let off := offsetDigits t.offset
  padded 4 t.year.toNat ++ "-" ++ padded 2 t.month ++ "-" ++ padded 2 t.day ++ " " ++
    padded 2 t.hour ++ ":" ++ padded 2 t.minute ++ ":" ++ padded 2 t.second ++
    fractionText t.nanos ++ " " ++ off ++ " " ++ (if t.offset == 0 then "UTC" else off)

/-- The moment as JSON text: its RFC 3339 form, or why it has none. -/
def json (t : Timestamp) : Except String String :=
  if t.offset.natAbs / 3600 ≥ 24 then .error "timezone hour outside of range [0,23]"
  else .ok t.rfc3339

/-- The names of the months. -/
def monthNames : List String :=
  ["January", "February", "March", "April", "May", "June", "July", "August", "September",
   "October", "November", "December"]

/-- The moment written as the call that makes it, as map-key complaints show it. -/
def goSyntax (t : Timestamp) : String :=
  "time.Date(" ++ toString t.year ++ ", time." ++ monthNames.getD (t.month - 1) "" ++ ", " ++
    toString t.day ++ ", " ++ toString t.hour ++ ", " ++ toString t.minute ++ ", " ++
    toString t.second ++ ", " ++ toString t.nanos ++ ", " ++
    (if t.offset == 0 then "time.UTC" else "time.Location(\"\")") ++ ")"

end Timestamp

end Windowing
