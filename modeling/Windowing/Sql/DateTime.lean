import Windowing.Sql.Printf

set_option autoImplicit false

/-! # Dates and times

The date and time functions read a time value, apply modifiers to it in turn, and write the
result. A moment is kept as a Julian day number in milliseconds, and, as they are known,
as a calendar date and a time of day (with a time zone offset read from the text).

A time value is a date `YYYY-MM-DD` optionally followed (after blanks or a `T`) by a time
`HH:MM[:SS[.FFF]]` and a zone (`Z` or `±HH:MM`), a time alone (on 2000-01-01), `now`,
or a number: a Julian day number, or, with the `unixepoch` or `auto` modifier, seconds
since 1970. The modifiers add or subtract amounts (`±NNN days`, `±HH:MM`,
`±YYYY-MM-DD`), move to the start of a day, month or year, or to the next given weekday,
choose how a number is read, or ask for fractions of seconds in the output. Local time
is UTC.

A value or modifier that does not read, or a moment outside the years 4713 BC to 9999,
gives null. -/

namespace Windowing.Sql

/-- A moment being worked on. -/
structure Moment where
  /-- The Julian day number, in milliseconds. -/
  jd : Int := 0
  year : Int := 0
  month : Int := 0
  day : Int := 0
  hour : Int := 0
  minute : Int := 0
  second : Float := 0
  /-- The time zone offset read, in minutes. -/
  tz : Int := 0
  validJD : Bool := false
  validYMD : Bool := false
  validHMS : Bool := false
  validTZ : Bool := false
  /-- The value was a bare number, not yet read as a date. -/
  rawS : Bool := false
  isError : Bool := false
  useSubsec : Bool := false
  isUtc : Bool := false
  isLocal : Bool := false
  deriving Inhabited

/-- The largest Julian day number (in milliseconds) the functions work with. -/
def maxJulianMs : Int := 464269060799999

/-- Whether a Julian day number (in milliseconds) is in range. -/
def validJulianMs (jd : Int) : Bool := 0 ≤ jd && jd ≤ maxJulianMs

/-- A double cut toward zero to an integer. -/
def truncFloat (f : Float) : Int :=
  if f.isNaN then 0
  else if f ≥ 0 then (Float.floor f).toUInt64.toNat
  else 0 - ((Float.floor (0 - f)).toUInt64.toNat : Int)

/-- The moment after a failure: everything cleared. -/
def Moment.failed : Moment := { isError := true }

/-- Forget the calendar date, the time of day and the zone. -/
def Moment.clearParts (m : Moment) : Moment := { m with validYMD := false, validHMS := false, validTZ := false }

/-- Work out the Julian day number from the date and time. -/
def Moment.computeJD (m : Moment) : Moment :=
  if m.validJD then m
  else
    let (y, mo, d) := if m.validYMD then (m.year, m.month, m.day) else (2000, 1, 1)
    if y < -4713 || y > 9999 || m.rawS then Moment.failed
    else
      let (y, mo) := if mo ≤ 2 then (y - 1, mo + 12) else (y, mo)
      let a := y.tdiv 100
      let b := 2 - a + a.tdiv 4
      let x1 := (36525 * (y + 4716)).tdiv 100
      let x2 := (306001 * (mo + 1)).tdiv 10000
      let jd := (x1 + x2 + d + b) * 86400000 - 131716800000
      let m := { m with jd, validJD := true }
      if m.validHMS then
        let jd := m.jd + m.hour * 3600000 + m.minute * 60000 + truncFloat (m.second * 1000.0 + 0.5)
        if m.validTZ then
          { m with jd := jd - m.tz * 60000, validYMD := false, validHMS := false, validTZ := false }
        else { m with jd }
      else m

/-- Work out the calendar date from the Julian day number. -/
def Moment.computeYMD (m : Moment) : Moment :=
  if m.validYMD then m
  else if !m.validJD then { m with year := 2000, month := 1, day := 1, validYMD := true }
  else if !validJulianMs m.jd then Moment.failed
  else
    let z := (m.jd + 43200000) / 86400000
    let a := truncFloat ((Float.ofInt z - 1867216.25) / 36524.25)
    let a := z + 1 + a - a.tdiv 4
    let b := a + 1524
    let c := truncFloat ((Float.ofInt b - 122.1) / 365.25)
    let d := (36525 * (c % 32768)).tdiv 100
    let e := truncFloat (Float.ofInt (b - d) / 30.6001)
    let x1 := truncFloat (30.6001 * Float.ofInt e)
    let day := b - d - x1
    let month := if e < 14 then e - 1 else e - 13
    let year := if month > 2 then c - 4716 else c - 4715
    { m with year, month, day, validYMD := true }

/-- Work out the time of day from the Julian day number. -/
def Moment.computeHMS (m : Moment) : Moment :=
  if m.validHMS then m
  else
    let m := m.computeJD
    let dayMs := (m.jd + 43200000) % 86400000
    let second := Float.ofInt (dayMs % 60000) / 1000.0
    let dayMin := dayMs / 60000
    { m with second, minute := dayMin % 60, hour := dayMin / 60, rawS := false, validHMS := true }

/-- Work out both the calendar date and the time of day. -/
def Moment.computeAll (m : Moment) : Moment := m.computeYMD.computeHMS

/-- Read fixed-width numbers: each spec is a digit count, a least and a greatest value, and
the character that must follow (none for the last). The values read, stopping at the first
that does not read. -/
def readFields (cs : List Char) : List (Nat × Int × Int × Option Char) → List Int
  | [] => []
  | (n, lo, hi, next) :: rest =>
    let ds := cs.take n
    if ds.length < n || !ds.all Char.isDigit then []
    else
      let v : Int := ds.foldl (fun a c => a * 10 + (c.toNat - 48 : Nat)) 0
      let after := cs.drop n
      let sepOk := match next with
        | some c => after.head? == some c
        | none => true
      if v < lo || v > hi || !sepOk then []
      else v :: readFields (after.drop 1) rest

/-- Whether a character is a blank, as the date functions see it. -/
def isDateSpace (c : Char) : Bool := isSpace c

/-- Read a time zone: blanks, then `Z`, `±HH:MM` or nothing, then blanks to the end. -/
def readTimezone (cs : List Char) (m : Moment) : Option Moment :=
  let cs := cs.dropWhile isDateSpace
  let m := { m with tz := 0 }
  match cs with
  | [] => some m
  | c :: rest =>
    if c == 'Z' || c == 'z' then
      if (rest.dropWhile isDateSpace).isEmpty then some { m with isLocal := false, isUtc := true } else none
    else if c == '+' || c == '-' then
      match readFields rest [(2, 0, 14, some ':'), (2, 0, 59, none)] with
      | [hh, mm] =>
        let sgn : Int := if c == '-' then -1 else 1
        if ((rest.drop 5).dropWhile isDateSpace).isEmpty then some { m with tz := sgn * (mm + hh * 60) }
        else none
      | _ => none
    else none

/-- Read a time of day `HH:MM[:SS[.FFF]]` and a zone. -/
def readTimeOfDay (cs : List Char) (m : Moment) : Option Moment :=
  match readFields cs [(2, 0, 24, some ':'), (2, 0, 59, none)] with
  | [h, mi] =>
    let rest := cs.drop 5
    let parsed : Option (Float × List Char) :=
      match rest with
      | ':' :: more =>
        match readFields more [(2, 0, 59, none)] with
        | [s] =>
          let more := more.drop 2
          match more with
          | '.' :: d :: frac =>
            if d.isDigit then
              let ds := (d :: frac).takeWhile Char.isDigit
              let (ms, scale) := ds.foldl (fun (acc : Float × Float) c =>
                (acc.1 * 10.0 + Float.ofNat (c.toNat - 48), acc.2 * 10.0)) (0.0, 1.0)
              some (Float.ofInt s + ms / scale, (d :: frac).drop ds.length)
            else some (Float.ofInt s, more)
          | _ => some (Float.ofInt s, more)
        | _ => none
      | _ => some (0.0, rest)
    match parsed with
    | none => none
    | some (sec, rest) =>
      let m := { m with validJD := false, rawS := false, validHMS := true, hour := h, minute := mi, second := sec }
      match readTimezone rest m with
      | some m => some { m with validTZ := m.tz != 0 }
      | none => none
  | _ => none

/-- Read a date `YYYY-MM-DD`, optionally followed by a time. -/
def readDate (cs : List Char) (m : Moment) : Option Moment :=
  let (neg, cs) := match cs with
    | '-' :: r => (true, r)
    | r => (false, r)
  match readFields cs [(4, 0, 14712, some '-'), (2, 1, 12, some '-'), (2, 1, 31, none)] with
  | [y, mo, d] =>
    let rest := (cs.drop 10).dropWhile fun c => isDateSpace c || c == 'T'
    let m' : Option Moment :=
      match readTimeOfDay rest m with
      | some t => some t
      | none => if rest.isEmpty then some { m with validHMS := false } else none
    match m' with
    | none => none
    | some m =>
      let m := { m with validJD := false, validYMD := true, year := if neg then 0 - y else y, month := mo, day := d }
      some (if m.validTZ then m.computeJD else m)
  | _ => none

/-- A bare number as a time value: a Julian day number when it is one. -/
def Moment.rawNumber (r : Float) : Moment :=
  let m : Moment := { second := r, rawS := true }
  if r ≥ 0.0 && r < 5373484.5 then { m with jd := truncFloat (r * 86400000.0 + 0.5), validJD := true } else m

/-- The moment `now`. -/
def Moment.current (now : Int) : Moment := { jd := now, validJD := true, isUtc := true }

/-- Whether a text equals a word, ASCII letters compared without case. -/
def sameWord (a b : String) : Bool := a.toLower == b.toLower

/-- Read a time value given as text. -/
def readTimeValue (now : Int) (s : String) : Option Moment :=
  let cs := s.toList
  match readDate cs {} with
  | some m => some m
  | none =>
    match readTimeOfDay cs {} with
    | some m => some m
    | none =>
      if sameWord s "now" then some (Moment.current now)
      else
        match readNumber s with
        | (.integer, r) | (.real, r) => some (Moment.rawNumber r)
        | _ =>
          if sameWord s "subsec" || sameWord s "subsecond" then some { Moment.current now with useSubsec := true }
          else none

/-- The amounts a `±NNN unit` modifier may add: the unit, the largest amount, and its
length in seconds. -/
def dateUnits : List (String × Float × Float) :=
  [("second", 4.6427e14, 1.0), ("minute", 7.7379e12, 60.0), ("hour", 1.2897e11, 3600.0),
   ("day", 5373485.0, 86400.0), ("month", 176546.0, 2592000.0), ("year", 14713.0, 31536000.0)]

/-- Carry months outside 1 to 12 into the year. -/
def Moment.normalizeMonth (m : Moment) : Moment :=
  let x := if m.month > 0 then (m.month - 1).tdiv 12 else (m.month - 12).tdiv 12
  { m with year := m.year + x, month := m.month - x * 12 }

/-- Local time, which is UTC: the moment's parts worked out again from its day number. -/
def Moment.toLocal (m : Moment) : Moment :=
  let m := m.computeJD
  let whole : Moment := { jd := m.jd - m.jd % 1000, validJD := true }
  let p := whole.computeAll
  { m with year := p.year, month := p.month, day := p.day, hour := p.hour, minute := p.minute,
           second := p.second + Float.ofInt (m.jd % 1000) * 0.001,
           validYMD := true, validHMS := true, validJD := false, rawS := false, validTZ := false,
           isError := false }

/-- Apply a `±NNN unit` modifier (the number already read). -/
def Moment.addUnits (m : Moment) (r : Float) (unit : String) : Option Moment :=
  let n := unit.length
  if n > 10 || n < 3 then none
  else
    let unit := if (unit.toList.getLast?.map Char.toLower) == some 's' then (unit.dropEnd 1).toString else unit
    let m := m.computeJD
    let rounder : Float := if r < 0 then -0.5 else 0.5
    match dateUnits.find? fun (name, limit, _) => sameWord name unit && r > 0 - limit && r < limit with
    | none => none
    | some (name, _, secs) =>
      let (m, r) :=
        if name == "month" then
          let m := m.computeAll
          let m := { m with month := m.month + truncFloat r }.normalizeMonth
          ({ m with validJD := false }, r - Float.ofInt (truncFloat r))
        else if name == "year" then
          let m := m.computeAll
          ({ m with year := m.year + truncFloat r, validJD := false }, r - Float.ofInt (truncFloat r))
        else (m, r)
      let m := m.computeJD
      some { m with jd := m.jd + truncFloat (r * 1000.0 * secs + rounder) }.clearParts

/-- Apply a `±HH:MM[:SS]` modifier. -/
def Moment.addTime (m : Moment) (neg : Bool) (cs : List Char) : Option Moment :=
  let cs := match cs with
    | c :: rest => if c.isDigit then c :: rest else rest
    | [] => []
  match readTimeOfDay cs {} with
  | none => none
  | some tx =>
    let tx := tx.computeJD
    let t := tx.jd - 43200000
    let t := t - (t.tdiv 86400000) * 86400000
    let t := if neg then 0 - t else t
    let m := m.computeJD
    some { m.clearParts with jd := m.jd + t }

/-- Apply one modifier (`first`: it is the first). -/
def Moment.modify (m : Moment) (text : String) (first : Bool) : Option Moment :=
  let cs := text.toList
  let lower := text.toLower
  match cs.head? with
  | none => none
  | some c0 =>
    let c := c0.toLower
    if c == 'a' then
      if lower == "auto" then
        if !first then none
        else if !m.rawS || m.validJD then some { m with rawS := false }
        else if m.second ≥ -210866760000.0 && m.second ≤ 253402300799.0 then
          let r := m.second * 1000.0 + 210866760000000.0
          some { m.clearParts with jd := truncFloat (r + 0.5), validJD := true, rawS := false }
        else none
      else none
    else if c == 'j' then
      if lower == "julianday" then
        if !first then none
        else if m.validJD && m.rawS then some { m with rawS := false } else none
      else none
    else if c == 'l' then
      if lower == "localtime" then
        some { (if m.isLocal then m else m.toLocal) with isUtc := false, isLocal := true }
      else none
    else if c == 'u' then
      if lower == "unixepoch" && m.rawS then
        if !first then none
        else
          let r := m.second * 1000.0 + 210866760000000.0
          if r ≥ 0.0 && r < 464269060800000.0 then
            some { m.clearParts with jd := truncFloat (r + 0.5), validJD := true, rawS := false }
          else none
      else if lower == "utc" then
        if m.isUtc then some m
        else
          let m := m.computeJD
          some { jd := if m.isError then 0 else m.jd, validJD := true, isUtc := true, isLocal := false }
      else none
    else if c == 'w' then
      if lower.startsWith "weekday " then
        match readNumber (lower.drop 8).toString with
        | (.integer, r) | (.real, r) =>
          let n := truncFloat r
          if r ≥ 0.0 && r < 7.0 && Float.ofInt n == r then
            let m := m.computeAll
            let m := { m with validTZ := false, validJD := false }.computeJD
            let z := ((m.jd + 129600000) / 86400000) % 7
            let z := if z > n then z - 7 else z
            some { m with jd := m.jd + (n - z) * 86400000 }.clearParts
          else none
        | _ => none
      else none
    else if c == 's' then
      if !lower.startsWith "start of " then
        if lower == "subsec" || lower == "subsecond" then some { m with useSubsec := true } else none
      else if !m.validJD && !m.validYMD && !m.validHMS then none
      else
        let rest := (lower.drop 9).toString
        let m := m.computeYMD
        let m := { m with validHMS := true, hour := 0, minute := 0, second := 0.0, rawS := false,
                          validTZ := false, validJD := false }
        if rest == "month" then some { m with day := 1 }
        else if rest == "year" then some { m with month := 1, day := 1 }
        else if rest == "day" then some m
        else none
    else if c == '+' || c == '-' || c.isDigit then
      -- the number runs to a colon or blank, or to the dash of a ±YYYY-MM-DD
      let numLen : Nat :=
        let rec scan : Nat → Nat → Nat
          | 0, n => n
          | f + 1, n =>
            match cs[n]? with
            | none => n
            | some d =>
              if d == ':' || isDateSpace d then n
              else if d == '-' && ((n == 5 && (readFields (cs.drop 1) [(4, 0, 14712, none)]).length == 1) ||
                  (n == 6 && (readFields (cs.drop 1) [(5, 0, 14712, none)]).length == 1)) then n
              else scan f (n + 1)
        scan cs.length 1
      let numText := String.ofList (cs.take numLen)
      match readNumber numText with
      | (.integer, r) | (.real, r) =>
        let neg := c0 == '-'
        if cs[numLen]? == some '-' then
          -- ±YYYY-MM-DD, optionally followed by a time
          if c0 != '+' && c0 != '-' then none
          else
            let digits := if numLen == 5 then 4 else 5
            match readFields (cs.drop 1) [(digits, 0, 14712, some '-'), (2, 0, 11, some '-'), (2, 0, 30, none)] with
            | [y, mo, d] =>
              let m := m.computeAll
              let m := { m with validJD := false }
              let (m, d) := if neg then ({ m with year := m.year - y, month := m.month - mo }, 0 - d)
                else ({ m with year := m.year + y, month := m.month + mo }, d)
              let m := m.normalizeMonth.computeJD
              let m := { m with validHMS := false, validYMD := false, jd := m.jd + d * 86400000 }
              let tail := cs.drop (digits + 7)
              match tail with
              | [] => some m
              | s :: more =>
                if isDateSpace s && (readFields more [(2, 0, 24, some ':'), (2, 0, 59, none)]).length == 2 then
                  m.addTime neg more
                else none
            | _ => none
        else if cs[numLen]? == some ':' then m.addTime neg cs
        else m.addUnits r (String.ofList ((cs.drop numLen).dropWhile isDateSpace))
      | _ => none
    else none

/-- Read a function's time value and modifiers: the moment, or none for null. -/
def readMoment (now : Int) (args : List Value) : Option Moment := do
  let m ← match args with
    | [] => some (Moment.current now)
    | a :: _ =>
      match a with
      | .int i => some (Moment.rawNumber (Float.ofInt i))
      | .real f => some (Moment.rawNumber f)
      | .null => none
      | v => readTimeValue now (v.asText.getD "")
  let (m, _) ← (args.drop 1).foldlM (fun (acc : Moment × Bool) a => do
    let t ← a.asText
    let m ← acc.1.modify t acc.2
    pure (m, false)) (m, true)
  let m := m.computeJD
  if m.isError || !validJulianMs m.jd then none
  else if args.length == 1 && m.validYMD && m.day > 28 then some { m with validYMD := false }
  else some m

/-- Whether reading a time value reads the clock: `now`, `subsec` or `subsecond`, when the
text is no date, time of day or number. -/
def timeValueReadsClock (v : Value) : Bool :=
  match v with
  | .int _ | .real _ | .null => false
  | v =>
    let s := v.asText.getD ""
    let cs := s.toList
    (readDate cs {}).isNone && (readTimeOfDay cs {}).isNone &&
      (sameWord s "now" ||
        (match readNumber s with
          | (.integer, _) | (.real, _) => false
          | _ => sameWord s "subsec" || sameWord s "subsecond"))

/-- Whether the modifiers, read in turn from a moment, reach `localtime` or `utc` (which read
the local time zone) before one of them fails. -/
def modifiersReadClock : List Value → Moment → Bool → Bool
  | [], _, _ => false
  | a :: rest, m, first =>
    match a.asText with
    | none => false
    | some t =>
      if sameWord t "localtime" || sameWord t "utc" then true
      else
        match m.modify t first with
        | some m' => modifiersReadClock rest m' false
        | none => false

/-- Whether a date function's time value and modifiers read the clock or the local time
zone before they fail: no time value, a time value that means the current moment, or a
`localtime` or `utc` modifier reached. -/
def momentReadsClock (now : Int) (args : List Value) : Bool :=
  match args with
  | [] => true
  | a :: mods =>
    if timeValueReadsClock a then true
    else
      let start : Option Moment := match a with
        | .int i => some (Moment.rawNumber (Float.ofInt i))
        | .real f => some (Moment.rawNumber f)
        | .null => none
        | v => readTimeValue now (v.asText.getD "")
      match start with
      | some m => modifiersReadClock mods m true
      | none => false

/-- Digits of a number, at least `width` of them. -/
def padDigits (width : Nat) (n : Int) : String :=
  let s := toString n.natAbs
  (if n < 0 then "-" else "") ++ String.ofList (List.replicate (width - s.length) '0') ++ s

/-- The date of a moment, `YYYY-MM-DD`. -/
def Moment.dateText (m : Moment) : String :=
  let y := m.year.natAbs
  (if m.year < 0 then "-" else "") ++ padDigits 4 (y % 10000) ++ "-" ++ padDigits 2 (m.month % 100) ++ "-" ++
    padDigits 2 (m.day % 100)

/-- The time of a moment, `HH:MM:SS` (with milliseconds when asked for). -/
def Moment.timeText (m : Moment) : String :=
  let secs :=
    if m.useSubsec then
      let s := truncFloat (1000.0 * m.second + 0.5)
      padDigits 2 ((s / 1000) % 100) ++ "." ++ padDigits 3 (s % 1000)
    else padDigits 2 (truncFloat m.second % 100)
  padDigits 2 (m.hour % 100) ++ ":" ++ padDigits 2 (m.minute % 100) ++ ":" ++ secs

/-- The seconds since 1970 of a moment. -/
def Moment.unixSeconds (m : Moment) : Int := m.jd.tdiv 1000 - 210866760000

/-- Format a moment as `strftime` does; none for an unknown conversion. -/
def Moment.format (m : Moment) (fmt : String) : Option String :=
  let m := m.computeJD.computeAll
  let d2 (n : Int) : String := printfText "%02d" [.int n]
  let s2 (n : Int) : String := printfText "%2d" [.int n]
  let rec go : Nat → List Char → String → Option String
    | 0, _, acc => some acc
    | _ + 1, [], acc => some acc
    | fuel + 1, c :: rest, acc =>
      if c != '%' then go fuel rest (acc.push c)
      else
        match rest with
        | [] => some acc
        | f :: more =>
          let piece : Option String :=
            match f with
            | 'd' => some (d2 m.day)
            | 'e' => some (s2 m.day)
            | 'f' =>
              let s := if m.second > 59.999 then 59.999 else m.second
              some (printfText "%06.3f" [.real s])
            | 'F' => some (printfText "%04d-%02d-%02d" [.int m.year, .int m.month, .int m.day])
            | 'H' => some (d2 m.hour)
            | 'k' => some (s2 m.hour)
            | 'I' | 'l' =>
              let h := if m.hour > 12 then m.hour - 12 else m.hour
              let h := if h == 0 then 12 else h
              some (if f == 'I' then d2 h else s2 h)
            | 'W' | 'j' =>
              let y : Moment := { m with validJD := false, month := 1, day := 1 }
              let y := y.computeJD
              let nDay := (m.jd - y.jd + 43200000) / 86400000
              if f == 'W' then
                let wd := ((m.jd + 43200000) / 86400000) % 7
                some (d2 ((nDay + 7 - wd) / 7))
              else some (printfText "%03d" [.int (nDay + 1)])
            | 'J' => some (printfText "%.16g" [.real (Float.ofInt m.jd / 86400000.0)])
            | 'm' => some (d2 m.month)
            | 'M' => some (d2 m.minute)
            | 'p' => some (if m.hour ≥ 12 then "PM" else "AM")
            | 'P' => some (if m.hour ≥ 12 then "pm" else "am")
            | 'R' => some (d2 m.hour ++ ":" ++ d2 m.minute)
            | 's' =>
              if m.useSubsec then
                some (printfText "%.3f" [.real (Float.ofInt (m.jd - 210866760000000) / 1000.0)])
              else some (toString m.unixSeconds)
            | 'S' => some (d2 (truncFloat m.second))
            | 'T' => some (d2 m.hour ++ ":" ++ d2 m.minute ++ ":" ++ d2 (truncFloat m.second))
            | 'u' | 'w' =>
              let w := ((m.jd + 129600000) / 86400000) % 7
              some (if w == 0 && f == 'u' then "7" else toString w)
            | 'Y' => some (printfText "%04d" [.int m.year])
            | '%' => some "%"
            | _ => none
          match piece with
          | some p => go fuel more (acc ++ p)
          | none => none
  go (fmt.length + 1) fmt.toList ""

/-- `timediff`: the time from the second moment to the first, as `±YYYY-MM-DD HH:MM:SS.SSS`. -/
def timeDiff (d1 d2 : Moment) : String :=
  let d1 := d1.computeAll
  let d2 := d2.computeAll
  let redo (d : Moment) : Moment := { d with validJD := false }.computeJD
  let (sign, y, mo, rest) :=
    if d1.jd ≥ d2.jd then
      let y := d1.year - d2.year
      let d2 := if y != 0 then redo { d2 with year := d1.year } else d2
      let mo := d1.month - d2.month
      let (y, mo) := if mo < 0 then (y - 1, mo + 12) else (y, mo)
      let d2 := if mo != 0 then redo { d2 with month := d1.month } else d2
      let rec back : Nat → Int → Int → Moment → Int × Int × Moment
        | 0, y, mo, d => (y, mo, d)
        | f + 1, y, mo, d =>
          if d1.jd < d.jd then
            let (mo, y) := if mo - 1 < 0 then (11, y - 1) else (mo - 1, y)
            let d := if d.month - 1 < 1 then { d with month := 12, year := d.year - 1 } else { d with month := d.month - 1 }
            back f y mo (redo d)
          else (y, mo, d)
      let (y, mo, d2) := back 24 y mo d2
      ('+', y, mo, d1.jd - d2.jd + 148699540800000)
    else
      let y := d2.year - d1.year
      let d2 := if y != 0 then redo { d2 with year := d1.year } else d2
      let mo := d2.month - d1.month
      let (y, mo) := if mo < 0 then (y - 1, mo + 12) else (y, mo)
      let d2 := if mo != 0 then redo { d2 with month := d1.month } else d2
      let rec fwd : Nat → Int → Int → Moment → Int × Int × Moment
        | 0, y, mo, d => (y, mo, d)
        | f + 1, y, mo, d =>
          if d1.jd > d.jd then
            let (mo, y) := if mo - 1 < 0 then (11, y - 1) else (mo - 1, y)
            let d := if d.month + 1 > 12 then { d with month := 1, year := d.year + 1 } else { d with month := d.month + 1 }
            fwd f y mo (redo d)
          else (y, mo, d)
      let (y, mo, d2) := fwd 24 y mo d2
      ('-', y, mo, d2.jd - d1.jd + 148699540800000)
  let r : Moment := ({ jd := rest, validJD := true } : Moment).computeAll
  String.singleton sign ++ printfText "%04d-%02d-%02d %02d:%02d:%06.3f"
    [.int y, .int mo, .int (r.day - 1), .int r.hour, .int r.minute, .real r.second]

/-- Whether a call of a date function reads the clock or the local time zone, so that it
may not stand where its value must not depend on when it is worked out. -/
def dateCallReadsClock (now : Int) (name : String) (args : List Value) : Bool :=
  match name with
  | "date" | "time" | "datetime" | "julianday" | "unixepoch" => momentReadsClock now args
  | "strftime" => momentReadsClock now (args.drop 1)
  | "timediff" =>
    momentReadsClock now (args.take 1) ||
      ((readMoment now (args.take 1)).isSome && momentReadsClock now (args.drop 1))
  | _ => false

/-- Call a date and time function by its lower-case name, if it is one; `now` is the
current moment. -/
def dateCall? (now : Int) (name : String) (args : List Value) : Option Value :=
  let text (f : Moment → String) : Value :=
    match readMoment now args with
    | some m => .text (f m)
    | none => .null
  match name with
  | "date" => some (text fun m => m.computeAll.dateText)
  | "time" => some (text fun m => m.computeAll.timeText)
  | "datetime" => some (text fun m => let m := m.computeAll; m.dateText ++ " " ++ m.timeText)
  | "current_date" => some (text fun m => m.computeAll.dateText)
  | "current_time" => some (text fun m => m.computeAll.timeText)
  | "current_timestamp" => some (text fun m => let m := m.computeAll; m.dateText ++ " " ++ m.timeText)
  | "julianday" =>
    some (match readMoment now args with
      | some m => .real (Float.ofInt m.jd / 86400000.0)
      | none => .null)
  | "unixepoch" =>
    some (match readMoment now args with
      | some m =>
        if m.useSubsec then .real (Float.ofInt (m.jd - 210866760000000) / 1000.0) else .int m.unixSeconds
      | none => .null)
  | "strftime" =>
    some (match args with
      | [] => .null
      | f :: rest =>
        match f.asText, readMoment now rest with
        | some fmt, some m =>
          match m.format fmt with
          | some s => .text s
          | none => .null
        | _, _ => .null)
  | "timediff" =>
    some (match readMoment now (args.take 1), readMoment now (args.drop 1) with
      | some a, some b => .text (timeDiff a b)
      | _, _ => .null)
  | _ => none

end Windowing.Sql
