import Windowing.Duration
import Windowing.Text.Quote
import Windowing.Text.Numeral
import Windowing.Text.Blank

set_option autoImplicit false

/-! # Durations as text

**Reading.** A duration is an optional sign and one or more terms; a term is a decimal
number (digits, a point, or both) and a unit: `ns`, `us` (or `µs`, `μs`), `ms`, `s`, `m`,
`h`. The unit runs to the next digit or point. `0` alone needs no unit. A whole part
beyond 2^63 nanoseconds, and a total beyond the range of a duration, do not read. A
fraction contributes `⌊f · (unit / 10^k)⌋` nanoseconds, computed in doubles, and digits of
it beyond 2^63 are ignored.

**Writing.** Below one second a duration is written in the largest of `ns`, `µs` and `ms`
that fits, with a fraction; from one second up as hours, minutes and seconds
(`2h0m0.5s`), leaving out leading zero units. Fractions lose their trailing zeros.

**Settings.** A setting is trimmed; all digits (with a sign) count milliseconds, and the
product wraps around; otherwise it is read as above. Negative settings are refused. -/

namespace Windowing.Duration

/-- Why a text is not a duration. -/
inductive TextError where
  | invalid
  | missingUnit
  | unknownUnit (unit : String)

/-- The message of a reading error for the text `orig`. -/
def TextError.message (orig : String) : TextError → String
  | .invalid => "time: invalid duration " ++ Text.quoteOctets orig
  | .missingUnit => "time: missing unit in duration " ++ Text.quoteOctets orig
  | .unknownUnit u =>
    "time: unknown unit " ++ Text.quoteOctets u ++ " in duration " ++ Text.quoteOctets orig

/-- 2^63, the bound of whole parts and sums while reading. -/
def limit : Nat := 9223372036854775808

/-- Whether an octet is a decimal digit. -/
def isDigit (b : UInt8) : Bool := 48 ≤ b && b ≤ 57

/-- Whether an octet ends a unit. -/
def endsUnit (b : UInt8) : Bool := isDigit b || b == 46

/-- Nanoseconds per unit. -/
def unitValue (u : List UInt8) : Option Nat :=
  match u with
  | [110, 115] => some 1
  | [117, 115] | [0xC2, 0xB5, 115] | [0xCE, 0xBC, 115] => some 1000
  | [109, 115] => some 1000000
  | [115] => some 1000000000
  | [109] => some 60000000000
  | [104] => some 3600000000000
  | _ => none

/-- Leading digits as a number; `none` when they pass 2^63. -/
def leadingInt (s : List UInt8) : Option (Nat × List UInt8) :=
  let rec go : Nat → List UInt8 → Option (Nat × List UInt8)
    | x, [] => some (x, [])
    | x, b :: rest =>
      if !isDigit b then some (x, b :: rest)
      else if x > limit / 10 then none
      else
        let y := x * 10 + (b.toNat - 48)
        if y > limit then none else go y rest
  go 0 s

/-- Leading fraction digits: their value and scale, as far as they stay below 2^63. -/
def leadingFraction (s : List UInt8) : Nat × Float × List UInt8 :=
  let rec go : Nat → Float → Bool → List UInt8 → Nat × Float × List UInt8
    | x, sc, _, [] => (x, sc, [])
    | x, sc, past, b :: rest =>
      if !isDigit b then (x, sc, b :: rest)
      else if past then go x sc true rest
      else if x > (limit - 1) / 10 then go x sc true rest
      else
        let y := x * 10 + (b.toNat - 48)
        if y > limit then go x sc true rest else go y (sc * 10) false rest
  go 0 1 false s

/-- Read terms and add them to `d`. -/
def terms : Nat → List UInt8 → Nat → Except TextError Nat
  | 0, _, d => .ok d
  | _ + 1, [], d => .ok d
  | fuel + 1, s@(c :: _), d => do
    if !endsUnit c then throw .invalid
    let (v, s1) ← match leadingInt s with
      | some r => pure r
      | none => throw .invalid
    let pre := s1.length != s.length
    let (f, scale, s2, post) : Nat × Float × List UInt8 × Bool :=
      match s1 with
      | 46 :: r => let (f, sc, r') := leadingFraction r; (f, sc, r', r'.length != r.length)
      | _ => (0, 1, s1, false)
    if !pre && !post then throw .invalid
    let u := s2.takeWhile (fun b => !endsUnit b)
    let rest := s2.drop u.length
    if u.isEmpty then throw .missingUnit
    let unit ← match unitValue u with
      | some n => pure n
      | none => throw (.unknownUnit (Utf8.ofOctets u))
    if v > limit / unit then throw .invalid
    let v := v * unit
    let v := if f > 0 then v + (Float.ofNat f * (Float.ofNat unit / scale)).toUInt64.toNat else v
    if v > limit then throw .invalid
    let d := d + v
    if d > limit then throw .invalid
    terms fuel rest d

/-- Read a duration. -/
def parse (orig : String) : Except TextError Duration := do
  let bs := Utf8.bytes orig
  let (neg, s) := match bs with
    | 45 :: r => (true, r)
    | 43 :: r => (false, r)
    | r => (false, r)
  if s == [48] then return 0
  if s.isEmpty then throw .invalid
  let d ← terms (s.length + 1) s 0
  if neg then pure (Int64.ofInt (-(d : Int)))
  else if d > limit - 1 then throw .invalid
  else pure (Int64.ofInt d)

/-- The fraction digits of `v / 10^prec` (trailing zeros dropped, with the point when any
are left) and the whole part. -/
def fraction (v prec : Nat) : String × Nat :=
  let digits := ((List.range prec).map fun i => v / Nat.pow 10 i % 10).dropWhile (· == 0)
  let text := if digits.isEmpty then ""
    else "." ++ String.ofList (digits.reverse.map fun n => Char.ofNat (48 + n))
  (text, v / Nat.pow 10 prec)

/-- The text of a duration. -/
def text (d : Duration) : String :=
  let u := d.toInt.natAbs
  let body :=
    if u < 1000000000 then
      if u == 0 then "0s"
      else if u < 1000 then toString u ++ "ns"
      else if u < 1000000 then
        let (f, w) := fraction u 3
        toString w ++ f ++ "µs"
      else
        let (f, w) := fraction u 6
        toString w ++ f ++ "ms"
    else
      let (f, secs) := fraction u 9
      let s := toString (secs % 60) ++ f ++ "s"
      let mins := secs / 60
      if mins == 0 then s
      else
        let m := toString (mins % 60) ++ "m" ++ s
        let hours := mins / 60
        if hours == 0 then m else toString hours ++ "h" ++ m
  if d < 0 then "-" ++ body else body

/-- Read a duration setting: trimmed; digits alone are milliseconds; never negative. -/
def parseSetting (s : String) : Except String Duration :=
  let t := Text.trimBlank s
  match Text.parseDecimalInt64 t with
  | some ms =>
    if ms < 0 then .error ("negative duration " ++ Text.quote t)
    else .ok (Int64.ofInt ms * 1000000)
  | none =>
    match parse t with
    | .error e => .error ("invalid duration " ++ Text.quote t ++ ": " ++ e.message t)
    | .ok d => if d < 0 then .error ("negative duration " ++ Text.quote t) else .ok d

end Windowing.Duration
