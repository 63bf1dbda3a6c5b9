import Windowing.Decimal.Shortest
import Windowing.Text.Utf8

set_option autoImplicit false

/-! # Values of the database

A value is null, a 64-bit integer, a double, a text or a blob (a run of octets). Text may
hold octets that form no character (kept as stray octets, see `Windowing.Utf8`).

**Reading numbers from text.** A text reads as a number by its longest numeric prefix:
blanks, a sign, digits, a point and digits, and an exponent, then blanks. `readNumber`
tells how much of the text took part (all of it as an integer, all of it as a real,
only a prefix that has a point or an exponent, or less), and its value. Only about
nineteen significant digits take part; later ones are dropped. `readInt64` reads the
leading integer, clamped to 64 bits, and tells whether text followed it or it was too
large.

**Affinity.** A column has an affinity, from the words of its declared type: `INT`
makes it integer, `CHAR`, `CLOB` or `TEXT` text, `BLOB` (or no type) none, `REAL`,
`FLOA` or `DOUB` real, anything else numeric. Storing a value applies the column's
affinity: a text column keeps numbers as their text; a numeric column reads a text that is
wholly a number as that number, and keeps a real that is a whole number (strictly inside
64 bits) as an integer; a real column keeps every number as a real.

**Order.** Values compare null first, then numbers (integers and reals by their exact
values), then texts (by their collation), then blobs (by their octets). -/

namespace Windowing.Sql

/-- Fold a list from an initial value in a monad, the step given last. -/
@[inline] def foldFromM {m : Type → Type} [Monad m] {σ α : Type} (xs : List α) (init : σ) (f : σ → α → m σ) : m σ :=
  xs.foldlM f init

/-- A value of the database. -/
inductive Value where
  | null
  | int (i : Int)
  | real (f : Float)
  | text (s : String)
  | blob (b : List UInt8)
  deriving Inhabited

/-- The least 64-bit integer. -/
def minInt : Int := -9223372036854775808

/-- The greatest 64-bit integer. -/
def maxInt : Int := 9223372036854775807

/-- Whether an integer fits in 64 bits. -/
def fitsInt (i : Int) : Bool := minInt ≤ i && i ≤ maxInt

/-- An integer wrapped into 64 bits, two's complement. -/
def wrapInt (i : Int) : Int :=
  let m := i % 18446744073709551616
  if m > maxInt then m - 18446744073709551616 else m

/-- The name of a value's kind, as `typeof` gives it. -/
def Value.kindName : Value → String
  | .null => "null"
  | .int _ => "integer"
  | .real _ => "real"
  | .text _ => "text"
  | .blob _ => "blob"

/-- Whether a value is null. -/
def Value.isNull : Value → Bool
  | .null => true
  | _ => false

/-- Whether a value is a blob. -/
def Value.isBlob : Value → Bool
  | .blob _ => true
  | _ => false

/-! ## Reals as text -/

/-- A double as text: fifteen significant digits, trailing zeros dropped but one digit
kept after the point, positional from 1e-4 to below 1e15 and with an exponent of at least
two digits elsewhere; the infinities are `Inf` and `-Inf`. -/
def realText (f : Float) : String :=
  if f.isNaN then "NaN"
  else if f.isInf then (if f < 0 then "-Inf" else "Inf")
  else if f == 0 then "0.0"
  else
    let s := Decimal.formatFloat f 'g' (some 15)
    match s.splitOn "e" with
    | [m, e] => (if m.contains '.' then m else m ++ ".0") ++ "e" ++ e
    | _ => if s.contains '.' then s else s ++ ".0"

/-! ## Reading numbers from text -/

/-- Whether a character is a blank where numbers are read. -/
def isSpace (c : Char) : Bool :=
  c == ' ' || c == '\t' || c == '\n' || c == '\x0b' || c == '\x0c' || c == '\r'

/-- How a text reads as a number. -/
inductive NumberForm where
  /-- No prefix with a point or an exponent reads, or the number is followed by text. -/
  | none
  /-- A prefix with a point or an exponent reads; text follows it. -/
  | realPrefix
  /-- The whole text is an integer. -/
  | integer
  /-- The whole text is a number with a point or an exponent. -/
  | real
  deriving BEq, Inhabited

/-- The significand accumulates digits while it is below this bound. -/
def significandBound : Nat := 922337203685477579

/-- Digits read into a significand: the significand, how far the point moved, the digits
counted, and the rest of the text. Digits past the bound move the point instead. -/
def takeDigits (fraction : Bool) : List Char → Nat → Int → Nat → Nat × Int × Nat × List Char
  | c :: rest, s, d, n =>
    if c.isDigit then
      let v := c.toNat - '0'.toNat
      if fraction then
        if s < significandBound then takeDigits fraction rest (s * 10 + v) (d - 1) (n + 1)
        else takeDigits fraction rest s d n
      else
        if s < significandBound then takeDigits fraction rest (s * 10 + v) d (n + 1)
        else takeDigits fraction rest s (d + 1) n
    else (s, d, n, c :: rest)
  | [], s, d, n => (s, d, n, [])

/-- The exponent digits: the value (capped at 10000) and the rest. -/
def takeExponent : List Char → Nat → Bool → Nat × Bool × List Char
  | c :: rest, e, seen =>
    if c.isDigit then takeExponent rest (if e < 10000 then e * 10 + (c.toNat - '0'.toNat) else 10000) true
    else (e, seen, c :: rest)
  | [], e, seen => (e, seen, [])

/-- Read the numeric prefix of a text: its form and its value. -/
def readNumber (s : String) : NumberForm × Float :=
  let cs := s.toList.dropWhile isSpace
  if cs.isEmpty then (.none, 0) else
  let (neg, cs) := match cs with
    | '-' :: r => (true, r)
    | '+' :: r => (false, r)
    | r => (false, r)
  let (sig, d, n, rest) := takeDigits false cs 0 0 0
  let (sig, d, n, rest, point) := match rest with
    | '.' :: r =>
      let (sig, d, n, rest) := takeDigits true r sig d n
      (sig, d, n, rest, true)
    | _ => (sig, d, n, rest, false)
  let (e, eValid, hasExp, rest) := match rest with
    | c :: r =>
      if c == 'e' || c == 'E' then
        let (eneg, r) := match r with
          | '-' :: t => (true, t)
          | '+' :: t => (false, t)
          | t => (false, t)
        let (e, seen, r) := takeExponent r 0 false
        ((if eneg then -(e : Int) else e), seen, true, r)
      else (0, true, false, rest)
    | [] => (0, true, false, [])
  let rest := rest.dropWhile isSpace
  let eType : Nat := 1 + (if point then 1 else 0) + (if hasExp then 1 else 0)
  let x := e + d
  let mag : Float :=
    if sig == 0 then 0
    else if x > 400 then 1.0 / 0.0
    else if x < -400 then 0
    else if x ≥ 0 then Float.ofScientific sig false x.toNat
    else Float.ofScientific sig true (-x).toNat
  let value := if neg then -mag else mag
  let form :=
    if rest.isEmpty && n > 0 && eValid then (if eType == 1 then NumberForm.integer else .real)
    else if eType ≥ 2 && (eType == 3 || eValid) && n > 0 then .realPrefix
    else .none
  (form, value)

/-- How a leading integer reads. -/
inductive IntRead where
  /-- No digits. -/
  | empty
  /-- The integer, and nothing but blanks after it. -/
  | exact
  /-- Text follows the integer. -/
  | trailing
  /-- The integer is beyond 64 bits (it is clamped). -/
  | overflow
  /-- The integer is exactly 2^63 (clamped to the greatest integer). -/
  | edge
  deriving BEq, Inhabited

/-- Read the leading integer of a text (blanks and a sign first), clamped to 64 bits. -/
def readInt64 (s : String) : IntRead × Int :=
  let cs := s.toList.dropWhile isSpace
  let (neg, cs) := match cs with
    | '-' :: r => (true, r)
    | '+' :: r => (false, r)
    | r => (false, r)
  let start := cs
  let cs := cs.dropWhile (· == '0')
  let ds := cs.takeWhile Char.isDigit
  let after := cs.drop ds.length
  let u : Nat := ds.foldl (fun acc c => acc * 10 + (c.toNat - '0'.toNat)) 0
  let clamped : Int := if neg then -(u : Int) else u
  let value : Int :=
    if u > 9223372036854775807 then (if neg then minInt else maxInt) else clamped
  let base : IntRead :=
    if ds.isEmpty && start.length == cs.length then .empty
    else if !(after.all isSpace) then .trailing
    else .exact
  if ds.length < 19 then (base, value)
  else if u < 9223372036854775808 then (base, value)
  else if u > 9223372036854775808 then (.overflow, if neg then minInt else maxInt)
  else if neg then (base, minInt)
  else (.edge, maxInt)

/-- Whether a read of a leading integer is at most "text follows". -/
def IntRead.atMostTrailing : IntRead → Bool
  | .empty | .exact | .trailing => true
  | _ => false

/-! ## Numbers from values -/

/-- A double clamped to 64 bits and cut to an integer toward zero. -/
def realToInt (f : Float) : Int :=
  if f.isNaN then 0
  else if f ≤ -9223372036854775808.0 then minInt
  else if f ≥ 9223372036854775807.0 then maxInt
  else
    let m := f.abs.toUInt64.toNat
    if f < 0 then -(m : Int) else m

/-- A double clamped for the exact test below: just inside 64 bits. -/
def realToIntNear (f : Float) : Int :=
  if f < -9223372036854774784.0 then minInt
  else if f > 9223372036854774784.0 then maxInt
  else realToInt f

/-- Whether a double is zero, or is exactly an integer of magnitude below 2^51. -/
def sameAsInt (f : Float) (i : Int) : Bool :=
  f == 0 || (Float.ofInt i == f && -2251799813685248 ≤ i && i < 2251799813685248)

/-- The text of a value, as text functions see it: null has none. -/
def Value.asText : Value → Option String
  | .null => none
  | .int i => some (toString i)
  | .real f => some (realText f)
  | .text s => some s
  | .blob b => some (Utf8.ofOctets b)

/-- The octets of a value, as blob functions see it. -/
def Value.asBytes : Value → List UInt8
  | .blob b => b
  | v => match v.asText with
    | some s => Utf8.bytes s
    | none => []

/-- A value as an integer: reals cut toward zero (clamped), texts by their leading
integer, null zero. -/
def Value.toInt : Value → Int
  | .int i => i
  | .real f => realToInt f
  | .text s => (readInt64 s).2
  | .blob b => (readInt64 (Utf8.ofOctets b)).2
  | .null => 0

/-- A value as a double: texts by their numeric prefix, null zero. -/
def Value.toReal : Value → Float
  | .int i => Float.ofInt i
  | .real f => f
  | .text s => (readNumber s).2
  | .blob b => (readNumber (Utf8.ofOctets b)).2
  | .null => 0

/-- The number a text stands for in arithmetic: an integer when its numeric prefix is an
integer that fits, else a real. -/
def textNumber (s : String) : Value :=
  let (form, f) := readNumber s
  match form with
  | .none | .realPrefix =>
    let (r, i) := readInt64 s
    if form == .none && r.atMostTrailing then .int i else .real f
  | .integer =>
    let (r, i) := readInt64 s
    if r == .exact then .int i else .real f
  | .real => .real f

/-- A value as a number for arithmetic; null stays null. -/
def Value.numeric : Value → Value
  | .text s => textNumber s
  | .blob b => textNumber (Utf8.ofOctets b)
  | v => v

/-- A real kept as an integer when it is a whole number strictly inside 64 bits. -/
def integerIfWhole (f : Float) : Value :=
  let i := realToInt f
  if !f.isNaN && Float.ofInt i == f && minInt < i && i < maxInt then .int i else .real f

/-- A text that is wholly a number, as that number; other texts stay. With `tryInt`, a
real with no fraction becomes an integer. -/
def numericText (tryInt : Bool) (s : String) : Value :=
  let (form, f) := readNumber s
  match form with
  | .none | .realPrefix => .text s
  | .integer =>
    let i := realToIntNear f
    if sameAsInt f i then .int i
    else
      let (r, j) := readInt64 s
      if r == .exact then .int j
      else if tryInt then integerIfWhole f else .real f
  | .real => if tryInt then integerIfWhole f else .real f

/-! ## Affinity -/

/-- The affinity of a column or expression. -/
inductive Affinity where
  | blob
  | text
  | numeric
  | integer
  | real
  deriving BEq, Inhabited

/-- Whether an affinity is numeric, integer or real. -/
def Affinity.isNumeric : Affinity → Bool
  | .numeric | .integer | .real => true
  | _ => false

/-- The affinity a declared type gives, by the words in it (checked as they come, the last
four characters at each step; `INT` decides at once). -/
def Affinity.ofType (t : String) : Affinity :=
  let cs := t.toList.map Char.toLower
  let rec go : List Char → List Char → Affinity → Affinity
    | [], _, a => a
    | c :: rest, last, a =>
      let last := (last ++ [c]).drop (if last.length ≥ 4 then 1 else 0)
      let w := String.ofList last
      if w.endsWith "int" then .integer
      else if w == "char" || w == "clob" || w == "text" then go rest last .text
      else if w == "blob" && (a == .numeric || a == .real) then go rest last .blob
      else if (w == "real" || w == "floa" || w == "doub") && a == .numeric then go rest last .real
      else go rest last a
  go cs [] .numeric

/-- The affinity of a column with a declared type: none when the type is empty. -/
def Affinity.ofColumnType (t : String) : Affinity :=
  if t.isEmpty then .blob else Affinity.ofType t

/-- A value as a column of an affinity stores it. -/
def Value.withAffinity (a : Affinity) (v : Value) : Value :=
  match a, v with
  | .blob, v => v
  | .text, .int i => .text (toString i)
  | .text, .real f => .text (realText f)
  | .text, v => v
  | .real, .text s =>
    match numericText false s with
    | .int i => .real (Float.ofInt i)
    | w => w
  | .real, .int i => .real (Float.ofInt i)
  | .real, v => v
  | _, .text s => numericText true s
  | _, .real f => integerIfWhole f
  | _, v => v

/-- The affinity to compare two operands with, from theirs (`none`: the operand has none
of its own, as a literal or a function). -/
def compareAffinity (a b : Option Affinity) : Affinity :=
  match a, b with
  | some x, some y => if x.isNumeric || y.isNumeric then .numeric else .blob
  | some x, none => x
  | none, some y => y
  | none, none => .blob

/-- An operand of a comparison with the comparison's affinity applied: a numeric affinity
reads texts that are wholly numbers, a text affinity writes numbers as text. -/
def Value.forComparison (a : Affinity) (v : Value) : Value :=
  match a, v with
  | .numeric, .text s | .integer, .text s | .real, .text s => numericText false s
  | .text, .int i => .text (toString i)
  | .text, .real f => .text (realText f)
  | _, v => v

/-! ## Order -/

/-- How texts are compared. -/
inductive Collation where
  /-- By octets. -/
  | binary
  /-- By octets, ASCII letters folded to lower case. -/
  | nocase
  /-- By octets, trailing blanks ignored. -/
  | rtrim
  deriving BEq, Inhabited

/-- The collation a name stands for. -/
def Collation.ofName? (n : String) : Option Collation :=
  match n.toUpper with
  | "BINARY" => some .binary
  | "NOCASE" => some .nocase
  | "RTRIM" => some .rtrim
  | _ => none

/-- Compare octet runs: by the first that differs, then by length. -/
def compareOctets : List UInt8 → List UInt8 → Ordering
  | [], [] => .eq
  | [], _ :: _ => .lt
  | _ :: _, [] => .gt
  | a :: as, b :: bs => if a < b then .lt else if b < a then .gt else compareOctets as bs

/-- An ASCII letter folded to lower case. -/
def foldOctet (b : UInt8) : UInt8 := if 65 ≤ b && b ≤ 90 then b + 32 else b

/-- Compare texts under a collation. -/
def Collation.compare (c : Collation) (s t : String) : Ordering :=
  match c with
  | .binary => compareOctets (Utf8.bytes s) (Utf8.bytes t)
  | .nocase => compareOctets ((Utf8.bytes s).map foldOctet) ((Utf8.bytes t).map foldOctet)
  | .rtrim =>
    let trim (bs : List UInt8) : List UInt8 := (bs.reverse.dropWhile (· == 32)).reverse
    compareOctets (trim (Utf8.bytes s)) (trim (Utf8.bytes t))

/-- Compare an integer with a double exactly. A NaN is below every integer. -/
def compareIntReal (i : Int) (f : Float) : Ordering :=
  if f.isNaN then .gt
  else if f < -9223372036854775808.0 then .gt
  else if f ≥ 9223372036854775808.0 then .lt
  else
    let y := realToInt f
    if i < y then .lt
    else if i > y then .gt
    else
      let s := Float.ofInt i
      if s < f then .lt else if s > f then .gt else .eq

/-- Compare two doubles. -/
def compareReals (x y : Float) : Ordering :=
  if x < y then .lt else if y < x then .gt else .eq

/-- The rank of a value's kind in the order. -/
def Value.rank : Value → Nat
  | .null => 0
  | .int _ | .real _ => 1
  | .text _ => 2
  | .blob _ => 3

/-- Compare two values. -/
def Value.compare (c : Collation) (a b : Value) : Ordering :=
  match a, b with
  | .int x, .int y => Ord.compare x y
  | .int x, .real y => compareIntReal x y
  | .real x, .int y => (compareIntReal y x).swap
  | .real x, .real y => compareReals x y
  | .text s, .text t => c.compare s t
  | .blob s, .blob t => compareOctets s t
  | _, _ => Ord.compare a.rank b.rank

/-- Whether a value counts as true: a number other than zero (texts by their numeric
prefix); null is neither. -/
def Value.truth? : Value → Option Bool
  | .null => none
  | .int i => some (i != 0)
  | .real f => some (f != 0)
  | v => some (v.toReal != 0)

/-- A truth value as a value: 1, 0, or null. -/
def ofTruth : Option Bool → Value
  | some true => .int 1
  | some false => .int 0
  | none => .null

end Windowing.Sql
