import Windowing.Text.Utf8

set_option autoImplicit false

/-! # Numerals and quoted literals of the template language

Integer numerals have an optional sign, an optional base prefix (`0x`, `0o`, `0b`, or a
leading `0` for octal) and digits that an underscore may separate (an underscore stands
only between digits, or between the prefix and a digit). Decimal float numerals have
digits, a fraction and an exponent. A quoted literal is a string between double quotes
with backslash escapes, a raw string between back quotes (carriage returns dropped), or a
character between single quotes. -/

namespace Windowing.Text

/-- The value of a digit character in bases up to 16. -/
def digitValue (c : Char) : Option Nat :=
  if c.isDigit then some (c.toNat - 48)
  else if 'a' ≤ c ∧ c ≤ 'f' then some (c.toNat - 87)
  else if 'A' ≤ c ∧ c ≤ 'F' then some (c.toNat - 55)
  else none

/-- Whether the underscores of a numeral stand only between digits, or between the base
prefix and a digit. -/
def underscoresOk (cs : List Char) : Bool :=
  let body := match cs with
    | '-' :: r | '+' :: r => r
    | r => r
  let (start, hex, rest) : Char × Bool × List Char :=
    match body with
    | '0' :: b :: r =>
      let l := b.toLower
      if l == 'b' || l == 'o' || l == 'x' then ('0', l == 'x', r) else ('^', false, body)
    | _ => ('^', false, body)
  let step (saw : Option Char) (c : Char) : Option Char :=
    match saw with
    | none => none
    | some s =>
      if c.isDigit || (hex && 'a' ≤ c.toLower && c.toLower ≤ 'f') then some '0'
      else if c == '_' then (if s == '0' then some '_' else none)
      else if s == '_' then none
      else some '!'
  match rest.foldl step (some start) with
  | some s => s != '_'
  | none => false

/-- Digits in a base, underscores skipped, as a natural number. -/
def digitsValue (base : Nat) (cs : List Char) : Option Nat :=
  let ds := cs.filter (· != '_')
  if ds.isEmpty then none
  else ds.foldl (fun acc c =>
    match acc, digitValue c with
    | some a, some d => if d < base then some (a * base + d) else none
    | _, _ => none) (some 0)

/-- An unsigned integer numeral with a base prefix or a leading zero for octal. -/
def parseUnsigned (cs : List Char) : Option Nat :=
  if !underscoresOk cs then none else
  match cs with
  | '0' :: b :: rest =>
    let l := b.toLower
    if l == 'x' then digitsValue 16 rest
    else if l == 'o' then digitsValue 8 rest
    else if l == 'b' then digitsValue 2 rest
    else digitsValue 8 (b :: rest)
  | _ => digitsValue 10 cs

/-- A signed integer numeral that fits in 64 bits. -/
def parseInt64 (s : String) : Option Int :=
  let cs := s.toList
  let (neg, body) := match cs with
    | '-' :: r => (true, r)
    | '+' :: r => (false, r)
    | r => (false, r)
  match parseUnsigned body with
  | none => none
  | some n =>
    let v : Int := if neg then -(n : Int) else n
    if v < -9223372036854775808 ∨ v ≥ 9223372036854775808 then none else some v

/-- A decimal integer with an optional sign and no separators that fits in 64 bits. -/
def parseDecimalInt64 (s : String) : Option Int :=
  let cs := s.toList
  let (neg, ds) := match cs with
    | '-' :: r => (true, r)
    | '+' :: r => (false, r)
    | r => (false, r)
  if ds.isEmpty || !ds.all Char.isDigit then none
  else
    let n : Nat := ds.foldl (fun (a : Nat) c => a * 10 + (c.toNat - 48)) 0
    let v : Int := if neg then -(n : Int) else n
    if v < -9223372036854775808 ∨ v ≥ 9223372036854775808 then none else some v

/-- An unsigned integer numeral (no sign allowed) that fits in 64 bits. -/
def parseUint64 (s : String) : Option Nat :=
  match s.toList with
  | '+' :: _ | '-' :: _ => none
  | cs => match parseUnsigned cs with
    | some n => if n < 18446744073709551616 then some n else none
    | none => none

/-- The decimal float numeral `digits[.digits][e[+-]digits]`, with an optional sign, as
a double, an infinity when its value is out of range; `none` when it is not such a
numeral. -/
def readDecimalFloat (s : String) : Option Float :=
  let cs := s.toList
  if !underscoresOk cs then none else
  let (neg, body) := match cs with
    | '-' :: r => (true, r)
    | '+' :: r => (false, r)
    | r => (false, r)
  let body := body.filter (· != '_')
  let intPart := body.takeWhile Char.isDigit
  let r1 := body.drop intPart.length
  let (fracPart, r2) := match r1 with
    | '.' :: r => (r.takeWhile Char.isDigit, r.drop (r.takeWhile Char.isDigit).length)
    | r => ([], r)
  let hasPoint := match r1 with | '.' :: _ => true | _ => false
  if intPart.isEmpty && fracPart.isEmpty then none else
  let expo : Option Int := match r2 with
    | [] => some 0
    | e :: r =>
      if e == 'e' || e == 'E' then
        let (eneg, ds) := match r with
          | '-' :: d => (true, d)
          | '+' :: d => (false, d)
          | d => (false, d)
        if ds.isEmpty || !ds.all Char.isDigit then none
        else
          let v := digitsValue 10 ds
          v.map (fun n => if eneg then -(n : Int) else n)
      else none
  let _ := hasPoint
  match expo, digitsValue 10 (intPart ++ fracPart) with
  | some x, some mant =>
    let e := x - fracPart.length
    let size : Int := (toString mant).length
    let f : Float :=
      if mant == 0 then 0
      -- beyond the range of doubles the value is an infinity or zero, without computing it
      else if e + size - 1 > 308 then 1.0 / 0.0
      else if e + size < -324 then 0
      else if e ≥ 0 then Float.ofScientific mant false e.toNat
      else Float.ofScientific mant true (-e).toNat
    some (if neg then -f else f)
  | _, _ => none

/-- `m · 2^e` rounded to the nearest double, a tie going to the even one (an infinity
beyond the range). -/
def binaryToFloat (m : Nat) (e : Int) : Float :=
  if m == 0 then 0
  else
    let bits := Nat.log2 m + 1
    let shift : Int := max ((bits : Int) - 53) (-1074 - e)
    if shift ≤ 0 then Float.scaleB (Float.ofNat m) e
    else if shift > bits then 0
    else
      let s := shift.toNat
      let q := m / Nat.pow 2 s
      let r := m % Nat.pow 2 s
      let half := Nat.pow 2 (s - 1)
      let q := if r > half || (r == half && q % 2 == 1) then q + 1 else q
      Float.scaleB (Float.ofNat q) (e + shift)

/-- The hexadecimal float numeral `0x[digits][.digits]p[+-]digits`, with an optional sign,
as a double (an infinity when out of range); `none` when it is not such a numeral. The
exponent, of two, is required. -/
def readHexFloat (s : String) : Option Float :=
  let cs := s.toList
  if !underscoresOk cs then none else
  let (neg, body) := match cs with
    | '-' :: r => (true, r)
    | '+' :: r => (false, r)
    | r => (false, r)
  match body with
  | '0' :: x :: rest =>
    if x != 'x' && x != 'X' then none else
    let isHex (c : Char) : Bool := (digitValue c).isSome
    let rest := rest.filter (· != '_')
    let intPart := rest.takeWhile isHex
    let r1 := rest.drop intPart.length
    let (fracPart, r2) := match r1 with
      | '.' :: r => (r.takeWhile isHex, r.drop (r.takeWhile isHex).length)
      | r => ([], r)
    if intPart.isEmpty && fracPart.isEmpty then none else
    match r2 with
    | p :: r3 =>
      if p != 'p' && p != 'P' then none else
      let (eneg, ds) := match r3 with
        | '-' :: d => (true, d)
        | '+' :: d => (false, d)
        | d => (false, d)
      if ds.isEmpty || !ds.all Char.isDigit then none else
      match digitsValue 10 ds, digitsValue 16 (intPart ++ fracPart) with
      | some ev, some m =>
        -- an exponent this far out leaves only an infinity or zero
        let ev : Int := min ev 100000
        let f := binaryToFloat m ((if eneg then -ev else ev) - 4 * fracPart.length)
        some (if neg then -f else f)
      | _, _ => none
    | [] => none
  | _ => none

/-- A float numeral, decimal or hexadecimal, as a double (an infinity when out of
range); `none` when it is no float numeral. -/
def readFloatNumeral (s : String) : Option Float :=
  (readHexFloat s).orElse fun _ => readDecimalFloat s

/-- The decimal float numeral `digits[.digits][e[+-]digits]`, with an optional sign, as
a double; `none` when it is not such a numeral or its value is out of range. -/
def parseDecimalFloat (s : String) : Option Float :=
  (readDecimalFloat s).filter (!·.isInf)

/-- One escape or character of a quoted literal at the head of text, and the rest after
it: the code it stands for, and whether it is a single octet written `\xHH` or `\OOO`
(which stands for itself in a character constant, and for a lone octet in text). -/
def unquoteCode (q : Char) : List Char → Option ((Nat × Bool) × List Char)
  | [] => none
  | '\\' :: rest =>
    match rest with
    | 'a' :: r => some ((7, false), r)
    | 'b' :: r => some ((8, false), r)
    | 'f' :: r => some ((12, false), r)
    | 'n' :: r => some ((10, false), r)
    | 'r' :: r => some ((13, false), r)
    | 't' :: r => some ((9, false), r)
    | 'v' :: r => some ((11, false), r)
    | '\\' :: r => some ((92, false), r)
    | c :: r =>
      if c == q && (q == '\'' || q == '"') then some ((c.toNat, false), r)
      else if c == 'x' then
        match digitsValue 16 (r.take 2) with
        | some n => if (r.take 2).length == 2 then some ((n, true), r.drop 2) else none
        | none => none
      else if c == 'u' || c == 'U' then
        let w := if c == 'u' then 4 else 8
        match digitsValue 16 (r.take w) with
        | some n =>
          if (r.take w).length == w && ((r.take w).all (· != '_')) && n ≤ 0x10FFFF &&
              !(0xD800 ≤ n && n ≤ 0xDFFF) then some ((n, false), r.drop w) else none
        | none => none
      else if '0' ≤ c ∧ c ≤ '7' then
        match digitsValue 8 ((c :: r).take 3) with
        | some n => if ((c :: r).take 3).length == 3 && n ≤ 255 then
            some ((n, true), (c :: r).drop 3)
            else none
        | none => none
      else none
    | [] => none
  | c :: rest => if c == q || c == '\n' then none else some ((c.toNat, false), rest)

/-- One escape or character of a quoted literal, and the rest after it; a lone octet
beyond ASCII is kept as a stray octet. -/
def unquoteStep (q : Char) (cs : List Char) : Option (Char × List Char) :=
  (unquoteCode q cs).map fun ((n, octet), r) =>
    (if octet && n ≥ 0x80 then Utf8.strayChar n.toUInt8 else Char.ofNat n, r)

/-- The characters of the inside of a quoted literal. -/
def unquoteBody (q : Char) (cs : List Char) : Option (List Char) :=
  go cs.length cs []
where
  go : Nat → List Char → List Char → Option (List Char)
    | _, [], acc => some acc.reverse
    | 0, _, _ => none
    | fuel + 1, cs, acc =>
      match unquoteStep q cs with
      | some (c, rest) => go fuel rest (c :: acc)
      | none => none

/-- The value of a quoted literal: double quotes, back quotes or one character between
single quotes. Octets written one by one join into the characters they form (`"\xc3\xa9"`
is `é`). -/
def unquote (s : String) : Option String :=
  let cs := s.toList
  match cs, cs.getLast? with
  | '`' :: rest, some '`' =>
    if cs.length < 2 then none else
    let inner := rest.dropLast
    if inner.contains '`' then none else some (String.ofList (inner.filter (· != '\r')))
  | '"' :: rest, some '"' =>
    if cs.length < 2 then none
    else (unquoteBody '"' rest.dropLast).map fun b => Utf8.normalize (String.ofList b)
  | '\'' :: rest, some '\'' =>
    if cs.length < 2 then none else
    match unquoteBody '\'' rest.dropLast with
    | some [c] => some c.toString
    | _ => none
  | _, _ => none

end Windowing.Text
