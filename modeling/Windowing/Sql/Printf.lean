import Windowing.Sql.Operators

set_option autoImplicit false

/-! # Formatted text

`printf(FORMAT, …)` copies its format and replaces each conversion `%…` by the next
argument formatted: flags (`-` left, `+` or blank sign, `#` alternate form, `!` count
characters and keep a digit after the point, `0` pad with zeros, `,` group thousands),
a width and a precision (either may be `*`, taken from the arguments), and a letter:
`d` `i` signed, `u` unsigned, `x` `X` `o` in base 16 or 8, `f` `e` `E` `g` `G` reals, `s`
`z` text, `c` a character, `q` `Q` `w` quoted text, and `%` itself. A letter it does not
know ends the output. Missing arguments count as zero, or as no text.

**Reals.** A double's digits are taken from a 64-bit integer between about 9.2·10^17 and
9.2·10^18 that approximates the double scaled by a power of ten (the exact value rounded
toward the double nearest to it). They are then rounded half up to the digits the format
keeps, at most sixteen (twenty-six with `!`), and trailing zeros are dropped. -/

namespace Windowing.Sql

/-- A double's decimal digits: the sign, whether it is an infinity or NaN, the significant
digits, and how many of them come before the decimal point. -/
structure FpDigits where
  negative : Bool
  special : Option Bool := none
  digits : List Nat := [0]
  point : Int := 1
  deriving Inhabited

/-- The decimal digits of a natural number (none for zero). -/
def natDigits (n : Nat) : List Nat :=
  let rec go : Nat → Nat → List Nat → List Nat
    | 0, _, acc => acc
    | fuel + 1, k, acc => if k == 0 then acc else go fuel (k / 10) (k % 10 :: acc)
  go 400 n []

/-- The number of binary digits of a natural number. -/
def bitLength (n : Nat) : Nat := n.log2 + 1

/-- The upper bound of the scaled value. -/
def scaledHigh : Nat := 9223372036854774784

/-- The lower bound of the scaled value. -/
def scaledLow : Nat := 922337203685477504

/-- The power of ten that scales `num / den` into the range the digits are taken from. -/
def scaleExponent (num den : Nat) : Int :=
  let digitsOf (k : Nat) : Nat := (Nat.repr k).length
  let lead : Int := (digitsOf num : Int) - (digitsOf den : Int)
  if num > scaledHigh * den then
    let start := max 1 (lead - 20)
    let rec up : Nat → Int → Int
      | 0, k => k
      | fuel + 1, k => if num ≤ scaledHigh * den * Nat.pow 10 k.toNat then k else up fuel (k + 1)
    up 60 start
  else
    let start := max 0 (17 - lead - 2)
    let rec down : Nat → Int → Int
      | 0, j => j
      | fuel + 1, j => if num * Nat.pow 10 j.toNat ≥ scaledLow * den then j else down fuel (j + 1)
    0 - down 60 start

/-- The significant digits of a positive double and its point, before rounding. -/
def rawDigits (m : Nat) (q : Int) : List Nat × Int :=
  let num := m * Nat.pow 2 q.toNat
  let den := Nat.pow 2 (-q).toNat
  let exp := scaleExponent num den
  let num' := num * Nat.pow 10 (-exp).toNat
  let den' := den * Nat.pow 10 exp.toNat
  let fl := num' / den'
  let spacing := Nat.pow 2 (bitLength fl - 53)
  let unit := den' * spacing
  let t := num' / unit
  let r := num' % unit
  let t := if 2 * r > unit || (2 * r == unit && t % 2 == 1) then t + 1 else t
  let nearest := t * spacing
  let v := if nearest * den' ≤ num' || num' % den' == 0 then fl else fl + 1
  let ds := natDigits v
  (ds, (ds.length : Int) + exp)

/-- Add one to the last of some digits: the digits and whether a digit was added in
front. -/
def incrementDigits (ds : List Nat) : List Nat × Bool :=
  let rec go : List Nat → List Nat × Bool
    | [] => ([], true)
    | d :: rest =>
      if d == 9 then
        let (r, carry) := go rest
        (0 :: r, carry)
      else ((d + 1) :: rest, false)
  match go ds.reverse with
  | (r, true) => (1 :: r.reverse, true)
  | (r, false) => (r.reverse, false)

/-- Drop trailing zeros (keeping one digit). -/
def dropTrailingZeros (ds : List Nat) : List Nat :=
  match (ds.reverse.dropWhile (· == 0)).reverse with
  | [] => [0]
  | r => r

/-- Decode a double, rounding to `iRound` significant digits (when not positive, to that
many places after the point), at most `mxRound`. -/
def fpDecode (f : Float) (iRound : Int) (mxRound : Nat) : FpDigits :=
  match Decimal.parts f with
  | .nan => { negative := false, special := some true }
  | .infinite neg => { negative := neg, special := some false }
  | .finite neg m q =>
    if m == 0 then { negative := false }
    else
      let (ds, point) := rawDigits m q
      let (iRound, ds, point) :=
        if iRound ≤ 0 then
          let r := point - iRound
          if r == 0 && (ds.headD 0) ≥ 5 then (1, 0 :: ds, point + 1) else (r, ds, point)
        else (iRound, ds, point)
      let n := ds.length
      let (ds, point) :=
        if iRound > 0 && (iRound < n || n > mxRound) then
          let keep := min iRound.toNat mxRound
          let kept := ds.take keep
          if (ds.getD keep 0) ≥ 5 then
            let (r, grew) := incrementDigits kept
            (if grew then (r, point + 1) else (r, point))
          else (kept, point)
        else (ds, point)
      { negative := neg, digits := dropTrailingZeros ds, point }

/-- The flags, width and precision of a conversion. -/
structure Spec where
  leftJustify : Bool := false
  signChar : Option Char := none
  alternate : Bool := false
  altForm2 : Bool := false
  zeroPad : Bool := false
  thousands : Bool := false
  width : Nat := 0
  precision : Option Nat := none
  deriving Inhabited

/-- Octets of a text. -/
def octets (s : String) : List UInt8 := Utf8.bytes s

/-- Octets of ASCII characters. -/
def asciiOctets (cs : List Char) : List UInt8 := cs.map fun c => UInt8.ofNat c.toNat

/-- A digit as a character. -/
def digitChar (d : Nat) : Char := Char.ofNat (48 + d)

/-- The text of a real under `f`, `e` or `g` (`upper` for `E` and `G`). -/
def formatReal (sp : Spec) (kind : Char) (upper : Bool) (f : Float) : List Char :=
  let precision0 := sp.precision.getD 6
  let precision0 := if kind == 'g' && precision0 == 0 then 1 else precision0
  let iRound : Int := if kind == 'f' then -(precision0 : Int) else if kind == 'g' then precision0 else precision0 + 1
  let s := fpDecode f iRound (if sp.altForm2 then 26 else 16)
  match s.special with
  | some true => if sp.zeroPad then "null".toList else "NaN".toList
  | some false =>
    if sp.zeroPad then
      -- an infinity padded with zeros prints as a nine with a thousand-place point
      let s' : FpDigits := { s with special := none, digits := [9], point := 1000 }
      formatDigits s'
    else
      if s.negative then "-Inf".toList
      else match sp.signChar with
        | some c => c :: "Inf".toList
        | none => "Inf".toList
  | none => formatDigits s
where
  formatDigits (s : FpDigits) : List Char :=
    let prefixChar : Option Char := if s.negative then some '-' else sp.signChar
    let precision0 := sp.precision.getD 6
    let precision0 := if kind == 'g' && precision0 == 0 then 1 else precision0
    let exp := s.point - 1
    let precision : Nat := if kind == 'g' && precision0 > 0 then precision0 - 1 else precision0
    let (useExp, precision, rtz) : Bool × Nat × Bool :=
      if kind == 'g' then
        if exp < -4 || exp > precision then (true, precision, !sp.alternate)
        else (false, (precision - exp).toNat, !sp.alternate)
      else (kind == 'e', precision, sp.altForm2)
    let e2 : Int := if useExp then 0 else s.point - 1
    let dp := precision > 0 || sp.alternate || sp.altForm2
    let digitAt (j : Nat) : Char := digitChar (s.digits.getD j 0)
    -- digits before the point
    let (front, j) : List Char × Nat :=
      if e2 < 0 then (['0'], 0)
      else
        let count := e2.toNat + 1
        let cs := (List.range count).foldl (fun acc (i : Nat) =>
          let e := e2 - i
          let acc := acc ++ [if i < s.digits.length then digitAt i else '0']
          if sp.thousands && e % 3 == 0 && e > 1 then acc ++ [','] else acc) []
        (cs, min count s.digits.length)
    let point := if dp then ['.'] else []
    -- zeros after the point before the first significant digit
    let lead : Nat := if e2 < 0 then min (-(e2 + 1)).toNat precision else 0
    let zeros := List.replicate lead '0'
    let rest := precision - lead
    let tail := (List.range rest).map fun i => digitAt (j + i)
    let body := front ++ point ++ zeros ++ tail
    let body :=
      if rtz && dp then
        let t := body.reverse.dropWhile (· == '0')
        match t with
        | '.' :: more => if sp.altForm2 then ('0' :: '.' :: more).reverse else more.reverse
        | t => t.reverse
      else body
    let suffix : List Char :=
      if useExp then
        let x := s.point - 1
        let mark := if upper then 'E' else 'e'
        let sign := if x < 0 then '-' else '+'
        let a := x.natAbs
        let ds := if a ≥ 100 then [digitChar (a / 100), digitChar (a / 10 % 10), digitChar (a % 10)]
          else [digitChar (a / 10), digitChar (a % 10)]
        mark :: sign :: ds
      else []
    let out := (match prefixChar with | some c => [c] | none => []) ++ body ++ suffix
    if sp.zeroPad && !sp.leftJustify && out.length < sp.width then
      let pad := List.replicate (sp.width - out.length) '0'
      match prefixChar with
      | some c => c :: pad ++ (out.drop 1)
      | none => pad ++ out
    else out

/-- The digits of a natural number in a base (`upper` for capital letters). -/
def radixDigits (base : Nat) (upper : Bool) (n : Nat) : List Char :=
  let digit (d : Nat) : Char :=
    if d < 10 then digitChar d
    else Char.ofNat ((if upper then 55 else 87) + d)
  let rec go : Nat → Nat → List Char → List Char
    | 0, _, acc => acc
    | fuel + 1, k, acc => if k < base then digit k :: acc else go fuel (k / base) (digit (k % base) :: acc)
  go 80 n []

/-- Digits grouped by three with commas. -/
def groupThousands (cs : List Char) : List Char :=
  let n := cs.length
  (cs.zipIdx.foldl (fun acc (c, i) =>
    let acc := acc ++ [c]
    let left := n - 1 - i
    if left > 0 && left % 3 == 0 then acc ++ [','] else acc) [])

/-- The text of an integer under `d`, `i`, `u`, `x`, `X`, `o` or `r`. -/
def formatInteger (sp : Spec) (kind : Char) (v : Int) : List Char :=
  let signed := kind == 'd' || kind == 'i' || kind == 'r'
  let (mag, prefixChar) : Nat × Option Char :=
    if signed then (if v < 0 then (v.natAbs, some '-') else (v.toNat, sp.signChar))
    else ((toBits v).toNat, none)
  let (base, upper, altPrefix) : Nat × Bool × List Char :=
    match kind with
    | 'x' => (16, false, ['0', 'x'])
    | 'X' => (16, true, ['0', 'X'])
    | 'o' => (8, true, ['0'])
    | 'p' => (16, true, ['0', 'x'])
    | _ => (10, true, [])
  let alternate := sp.alternate && mag != 0
  let thousands := sp.thousands && (kind == 'd' || kind == 'i' || kind == 'u')
  let precision : Nat := sp.precision.getD 0
  let precision :=
    if sp.zeroPad && (precision : Int) < (sp.width : Int) - (if prefixChar.isSome then 1 else 0) then
      sp.width - (if prefixChar.isSome then 1 else 0)
    else precision
  let ordinal : List Char :=
    if kind == 'r' then
      let x := mag % 10
      let x := if x ≥ 4 || (mag / 10) % 10 == 1 then 0 else x
      match x with
      | 1 => ['s', 't']
      | 2 => ['n', 'd']
      | 3 => ['r', 'd']
      | _ => ['t', 'h']
    else []
  let ds := radixDigits base upper mag ++ ordinal
  let ds := if ds.length < precision then List.replicate (precision - ds.length) '0' ++ ds else ds
  let ds := if thousands then groupThousands ds else ds
  let ds := match prefixChar with | some c => c :: ds | none => ds
  if alternate then altPrefix ++ ds else ds

/-- Pad converted octets to the width with blanks. -/
def padOctets (sp : Spec) (width : Nat) (bs : List UInt8) : List UInt8 :=
  if width > bs.length then
    let pad := List.replicate (width - bs.length) (32 : UInt8)
    if sp.leftJustify then bs ++ pad else pad ++ bs
  else bs

/-- The width counted in characters when `!` is given: widened by the continuation
octets of the text. -/
def utf8Width (sp : Spec) (bs : List UInt8) : Nat :=
  if sp.altForm2 && sp.width > 0 then sp.width + (bs.filter Utf8.isTail).length else sp.width

/-- The octets of a text up to a precision: octets, or characters with `!`. -/
def takePrecision (sp : Spec) (bs : List UInt8) : List UInt8 :=
  match sp.precision with
  | none => bs
  | some p =>
    if sp.altForm2 then
      let rec chars : Nat → List UInt8 → List UInt8 → List UInt8
        | _, [], acc => acc.reverse
        | 0, _, acc => acc.reverse
        | k + 1, b :: rest, acc =>
          let tails := rest.takeWhile Utf8.isTail
          chars k (rest.drop tails.length) ((b :: tails).reverse ++ acc)
      chars p bs []
    else bs.take p

/-- The arguments not yet used. -/
abbrev ArgState := StateM (List Value)

/-- The next argument. -/
def nextArg : ArgState (Option Value) := do
  match ← get with
  | v :: rest => set rest; return some v
  | [] => return none

/-- The next argument as an integer (zero when none is left). -/
def intArg : ArgState Int := do return ((← nextArg).map Value.toInt).getD 0

/-- The next argument as a double. -/
def realArg : ArgState Float := do return ((← nextArg).map Value.toReal).getD 0

/-- The next argument as text (none for null or when none is left). -/
def textArg : ArgState (Option String) := do return (← nextArg).bind Value.asText

/-- A 32-bit signed integer from a 64-bit one. -/
def wrapInt32 (i : Int) : Int :=
  let u := i % 4294967296
  if u ≥ 2147483648 then u - 4294967296 else u

/-- Read the digits at the head of a format. -/
def readDigits (cs : List Char) : Nat × List Char :=
  let ds := cs.takeWhile Char.isDigit
  (ds.foldl (fun acc c => acc * 10 + (c.toNat - 48)) 0, cs.drop ds.length)

/-- Read the flags, width and precision of a conversion: the spec, the conversion letter
and the rest of the format. -/
def readSpec : Nat → List Char → Spec → ArgState (Spec × Option Char × List Char)
  | 0, cs, sp => return (sp, cs.head?, cs.drop 1)
  | fuel + 1, cs, sp =>
    match cs with
    | [] => return (sp, none, [])
    | c :: rest =>
      match c with
      | '-' => readSpec fuel rest { sp with leftJustify := true }
      | '+' => readSpec fuel rest { sp with signChar := some '+' }
      | ' ' => readSpec fuel rest { sp with signChar := some ' ' }
      | '#' => readSpec fuel rest { sp with alternate := true }
      | '!' => readSpec fuel rest { sp with altForm2 := true }
      | '0' => readSpec fuel rest { sp with zeroPad := true }
      | ',' => readSpec fuel rest { sp with thousands := true }
      | 'l' =>
        match rest with
        | 'l' :: more => return (sp, more.head?, more.drop 1)
        | more => return (sp, more.head?, more.drop 1)
      | '*' => do
        let w := wrapInt32 (← intArg)
        let sp := if w < 0 then { sp with leftJustify := true, width := if w ≥ -2147483647 then (-w).toNat else 0 }
          else { sp with width := w.toNat }
        match rest with
        | '.' :: _ | 'l' :: _ => readSpec fuel rest sp
        | more => return (sp, more.head?, more.drop 1)
      | '.' =>
        match rest with
        | '*' :: more => do
          let p := wrapInt32 (← intArg)
          let prec : Option Nat := if p < 0 then (if p ≥ -2147483647 then some (-p).toNat else none) else some p.toNat
          let sp := { sp with precision := prec }
          match more with
          | 'l' :: _ => readSpec fuel more sp
          | m => return (sp, m.head?, m.drop 1)
        | more =>
          let (p, after) := readDigits more
          let sp := { sp with precision := some (p % 2147483648) }
          match after with
          | 'l' :: _ => readSpec fuel after sp
          | m => return (sp, m.head?, m.drop 1)
      | d =>
        if '1' ≤ d && d ≤ '9' then
          let (w, after) := readDigits cs
          let sp := { sp with width := w % 2147483648 }
          match after with
          | '.' :: _ | 'l' :: _ => readSpec fuel after sp
          | m => return (sp, m.head?, m.drop 1)
        else return (sp, some c, rest)

/-- A quoted text for `q`, `Q` and `w`. -/
def quoteOctets (sp : Spec) (kind : Char) (arg : Option String) : List UInt8 :=
  let q : UInt8 := if kind == 'w' then 34 else 39
  let src := octets (arg.getD (if kind == 'Q' then "NULL" else "(NULL)"))
  let used := match sp.precision with
    | none => src
    | some _ => takePrecision sp src
  let body := used.foldr (fun b acc => if b == q then b :: b :: acc else b :: acc) []
  if arg.isSome && kind == 'Q' then q :: body ++ [q] else body

/-- Format the rest of a format string after the output so far (none while nothing has
been written, not even an empty conversion). -/
def formatLoop : Nat → List Char → Option (List UInt8) → ArgState (Option (List UInt8))
  | 0, _, acc => return acc
  | fuel + 1, cs, acc =>
    let add (bs : List UInt8) : Option (List UInt8) := some (acc.getD [] ++ bs)
    match cs with
    | [] => return acc
    | '%' :: rest =>
      match rest with
      | [] => return add [37]
      | _ => do
        let (sp, letter, more) ← readSpec (rest.length + 1) rest {}
        match letter with
        | none => return acc
        | some c =>
          let piece : Option (List UInt8) ← match c with
            | 'd' | 'i' | 'u' | 'x' | 'X' | 'o' | 'r' | 'p' => do
              let v ← intArg
              let sp := if c == 'x' || c == 'X' || c == 'o' || c == 'r' || c == 'p' then { sp with thousands := false } else sp
              pure (some (padOctets sp sp.width (asciiOctets (formatInteger sp c v))))
            | 'f' | 'e' | 'E' | 'g' | 'G' => do
              let f ← realArg
              let kind := if c == 'E' then 'e' else if c == 'G' then 'g' else c
              pure (some (padOctets sp sp.width (asciiOctets (formatReal sp kind (c == 'E' || c == 'G') f))))
            | 's' | 'z' => do
              let t ← textArg
              let bs := takePrecision sp (octets (t.getD ""))
              pure (some (padOctets sp (utf8Width sp bs) bs))
            | 'q' | 'Q' | 'w' => do
              let t ← textArg
              let bs := quoteOctets sp c t
              pure (some (padOctets sp (utf8Width sp bs) bs))
            | 'c' => do
              let t ← textArg
              let ch : List UInt8 := match t with
                | some s => match s.toList with
                  | x :: _ => Utf8.charOctets x
                  | [] => [0]
                | none => [0]
              let copies := (sp.precision.getD 1)
              if copies > 1 then
                let w : Int := (sp.width : Int) - (copies - 1 : Nat)
                let (pad, w) : List UInt8 × Int :=
                  if w > 1 && !sp.leftJustify then (List.replicate (w - 1).toNat 32, 0) else ([], w)
                let repeated := (List.replicate (copies - 1) ch).flatten
                let last := padOctets sp (utf8Width { sp with altForm2 := true, width := w.toNat } ch) ch
                pure (some (pad ++ repeated ++ last))
              else
                pure (some (padOctets sp (utf8Width { sp with altForm2 := true } ch) ch))
            | '%' => pure (some (padOctets sp sp.width [37]))
            | 'n' => pure (some [])
            | _ => pure none
          match piece with
          | some bs => formatLoop fuel more (add bs)
          | none => return acc
    | c :: rest =>
      let text := (c :: rest).takeWhile (· != '%')
      formatLoop fuel ((c :: rest).drop text.length) (add (octets (String.ofList text)))

/-- `printf(FORMAT, args…)`: the formatted text, none when the format wrote nothing (it is
empty, or its first conversion is not one). -/
def printfValue (format : String) (args : List Value) : Option String :=
  let cs := format.toList
  (Id.run ((formatLoop (cs.length + 1) cs none).run args)).1.map Utf8.ofOctets

/-- The formatted text, empty when the format wrote nothing. -/
def printfText (format : String) (args : List Value) : String :=
  (printfValue format args).getD ""

/-- A double as `%!.15g` writes it: fifteen significant digits, a digit kept after the
point. -/
def realText15 (f : Float) : String :=
  String.ofList (formatReal { altForm2 := true, precision := some 15 } 'g' false f)

end Windowing.Sql
