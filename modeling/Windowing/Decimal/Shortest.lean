set_option autoImplicit false

/-! # Decimal text of binary floating-point numbers

A finite double is `m · 2^q` exactly. Its shortest decimal is the decimal with the fewest
significant digits that reads back as the same double, that is, that lies in the interval
of reals rounding to it (ends included when `m` is even); of two such decimals with the
fewest digits, the nearer one is taken, and an exact tie goes to the even one. The search
tries one, two, … seventeen digits; on each grid only the two neighbours of the value can
lie in the interval, because the interval is convex and holds the value.

A decimal with a fixed number of digits or places is the exact value rounded, a tie going
to the even digit.

Everything here is exact arithmetic on natural numbers. -/

namespace Windowing.Decimal

/-- A decimal `digits · 10^exp`; `digits` has no trailing zero unless it is zero. -/
structure Digits where
  digits : Nat
  exp : Int
  deriving Inhabited, BEq, Repr

/-- How a double splits: a sign and a finite magnitude `m · 2^q`, an infinity or NaN. -/
inductive Parts where
  | finite (neg : Bool) (m : Nat) (q : Int)
  | infinite (neg : Bool)
  | nan
  deriving Inhabited

/-- Split a double into sign, integer significand and binary exponent. -/
def parts (f : Float) : Parts :=
  let bits : Nat := f.toBits.toNat
  let neg : Bool := (bits / Nat.pow 2 63) % 2 == 1
  let e : Nat := (bits / Nat.pow 2 52) % 2048
  let frac : Nat := bits % Nat.pow 2 52
  if e == 2047 then (if frac == 0 then .infinite neg else .nan)
  else if e == 0 then .finite neg frac (-1074)
  else .finite neg (frac + Nat.pow 2 52) ((e : Int) - 1075)

/-- Compare `c · 10^e` with `a · 2^b`, exactly. -/
def compareScaled (c : Nat) (e : Int) (a : Nat) (b : Int) : Ordering :=
  let e1 := (-e).toNat
  let b1 := (-b).toNat
  let lhs := c * Nat.pow 10 (e + e1).toNat * Nat.pow 2 b1
  let rhs := a * Nat.pow 2 (b + b1).toNat * Nat.pow 10 e1
  compare lhs rhs

/-- `⌊m · 2^q / 10^e⌋` and whether the division left a remainder, with the remainder
compared to one half of the divisor (`.lt`, `.eq`, `.gt`). -/
def divPow10 (m : Nat) (q : Int) (e : Int) : Nat × Ordering :=
  let num := m * Nat.pow 2 q.toNat * Nat.pow 10 (-e).toNat
  let den := Nat.pow 2 (-q).toNat * Nat.pow 10 e.toNat
  (num / den, compare (2 * (num % den)) den)

/-- The decimal exponent of the leading digit of `m · 2^q` (with `m > 0`). -/
def leadExponent (m : Nat) (q : Int) : Int :=
  let num := m * Nat.pow 2 q.toNat
  let den := Nat.pow 2 (-q).toNat
  let ip := num / den
  if ip > 0 then ((Nat.toDigits 10 ip).length : Int) - 1
  else -((tensBelow den 400 0 num : Nat) : Int)
where
  /-- How many factors of ten bring `n` up to `den`. -/
  tensBelow (den : Nat) : Nat → Nat → Nat → Nat
    | 0, k, _ => k
    | fuel + 1, k, n => if n ≥ den then k else tensBelow den fuel (k + 1) (n * 10)

/-- Drop trailing zeros, moving them into the exponent. -/
def normalize (d : Digits) : Digits :=
  go 40 d.digits d.exp
where
  go : Nat → Nat → Int → Digits
    | 0, n, e => ⟨n, e⟩
    | fuel + 1, n, e => if n ≠ 0 ∧ n % 10 = 0 then go fuel (n / 10) (e + 1) else ⟨n, e⟩

/-- The shortest decimal of `m · 2^q` that reads back as the same double. -/
def shortest (m : Nat) (q : Int) : Digits :=
  if m = 0 then ⟨0, 0⟩ else
  let inclusive := m % 2 == 0
  -- the ends of the interval of reals that round to this double
  let hiA := 2 * m + 1
  let hiB := q - 1
  let (loA, loB) : Nat × Int :=
    if m == Nat.pow 2 52 && q > -1074 then (4 * m - 1, q - 2) else (2 * m - 1, q - 1)
  let inside (c : Nat) (e : Int) : Bool :=
    let aboveLo := match compareScaled c e loA loB with
      | .gt => true
      | .eq => inclusive
      | .lt => false
    let belowHi := match compareScaled c e hiA hiB with
      | .lt => true
      | .eq => inclusive
      | .gt => false
    aboveLo && belowHi
  let lead := leadExponent m q
  let rec search : Nat → Nat → Digits
    | 0, _ => ⟨m, 0⟩
    | fuel + 1, n =>
      let e := lead - (n : Int) + 1
      let (lo, _) := divPow10 m q e
      let hi := lo + 1
      let okLo := inside lo e
      let okHi := inside hi e
      if okLo && okHi then
        -- nearer of the two; a tie goes to the even one
        match compareScaled (2 * lo + 1) e (2 * m) q with
        | .lt => normalize ⟨hi, e⟩
        | .gt => normalize ⟨lo, e⟩
        | .eq => normalize ⟨if lo % 2 == 0 then lo else hi, e⟩
      else if okLo then normalize ⟨lo, e⟩
      else if okHi then normalize ⟨hi, e⟩
      else search fuel (n + 1)
  search 17 1

/-- `m · 2^q` rounded to a multiple of `10^e`, a tie going to the even multiple. -/
def roundAt (m : Nat) (q : Int) (e : Int) : Nat :=
  let (d, half) := divPow10 m q e
  match half with
  | .lt => d
  | .gt => d + 1
  | .eq => if d % 2 == 0 then d else d + 1

/-- `m · 2^q` rounded to `n ≥ 1` significant digits, as a normalized decimal. -/
def roundSignificant (m : Nat) (q : Int) (n : Nat) : Digits :=
  if m = 0 then ⟨0, 0⟩ else
  let lead := leadExponent m q
  let e := lead - (n : Int) + 1
  normalize ⟨roundAt m q e, e⟩

/-- `m · 2^q` rounded to `places` digits after the point, as a normalized decimal. -/
def roundPlaces (m : Nat) (q : Int) (places : Nat) : Digits :=
  normalize ⟨roundAt m q (-(places : Int)), -(places : Int)⟩

/-- The digit characters of a decimal, and the position of the point among them
(digits `d₁ … dₙ` and point position `p` read as `0.d₁…dₙ · 10^p`). -/
def Digits.layout (d : Digits) : List Char × Int :=
  if d.digits = 0 then (['0'], 1)
  else
    let cs := Nat.toDigits 10 d.digits
    (cs, (cs.length : Int) + d.exp)

/-- The exponent part of scientific notation: a sign and at least two digits. -/
def exponentText (x : Int) : String :=
  let sign := if x < 0 then "-" else "+"
  let ds := toString x.natAbs
  sign ++ (if ds.length < 2 then "0" ++ ds else ds)

/-- Scientific notation with `prec` digits after the point (padded with zeros). -/
def Digits.sci (d : Digits) (prec : Nat) (mark : Char) : String :=
  let (cs, dp) := d.layout
  let first := cs.headD '0'
  let rest := (cs.drop 1 ++ List.replicate prec '0').take prec
  let x := if d.digits = 0 then 0 else dp - 1
  let body := if prec = 0 then first.toString else first.toString ++ "." ++ String.ofList rest
  body ++ mark.toString ++ exponentText x

/-- Positional notation with `prec` digits after the point (padded with zeros). -/
def Digits.fixed (d : Digits) (prec : Nat) : String :=
  let (cs, dp) := d.layout
  let intPart :=
    if dp ≤ 0 then "0"
    else String.ofList ((cs ++ List.replicate dp.toNat '0').take dp.toNat)
  let fracAll : List Char :=
    if dp < 0 then List.replicate (-dp).toNat '0' ++ cs else cs.drop dp.toNat
  let frac := (fracAll ++ List.replicate prec '0').take prec
  let intPart := if d.digits = 0 then "0" else intPart
  if prec = 0 then intPart else intPart ++ "." ++ String.ofList frac

/-- The number of digits of a decimal. -/
def Digits.count (d : Digits) : Nat := d.layout.1.length

/-- The `%g` rule: scientific when the exponent is below -4 or at least `eprec`, otherwise
positional, each with the digits that `d` has. -/
def Digits.general (d : Digits) (eprec : Nat) (mark : Char) : String :=
  let (cs, dp) := d.layout
  let nd := cs.length
  let x := dp - 1
  if x < -4 ∨ x ≥ (eprec : Int) then d.sci (nd - 1) mark
  else d.fixed (((nd : Int) - dp).toNat)

end Windowing.Decimal

namespace Windowing.Decimal

/-- The binary notation: the integer significand, `p` and the signed exponent of two. -/
def binaryText (m : Nat) (q : Int) : String :=
  toString m ++ "p" ++ (if q ≥ 0 then "+" else "-") ++ toString q.natAbs

/-- Shift a significand up until its leading one stands at bit 60, lowering the exponent
as it goes. -/
def alignTop : Nat → Nat → Int → Nat × Int
  | 0, mant, exp => (mant, exp)
  | fuel + 1, mant, exp =>
    if mant == 0 || mant ≥ Nat.pow 2 60 then (mant, exp) else alignTop fuel (mant * 2) (exp - 1)

/-- A hexadecimal digit, lower or upper case. -/
def hexDigit (upper : Bool) (n : Nat) : Char :=
  if n < 10 then Char.ofNat (48 + n) else Char.ofNat ((if upper then 55 else 87) + n)

/-- The hexadecimal notation of `m · 2^q`: `0x1.hhhp±dd` with a leading digit 1 (0 for
zero), the fewest fraction digits, or `prec` of them rounded to even, and an exponent of
two with at least two digits. -/
def hexText (m : Nat) (q : Int) (prec : Option Nat) (upper : Bool) : String :=
  let exp0 : Int := if m == 0 then 0 else q + 52
  let (mant, exp) := alignTop 64 (m * Nat.pow 2 8) exp0
  let (mant, exp) := match prec with
    | some p =>
      if p < 15 then
        let shift := p * 4
        let extra := (mant * Nat.pow 2 shift) % Nat.pow 2 60
        let kept := mant / Nat.pow 2 (60 - shift)
        let kept := if Nat.lor extra (kept % 2) > Nat.pow 2 59 then kept + 1 else kept
        let mant := kept * Nat.pow 2 (60 - shift)
        if mant ≥ Nat.pow 2 61 then (mant / 2, exp + 1) else (mant, exp)
      else (mant, exp)
    | none => (mant, exp)
  let frac := mant % Nat.pow 2 60
  let fracDigits : List Char := (List.range 15).map fun i => hexDigit upper (frac / Nat.pow 16 (14 - i) % 16)
  let fracText :=
    match prec with
    | none => if frac == 0 then "" else "." ++ String.ofList (fracDigits.reverse.dropWhile (· == '0')).reverse
    | some 0 => ""
    | some p => "." ++ String.ofList ((fracDigits ++ List.replicate p '0').take p)
  let e := exp.natAbs
  "0" ++ (if upper then "X" else "x") ++ toString ((mant / Nat.pow 2 60) % 2) ++ fracText ++
    (if upper then "P" else "p") ++ (if exp < 0 then "-" else "+") ++
    (if e < 10 then "0" ++ toString e else toString e)

/-- A double in one of the notations `e`, `f` and `g` (upper case gives an upper-case
exponent mark), with `prec` digits, or the shortest digits when `prec` is absent; or in
the binary notation `b` or the hexadecimal `x` (`X`). Infinities are `+Inf` and `-Inf`;
NaN is `NaN`. -/
def formatFloat (f : Float) (verb : Char) (prec : Option Nat) : String :=
  match parts f with
  | .nan => "NaN"
  | .infinite neg => if neg then "-Inf" else "+Inf"
  | .finite neg m q =>
    let sign := if neg then "-" else ""
    let mark := if verb.isUpper then 'E' else 'e'
    let lower := verb.toLower
    let body :=
      if lower == 'b' then binaryText m q
      else if lower == 'x' then hexText m q prec verb.isUpper
      else
      match prec with
      | none =>
        let d := shortest m q
        let (cs, dp) := d.layout
        if lower == 'e' then d.sci (cs.length - 1) mark
        else if lower == 'f' then d.fixed (((cs.length : Int) - dp).toNat)
        else d.general 6 mark
      | some p =>
        if lower == 'e' then (roundSignificant m q (p + 1)).sci p mark
        else if lower == 'f' then (roundPlaces m q p).fixed p
        else
          let p' := if p = 0 then 1 else p
          let d := roundSignificant m q p'
          let (cs, dp) := d.layout
          let nd := cs.length
          let eprec : Nat := if p' > nd ∧ (nd : Int) ≥ dp then nd else p'
          let x := dp - 1
          if x < -4 ∨ x ≥ (eprec : Int) then d.sci (min p' nd - 1) mark
          else
            let prec2 : Nat := if (p' : Int) > dp then nd else p'
            d.fixed (((prec2 : Int) - dp).toNat)
    sign ++ body

end Windowing.Decimal
