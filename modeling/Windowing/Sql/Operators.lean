import Windowing.Sql.Value

set_option autoImplicit false

/-! # Operators on values

**Arithmetic.** `+`, `-`, `*`, `/` and `%` give null when an operand is null. Each
operand is read as a number (`textNumber`); when both are integers the operation is on
64-bit integers, and a sum, difference, product or quotient that does not fit is done on
doubles instead. Division and remainder by zero give null; a remainder with a real operand
takes both operands as integers and gives a real. A result that is not a number is null.

**Bits.** `&`, `|`, `<<`, `>>` and `~` take their operands as integers. A shift by a
negative amount shifts the other way; a shift by 64 or more leaves nothing (or, to the
right, the sign).

**Comparison.** A comparison of null with anything is null. Before comparing, the
comparison's affinity may change the operands: a numeric affinity reads texts that are
wholly numbers, and a text affinity writes numbers as text when the other operand is a
text.

**Conversion.** `CAST` to a type takes the affinity of the type's name: to text numbers
are written out, to a blob the text's octets are taken, to an integer reals are cut and
texts read by their leading integer, to a real texts are read by their numeric prefix,
and to a number a text becomes an integer when it reads as one or as a real with no
fraction. -/

namespace Windowing.Sql

/-- The arithmetic operators. -/
inductive ArithOp where
  | add
  | sub
  | mul
  | div
  | rem
  deriving BEq, Inhabited

/-- A double result, null when it is not a number. -/
def realResult (f : Float) : Value := if f.isNaN then .null else .real f

/-- An arithmetic operation on doubles (the remainder on integers). -/
def realArith (op : ArithOp) (a b : Value) : Value :=
  let x := a.toReal
  let y := b.toReal
  match op with
  | .add => realResult (x + y)
  | .sub => realResult (x - y)
  | .mul => realResult (x * y)
  | .div => if y == 0 then .null else realResult (x / y)
  | .rem =>
    let i := a.toInt
    let j := b.toInt
    if j == 0 then .null
    else realResult (Float.ofInt (i.tmod (if j == -1 then 1 else j)))

/-- An arithmetic operation on 64-bit integers, on doubles when it does not fit. -/
def intArith (op : ArithOp) (x y : Int) (a b : Value) : Value :=
  let within (r : Int) : Value := if fitsInt r then .int r else realArith op a b
  match op with
  | .add => within (x + y)
  | .sub => within (x - y)
  | .mul => within (x * y)
  | .div =>
    if y == 0 then .null
    else if x == minInt && y == -1 then realArith op a b
    else .int (x.tdiv y)
  | .rem =>
    if y == 0 then .null
    else .int (x.tmod (if y == -1 then 1 else y))

/-- An arithmetic operation on values. -/
def arith (op : ArithOp) (a b : Value) : Value :=
  if a.isNull || b.isNull then .null
  else
    match a.numeric, b.numeric with
    | .int x, .int y => intArith op x y a b
    | _, _ => realArith op a b

/-- A 64-bit two's complement pattern as an integer. -/
def ofBits (u : UInt64) : Int := if u.toNat ≥ 9223372036854775808 then u.toNat - 18446744073709551616 else u.toNat

/-- An integer's 64-bit two's complement pattern. -/
def toBits (i : Int) : UInt64 := UInt64.ofInt i

/-- The bitwise operators. -/
inductive BitOp where
  | and
  | or
  | shl
  | shr
  deriving BEq, Inhabited

/-- A shift of a 64-bit integer: left or right (keeping the sign) by an amount. -/
def shiftInt (left : Bool) (x : Int) (n : Int) : Int :=
  if n == 0 then x else
  let (left, n) := if n < 0 then (!left, if n > -64 then -n else 64) else (left, n)
  if n ≥ 64 then (if x ≥ 0 || left then 0 else -1)
  else
    let u := toBits x
    let k := UInt64.ofNat n.toNat
    if left then ofBits (u <<< k)
    else
      let r := u >>> k
      if x < 0 then ofBits (r ||| (0xFFFFFFFFFFFFFFFF <<< (64 - k))) else ofBits r

/-- A bitwise operation on values. -/
def bitOp (op : BitOp) (a b : Value) : Value :=
  if a.isNull || b.isNull then .null
  else
    let x := a.toInt
    let y := b.toInt
    match op with
    | .and => .int (ofBits (toBits x &&& toBits y))
    | .or => .int (ofBits (toBits x ||| toBits y))
    | .shl => .int (shiftInt true x y)
    | .shr => .int (shiftInt false x y)

/-- `~`: the bits of an integer flipped. -/
def bitNot (a : Value) : Value :=
  if a.isNull then .null else .int (-a.toInt - 1)

/-- Unary minus: zero minus the value. -/
def negate (a : Value) : Value := arith .sub (.int 0) a

/-- Whether a value is a text. -/
def Value.isText : Value → Bool
  | .text _ => true
  | _ => false

/-- A value written as text, when it is a number. -/
def Value.stringify : Value → Value
  | .int i => .text (toString i)
  | .real f => .text (realText f)
  | v => v

/-- A text read as a number when it wholly is one. -/
def Value.numericIfText : Value → Value
  | .text s => numericText false s
  | v => v

/-- Apply a comparison's affinity to both operands. -/
def comparisonOperands (aff : Affinity) (a b : Value) : Value × Value :=
  if aff.isNumeric then
    if a.isText || b.isText then (a.numericIfText, b.numericIfText) else (a, b)
  else if aff == .text && (a.isText || b.isText) then (a.stringify, b.stringify)
  else (a, b)

/-- Compare two values under an affinity and a collation; none when one is null. -/
def compareUnder (aff : Affinity) (coll : Collation) (a b : Value) : Option Ordering :=
  if a.isNull || b.isNull then none
  else
    let (x, y) := comparisonOperands aff a b
    some (Value.compare coll x y)

/-- The comparison operators. -/
inductive CompareOp where
  | eq
  | ne
  | lt
  | le
  | gt
  | ge
  deriving BEq, Inhabited

/-- Whether an order satisfies a comparison operator. -/
def CompareOp.holds : CompareOp → Ordering → Bool
  | .eq, o => o == .eq
  | .ne, o => o != .eq
  | .lt, o => o == .lt
  | .le, o => o != .gt
  | .gt, o => o == .gt
  | .ge, o => o != .lt

/-- A text as a number, as `CAST … AS NUMERIC` reads it. -/
def castNumeric (s : String) : Value :=
  let (form, f) := readNumber s
  let (r, i) := readInt64 s
  if (form == .none || form == .integer) && r.atMostTrailing then .int i
  else
    let j := realToIntNear f
    if sameAsInt f j then .int j else .real f

/-- `CAST` of a value to a type. -/
def castValue (type : String) (v : Value) : Value :=
  if v.isNull then .null
  else
    match Affinity.ofType type with
    | .blob => .blob v.asBytes
    | .text => match v with
      | .blob b => .text (Utf8.ofOctets b)
      | v => v.stringify
    | .numeric => match v with
      | .text s => castNumeric s
      | .blob b => castNumeric (Utf8.ofOctets b)
      | v => v
    | .integer => .int v.toInt
    | .real => .real v.toReal

/-- `||`: both values as text, joined; null when one is null. -/
def concatValues (a b : Value) : Value :=
  match a.asText, b.asText with
  | some x, some y => .text (x ++ y)
  | _, _ => .null

end Windowing.Sql
