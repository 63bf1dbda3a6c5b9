import Windowing.Template.Value
import Windowing.Text.Quote
import Windowing.Decimal.Shortest

set_option autoImplicit false

/-! # Formatting values as text

The `print`, `println` and `printf` functions of templates, and the text of every value
that an action writes. `%v` writes text as it is, numbers in decimal (floats with the
fewest digits, in exponent form below 1e-4 or from 1e21), maps as `map[k:v …]` in key
order, lists as `[a b …]` and records as `{a b …}`. A verb that does not fit the value is
written `%!verb(type=value)`; a missing operand `%!verb(MISSING)`; operands left over are
listed after `%!(EXTRA …)`.

Flags `-`, `+`, `#`, ` ` and `0`, a width and a precision are read as usual: width pads
with blanks (or zeros), to the left unless `-` is given; precision is the number of digits
of floats, the least number of digits of integers, and the most characters of text. -/

namespace Windowing.Template

/-- The flags, width and precision of one verb. -/
structure Spec where
  minus : Bool := false
  plus : Bool := false
  sharp : Bool := false
  space : Bool := false
  zero : Bool := false
  width : Option Nat := none
  prec : Option Nat := none
  plusV : Bool := false
  sharpV : Bool := false
  deriving Inhabited

namespace Format

/-- Pad to the width: blanks (or zeros when asked) on the left, or blanks on the right. -/
def pad (sp : Spec) (s : String) : String :=
  match sp.width with
  | none => s
  | some w =>
    let n := s.length
    if n ≥ w then s
    else
      let fill := String.ofList (List.replicate (w - n) (if sp.zero && !sp.minus then '0' else ' '))
      if sp.minus then s ++ String.ofList (List.replicate (w - n) ' ') else fill ++ s

/-- Pad with blanks only. -/
def padBlank (sp : Spec) (s : String) : String := pad { sp with zero := false } s

/-- Digits of a natural number in a base, lower or upper case. -/
def digitsIn (base : Nat) (upper : Bool) (n : Nat) : String :=
  let ds := Nat.toDigits base n
  String.ofList (if upper then ds.map Char.toUpper else ds)

/-- An integer in a base, with sign, precision, zero padding and `#` prefixes. -/
def integer (sp : Spec) (v : Int) (base : Nat) (upper : Bool) (verb : Char) : String :=
  let negative := v < 0
  let u := v.natAbs
  match sp.prec with
  | some 0 =>
    if u == 0 then String.ofList (List.replicate (sp.width.getD 0) ' ')
    else integerBody sp negative u base upper verb 0
  | some p => integerBody sp negative u base upper verb p
  | none =>
    let p :=
      if sp.zero && !sp.minus && sp.width.isSome then
        let w := sp.width.getD 0
        if negative || sp.plus || sp.space then w - 1 else w
      else 0
    integerBody sp negative u base upper verb p
where
  integerBody (sp : Spec) (negative : Bool) (u : Nat) (base : Nat) (upper : Bool)
      (verb : Char) (prec : Nat) : String :=
    let ds := digitsIn base upper u
    let ds := if ds.length < prec then String.ofList (List.replicate (prec - ds.length) '0') ++ ds
      else ds
    let ds :=
      if sp.sharp then
        if base == 2 then "0b" ++ ds
        else if base == 8 then (if ds.startsWith "0" then ds else "0" ++ ds)
        else if base == 16 then (if upper then "0X" else "0x") ++ ds
        else ds
      else ds
    let ds := if verb == 'O' then "0o" ++ ds else ds
    let ds := if negative then "-" ++ ds else if sp.plus then "+" ++ ds
      else if sp.space then " " ++ ds else ds
    padBlank sp ds

/-- The digits of a float (without sign) under the `#` flag: they always have a point,
and under `%g`, `%v` and `%x` trailing zeros make up the precision (six when none is
given) in significant characters. -/
def sharpen (body : List Char) (verb : Char) (prec : Option Nat) : List Char :=
  let wanted : Int := if verb == 'v' || verb == 'g' || verb == 'G' || verb == 'x' then prec.getD 6 else 0
  let isTail (c : Char) : Bool :=
    c == 'p' || c == 'P' || ((c == 'e' || c == 'E') && verb != 'x' && verb != 'X')
  let num := body.takeWhile (!isTail ·)
  let tail := body.drop num.length
  let significant : Int := ((num.filter (· != '.')).dropWhile (· == '0')).length
  let missing := wanted - significant
  let (num, missing) :=
    if num.contains '.' then (num, missing)
    else (num ++ ['.'], if num == ['0'] then missing - 1 else missing)
  num ++ List.replicate missing.toNat '0' ++ tail

/-- A float in a notation, with sign flags and padding; infinities and NaN are never
padded with zeros. -/
def float (sp : Spec) (f : Float) (verb : Char) (defaultPrec : Option Nat) : String :=
  let prec := match sp.prec with
    | some p => some p
    | none => defaultPrec
  let num := Decimal.formatFloat f verb prec
  let signed := if num.startsWith "-" || num.startsWith "+" then num else "+" ++ num
  let signed := if sp.space && signed.startsWith "+" && !sp.plus then " " ++ (signed.drop 1).toString
    else signed
  let body := (signed.drop 1).toString
  if body.startsWith "Inf" || body.startsWith "NaN" then
    let shown := if body.startsWith "NaN" && !sp.space && !sp.plus then body else signed
    padBlank sp shown
  else
  let body := if sp.sharp && verb != 'b' then String.ofList (sharpen body.toList verb sp.prec) else body
  let signed := (signed.take 1).toString ++ body
  if sp.plus || !signed.startsWith "+" then
    let sign := (signed.take 1).toString
    if sp.zero && !sp.minus && (sp.width.getD 0) > signed.length then
      sign ++ String.ofList (List.replicate ((sp.width.getD 0) - signed.length) '0') ++ body
    else pad sp signed
  else pad sp body

/-- The text of a string under a verb's precision (a count of characters). -/
def truncate (sp : Spec) (s : String) : String :=
  match sp.prec with
  | some p => String.ofList (s.toList.take p)
  | none => s

/-- The octets of text in hexadecimal, as `%x` and `%X` write them. -/
def hexOctets (sp : Spec) (s : String) (upper : Bool) : String :=
  let bs := Utf8.bytes (truncate sp s)
  let one (b : UInt8) : String :=
    if upper then Text.hexFixedUpper 2 b.toNat else Text.hexFixed 2 b.toNat
  let prefix0 := if sp.sharp then (if upper then "0X" else "0x") else ""
  let parts := bs.map one
  let body :=
    if sp.space then " ".intercalate (parts.map (fun p => prefix0 ++ p))
    else prefix0 ++ String.join parts
  pad sp (if bs.isEmpty then "" else body)

/-- The single character of a code point (invalid ones read as U+FFFD). -/
def runeOf (n : Nat) : Char :=
  if n > 0x10FFFF || (0xD800 ≤ n && n ≤ 0xDFFF) then Char.ofNat 0xFFFD else Char.ofNat n

/-- The character of an integer operand: a negative one reads as an unsigned 64-bit number,
beyond every code point, so as U+FFFD. -/
def runeOfInt (n : Int) : Char := if n < 0 then Char.ofNat 0xFFFD else runeOf n.toNat

/-- An integer operand as an unsigned 64-bit number (a negative one wraps around). -/
def unsigned64 (n : Int) : Nat := if n < 0 then (n + 18446744073709551616).toNat else n.toNat

/-- `%U`: `U+` and the upper-case hexadecimal digits of the code point, at least four (or
the precision, when larger), then under `#` the character quoted when it prints; padded
with blanks only. -/
def unicodePoint (sp : Spec) (n : Int) : String :=
  let u := unsigned64 n
  let digits := Text.hexDigitCount u
  let width := match sp.prec with
    | some p => if p > 4 then p else 4
    | none => 4
  let hex := Text.hexFixedUpper (max width digits) u
  let shown :=
    if sp.sharp && u ≤ 0x10FFFF && Text.isPrintable (runeOf u) && !(0xD800 ≤ u && u ≤ 0xDFFF)
    then " '" ++ (runeOf u).toString ++ "'" else ""
  padBlank sp ("U+" ++ hex ++ shown)

/-- A complex number in a float notation: `(re+imi)`, the imaginary part always signed. -/
def complex (sp : Spec) (verb : Char) (re im : Float) : String :=
  let defaultPrec := if verb == 'f' || verb == 'F' || verb == 'e' || verb == 'E' then some 6 else none
  "(" ++ float sp re verb defaultPrec ++ float { sp with plus := true } im verb defaultPrec ++ "i)"

/-- A scalar value in its plain form (`%v`). -/
def plain (sp : Spec) : Value → String
  | .str s => pad sp (truncate sp s)
  | .bool b => pad sp (if b then "true" else "false")
  | .int n => integer sp n 10 false 'v'
  | .octet n => integer sp n 10 false 'v'
  | .uint n => integer sp n 10 false 'v'
  | .float f => float sp f 'g' none
  | .complex re im => complex sp 'g' re im
  | _ => "<nil>"

/-- The text for a verb that does not fit a scalar value. -/
def bad (sp : Spec) (verb : Char) (v : Value) : String :=
  "%!" ++ verb.toString ++ "(" ++ v.typeName ++ "=" ++ plain sp v ++ ")"

/-- An integer-like value under a verb. -/
def intLike (sp : Spec) (verb : Char) (v : Value) (n : Int) : String :=
  if verb == 'T' then pad sp (truncate sp v.typeName)
  else if verb == 'v' || verb == 'd' then integer sp n 10 false verb
  else if verb == 'b' then integer sp n 2 false verb
  else if verb == 'o' || verb == 'O' then integer sp n 8 false verb
  else if verb == 'x' then integer sp n 16 false verb
  else if verb == 'X' then integer sp n 16 true verb
  else if verb == 'c' then pad sp (runeOfInt n).toString
  else if verb == 'q' then
    pad sp ((if sp.plus then Text.quoteCharAscii else Text.quoteChar) (runeOfInt n))
  else if verb == 'U' then unicodePoint sp n
  else bad sp verb v

/-- Text quoted: between backquotes under `#` when it can stand there, with every
character outside printable ASCII escaped under `+`, else between double quotes. -/
def quoted (sp : Spec) (s : String) : String :=
  let t := truncate sp s
  if sp.sharp && Text.canBackquote t then pad sp ("\x60" ++ t ++ "\x60")
  else if sp.plus then pad sp (Text.quoteAscii t)
  else pad sp (Text.quote t)

/-- Text under a verb. -/
def text (sp : Spec) (verb : Char) (s : String) : String :=
  if verb == 'T' then pad sp (truncate sp "string")
  else if verb == 'v' then (if sp.sharpV then quoted sp s else pad sp (truncate sp s))
  else if verb == 's' then pad sp (truncate sp s)
  else if verb == 'q' then quoted sp s
  else if verb == 'x' then hexOctets sp s false
  else if verb == 'X' then hexOctets sp s true
  else bad sp verb (.str s)

mutual
/-- A value under a verb. -/
def value (sp : Spec) (verb : Char) : Value → String
  | .nil => if verb == 'v' || verb == 'T' then pad sp "<nil>" else "%!" ++ verb.toString ++ "(<nil>)"
  | .none => if verb == 'v' || verb == 'T' then pad sp "<nil>" else "%!" ++ verb.toString ++ "(<nil>)"
  | .str s => text sp verb s
  | v@(.bool b) =>
    if verb == 'T' then pad sp (truncate sp v.typeName)
    else if verb == 't' || verb == 'v' then pad sp (if b then "true" else "false")
    else bad sp verb v
  | v@(.int n) => intLike sp verb v n
  | v@(.octet n) =>
    if verb == 'v' && sp.sharpV then integer { sp with sharp := true } n 16 false 'v' else intLike sp verb v n
  | v@(.uint n) =>
    if verb == 'v' && sp.sharpV then integer { sp with sharp := true } n 16 false 'v' else intLike sp verb v n
  | v@(.float f) =>
    if verb == 'T' then pad sp (truncate sp v.typeName)
    else if verb == 'v' then float sp f 'g' none
    else if verb == 'b' || verb == 'g' || verb == 'G' || verb == 'x' || verb == 'X' then
      float sp f verb none
    else if verb == 'f' || verb == 'e' || verb == 'E' || verb == 'F' then float sp f verb (some 6)
    else bad sp verb v
  | v@(.complex re im) =>
    if verb == 'T' then pad sp (truncate sp v.typeName)
    else if verb == 'v' then complex sp 'g' re im
    else if verb == 'b' || verb == 'g' || verb == 'G' || verb == 'x' || verb == 'X' ||
      verb == 'f' || verb == 'F' || verb == 'e' || verb == 'E' then complex sp verb re im
    else bad sp verb v
  | v@(.dict m) =>
    if verb == 'T' then pad sp (truncate sp v.typeName)
    else if sp.sharpV then v.typeName ++ "\x7b" ++ entries sp verb m.toList ++ "\x7d"
    else "map[" ++ entries sp verb m.toList ++ "]"
  | v@.nilDict =>
    if verb == 'T' then pad sp (truncate sp v.typeName)
    else if sp.sharpV then v.typeName ++ "(nil)"
    else "map[]"
  | v@(.list _ xs _) =>
    if verb == 'T' then pad sp (truncate sp v.typeName)
    else if sp.sharpV then v.typeName ++ "\x7b" ++ elements sp verb xs ++ "\x7d"
    else "[" ++ elements sp verb xs ++ "]"
  | v@(.record t fs) =>
    if verb == 'T' then pad sp (truncate sp v.typeName)
    else (if sp.sharpV then t else "") ++ "\x7b" ++ fields sp verb fs ++ "\x7d"

/-- Map entries `k:v` separated by blanks (by a comma and a blank under `%#v`). -/
def entries (sp : Spec) (verb : Char) : List (String × String) → String
  | [] => ""
  | [(k, x)] => text sp verb k ++ ":" ++ text sp verb x
  | (k, x) :: rest =>
    text sp verb k ++ ":" ++ text sp verb x ++ (if sp.sharpV then ", " else " ") ++ entries sp verb rest

/-- List elements separated by blanks (by a comma and a blank under `%#v`). -/
def elements (sp : Spec) (verb : Char) : List Value → String
  | [] => ""
  | [x] => value sp verb x
  | x :: rest => value sp verb x ++ (if sp.sharpV then ", " else " ") ++ elements sp verb rest

/-- Record fields separated by blanks (by a comma and a blank under `%#v`), with their
names under `%+v` and `%#v`. -/
def fields (sp : Spec) (verb : Char) : List (String × Value) → String
  | [] => ""
  | [(n, x)] => (if sp.plusV || sp.sharpV then n ++ ":" else "") ++ value sp verb x
  | (n, x) :: rest =>
    (if sp.plusV || sp.sharpV then n ++ ":" else "") ++ value sp verb x ++
      (if sp.sharpV then ", " else " ") ++ fields sp verb rest
end

end Format

/-- An operand of a formatted message. Besides plain values, messages about templates
print things that carry text of their own: syntax nodes, types, lexical items and errors. -/
inductive Operand where
  /-- A value, printed as it is. -/
  | value (v : Value)
  /-- A value passed on in reflected form: printed as the value it holds (an absent one as
  `<invalid reflect.Value>`), while `%T` names the wrapper. -/
  | reflected (v : Value)
  /-- Something with text of its own and a type: the verbs `v`, `s`, `q`, `x` and `X`
  print the text, the other verbs the value it is made of (after `&` when the type is a
  pointer). An error (`isError`) prints its text for `%w` too, in an error message. -/
  | described (text : String) (type : String) (raw : Value) (isError : Bool)
  deriving Inhabited

namespace Operand

/-- Text as an operand. -/
def text (s : String) : Operand := .value (.str s)

/-- An integer as an operand. -/
def int (n : Int) : Operand := .value (.int n)

/-- An error with a message, as errors made from text are. -/
def error (msg : String) : Operand :=
  .described msg "*errors.errorString" (.record "errors.errorString" [("s", .str msg)]) true

/-- The name of an operand's type. -/
def typeName : Operand → String
  | .value v => v.typeName
  | .reflected _ => "reflect.Value"
  | .described _ t _ _ => t

/-- The value a described operand is made of, under a verb. -/
def rawText (sp : Spec) (verb : Char) (type : String) (raw : Value) : String :=
  (if type.startsWith "*" then "&" else "") ++ Format.value sp verb raw

/-- An operand under a verb; `wrapping` says whether the message is an error, in which
`%w` prints an error operand. -/
def format (wrapping : Bool) (sp : Spec) (verb : Char) : Operand → String
  | .value v => Format.value sp verb v
  | .reflected v =>
    if verb == 'T' then Format.pad sp (Format.truncate sp "reflect.Value")
    else match v with
      | .none | .nil => "<invalid reflect.Value>"
      | v => Format.value sp verb v
  | .described text type raw isError =>
    if verb == 'T' then Format.pad sp (Format.truncate sp type)
    else if verb == 'w' then
      if wrapping && isError then Format.text sp 'v' text
      else "%!w(" ++ type ++ "=" ++ rawText {} 'v' type raw ++ ")"
    else if verb == 'v' && sp.sharpV then rawText sp verb type raw
    else if verb == 'v' || verb == 's' || verb == 'q' || verb == 'x' || verb == 'X' then
      Format.text sp verb text
    else rawText sp verb type raw

end Operand

/-- Operands in their plain form, a blank between two operands when neither is text. -/
def sprint (args : List Value) : String :=
  go args false true
where
  go : List Value → Bool → Bool → String
    | [], _, _ => ""
    | a :: rest, prevString, first =>
      let sep := if !first && !a.isString && !prevString then " " else ""
      sep ++ Format.value {} 'v' a ++ go rest a.isString false

/-- Operands in their plain form separated by blanks, then a line break. -/
def sprintln (args : List Value) : String :=
  " ".intercalate (args.map (Format.value {} 'v')) ++ "\n"

/-- A decimal number at the head of text, as widths, precisions and operand numbers are
read: its value when there are digits, and the text after them. A number that grows past a
million before its last digit is no number, and then the whole text is used up. -/
def readNumber (cs : List Char) : Option Nat × List Char :=
  let ds := cs.takeWhile Char.isDigit
  let step (acc : Option Nat) (c : Char) : Option Nat :=
    acc.bind fun n => if n > 1000000 then none else some (n * 10 + (c.toNat - 48))
  if ds.isEmpty then (none, cs)
  else match ds.foldl step (some 0) with
    | some n => (some n, cs.drop ds.length)
    | none => (none, [])

/-- An operand number in brackets at the head of text (`[2]` names the second operand):
`none` when the text does not start with a bracket; else the number, when the brackets
hold only digits, and the text after the closing bracket. Without a closing bracket, or
in fewer than three characters, only the opening bracket is used up. -/
def readArgIndex (cs : List Char) : Option (Option Nat × List Char) :=
  match cs with
  | '[' :: rest =>
    if cs.length < 3 then some (none, rest)
    else match rest.idxOf? ']' with
      | none => some (none, rest)
      | some k =>
        match readNumber (rest.take k) with
        | (some n, []) => some (some n, rest.drop (k + 1))
        | _ => some (none, rest.drop (k + 1))
  | _ => none

/-- Flags at the head of a verb: `#`, `0`, `+`, `-` and blank, in any number. -/
def readFlags : List Char → Spec → Spec × List Char
  | c :: r, sp =>
    if c == '#' then readFlags r { sp with sharp := true }
    else if c == '0' then readFlags r { sp with zero := !sp.minus }
    else if c == '+' then readFlags r { sp with plus := true }
    else if c == '-' then readFlags r { sp with minus := true, zero := false }
    else if c == ' ' then readFlags r { sp with space := true }
    else (sp, c :: r)
  | [], sp => (sp, [])

/-- Where the reading of a verb stands: the operand to use next, whether an operand number
was given (so that operands may be left over), whether the operand number is usable, and
whether an operand number came last. -/
structure Operands where
  argNum : Nat
  reordered : Bool
  good : Bool := true
  afterIndex : Bool := false

/-- Take an operand number at the head of text, if there is one, for `count` operands. -/
def Operands.index (k : Operands) (count : Nat) (cs : List Char) : Operands × List Char :=
  match readArgIndex cs with
  | none => ({ k with afterIndex := false }, cs)
  | some (some n, r) =>
    if 1 ≤ n && n ≤ count then ({ k with argNum := n - 1, reordered := true, afterIndex := true }, r)
    else ({ k with reordered := true, good := false, afterIndex := true }, r)
  | some (none, r) => ({ k with reordered := true, good := false, afterIndex := false }, r)

/-- A width or precision taken from an operand: its value if the operand is an integer
(signed, or unsigned below 2^63) of at most a million in size. -/
def starOperand (args : List Operand) (i : Nat) : Option Int :=
  let n : Option Int := match args[i]? with
    | some (.value (.int n)) => some n
    | some (.value (.octet n)) | some (.value (.uint n)) => if n < 9223372036854775808 then some n else none
    | _ => none
  n.filter fun n => n.natAbs ≤ 1000000

/-- The operands left over after the verbs, noted as `%!(EXTRA type=value, …)`. -/
def extraNote (rest : List Operand) : String :=
  let shown := rest.map fun a => match a with
    | .value .nil | .value .none => "<nil>"
    | a => a.typeName ++ "=" ++ a.format false {} 'v'
  "%!(EXTRA " ++ ", ".intercalate shown ++ ")"

/-- Text with verbs replaced by formatted operands. A verb is `%`, flags, a width (digits,
or `*` for an integer operand), a precision (`.` then digits or `*`), and a letter; an
operand number in brackets may stand before the width, the precision's value and the
letter. `wrapping` says whether the text is an error message, where `%w` prints an
error. -/
def formatWith (wrapping : Bool) (format : String) (args : List Operand) : String :=
  go (format.length + 1) format.toList 0 false ""
where
  go : Nat → List Char → Nat → Bool → String → String
    | 0, _, _, _, acc => acc
    | _ + 1, [], argNum, reordered, acc =>
      if !reordered && argNum < args.length then acc ++ extraNote (args.drop argNum) else acc
    | fuel + 1, c :: r, argNum, reordered, acc =>
      if c != '%' then go fuel r argNum reordered (acc.push c)
      else
        let (sp, r) := readFlags r {}
        let (k, r) := Operands.index { argNum, reordered } args.length r
        -- the width
        let (sp, k, r, note) : Spec × Operands × List Char × String :=
          match r with
          | '*' :: r' =>
            let k' := { k with argNum := k.argNum + (if k.argNum < args.length then 1 else 0),
                               afterIndex := false }
            match starOperand args k.argNum with
            | some n =>
              if n < 0 then ({ sp with width := some n.natAbs, minus := true, zero := false }, k', r', "")
              else ({ sp with width := some n.toNat }, k', r', "")
            | none => (sp, k', r', "%!(BADWIDTH)")
          | _ =>
            let (w, r') := readNumber r
            let k := if k.afterIndex && w.isSome then { k with good := false } else k
            ({ sp with width := w }, k, r', "")
        -- the precision
        let (sp, k, r, note) : Spec × Operands × List Char × String :=
          match r with
          | '.' :: r1 :: rs =>
            let k := if k.afterIndex then { k with good := false } else k
            let (k, r') := k.index args.length (r1 :: rs)
            match r' with
            | '*' :: r'' =>
              let k' := { k with argNum := k.argNum + (if k.argNum < args.length then 1 else 0),
                                 afterIndex := false }
              match starOperand args k.argNum with
              | some n =>
                if n < 0 then ({ sp with prec := none }, k', r'', note ++ "%!(BADPREC)")
                else ({ sp with prec := some n.toNat }, k', r'', note)
              | none => ({ sp with prec := none }, k', r'', note ++ "%!(BADPREC)")
            | _ =>
              let (p, r'') := readNumber r'
              ({ sp with prec := some (p.getD 0) }, k, r'', note)
          | _ => (sp, k, r, note)
        let (k, r) := if k.afterIndex then (k, r) else k.index args.length r
        let acc := acc ++ note
        match r with
        | [] => go fuel [] k.argNum k.reordered (acc ++ "%!(NOVERB)")
        | '%' :: r' => go fuel r' k.argNum k.reordered (acc.push '%')
        | verb :: r' =>
          if !k.good then go fuel r' k.argNum k.reordered (acc ++ "%!" ++ verb.toString ++ "(BADINDEX)")
          else match args[k.argNum]? with
            | none => go fuel r' k.argNum k.reordered (acc ++ "%!" ++ verb.toString ++ "(MISSING)")
            | some a =>
              let sp := if verb == 'v' then { sp with sharpV := sp.sharp, plusV := sp.plus,
                                                      sharp := false, plus := false } else sp
              go fuel r' (k.argNum + 1) k.reordered (acc ++ a.format wrapping sp verb)

/-- Text with verbs replaced by formatted values, as `printf` writes it. -/
def sprintf (format : String) (args : List Value) : String :=
  formatWith false format (args.map .value)

/-- An error message from a format and operands. -/
def errorf (format : String) (args : List Operand) : String :=
  formatWith true format args

/-- Text with every `%` doubled, so that formatting gives it back unchanged. -/
def doublePercent (s : String) : String :=
  if s.contains '%' then s.replace "%" "%%" else s

end Windowing.Template
