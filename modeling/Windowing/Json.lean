import Windowing.Decimal.Shortest
import Windowing.Text.Utf8

set_option autoImplicit false

/-! # JSON values and their text

A JSON value is null, a boolean, an integer, a double, a string, an array or an object
(fields in the order they are written).

The text has no spaces. Strings escape the quote and the backslash, write `\b`, `\f`,
`\n`, `\r`, `\t` for those controls and `\u00XX` for the other controls, and also escape
`<`, `>` and `&` (as `\u003c`, `\u003e`, `\u0026`) and the line and paragraph separators
(as `\u2028` and `\u2029`), so the text is safe inside a web page. A stray octet (see
`Windowing.Utf8`) is written as `\ufffd`. Doubles are written
with the fewest digits that read back as the same double, in plain notation from `1e-6`
up to below `1e21` and in exponent notation (`1e-7`, `1e+21`) outside that range. -/

namespace Windowing

/-- A JSON value. -/
inductive Json where
  | null
  | bool (b : Bool)
  | int (i : Int)
  | float (f : Float)
  | str (s : String)
  | arr (items : List Json)
  | obj (fields : List (String × Json))
  deriving Inhabited

namespace Json

/-- The lower-case hexadecimal digit of a number below 16. -/
def hexDigit (n : Nat) : Char := if n < 10 then Char.ofNat (48 + n) else Char.ofNat (87 + n)

/-- One character of a string, escaped; a stray octet is written as the escape of U+FFFD. -/
def escapeChar (c : Char) : String :=
  let n := c.toNat
  if (Utf8.strayOctet? c).isSome then "\\ufffd"
  else if c == '"' then "\\\""
  else if c == '\\' then "\\\\"
  else if n == 8 then "\\b"
  else if n == 12 then "\\f"
  else if c == '\n' then "\\n"
  else if c == '\r' then "\\r"
  else if c == '\t' then "\\t"
  else if n < 0x20 || c == '<' || c == '>' || c == '&' then
    String.ofList ['\\', 'u', '0', '0', hexDigit (n / 16), hexDigit (n % 16)]
  else if n == 0x2028 then "\\u2028"
  else if n == 0x2029 then "\\u2029"
  else c.toString

/-- A string between double quotes, escaped. -/
def quote (s : String) : String :=
  "\"" ++ String.join (s.toList.map escapeChar) ++ "\""

/-- The text of a finite double. -/
def floatText (f : Float) : String :=
  let a := f.abs
  if a != 0 && (a < 1e-6 || a ≥ 1e21) then
    let s := Decimal.formatFloat f 'e' none
    -- a negative exponent loses its leading zero: `e-07` becomes `e-7`
    let cs := s.toList
    let n := cs.length
    if n ≥ 4 && cs[n - 4]? == some 'e' && cs[n - 3]? == some '-' && cs[n - 2]? == some '0' then
      String.ofList (cs.take (n - 2) ++ cs.drop (n - 1))
    else s
  else Decimal.formatFloat f 'f' none

mutual

/-- The text of a value. -/
def encode : Json → String
  | .null => "null"
  | .bool b => if b then "true" else "false"
  | .int i => toString i
  | .float f => floatText f
  | .str s => quote s
  | .arr items => "[" ++ encodeItems items ++ "]"
  | .obj fields => "\x7b" ++ encodeFields fields ++ "\x7d"

/-- The text of array elements, separated by commas. -/
def encodeItems : List Json → String
  | [] => ""
  | [j] => encode j
  | j :: rest => encode j ++ "," ++ encodeItems rest

/-- The text of object fields, separated by commas. -/
def encodeFields : List (String × Json) → String
  | [] => ""
  | [(k, v)] => quote k ++ ":" ++ encode v
  | (k, v) :: rest => quote k ++ ":" ++ encode v ++ "," ++ encodeFields rest

end

/-- Blanks for a nesting depth, two per level. -/
def indentation (depth : Nat) : String := String.ofList (List.replicate (2 * depth) ' ')

mutual

/-- The text of a value laid out over lines: each element and field on a line of its
own, indented two blanks per level, a blank after each colon; empty arrays and objects
stay `[]` and `{}`. -/
def encodeIndented : Nat → Json → String
  | _, .arr [] => "[]"
  | d, .arr items => "[\n" ++ encodeIndentedItems (d + 1) items ++ "\n" ++ indentation d ++ "]"
  | _, .obj [] => "\x7b\x7d"
  | d, .obj fields => "\x7b\n" ++ encodeIndentedFields (d + 1) fields ++ "\n" ++ indentation d ++ "\x7d"
  | _, j => encode j

/-- Array elements laid out one per line at a depth. -/
def encodeIndentedItems : Nat → List Json → String
  | _, [] => ""
  | d, [j] => indentation d ++ encodeIndented d j
  | d, j :: rest => indentation d ++ encodeIndented d j ++ ",\n" ++ encodeIndentedItems d rest

/-- Object fields laid out one per line at a depth. -/
def encodeIndentedFields : Nat → List (String × Json) → String
  | _, [] => ""
  | d, [(k, v)] => indentation d ++ quote k ++ ": " ++ encodeIndented d v
  | d, (k, v) :: rest =>
    indentation d ++ quote k ++ ": " ++ encodeIndented d v ++ ",\n" ++ encodeIndentedFields d rest

end

/-- The value of a field of an object. -/
def field? (j : Json) (name : String) : Option Json :=
  match j with
  | .obj fields => fields.lookup name
  | _ => none

end Json

end Windowing
