import Windowing.Text.Utf8
import Windowing.Text.Unicode

set_option autoImplicit false

/-! # Quoted text

Error messages and the `%q` verb write a string between double quotes with escapes: the
quote and the backslash get a backslash, the usual control characters their letter
escapes, other characters that do not print as `\xHH`, `\uHHHH` or `\UHHHHHHHH`, and a
stray octet as `\xHH`. A character prints when it is a letter, mark, number, punctuation
or symbol, or the ASCII space (`Windowing.Unicode`). The second quoting, `quoteOctets`,
writes every octet of a character outside printable ASCII as `\xHH`; duration errors use
it. -/

namespace Windowing.Text

/-- Whether a character prints as itself: a letter, mark, number, punctuation or symbol,
or the ASCII space. -/
def isPrintable (c : Char) : Bool := Unicode.isGraphic c

/-- The lower-case hexadecimal digit of a number below 16. -/
def hexDigitLower (n : Nat) : Char :=
  if n < 10 then Char.ofNat (48 + n) else Char.ofNat (87 + n)

/-- The upper-case hexadecimal digit of a number below 16. -/
def hexDigitUpper (n : Nat) : Char :=
  if n < 10 then Char.ofNat (48 + n) else Char.ofNat (55 + n)

/-- Exactly `width` lower-case hexadecimal digits of `n`. -/
def hexFixed (width n : Nat) : String :=
  String.ofList ((List.range width).reverse.map (fun i => hexDigitLower (n / Nat.pow 16 i % 16)))

/-- The number of hexadecimal digits of `n` (one for zero). -/
def hexDigitCount (n : Nat) : Nat :=
  if n < 16 then 1 else (Nat.toDigits 16 n).length

/-- Exactly `width` upper-case hexadecimal digits of `n`. -/
def hexFixedUpper (width n : Nat) : String :=
  String.ofList ((List.range width).reverse.map (fun i => hexDigitUpper (n / Nat.pow 16 i % 16)))

/-- The escape of one character inside quotes `q`; with `asciiOnly`, a character outside
ASCII is escaped even when it prints. -/
def escapeChar (q : Char) (c : Char) (asciiOnly : Bool := false) : String :=
  if let some b := Utf8.strayOctet? c then "\\x" ++ hexFixed 2 b.toNat
  else if c == q || c == '\\' then "\\" ++ c.toString
  else if isPrintable c && (!asciiOnly || c.toNat < 0x80) then c.toString
  else match c with
    | '\x07' => "\\a"
    | '\x08' => "\\b"
    | '\x0c' => "\\f"
    | '\n' => "\\n"
    | '\r' => "\\r"
    | '\t' => "\\t"
    | '\x0b' => "\\v"
    | _ =>
      let n := c.toNat
      if n < 0x20 || n == 0x7F then "\\x" ++ hexFixed 2 n
      else if n < 0x10000 then "\\u" ++ hexFixed 4 n
      else "\\U" ++ hexFixed 8 n

/-- Text between double quotes, escaped. -/
def quote (s : String) : String :=
  "\"" ++ String.join (s.toList.map (escapeChar '"')) ++ "\""

/-- One character between single quotes, escaped. -/
def quoteChar (c : Char) : String :=
  "'" ++ escapeChar '\'' c ++ "'"

/-- Text between double quotes, with every character outside printable ASCII escaped. -/
def quoteAscii (s : String) : String :=
  "\"" ++ String.join (s.toList.map (escapeChar '"' · true)) ++ "\""

/-- One character between single quotes, escaped unless it is printable ASCII. -/
def quoteCharAscii (c : Char) : String :=
  "'" ++ escapeChar '\'' c true ++ "'"

/-- Whether text can stand between backquotes unchanged: it has no backquote, no control
character but the tab, no delete, no byte order mark and no stray octet. -/
def canBackquote (s : String) : Bool :=
  s.toList.all fun c =>
    if c.toNat ≥ 0x80 then c.toNat != 0xFEFF && (Utf8.strayOctet? c).isNone
    else !((c.toNat < 0x20 && c != '\t') || c.toNat == 0x60 || c.toNat == 0x7F)

/-- Text between double quotes where every octet of a character outside printable ASCII
is written as `\xHH`, and the quote and backslash get a backslash. -/
def quoteOctets (s : String) : String :=
  let body := s.toList.map fun c =>
    if c.toNat ≥ 0x80 || c.toNat < 0x20 then
      String.join ((Utf8.charOctets c).map (fun b => "\\x" ++ hexFixed 2 b.toNat))
    else if c == '"' || c == '\\' then "\\" ++ c.toString
    else c.toString
  "\"" ++ String.join body ++ "\""

end Windowing.Text
