import Windowing.Text.Quote
import Windowing.Text.Utf8

set_option autoImplicit false

/-! # Escaping text for HTML, JavaScript and URL queries

The `html`, `js` and `urlquery` functions of templates.

* HTML: `"`, `'`, `&`, `<`, `>` become character references and NUL becomes U+FFFD.
* JavaScript: the backslash, both quotes, `<`, `>`, `&` and `=` are escaped, control
  characters become `\u00XX`, and characters beyond ASCII that do not print become
  `\uXXXX`; a stray octet stays.
* URL query: letters, digits and `-_.~` stay, the blank becomes `+`, every other octet
  becomes `%XX`. -/

namespace Windowing.Template.Escape

/-- Text with HTML's special characters replaced by references. -/
def html (s : String) : String :=
  String.join (s.toList.map fun c =>
    match c with
    | '"' => "&#34;"
    | '\'' => "&#39;"
    | '&' => "&amp;"
    | '<' => "&lt;"
    | '>' => "&gt;"
    | '\x00' => "\uFFFD"
    | c => c.toString)

/-- Text escaped for a JavaScript string. -/
def js (s : String) : String :=
  String.join (s.toList.map fun c =>
    match c with
    | '\\' => "\\\\"
    | '\'' => "\\'"
    | '"' => "\\\""
    | '<' => "\\u003C"
    | '>' => "\\u003E"
    | '&' => "\\u0026"
    | '=' => "\\u003D"
    | c =>
      if c.toNat < 0x20 then "\\u00" ++ Text.hexFixedUpper 2 c.toNat
      else if c.toNat < 0x80 then c.toString
      -- a stray octet reads as U+FFFD, which prints, so it stays
      else if Text.isPrintable c || (Utf8.strayOctet? c).isSome then c.toString
      else
        let width := if c.toNat ≥ 0x100000 then 6 else if c.toNat ≥ 0x10000 then 5 else 4
        "\\u" ++ Text.hexFixedUpper width c.toNat)

/-- Whether an octet stays as it is in a URL query. -/
def unreserved (b : UInt8) : Bool :=
  let c := Char.ofNat b.toNat
  c.isAlphanum || c == '-' || c == '_' || c == '.' || c == '~'

/-- Text escaped for a URL query. -/
def urlquery (s : String) : String :=
  String.join ((Utf8.bytes s).map fun b =>
    if unreserved b then (Char.ofNat b.toNat).toString
    else if b == 32 then "+"
    else "%" ++ Text.hexFixedUpper 2 b.toNat)

end Windowing.Template.Escape
