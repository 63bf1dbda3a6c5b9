set_option autoImplicit false

/-! # Base64

The standard alphabet (`A`–`Z`, `a`–`z`, `0`–`9`, `+`, `/`) with `=` padding: the text,
with line breaks ignored, is groups of four characters; only the last group may end in
one or two `=`, standing for the octets it does not carry. -/

namespace Windowing.Text

/-- The value of a base64 digit. -/
def base64Digit (c : Char) : Option Nat :=
  if 'A' ≤ c && c ≤ 'Z' then some (c.toNat - 65)
  else if 'a' ≤ c && c ≤ 'z' then some (c.toNat - 71)
  else if '0' ≤ c && c ≤ '9' then some (c.toNat + 4)
  else if c == '+' then some 62
  else if c == '/' then some 63
  else none

/-- The octets of one group of four characters; `last` allows padding. -/
def base64Group (last : Bool) : List Char → Option (List UInt8)
  | [a, b, '=', '='] =>
    if !last then none else do
    let x ← base64Digit a
    let y ← base64Digit b
    pure [(x * 4 + y / 16).toUInt8]
  | [a, b, c, '='] =>
    if !last then none else do
    let x ← base64Digit a
    let y ← base64Digit b
    let z ← base64Digit c
    pure [(x * 4 + y / 16).toUInt8, ((y % 16) * 16 + z / 4).toUInt8]
  | [a, b, c, d] => do
    let x ← base64Digit a
    let y ← base64Digit b
    let z ← base64Digit c
    let w ← base64Digit d
    pure [(x * 4 + y / 16).toUInt8, ((y % 16) * 16 + z / 4).toUInt8, ((z % 4) * 64 + w).toUInt8]
  | _ => none

/-- Decode base64 text. -/
def decodeBase64 (s : String) : Option (List UInt8) :=
  let cs := s.toList.filter fun c => c != '\r' && c != '\n'
  let rec go : List Char → Option (List UInt8)
    | [] => some []
    | a :: b :: c :: d :: rest => do
      let g ← base64Group rest.isEmpty [a, b, c, d]
      let more ← go rest
      pure (g ++ more)
    | _ => none
  go cs

end Windowing.Text
