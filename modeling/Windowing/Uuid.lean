import Windowing.Text.Quote
import Windowing.Text.Utf8

set_option autoImplicit false

/-! # Identifiers of contexts

A context is identified by a 128-bit UUID. Its canonical text is 32 lower-case hexadecimal
digits in groups of 8, 4, 4, 4 and 12 joined by `-`.

Reading accepts four spellings, told apart by their length in octets:

* 36: the canonical form, in either case;
* 38: the canonical form inside one character on each side (only the first is looked at);
* 45: the canonical form after the prefix `urn:uuid:`, in either case;
* 32: the digits with no separators.

Any other length is refused with the length; a bad prefix, a separator out of place or a
non-digit is refused too. -/

namespace Windowing

/-- A 128-bit identifier, as its sixteen octets. -/
structure Uuid where
  octets : List UInt8
  deriving Inhabited, BEq, DecidableEq

namespace Uuid

/-- The identifier with every bit zero. -/
def nil : Uuid := ⟨List.replicate 16 0⟩

/-- Why a text is not an identifier. -/
inductive ParseError where
  | length (n : Nat)
  | urnPrefix (found : String)
  | format
  deriving DecidableEq

/-- The message of a reading error. -/
def ParseError.message : ParseError → String
  | .length n => "invalid UUID length: " ++ toString n
  | .urnPrefix p => "invalid urn prefix: " ++ Text.quote p
  | .format => "invalid UUID format"

/-- The value of a hexadecimal digit octet. -/
def hexValue (b : UInt8) : Option Nat :=
  let n := b.toNat
  if 48 ≤ n ∧ n ≤ 57 then some (n - 48)
  else if 97 ≤ n ∧ n ≤ 102 then some (n - 87)
  else if 65 ≤ n ∧ n ≤ 70 then some (n - 55)
  else none

/-- The octet written by two hexadecimal digits. -/
def octetAt (bs : List UInt8) (i : Nat) : Option UInt8 := do
  let hi ← hexValue (← bs[i]?)
  let lo ← hexValue (← bs[i + 1]?)
  pure (hi * 16 + lo).toUInt8

/-- Read octets at the given offsets. -/
def octetsAt (bs : List UInt8) (offsets : List Nat) : Except ParseError (List UInt8) :=
  offsets.mapM fun i =>
    match octetAt bs i with
    | some b => .ok b
    | none => .error .format

/-- Offsets of the sixteen digit pairs in the canonical form. -/
def groupedOffsets : List Nat := [0, 2, 4, 6, 9, 11, 14, 16, 19, 21, 24, 26, 28, 30, 32, 34]

/-- Read the canonical form at the start of the octets. -/
def parseGrouped (bs : List UInt8) : Except ParseError Uuid := do
  let dash (i : Nat) : Bool := bs[i]? == some 45
  if !(dash 8 && dash 13 && dash 18 && dash 23) then throw .format
  pure ⟨← octetsAt bs groupedOffsets⟩

/-- ASCII case folding of one octet. -/
def foldCase (b : UInt8) : UInt8 := if 65 ≤ b ∧ b ≤ 90 then b + 32 else b

/-- Read an identifier in any of its four spellings. -/
def parse (s : String) : Except ParseError Uuid :=
  let bs := Utf8.bytes s
  match bs.length with
  | 36 => parseGrouped bs
  | 45 =>
    let pre := bs.take 9
    if pre.map foldCase == Utf8.bytes "urn:uuid:" then parseGrouped (bs.drop 9)
    else .error (.urnPrefix (Utf8.ofOctets pre))
  | 38 => parseGrouped (bs.drop 1)
  | 32 => (octetsAt bs ((List.range 16).map (· * 2))).map Uuid.mk
  | n => .error (.length n)

/-- The canonical text: lower-case digits grouped 8-4-4-4-12. -/
def toText (u : Uuid) : String :=
  let hex := u.octets.map (fun b => Text.hexFixed 2 b.toNat)
  let part (lo hi : Nat) : String := String.join ((hex.drop lo).take (hi - lo))
  part 0 4 ++ "-" ++ part 4 6 ++ "-" ++ part 6 8 ++ "-" ++ part 8 10 ++ "-" ++ part 10 16

instance : ToString Uuid := ⟨toText⟩

end Uuid

end Windowing
