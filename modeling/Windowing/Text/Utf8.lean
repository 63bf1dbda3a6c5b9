set_option autoImplicit false

/-! # UTF-8 octets of text

Templates index, slice and measure text by octets, and positions in error messages count
octets. Text is a run of octets that need not be well-formed: a string constant may hold
`\xff`, and slicing may cut a character in two. Such text is kept as a `String` in which
an octet that starts no well-formed sequence is a *stray octet*: the character
`U+10FF00 + b`, for the octet `b` (always 0x80 or above, as every octet below that is a
character of its own). These characters lie at the end of the last private use plane. A
`String` holds only well-formed text, so the 128 characters U+10FF80 to U+10FFFF cannot mean
both themselves and stray octets: here they mean stray octets, and text from outside is taken
to avoid them.

Reading octets back (`ofOctets`) takes each well-formed sequence as its character and
keeps every other octet as a stray one, octet by octet, so text read from its own octets
is the same text, and two pieces joined and read again form the characters that their
octets form together. Text is shown outside (`clean`) with U+FFFD for each stray octet,
which is also what `decodeLossy` reads an ill-formed octet as. -/

namespace Windowing.Utf8

/-- The character that keeps a stray octet. -/
def strayChar (b : UInt8) : Char := Char.ofNat (0x10FF00 + b.toNat)

/-- The octet a character keeps, if it is a stray octet. -/
def strayOctet? (c : Char) : Option UInt8 :=
  if 0x10FF80 ≤ c.toNat then some (UInt8.ofNat (c.toNat - 0x10FF00)) else none

/-- Whether text has a stray octet. -/
def hasStray (s : String) : Bool := s.any fun (c : Char) => decide (0x10FF80 ≤ c.toNat)

/-- The octets of one character: its UTF-8 sequence, or the stray octet it keeps. -/
def charOctets (c : Char) : List UInt8 :=
  match strayOctet? c with
  | some b => [b]
  | none => String.utf8EncodeChar c

/-- The octets of a string. -/
def bytes (s : String) : List UInt8 :=
  if hasStray s then s.toList.flatMap charOctets else s.toUTF8.toList

/-- The number of octets of a string. -/
def size (s : String) : Nat :=
  if hasStray s then (bytes s).length else s.utf8ByteSize

/-- Whether an octet continues a sequence. -/
def isTail (b : UInt8) : Bool := b &&& 0xC0 == 0x80

/-- The code point of a well-formed sequence at the head of the octets, and its length. -/
def decodeHead : List UInt8 → Option (Nat × Nat)
  | [] => none
  | b0 :: rest =>
    let n0 := b0.toNat
    if n0 < 0x80 then some (n0, 1)
    else if 0xC2 ≤ n0 ∧ n0 ≤ 0xDF then
      match rest with
      | b1 :: _ => if isTail b1 then some ((n0 - 0xC0) * 64 + (b1.toNat - 0x80), 2) else none
      | _ => none
    else if 0xE0 ≤ n0 ∧ n0 ≤ 0xEF then
      match rest with
      | b1 :: b2 :: _ =>
        if isTail b1 && isTail b2 then
          let c := ((n0 - 0xE0) * 64 + (b1.toNat - 0x80)) * 64 + (b2.toNat - 0x80)
          if c < 0x800 ∨ (0xD800 ≤ c ∧ c ≤ 0xDFFF) then none else some (c, 3)
        else none
      | _ => none
    else if 0xF0 ≤ n0 ∧ n0 ≤ 0xF4 then
      match rest with
      | b1 :: b2 :: b3 :: _ =>
        if isTail b1 && isTail b2 && isTail b3 then
          let c := (((n0 - 0xF0) * 64 + (b1.toNat - 0x80)) * 64 + (b2.toNat - 0x80)) * 64
            + (b3.toNat - 0x80)
          if c < 0x10000 ∨ c > 0x10FFFF then none else some (c, 4)
        else none
      | _ => none
    else none

/-- Read octets as text, `bad` giving the character of an octet that starts no
well-formed sequence. -/
def decodeWith (bad : UInt8 → Char) (bs : List UInt8) : String :=
  go bs.length bs ""
where
  go : Nat → List UInt8 → String → String
    | 0, _, acc => acc
    | _ + 1, [], acc => acc
    | fuel + 1, b :: rest, acc =>
      match decodeHead (b :: rest) with
      | some (c, n) => go fuel ((b :: rest).drop n) (acc.push (Char.ofNat c))
      | none => go fuel rest (acc.push (bad b))

/-- Read octets as text; each octet that starts no well-formed sequence reads as U+FFFD. -/
def decodeLossy (bs : List UInt8) : String := decodeWith (fun _ => Char.ofNat 0xFFFD) bs

/-- Read octets as text, keeping each octet that starts no well-formed sequence as a stray
octet. -/
def ofOctets (bs : List UInt8) : String := decodeWith strayChar bs

/-- Text with its stray octets joined into the characters that they form together. -/
def normalize (s : String) : String := if hasStray s then ofOctets (bytes s) else s

/-- Text as it is shown outside: each stray octet as U+FFFD. -/
def clean (s : String) : String :=
  if hasStray s then s.map fun c => if 0x10FF80 ≤ c.toNat then Char.ofNat 0xFFFD else c
  else s

/-- Whether the octets of one text come before those of another. -/
def octetsLess : List UInt8 → List UInt8 → Bool
  | [], [] => false
  | [], _ :: _ => true
  | _ :: _, [] => false
  | a :: as, b :: bs => a < b || (a == b && octetsLess as bs)

/-- Whether text comes before other text in the order of their octets. -/
def lessThan (s t : String) : Bool :=
  if hasStray s || hasStray t then octetsLess (bytes s) (bytes t) else decide (s < t)

/-- The octets of a string between two octet offsets, read back as text. -/
def sliceBytes (s : String) (lo hi : Nat) : String :=
  ofOctets (((bytes s).drop lo).take (hi - lo))

end Windowing.Utf8
