import Windowing.Sql.Printf

set_option autoImplicit false

/-! # JSON values

A JSON value as the JSON functions keep it: besides its shape, a number keeps the text it
was written with, and a string keeps its text as written between the quotes. How the text
was written is kept too, since it says how the text is read back and how it is written out:

* a number is an integer or a real, each in standard form or in a JSON5 form (an integer
  in hexadecimal, a real with no digit on one side of its point);
* a string's text has no escapes, standard escapes, JSON5 escapes (or characters only
  JSON5 allows), or is raw SQL text that still has to be escaped.

Written out, a value is minified standard JSON: JSON5 numbers and escapes are converted,
raw text is escaped, and everything else is copied as it was written.

The same values have a binary form (a blob): each element is a header, whose low four bits
give its kind and whose high four bits give its payload size (or say how many bytes after
the header hold it), followed by the payload: the text of a number or string, or the
elements of an array or object in turn. -/

namespace Windowing.Sql

/-- How a number is written. -/
inductive NumForm where
  | int
  | int5
  | float
  | float5
  deriving BEq, Inhabited

/-- How a string's text is kept. -/
inductive StrForm where
  /-- No escapes. -/
  | plain
  /-- Standard JSON escapes. -/
  | escaped
  /-- JSON5 escapes or characters. -/
  | json5
  /-- SQL text, not yet escaped. -/
  | raw
  deriving BEq, Inhabited

/-- The label of an object's member: a string. -/
structure JsonLabel where
  form : StrForm
  text : String
  deriving Inhabited

/-- A JSON value. -/
inductive JsonValue where
  | null
  | bool (b : Bool)
  | num (form : NumForm) (text : String)
  | str (form : StrForm) (text : String)
  | arr (items : List JsonValue)
  | obj (fields : List (JsonLabel × JsonValue))
  deriving Inhabited

/-! ## Reading escapes -/

/-- The value of a hexadecimal digit. -/
def hexDigitValue (c : Char) : Nat :=
  if '0' ≤ c && c ≤ '9' then c.toNat - 48
  else if 'a' ≤ c && c ≤ 'f' then c.toNat - 87
  else if 'A' ≤ c && c ≤ 'F' then c.toNat - 55
  else 0

/-- The value of hexadecimal digits. -/
def hexValueOf (cs : List Char) : Nat := cs.foldl (fun n c => n * 16 + hexDigitValue c) 0

/-- Whether a character is a hexadecimal digit. -/
def isHexDigit (c : Char) : Bool := ('0' ≤ c && c ≤ '9') || ('a' ≤ c && c ≤ 'f') || ('A' ≤ c && c ≤ 'F')

/-- The octets of a code point written as UTF-8 would write it, surrogates included. -/
def codePointOctets (v : Nat) : List UInt8 :=
  if v ≤ 0x7f then [v.toUInt8]
  else if v ≤ 0x7ff then [(0xc0 + v / 64).toUInt8, (0x80 + v % 64).toUInt8]
  else if v < 0x10000 then
    [(0xe0 + v / 4096).toUInt8, (0x80 + (v / 64) % 64).toUInt8, (0x80 + v % 64).toUInt8]
  else
    [(0xf0 + v / 262144).toUInt8, (0x80 + (v / 4096) % 64).toUInt8,
     (0x80 + (v / 64) % 64).toUInt8, (0x80 + v % 64).toUInt8]

/-- A code point as text: itself when it is a character, else its octets as stray
octets. -/
def codePointText (v : Nat) : String :=
  if v < 0xd800 || (0xe000 ≤ v && v ≤ 0x10ffff) then String.singleton (Char.ofNat v)
  else Utf8.ofOctets (codePointOctets v)

/-- How many characters after a backslash a line continuation takes: a backslash and a
line end (or a line or paragraph separator), repeatedly. -/
def continuationLength : List Char → Nat → Nat
  | '\\' :: '\n' :: rest, n => continuationLength rest (n + 2)
  | '\\' :: '\r' :: '\n' :: rest, n => continuationLength rest (n + 3)
  | '\\' :: '\r' :: rest, n => continuationLength rest (n + 2)
  | '\\' :: '\u2028' :: rest, n => continuationLength rest (n + 2)
  | '\\' :: '\u2029' :: rest, n => continuationLength rest (n + 2)
  | _, n => n

/-- The code point a `\u` escape's digits give, with a following low surrogate escape
joined to a high surrogate: the code point and the characters taken after the `u`. -/
def unicodeEscape (cs : List Char) : Nat × Nat :=
  let v := hexValueOf (cs.take 4)
  match cs.drop 4 with
  | '\\' :: 'u' :: rest =>
    let lo := hexValueOf (rest.take 4)
    if v / 1024 == 0xd800 / 1024 && lo / 1024 == 0xdc00 / 1024 && rest.length ≥ 4 then
      ((v % 1024) * 1024 + lo % 1024 + 0x10000, 10)
    else (v, 4)
  | _ => (v, 4)

/-- The text of a string written with escapes. An escape that does not read is dropped. -/
def unescapeText (cs : List Char) : String :=
  let rec go : Nat → List Char → String → String
    | 0, _, acc => acc
    | _ + 1, [], acc => acc
    | fuel + 1, c :: rest, acc =>
      if c != '\\' then go fuel rest (acc.push c)
      else
        match rest with
        | [] => acc
        | 'u' :: more =>
          if more.length < 4 then acc
          else
            let (v, n) := unicodeEscape more
            go fuel (more.drop n) (acc ++ codePointText v)
        | 'b' :: more => go fuel more (acc.push '\x08')
        | 'f' :: more => go fuel more (acc.push '\x0c')
        | 'n' :: more => go fuel more (acc.push '\n')
        | 'r' :: more => go fuel more (acc.push '\r')
        | 't' :: more => go fuel more (acc.push '\t')
        | 'v' :: more => go fuel more (acc.push '\x0b')
        | '0' :: more => go fuel more (acc.push '\x00')
        | 'x' :: more =>
          if more.length < 2 then acc
          else go fuel (more.drop 2) (acc ++ codePointText (hexValueOf (more.take 2)))
        | d :: more =>
          if d == '\'' || d == '"' || d == '/' || d == '\\' then go fuel more (acc.push d)
          else if d == '\n' || d == '\r' || d == '\u2028' || d == '\u2029' then
            let skip := continuationLength (c :: rest) 0
            match (c :: rest).drop skip with
            | [] => acc.push '\x00'
            | next => if skip == 0 then go fuel more acc else go fuel next acc
          else go fuel more acc
  go (cs.length + 1) cs ""

/-- A label's text as compared: escapes read. -/
def JsonLabel.key (l : JsonLabel) : String :=
  match l.form with
  | .plain | .raw => l.text
  | .escaped | .json5 => unescapeText l.text.toList

/-! ## Writing out -/

/-- The lower-case hexadecimal digit of a number below 16. -/
def hexDigitChar (n : Nat) : Char := if n < 10 then Char.ofNat (48 + n) else Char.ofNat (87 + n)

/-- A control character as a JSON escape. -/
def controlEscape (c : Char) : String :=
  match c with
  | '\x08' => "\\b"
  | '\t' => "\\t"
  | '\n' => "\\n"
  | '\x0c' => "\\f"
  | '\r' => "\\r"
  | _ =>
    let n := c.toNat
    "\\u00" ++ String.singleton (hexDigitChar (n / 16)) ++ String.singleton (hexDigitChar (n % 16))

/-- Text escaped for a JSON string: quotes, backslashes and control characters. -/
def escapeJsonText (s : String) : String :=
  s.foldl (fun acc c =>
    if c == '"' || c == '\\' then (acc.push '\\').push c
    else if c.toNat < 0x20 then acc ++ controlEscape c
    else acc.push c) ""

/-- A string's text with JSON5 escapes written as standard ones. -/
def json5TextOut (s : String) : String :=
  let rec go : Nat → List Char → String → String
    | 0, _, acc => acc
    | _ + 1, [], acc => acc
    | fuel + 1, c :: rest, acc =>
      if c == '"' then go fuel rest (acc ++ "\\\"")
      else if c.toNat < 0x20 then go fuel rest (acc ++ controlEscape c)
      else if c != '\\' then go fuel rest (acc.push c)
      else
        match rest with
        | [] => acc
        | '\'' :: more => go fuel more (acc.push '\'')
        | 'v' :: more => go fuel more (acc ++ "\\u0009")
        | 'x' :: more =>
          if more.length < 2 then acc
          else go fuel (more.drop 2) (acc ++ "\\u00" ++ String.ofList (more.take 2))
        | '0' :: more => go fuel more (acc ++ "\\u0000")
        | '\r' :: '\n' :: more => go fuel more acc
        | '\r' :: more => go fuel more acc
        | '\n' :: more => go fuel more acc
        | '\u2028' :: more => go fuel more acc
        | '\u2029' :: more => go fuel more acc
        | d :: more => go fuel more ((acc.push '\\').push d)
  go (s.length + 1) s.toList ""

/-- A hexadecimal integer written in decimal (past 64 bits: a huge real). -/
def hexIntOut (s : String) : String :=
  let (sign, body) := match s.toList with
    | '-' :: r => ("-", r)
    | '+' :: r => ("", r)
    | r => ("", r)
  let digits := body.drop 2
  let (u, windowSpec) := digits.foldl (fun (acc : Nat × Bool) c =>
    if acc.1 / 1152921504606846976 != 0 then (acc.1, true) else (acc.1 * 16 + hexDigitValue c, acc.2)) (0, false)
  sign ++ (if windowSpec then "9.0e999" else toString u)

/-- A JSON5 real written in standard form: a zero before a leading point and after a
trailing one. -/
def float5Out (s : String) : String :=
  let cs := s.toList
  let (sign, body) := match cs with
    | '-' :: r => ("-", r)
    | r => ("", r)
  let body := if body.head? == some '.' then '0' :: body else body
  let rec fix : List Char → List Char
    | [] => []
    | '.' :: rest =>
      match rest with
      | d :: _ => if d.isDigit then '.' :: fix rest else '.' :: '0' :: fix rest
      | [] => ['.', '0']
    | c :: rest => c :: fix rest
  sign ++ String.ofList (fix body)

/-- The text between a string's quotes, written out. -/
def strOut (form : StrForm) (text : String) : String :=
  match form with
  | .plain | .escaped => text
  | .json5 => json5TextOut text
  | .raw => escapeJsonText text

mutual

/-- A value written as minified standard JSON. -/
def JsonValue.render : JsonValue → String
  | .null => "null"
  | .bool true => "true"
  | .bool false => "false"
  | .num .int t | .num .float t => t
  | .num .int5 t => hexIntOut t
  | .num .float5 t => float5Out t
  | .str f t => "\"" ++ strOut f t ++ "\""
  | .arr items => "[" ++ renderItems items ++ "]"
  | .obj fields => "\x7b" ++ renderFields fields ++ "\x7d"

/-- Array items written out, comma separated. -/
def renderItems : List JsonValue → String
  | [] => ""
  | [v] => v.render
  | v :: rest => v.render ++ "," ++ renderItems rest

/-- Object members written out, comma separated. -/
def renderFields : List (JsonLabel × JsonValue) → String
  | [] => ""
  | [(l, v)] => "\"" ++ strOut l.form l.text ++ "\":" ++ v.render
  | (l, v) :: rest => "\"" ++ strOut l.form l.text ++ "\":" ++ v.render ++ "," ++ renderFields rest

end

/-! ## The binary form -/

/-- The kind number of a value's binary form. -/
def JsonValue.kindCode : JsonValue → Nat
  | .null => 0
  | .bool true => 1
  | .bool false => 2
  | .num .int _ => 3
  | .num .int5 _ => 4
  | .num .float _ => 5
  | .num .float5 _ => 6
  | .str .plain _ => 7
  | .str .escaped _ => 8
  | .str .json5 _ => 9
  | .str .raw _ => 10
  | .arr _ => 11
  | .obj _ => 12

/-- The kind number of a label's string form. -/
def StrForm.code : StrForm → Nat
  | .plain => 7
  | .escaped => 8
  | .json5 => 9
  | .raw => 10

/-- A header: the kind and the payload size, in as few bytes as it takes. -/
def binaryHeader (kind size : Nat) : List UInt8 :=
  if size ≤ 11 then [(kind + size * 16).toUInt8]
  else if size ≤ 0xff then [(kind + 0xc0).toUInt8, size.toUInt8]
  else if size ≤ 0xffff then [(kind + 0xd0).toUInt8, (size / 256).toUInt8, (size % 256).toUInt8]
  else
    [(kind + 0xe0).toUInt8, (size / 16777216 % 256).toUInt8, (size / 65536 % 256).toUInt8,
     (size / 256 % 256).toUInt8, (size % 256).toUInt8]

/-- An element of a kind with a payload. -/
def binaryElement (kind : Nat) (payload : List UInt8) : List UInt8 :=
  binaryHeader kind payload.length ++ payload

mutual

/-- A value in binary form. -/
def JsonValue.binary : JsonValue → List UInt8
  | .null => [0]
  | .bool true => [1]
  | .bool false => [2]
  | .num f t => binaryElement (JsonValue.num f t).kindCode (Utf8.bytes t)
  | .str f t => binaryElement (JsonValue.str f t).kindCode (Utf8.bytes t)
  | .arr items => binaryElement 11 (binaryItems items)
  | .obj fields => binaryElement 12 (binaryFields fields)

/-- Array items in binary form, in turn. -/
def binaryItems : List JsonValue → List UInt8
  | [] => []
  | v :: rest => v.binary ++ binaryItems rest

/-- Object members in binary form, in turn. -/
def binaryFields : List (JsonLabel × JsonValue) → List UInt8
  | [] => []
  | (l, v) :: rest => binaryElement l.form.code (Utf8.bytes l.text) ++ v.binary ++ binaryFields rest

end

/-- The header of a binary element: its kind, payload size and header length, when the
bytes hold it. -/
def readBinaryHeader (bs : List UInt8) : Option (Nat × Nat × Nat) :=
  match bs with
  | [] => none
  | b :: rest =>
    let kind := b.toNat % 16
    let x := b.toNat / 16
    let byte (i : Nat) : Nat := (rest.getD i 0).toNat
    let (size, len) :=
      if x ≤ 11 then (x, 1)
      else if x == 12 then (byte 0, 2)
      else if x == 13 then (byte 0 * 256 + byte 1, 3)
      else if x == 14 then (((byte 0 * 256 + byte 1) * 256 + byte 2) * 256 + byte 3, 5)
      else (((byte 4 * 256 + byte 5) * 256 + byte 6) * 256 + byte 7, 9)
    if len > bs.length then none
    else if x == 15 && (byte 0 != 0 || byte 1 != 0 || byte 2 != 0 || byte 3 != 0) then none
    else if len + size > bs.length then none
    else some (kind, size, len)

/-- Whether a blob looks like a value in binary form: its first element spans it exactly. -/
def looksBinary (bs : List UInt8) : Bool :=
  match readBinaryHeader bs with
  | some (kind, size, len) => kind ≤ 12 && len + size == bs.length && !(kind ≤ 2 && size > 0)
  | none => false

/-- The string form of a kind number. -/
def strFormOfCode? (k : Nat) : Option StrForm :=
  if k == 7 then some .plain else if k == 8 then some .escaped
  else if k == 9 then some .json5 else if k == 10 then some .raw else none

mutual

/-- The values of binary elements that fill some bytes exactly. -/
def readBinaryItems : Nat → List UInt8 → Option (List JsonValue)
  | 0, _ => none
  | _ + 1, [] => some []
  | fuel + 1, bs => do
    let (kind, size, len) ← readBinaryHeader bs
    let v ← readBinaryValue fuel kind ((bs.drop len).take size)
    let rest ← readBinaryItems fuel (bs.drop (len + size))
    pure (v :: rest)

/-- The members of an object in binary form that fill some bytes exactly. -/
def readBinaryFields : Nat → List UInt8 → Option (List (JsonLabel × JsonValue))
  | 0, _ => none
  | _ + 1, [] => some []
  | fuel + 1, bs => do
    let (kind, size, len) ← readBinaryHeader bs
    let form ← strFormOfCode? kind
    let label : JsonLabel := { form, text := Utf8.ofOctets ((bs.drop len).take size) }
    let bs := bs.drop (len + size)
    let (vkind, vsize, vlen) ← readBinaryHeader bs
    let v ← readBinaryValue fuel vkind ((bs.drop vlen).take vsize)
    let rest ← readBinaryFields fuel (bs.drop (vlen + vsize))
    pure ((label, v) :: rest)

/-- The value of a binary element of a kind with a payload. -/
def readBinaryValue : Nat → Nat → List UInt8 → Option JsonValue
  | 0, _, _ => none
  | fuel + 1, kind, payload =>
    let text := Utf8.ofOctets payload
    match kind with
    | 0 => some .null
    | 1 => some (.bool true)
    | 2 => some (.bool false)
    | 3 => some (.num .int text)
    | 4 => some (.num .int5 text)
    | 5 => some (.num .float text)
    | 6 => some (.num .float5 text)
    | 11 => (readBinaryItems fuel payload).map .arr
    | 12 => (readBinaryFields fuel payload).map .obj
    | k => (strFormOfCode? k).map (.str · text)

end

/-- The value a blob in binary form holds. -/
def JsonValue.ofBinary? (bs : List UInt8) : Option JsonValue :=
  match readBinaryHeader bs with
  | some (kind, size, len) =>
    if len + size == bs.length then readBinaryValue (bs.length + 2) kind (bs.drop len) else none
  | none => none

/-! ## Values as SQL values -/

/-- The type name of a value, as `json_type` gives it. -/
def JsonValue.typeName : JsonValue → String
  | .null => "null"
  | .bool true => "true"
  | .bool false => "false"
  | .num .int _ | .num .int5 _ => "integer"
  | .num _ _ => "real"
  | .str _ _ => "text"
  | .arr _ => "array"
  | .obj _ => "object"

/-- Whether a value is an array or an object. -/
def JsonValue.isContainer : JsonValue → Bool
  | .arr _ | .obj _ => true
  | _ => false

/-- A decimal or hexadecimal integer's value, when it has only digits and fits in 64 bits
(hexadecimal wraps): the value, or none and whether it was too large. -/
def decOrHexInt (s : String) : Option Int × Bool :=
  match s.toList with
  | '0' :: x :: rest =>
    if x == 'x' || x == 'X' then
      let ds := rest.dropWhile (· == '0')
      let hex := ds.takeWhile isHexDigit
      if hex.length > 16 then (none, true)
      else if hex.length < ds.length then (none, false)
      else
        let u := hexValueOf hex
        (some (if u ≥ 9223372036854775808 then (u : Int) - 18446744073709551616 else u), false)
    else
      match readInt64 s with
      | (.exact, v) => (some v, false)
      | (.edge, _) => (none, true)
      | (.overflow, _) => (none, true)
      | _ => (none, false)
  | _ =>
    match readInt64 s with
    | (.exact, v) => (some v, false)
    | (.edge, _) => (none, true)
    | (.overflow, _) => (none, true)
    | _ => (none, false)

/-- A number's SQL value: an integer when it fits, else a real; none when its text does
not read. -/
def numberSql (form : NumForm) (text : String) : Option Value :=
  let real : Option Value :=
    match readNumber text with
    | (.none, _) => none
    | (_, f) => some (.real f)
  match form with
  | .float | .float5 => real
  | .int | .int5 =>
    let (neg, body) := match text.toList with
      | '-' :: r => (true, String.ofList r)
      | _ => (false, text)
    match decOrHexInt body with
    | (some v, _) => some (.int (if neg then wrapInt (0 - v) else v))
    | (none, true) =>
      if neg && body == "9223372036854775808" then some (.int minInt) else real
    | (none, false) => none

/-- A value as an SQL value: null, 1 or 0, a number, the text of a string, or the JSON
text of an array or object. -/
def JsonValue.toSql : JsonValue → Option Value
  | .null => some .null
  | .bool b => some (.int (if b then 1 else 0))
  | .num f t => numberSql f t
  | .str f t =>
    match f with
    | .plain | .raw => some (.text t)
    | .escaped | .json5 => some (.text (unescapeText t.toList))
  | v => some (.text v.render)

end Windowing.Sql
