import Windowing.Sql.Printf
import Windowing.Sql.Pattern
import Windowing.Sql.Error
import Windowing.Sql.Database
import Windowing.Sql.Token

set_option autoImplicit false

/-! # Scalar functions

The built-in functions on values. Text functions count characters; functions of blobs
count octets. A number given to a text function is first written as text. Most functions
give null when an argument they need is null.

A call names a function and gives its arguments; a name that is not a function, or a
function called with a number of arguments it does not take, is refused before the
statement runs. -/

namespace Windowing.Sql

/-- What a function may read besides its arguments: the connection's counts of changed
rows and its last inserted row id, and the collation of the arguments. -/
structure CallContext where
  changes : Int := 0
  totalChanges : Int := 0
  lastInsertRowid : Int := 0
  collation : Collation := .binary
  /-- The current moment, as a Julian day number in milliseconds (2024-01-01 00:00:00 UTC
  unless the caller says otherwise). -/
  now : Int := 212570827200000
  /-- The part of a table's definition the call stands in, when it stands in one whose
  value must not depend on when it is worked out (`a CHECK constraint`, `an index`, `a
  generated column`): such a call may not read the clock. -/
  definition : Option String := none
  deriving Inhabited

/-- How many arguments a function takes: some exact counts, or at least some. -/
inductive Arity where
  | exactly (counts : List Nat)
  | atLeast (n : Nat)

/-- Whether an arity allows a count. -/
def Arity.allows : Arity → Nat → Bool
  | .exactly ns, n => ns.contains n
  | .atLeast m, n => n ≥ m

/-- The scalar functions and what they take. -/
def scalarArities : List (String × Arity) :=
  [("abs", .exactly [1]), ("changes", .exactly [0]), ("char", .atLeast 0),
   ("coalesce", .atLeast 2), ("concat", .atLeast 1), ("concat_ws", .atLeast 2),
   ("format", .atLeast 0), ("glob", .exactly [2]), ("hex", .exactly [1]),
   ("ifnull", .exactly [2]), ("iif", .exactly [3]), ("instr", .exactly [2]),
   ("last_insert_rowid", .exactly [0]), ("length", .exactly [1]), ("like", .exactly [2, 3]),
   ("likelihood", .exactly [2]), ("likely", .exactly [1]), ("lower", .exactly [1]),
   ("ltrim", .exactly [1, 2]), ("max", .atLeast 1), ("min", .atLeast 1),
   ("nullif", .exactly [2]), ("octet_length", .exactly [1]), ("printf", .atLeast 0),
   ("quote", .exactly [1]), ("soundex", .exactly [1]), ("random", .exactly [0]), ("randomblob", .exactly [1]),
   ("replace", .exactly [3]), ("round", .exactly [1, 2]), ("rtrim", .exactly [1, 2]),
   ("sign", .exactly [1]), ("sqlite_version", .exactly [0]), ("substr", .exactly [2, 3]),
   ("substring", .exactly [2, 3]), ("total_changes", .exactly [0]), ("trim", .exactly [1, 2]),
   ("typeof", .exactly [1]), ("unhex", .exactly [1, 2]), ("unicode", .exactly [1]),
   ("unlikely", .exactly [1]), ("upper", .exactly [1]), ("zeroblob", .exactly [1]),
   ("acos", .exactly [1]), ("acosh", .exactly [1]), ("asin", .exactly [1]),
   ("asinh", .exactly [1]), ("atan", .exactly [1]), ("atan2", .exactly [2]),
   ("atanh", .exactly [1]), ("ceil", .exactly [1]), ("ceiling", .exactly [1]),
   ("cos", .exactly [1]), ("cosh", .exactly [1]), ("degrees", .exactly [1]),
   ("exp", .exactly [1]), ("floor", .exactly [1]), ("ln", .exactly [1]), ("log", .exactly [1, 2]),
   ("log10", .exactly [1]), ("log2", .exactly [1]), ("mod", .exactly [2]), ("pi", .exactly [0]),
   ("pow", .exactly [2]), ("power", .exactly [2]), ("radians", .exactly [1]),
   ("sin", .exactly [1]), ("sinh", .exactly [1]), ("sqrt", .exactly [1]), ("tan", .exactly [1]),
   ("tanh", .exactly [1]), ("trunc", .exactly [1])]

/-- The functions whose result may change while the database stays as it is: a random
value, the connection's counts, the library's version and options, the current time. They
may not stand in an index or a generated column. -/
def volatileFunctions : List String :=
  ["random", "randomblob", "changes", "total_changes", "last_insert_rowid", "sqlite_version",
   "sqlite_source_id", "sqlite_compileoption_get", "sqlite_compileoption_used", "load_extension",
   "current_date", "current_time", "current_timestamp"]

/-- The aggregate functions and what they take. -/
def aggregateArities : List (String × Arity) :=
  [("avg", .exactly [1]), ("count", .exactly [0, 1]), ("group_concat", .exactly [1, 2]),
   ("string_agg", .exactly [2]), ("max", .exactly [1]), ("min", .exactly [1]),
   ("sum", .exactly [1]), ("total", .exactly [1]), ("json_group_array", .exactly [1]),
   ("json_group_object", .exactly [2]), ("jsonb_group_array", .exactly [1]),
   ("jsonb_group_object", .exactly [2])]

/-- The window functions (which stand only with a window) and what they take. -/
def windowArities : List (String × Arity) :=
  [("row_number", .exactly [0]), ("rank", .exactly [0]), ("dense_rank", .exactly [0]),
   ("percent_rank", .exactly [0]), ("cume_dist", .exactly [0]), ("ntile", .exactly [1]),
   ("lag", .exactly [1, 2, 3]), ("lead", .exactly [1, 2, 3]), ("first_value", .exactly [1]),
   ("last_value", .exactly [1]), ("nth_value", .exactly [2])]

/-- The date, time and JSON functions and what they take. -/
def extraArities : List (String × Arity) :=
  [("date", .atLeast 0), ("time", .atLeast 0), ("datetime", .atLeast 0),
   ("julianday", .atLeast 0), ("unixepoch", .atLeast 0), ("strftime", .atLeast 0),
   ("timediff", .exactly [2]), ("current_date", .exactly [0]), ("current_time", .exactly [0]),
   ("current_timestamp", .exactly [0]),
   ("json", .exactly [1]), ("jsonb", .exactly [1]), ("json_array", .atLeast 0),
   ("jsonb_array", .atLeast 0), ("json_array_length", .exactly [1, 2]),
   ("json_error_position", .exactly [1]), ("json_extract", .atLeast 0),
   ("jsonb_extract", .atLeast 0), ("json_insert", .atLeast 0), ("jsonb_insert", .atLeast 0),
   ("json_object", .atLeast 0), ("jsonb_object", .atLeast 0), ("json_patch", .exactly [2]),
   ("jsonb_patch", .exactly [2]), ("json_quote", .exactly [1]),
   ("json_remove", .atLeast 0), ("jsonb_remove", .atLeast 0), ("json_replace", .atLeast 0),
   ("jsonb_replace", .atLeast 0), ("json_set", .atLeast 0), ("jsonb_set", .atLeast 0),
   ("json_type", .exactly [1, 2]), ("json_valid", .exactly [1, 2])]

/-- Whether a call with a number of arguments is an aggregate. -/
def isAggregateCall (name : String) (argc : Nat) : Bool :=
  match aggregateArities.lookup (foldName name) with
  | some a => a.allows argc
  | none => false

/-- A text's characters up to a NUL. -/
def textChars (s : String) : List Char := s.toList.takeWhile (· != '\x00')

/-- The longest pattern, in octets, that `LIKE` and `GLOB` take. -/
def likePatternLimit : Nat := 50000

/-- The code of a letter for `soundex`, read from the low seven bits of an octet: zero for
a vowel, `H`, `W`, `Y` and what is not a letter. -/
def soundexCode (b : UInt8) : Nat :=
  match (Char.ofNat (b.toNat % 128)).toUpper with
  | 'B' | 'F' | 'P' | 'V' => 1
  | 'C' | 'G' | 'J' | 'K' | 'Q' | 'S' | 'X' | 'Z' => 2
  | 'D' | 'T' => 3
  | 'L' => 4
  | 'M' | 'N' => 5
  | 'R' => 6
  | _ => 0

/-- `soundex(X)`: the text's first ASCII letter in upper case, then the codes of the
letters after it (a run of one code counts once, an uncoded letter ends a run), cut or
padded with zeros to four characters; `?000` when the text has no ASCII letter. -/
def soundex (bs : List UInt8) : String :=
  let isAlpha (b : UInt8) : Bool := (65 ≤ b && b ≤ 90) || (97 ≤ b && b ≤ 122)
  match bs.dropWhile (fun b => !isAlpha b) with
  | [] => "?000"
  | first :: rest =>
    let step (acc : List Nat × Nat) (b : UInt8) : List Nat × Nat :=
      let code := soundexCode b
      if code == 0 then (acc.1, 0)
      else if code == acc.2 then acc
      else (acc.1 ++ [code], code)
    let codes := (rest.foldl step ([], soundexCode first)).1
    let digits := (codes ++ [0, 0, 0]).take 3
    String.ofList ((Char.ofNat first.toNat).toUpper :: digits.map fun d => Char.ofNat (48 + d))

/-- A 32-bit integer from a value, as the substring function reads its bounds. -/
def Value.toInt32 (v : Value) : Int := wrapInt32 v.toInt

/-- `substr(X, Y, Z)` on a list of characters or octets. -/
def substrList {α : Type} (xs : List α) (p1 : Int) (p2? : Option Int) : List α :=
  let len : Int := xs.length
  let (p2, negP2) : Int × Bool := match p2? with
    | some p => if p < 0 then (-p, true) else (p, false)
    | none => (1000000000, false)
  let (p1, p2) : Int × Int :=
    if p1 < 0 then
      let p1 := p1 + len
      if p1 < 0 then (0, max 0 (p2 + p1)) else (p1, p2)
    else if p1 > 0 then (p1 - 1, p2)
    else if p2 > 0 then (p1, p2 - 1)
    else (p1, p2)
  let (p1, p2) : Int × Int :=
    if negP2 then
      let q := p1 - p2
      if q < 0 then (0, p2 + q) else (q, p2)
    else (p1, p2)
  (xs.drop p1.toNat).take p2.toNat

/-- Hexadecimal text of octets, in capitals. -/
def hexOfOctets (bs : List UInt8) : String :=
  let d (n : Nat) : Char := if n < 10 then Char.ofNat (48 + n) else Char.ofNat (55 + n)
  String.ofList (bs.flatMap fun b => [d (b.toNat / 16), d (b.toNat % 16)])

/-- The value of a hexadecimal digit. -/
def hexValue (c : Char) : Nat :=
  if c.isDigit then c.toNat - 48
  else if 'a' ≤ c && c ≤ 'f' then c.toNat - 87
  else c.toNat - 55

/-- `unhex(X, Y)`: the octets of hexadecimal text, skipping characters of `Y` between
pairs; none when anything else stands in it. -/
def unhexText (s : String) (pass : List Char) : Option (List UInt8) :=
  let rec go : Nat → List Char → List UInt8 → Option (List UInt8)
    | 0, _, acc => some acc.reverse
    | _ + 1, [], acc => some acc.reverse
    | fuel + 1, c :: rest, acc =>
      if c == '\x00' then some acc.reverse
      else if isHexChar c then
        match rest with
        | d :: more =>
          if isHexChar d then go fuel more (UInt8.ofNat (hexValue c * 16 + hexValue d) :: acc) else none
        | [] => none
      else if pass.contains c then go fuel rest acc
      else none
  go (s.length + 1) s.toList []

/-- The text of a value as `quote` writes it. -/
def quoteValue : Value → String
  | .null => "NULL"
  | .int i => toString i
  | .real f =>
    let t := String.ofList (formatReal { altForm2 := true, zeroPad := true, precision := some 15 } 'g' false f)
    if (readNumber t).2 == f then t
    else String.ofList (formatReal { altForm2 := true, zeroPad := true, precision := some 20 } 'e' false f)
  | .text s => "'" ++ String.ofList (textChars s |>.flatMap fun c => if c == '\'' then ['\'', '\''] else [c]) ++ "'"
  | .blob b => "X'" ++ hexOfOctets b ++ "'"

/-- Remove characters of a set from the start, the end, or both ends of a text. -/
def trimChars (set : List Char) (left right : Bool) (s : String) : String :=
  let cs := s.toList
  let cs := if left then cs.dropWhile set.contains else cs
  let cs := if right then (cs.reverse.dropWhile set.contains).reverse else cs
  String.ofList cs

/-- Replace every occurrence of a non-empty pattern in a text. -/
def replaceAll (s pat rep : List Char) : List Char :=
  let rec go : Nat → List Char → List Char → List Char
    | 0, rest, acc => acc.reverse ++ rest
    | fuel + 1, rest, acc =>
      match rest with
      | [] => acc.reverse
      | c :: more =>
        if pat.isPrefixOf rest then go fuel (rest.drop pat.length) (rep.reverse ++ acc)
        else go fuel more (c :: acc)
  go (s.length + 1) s []

/-- `instr(X, Y)`: the place of the first occurrence of `Y` in `X`, from one; zero when
there is none. -/
def instrList {α : Type} [BEq α] (hay needle : List α) : Nat :=
  if needle.isEmpty then 1
  else
    let rec go : Nat → List α → Nat → Nat
      | 0, _, _ => 0
      | fuel + 1, rest, n =>
        if needle.length > rest.length then 0
        else if needle.isPrefixOf rest then n
        else match rest with
          | _ :: more => go fuel more (n + 1)
          | [] => 0
    go (hay.length + 1) hay 1

/-- ASCII letters in capitals. -/
def asciiUpper (s : String) : String :=
  String.ofList (s.toList.map fun c => if 'a' ≤ c && c ≤ 'z' then Char.ofNat (c.toNat - 32) else c)

/-- ASCII letters in lower case. -/
def asciiLowerText (s : String) : String := String.ofList (s.toList.map asciiLower)

/-- `round(X, N)`. -/
def roundReal (r : Float) (n : Int) : Float :=
  let n := if n > 30 then 30 else if n < 0 then 0 else n
  if r < -4503599627370496.0 || r > 4503599627370496.0 then r
  else if n == 0 then Float.ofInt (realToInt (r + (if r < 0 then -0.5 else 0.5)))
  else
    let t := String.ofList (formatReal { altForm2 := true, precision := some n.toNat } 'f' false r)
    (readNumber t).2

/-- A value as a number when it is one or is a text that wholly reads as one. -/
def Value.numericType : Value → Value
  | .text s => numericText false s
  | v => v

/-- The first argument, or null. -/
def argAt (args : List Value) (i : Nat) : Value := args.getD i .null

/-- A real result of a math function: null when it is not a number. -/
def mathResult (f : Float) : Value := if f.isNaN then .null else .real f

/-- A math function of one number: null for null or a text that is not a number. -/
def math1 (args : List Value) (f : Float → Float) : Value :=
  match (argAt args 0).numericType with
  | .int i => mathResult (f (Float.ofInt i))
  | .real x => mathResult (f x)
  | _ => .null

/-- A math function of two numbers. -/
def math2 (args : List Value) (f : Float → Float → Float) : Value :=
  let num (v : Value) : Option Float := match v.numericType with
    | .int i => some (Float.ofInt i)
    | .real x => some x
    | _ => none
  match num (argAt args 0), num (argAt args 1) with
  | some x, some y => mathResult (f x y)
  | _, _ => .null

/-- A logarithm: null unless the number is above zero. With two arguments the first is
the base, which must be above one, and the second is read as a real, which must be above
zero. -/
def logarithm (args : List Value) (f : Float → Float) : Value :=
  let positive : Option Float := match (argAt args 0).numericType with
    | .int i => if Float.ofInt i <= 0 then none else some (Float.ofInt i)
    | .real x => if x <= 0 then none else some x
    | _ => none
  match positive with
  | none => .null
  | some x =>
    if args.length == 2 then
      let b := Float.log x
      let y := (argAt args 1).toReal
      if b <= 0 || y <= 0 then .null else .real (Float.log y / b)
    else .real (f x)

/-- `ceil`, `floor` and `trunc`: integers stay, reals are rounded. -/
def mathRound (args : List Value) (f : Float → Float) : Value :=
  match (argAt args 0).numericType with
  | .int i => .int i
  | .real x => .real (f x)
  | _ => .null

/-- Whether a character is a hexadecimal digit. -/
def isHexDigitChar (c : Char) : Bool := isHexChar c

/-- Call a scalar function that needs all its arguments evaluated. -/
def callScalar (ctx : CallContext) (name : String) (args : List Value) : Fallible Value := do
  let a0 := argAt args 0
  let a1 := argAt args 1
  let a2 := argAt args 2
  let anyNull := args.any Value.isNull
  match foldName name with
  | "abs" =>
    match a0 with
    | .null => pure .null
    | .int i => if i == minInt then throw (SqlError.logic "integer overflow") else pure (.int i.natAbs)
    | v => let r := v.toReal; pure (.real (if r < 0 then -r else r))
  | "changes" => pure (.int ctx.changes)
  | "total_changes" => pure (.int ctx.totalChanges)
  | "last_insert_rowid" => pure (.int ctx.lastInsertRowid)
  | "char" =>
    pure (.text (String.ofList (args.map fun (v : Value) =>
      let x : Int := v.toInt
      if x < 0 || x > 0x10ffff || (0xD800 ≤ x && x ≤ 0xDFFF) then Char.ofNat 0xFFFD else Char.ofNat x.toNat)))
  | "concat" => pure (.text (String.join (args.filterMap Value.asText)))
  | "concat_ws" =>
    match a0.asText with
    | none => pure .null
    | some sep => pure (.text (sep.intercalate ((args.drop 1).filterMap Value.asText)))
  | "format" | "printf" =>
    match a0.asText with
    | some f =>
      match printfValue f (args.drop 1) with
      | some t => pure (.text t)
      | none => pure .null
    | none => pure .null
  | "glob" =>
    if a0.isBlob || a1.isBlob then pure (.int 0)
    else if a0.asBytes.length > likePatternLimit then throw (SqlError.logic "LIKE or GLOB pattern too complex")
    else
    match a0.asText, a1.asText with
    | some p, some s => pure (.int (if globMatch p s then 1 else 0))
    | _, _ => pure .null
  | "like" =>
    if a0.isBlob || a1.isBlob then pure (.int 0)
    else if a0.asBytes.length > likePatternLimit then throw (SqlError.logic "LIKE or GLOB pattern too complex")
    else
    let esc ← if args.length == 3 then
        match a2.asText with
        | none => pure (some none)
        | some e =>
          match textChars e with
          | [c] => pure (some (some c))
          | _ => throw (SqlError.logic "ESCAPE expression must be a single character")
      else pure (some none)
    match esc with
    | none => pure .null
    | some e =>
      match a0.asText, a1.asText with
      | some p, some s => pure (.int (if likeMatch p s e then 1 else 0))
      | _, _ => pure .null
  | "hex" => pure (.text (hexOfOctets a0.asBytes))
  | "soundex" => pure (.text (soundex (a0.asBytes.takeWhile (· != 0))))
  | "unhex" =>
    match a0.asText with
    | none => pure .null
    | some s =>
      let pass ← if args.length == 2 then
          match a1.asText with
          | some p => pure (some p.toList)
          | none => pure none
        else pure (some [])
      match pass with
      | none => pure .null
      | some p => pure (match unhexText s p with | some bs => .blob bs | none => .null)
  | "instr" =>
    if a0.isNull || a1.isNull then pure .null
    else match a0, a1 with
      | .blob h, .blob n => pure (.int (instrList h n))
      | _, _ => pure (.int (instrList (textChars (a0.asText.getD "")) (textChars (a1.asText.getD ""))))
  | "length" =>
    match a0 with
    | .null => pure .null
    | .blob b => pure (.int b.length)
    | v => pure (.int (textChars (v.asText.getD "")).length)
  | "octet_length" =>
    match a0 with
    | .null => pure .null
    | v => pure (.int v.asBytes.length)
  | "lower" => pure (match a0.asText with | some s => .text (asciiLowerText s) | none => .null)
  | "upper" => pure (match a0.asText with | some s => .text (asciiUpper s) | none => .null)
  | "ltrim" | "rtrim" | "trim" =>
    let n := foldName name
    match a0.asText with
    | none => pure .null
    | some s =>
      let set? := if args.length == 2 then a1.asText.map String.toList else some [' ']
      match set? with
      | none => pure .null
      | some set => pure (.text (trimChars set (n != "rtrim") (n != "ltrim") s))
  | "max" | "min" =>
    if anyNull then pure .null
    else
      let isMax := foldName name == "max"
      pure ((args.drop 1).foldl (fun best v =>
        let c := Value.compare ctx.collation best v
        if isMax then (if c == .lt then v else best) else (if c != .lt then v else best)) a0)
  | "nullif" => pure (if Value.compare ctx.collation a0 a1 != .eq then a0 else .null)
  | "quote" => pure (.text (quoteValue a0))
  | "random" => pure (.int 0)
  | "randomblob" =>
    let n := a0.toInt
    pure (.blob (List.replicate (if n < 1 then 1 else n.toNat) 0))
  | "replace" =>
    match a0.asText with
    | none => pure .null
    | some s =>
      match a1.asText with
      | none => pure .null
      | some p =>
        if (textChars p).isEmpty then pure a0
        else match a2.asText with
          | none => pure .null
          | some r => pure (.text (String.ofList (replaceAll (textChars s) (textChars p) (textChars r))))
  | "round" =>
    if args.length == 2 && a1.isNull then pure .null
    else if a0.isNull then pure .null
    else pure (.real (roundReal a0.toReal (if args.length == 2 then a1.toInt else 0)))
  | "sign" =>
    match a0.numericType with
    | .int i => pure (.int (if i < 0 then -1 else if i > 0 then 1 else 0))
    | .real x => pure (.int (if x < 0 then -1 else if x > 0 then 1 else 0))
    | _ => pure .null
  | "sqlite_version" => pure (.text "3.45.2")
  | "substr" | "substring" =>
    if a1.isNull || (args.length == 3 && a2.isNull) then pure .null
    else
      let p1 := a1.toInt32
      let p2 := if args.length == 3 then some a2.toInt32 else none
      match a0 with
      | .null => pure .null
      | .blob b => pure (.blob (substrList b p1 p2))
      | v => pure (.text (String.ofList (substrList (textChars (v.asText.getD "")) p1 p2)))
  | "typeof" => pure (.text a0.kindName)
  | "unicode" =>
    match a0.asText with
    | some s => match s.toList with
      | c :: _ => pure (.int c.toNat)
      | [] => pure .null
    | none => pure .null
  | "zeroblob" =>
    let n := a0.toInt
    if n > 1000000000 then throw { kind := .tooBig, message := "string or blob too big" }
    else pure (.blob (List.replicate (if n < 0 then 0 else n.toNat) 0))
  | "acos" => pure (math1 args Float.acos)
  | "acosh" => pure (math1 args Float.acosh)
  | "asin" => pure (math1 args Float.asin)
  | "asinh" => pure (math1 args Float.asinh)
  | "atan" => pure (math1 args Float.atan)
  | "atan2" => pure (math2 args Float.atan2)
  | "atanh" => pure (math1 args Float.atanh)
  | "ceil" | "ceiling" => pure (mathRound args Float.ceil)
  | "floor" => pure (mathRound args Float.floor)
  | "trunc" => pure (mathRound args fun x => if x < 0 then Float.ceil x else Float.floor x)
  | "cos" => pure (math1 args Float.cos)
  | "cosh" => pure (math1 args Float.cosh)
  | "degrees" => pure (math1 args fun x => x * 180.0 / 3.141592653589793)
  | "radians" => pure (math1 args fun x => x * 3.141592653589793 / 180.0)
  | "exp" => pure (math1 args Float.exp)
  | "ln" => pure (logarithm args Float.log)
  | "log10" => pure (logarithm args Float.log10)
  | "log2" => pure (logarithm args Float.log2)
  | "log" => pure (logarithm args Float.log10)
  | "mod" => pure (math2 args fun x y => x - y * (if x / y < 0 then Float.ceil (x / y) else Float.floor (x / y)))
  | "pi" => pure (.real 3.141592653589793)
  | "pow" | "power" => pure (math2 args Float.pow)
  | "sin" => pure (math1 args Float.sin)
  | "sinh" => pure (math1 args Float.sinh)
  | "sqrt" => pure (math1 args Float.sqrt)
  | "tan" => pure (math1 args Float.tan)
  | "tanh" => pure (math1 args Float.tanh)
  | _ => throw (SqlError.logic ("no such function: " ++ name))

end Windowing.Sql
