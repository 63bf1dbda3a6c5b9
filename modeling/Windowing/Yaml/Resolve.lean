import Windowing.Text.Numeral
import Windowing.Timestamp

set_option autoImplicit false

/-! # Resolving YAML scalars

A plain scalar's type follows from its text: `true`/`false` (three spellings each) are
booleans; the empty text, `~` and `null` (three spellings) are null; `.nan` and `.inf`
with an optional sign are special floats; decimal, hexadecimal, octal and binary
integers (with underscores ignored) are integers, those beyond the 64-bit signed range but
within the unsigned one included; decimal numerals with a point or an exponent are
floats; dates `YYYY-M-D`, alone or with a time of day, are timestamps. Everything else is a
string. Only the first character is looked at to decide which of these to try.

An explicit tag `!!str`, `!!bool`, `!!int`, `!!float`, `!!timestamp` or `!!null` asks for that type:
the text must resolve to it (an integer also serves as a float), or decoding fails.
Other tags leave the text as it is. -/

namespace Windowing.Yaml

/-- The prefix of the standard tags. -/
def longTagPrefix : String := "tag:yaml.org,2002:"

/-- A standard tag in its short form `!!name`; other tags unchanged. -/
def shortTag (tag : String) : String :=
  if tag.startsWith longTagPrefix then
    "!!" ++ String.ofList (tag.toList.drop longTagPrefix.length)
  else tag

/-- The value of a resolved scalar. -/
inductive Scalar where
  | null
  | bool (b : Bool)
  /-- An integer in the 64-bit signed range. -/
  | int (i : Int)
  /-- An integer beyond the signed range but within the unsigned one. -/
  | uint (n : Nat)
  | float (f : Float)
  | str (s : String)
  | time (t : Timestamp)
  deriving Inhabited

/-- Which kinds of value a scalar may be, from its first character: `S`ign, `D`igit,
`M`ap entry, or `.`; none for any other character. -/
def hint (c : Char) : Option Char :=
  if c == '+' || c == '-' then some 'S'
  else if c.isDigit then some 'D'
  else if "yYnNtTfFoO~".toList.contains c then some 'M'
  else if c == '.' then some '.'
  else none

/-- The scalars whose whole text names their value. -/
def namedScalar (s : String) : Option (String × Scalar) :=
  if s == "true" || s == "True" || s == "TRUE" then some ("!!bool", .bool true)
  else if s == "false" || s == "False" || s == "FALSE" then some ("!!bool", .bool false)
  else if s == "" || s == "~" || s == "null" || s == "Null" || s == "NULL" then
    some ("!!null", .null)
  else if s == ".nan" || s == ".NaN" || s == ".NAN" then some ("!!float", .float (0.0 / 0.0))
  else if s == ".inf" || s == ".Inf" || s == ".INF" || s == "+.inf" || s == "+.Inf" ||
      s == "+.INF" then some ("!!float", .float (1.0 / 0.0))
  else if s == "-.inf" || s == "-.Inf" || s == "-.INF" then some ("!!float", .float (-1.0 / 0.0))
  else if s == "<<" then some ("!!merge", .str "<<")
  else none

/-- Whether a text has the float form `[-+](.digits | digits[.digits])[(e|E)[-+]digits]`. -/
def floatForm (s : String) : Bool :=
  let cs := match s.toList with
    | '-' :: r | '+' :: r => r
    | r => r
  let ds := cs.takeWhile Char.isDigit
  let r := cs.drop ds.length
  let (ok, r) : Bool × List Char :=
    if ds.isEmpty then
      match r with
      | '.' :: r' =>
        let fs := r'.takeWhile Char.isDigit
        (!fs.isEmpty, r'.drop fs.length)
      | _ => (false, r)
    else
      match r with
      | '.' :: r' => (true, r'.dropWhile Char.isDigit)
      | _ => (true, r)
  if !ok then false
  else match r with
    | [] => true
    | e :: r' =>
      if e == 'e' || e == 'E' then
        let r'' := match r' with
          | '-' :: x | '+' :: x => x
          | x => x
        !r''.isEmpty && r''.all Char.isDigit
      else false

/-- The tag and value of a scalar's text, with no tag asked for (or the standard tag
`tag`, which only stops the timestamp reading for tags other than `!!timestamp`). -/
def resolvePlain (tag : String) (s : String) : String × Scalar :=
  let h := match s.toList with
    | [] => some 'N'
    | c :: _ => hint c
  match h with
  | none => ("!!str", .str s)
  | some h =>
    if tag == "!!str" || tag == "!!binary" then ("!!str", .str s) else
    match namedScalar s with
    | some r => r
    | none =>
      if h == '.' then
        match Text.parseDecimalFloat s with
        | some f => ("!!float", .float f)
        | none => ("!!str", .str s)
      else if h == 'D' || h == 'S' then
        match (if tag == "" || tag == "!!timestamp" then Timestamp.readYaml s else none) with
        | some t => ("!!timestamp", .time t)
        | none =>
          let plain := String.ofList (s.toList.filter (· != '_'))
          match Text.parseInt64 plain with
          | some i => ("!!int", .int i)
          | none =>
            match Text.parseUint64 plain with
            | some n => ("!!int", .uint n)
            | none =>
              if floatForm plain then
                match Text.parseDecimalFloat plain with
                | some f => ("!!float", .float f)
                | none => ("!!str", .str s)
              else ("!!str", .str s)
      else ("!!str", .str s)

/-- The tag of a plain scalar with no tag. -/
def plainTag (s : String) : String := (resolvePlain "" s).1

/-- Resolve a scalar's text under its tag: the resolved tag and value, or the message of
a text that cannot have the type its tag asks for. -/
def resolve (tag : String) (s : String) : Except String (String × Scalar) :=
  let tag := shortTag tag
  if !(tag == "" || tag == "!!str" || tag == "!!bool" || tag == "!!int" || tag == "!!float" ||
      tag == "!!timestamp" || tag == "!!null") then .ok (tag, .str s)
  else
    let (rtag, v) := resolvePlain tag s
    if tag == "" || tag == rtag || tag == "!!str" then .ok (rtag, v)
    else
      match tag, rtag, v with
      | "!!float", "!!int", .int i => .ok ("!!float", .float (Float.ofInt i))
      | _, _, _ => .error ("cannot decode " ++ rtag ++ " `" ++ s ++ "` as a " ++ tag)

end Windowing.Yaml
