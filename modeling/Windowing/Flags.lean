import Windowing.Duration.Text
import Windowing.Yaml.Resolve

set_option autoImplicit false

/-! # Command-line flags

Flags are long options: `--name=value`, `--name value`, and for a boolean flag `--name`
alone (meaning true). A flag may also have a one-letter form, `-x`; letters of boolean
flags may be grouped (`-ab`), and the last letter of a group may carry its value
(`-ovalue`, `-o=value`). Arguments that do not start with `-` (and `-` alone) are kept in
order as positional arguments, wherever they stand; `--` ends the flags and keeps the
rest as positional. An unknown `--help` or `-h` asks for help. A group of one-letter
flags whose rest starts with `test.` is passed over, as a test binary's own flags are.

A flag value is read by its type: text as it is; booleans as `1 t T TRUE true True` or
`0 f F FALSE false False`; integers with an optional sign and a base prefix (`0x`, `0o`,
`0b`, or a leading `0` for octal), within 64 bits; floats as decimal numerals, `inf` or
`nan`; durations as duration text. -/

namespace Windowing

/-- The types of flag values. -/
inductive FlagType where
  | text
  | bool
  | int
  | float
  | duration
  deriving BEq

/-- A flag value. -/
inductive FlagValue where
  | text (s : String)
  | bool (b : Bool)
  | int (i : Int)
  | float (f : Float)
  | duration (d : Duration)
  deriving Inhabited

/-- A flag: its name, its type, its value when not set, its one-letter form if it has
one, and the line of help that says what it is for. -/
structure Flag where
  name : String
  type : FlagType
  default : FlagValue
  short : Option Char := none
  usage : String := ""

/-- A long-only flag. -/
def Flag.long (name : String) (type : FlagType) (default : FlagValue) (usage : String := "") : Flag :=
  { name, type, default, usage }

/-- How a flag is named in a complaint about its value. -/
def Flag.display (f : Flag) : String :=
  match f.short with
  | some c => "-" ++ c.toString ++ ", --" ++ f.name
  | none => "--" ++ f.name

/-- Why arguments do not parse. -/
inductive FlagError where
  | help
  | unknown (name : String)
  | unknownShort (c : Char) (group : String)
  | badSyntax (arg : String)
  /-- A flag with no value; what names it. -/
  | needsArgument (what : String)
  /-- A value that does not read: the value, how the flag is named, and why. -/
  | invalid (value display reason : String)

/-- The character a flag letter is reported as: letters are looked at octet by octet, so
a letter outside ASCII stands for its first octet, which is reported as the first octet of
that octet's own encoding (`Â` or `Ã`). -/
def leadChar (c : Char) : Char :=
  let b := (Utf8.charOctets c).headD 0
  if b < 0x80 then Char.ofNat b.toNat
  else if b < 0xC0 then Char.ofNat 0xC2
  else Char.ofNat 0xC3

/-- The message of a flag error. -/
def FlagError.message : FlagError → String
  | .help => "pflag: help requested"
  | .unknown n => "unknown flag: --" ++ n
  | .unknownShort c g => "unknown shorthand flag: " ++ Text.quoteChar (leadChar c) ++ " in -" ++ g
  | .badSyntax s => "bad flag syntax: " ++ s
  | .needsArgument s => "flag needs an argument: " ++ s
  | .invalid v n r =>
    "invalid argument " ++ Text.quote v ++ " for " ++ Text.quote n ++ " flag: " ++ r

/-- The complaint of a number reader about a text. -/
def numberComplaint (reader s problem : String) : String :=
  "strconv." ++ reader ++ ": parsing " ++ Text.quote s ++ ": " ++ problem

/-- Read a boolean word. -/
def readBool (s : String) : Except String Bool :=
  if ["1", "t", "T", "TRUE", "true", "True"].contains s then .ok true
  else if ["0", "f", "F", "FALSE", "false", "False"].contains s then .ok false
  else .error (numberComplaint "ParseBool" s "invalid syntax")

/-- Read an integer with an optional base prefix, within 64 bits. -/
def readInt (s : String) : Except String Int :=
  match Text.parseInt64 s with
  | some i => .ok i
  | none =>
    let body := match s.toList with
      | '-' :: r | '+' :: r => r
      | r => r
    match Text.parseUnsigned body with
    | some _ => .error (numberComplaint "ParseInt" s "value out of range")
    | none => .error (numberComplaint "ParseInt" s "invalid syntax")

/-- Read a float: a decimal or hexadecimal numeral, an infinity or NaN. -/
def readFloat (s : String) : Except String Float :=
  let lower := String.ofList (s.toList.map Char.toLower)
  if ["inf", "+inf", "infinity", "+infinity"].contains lower then .ok (1.0 / 0.0)
  else if ["-inf", "-infinity"].contains lower then .ok (-1.0 / 0.0)
  else if lower == "nan" then .ok (0.0 / 0.0)
  else
    match (Text.readFloatNumeral s).filter (!·.isInf) with
    | some f => .ok f
    | none =>
      if (Text.readHexFloat s).isSome then .error (numberComplaint "ParseFloat" s "value out of range")
      else
      if Text.underscoresOk s.toList && Yaml.floatForm (String.ofList (s.toList.filter (· != '_'))) then
        .error (numberComplaint "ParseFloat" s "value out of range")
      else .error (numberComplaint "ParseFloat" s "invalid syntax")

/-- Read a flag value of a type from its text. -/
def FlagType.read (t : FlagType) (s : String) : Except String FlagValue :=
  match t with
  | .text => .ok (.text s)
  | .bool => (readBool s).map .bool
  | .int => (readInt s).map .int
  | .float => (readFloat s).map .float
  | .duration =>
    match Duration.parse s with
    | .ok d => .ok (.duration d)
    | .error e => .error (e.message s)

/-- Flags set by arguments (each once, in the order first set, with its last value) and
the positional arguments. -/
structure ParsedFlags where
  set : List (String × FlagValue) := []
  args : List String := []

/-- Record a flag's value. -/
def ParsedFlags.record (p : ParsedFlags) (name : String) (v : FlagValue) : ParsedFlags :=
  if p.set.any (·.1 == name) then
    { p with set := p.set.map fun e => if e.1 == name then (name, v) else e }
  else { p with set := p.set ++ [(name, v)] }

/-- Record a flag's value read from its text. -/
def ParsedFlags.take (p : ParsedFlags) (f : Flag) (v : String) : Except FlagError ParsedFlags :=
  match f.type.read v with
  | .ok x => .ok (p.record f.name x)
  | .error r => .error (.invalid v f.display r)

/-- Read a group of one-letter flags (`-abc`, `-ovalue`, `-o value`, `-o=value`): the
arguments left after it and the flags so far. A boolean letter takes no value; any other
takes the rest of the group, or else the next argument. -/
def parseShorts (flags : List Flag) : List Char → List String → ParsedFlags →
    Except FlagError (List String × ParsedFlags)
  | [], rest, p => .ok (rest, p)
  | c :: more, rest, p =>
    -- the flags of a test binary (`-test.v`) are passed over
    if (c :: more).take 5 == "test.".toList then .ok (rest, p) else
    match flags.find? (·.short == some c) with
    | none => if c == 'h' then .error .help else .error (.unknownShort c (String.ofList (c :: more)))
    | some f =>
      match more with
      | '=' :: v@(_ :: _) => do
        let p ← p.take f (String.ofList v)
        pure (rest, p)
      | _ =>
        if f.type == .bool then do
          let p ← p.take f "true"
          parseShorts flags more rest p
        else if !more.isEmpty then do
          let p ← p.take f (String.ofList more)
          pure (rest, p)
        else
          match rest with
          | v :: after => do
            let p ← p.take f v
            pure (after, p)
          | [] => .error (.needsArgument (Text.quoteChar c ++ " in -" ++ String.ofList (c :: more)))

/-- Parse arguments against flags. -/
def parseFlags (flags : List Flag) (args : List String) : Except FlagError ParsedFlags :=
  let rec go : Nat → List String → ParsedFlags → Except FlagError ParsedFlags
    | 0, _, p => .ok p
    | _ + 1, [], p => .ok p
    | fuel + 1, s :: rest, p =>
      match s.toList with
      | '-' :: '-' :: [] => .ok { p with args := p.args ++ rest }
      | '-' :: '-' :: body =>
        match body with
        | '-' :: _ | '=' :: _ => .error (.badSyntax s)
        | _ =>
          let name := String.ofList (body.takeWhile (· != '='))
          let inline := match body.dropWhile (· != '=') with
            | '=' :: v => some (String.ofList v)
            | _ => none
          match flags.find? (·.name == name) with
          | none => if name == "help" then .error .help else .error (.unknown name)
          | some f =>
            let taken : Option (String × List String) :=
              match inline with
              | some v => some (v, rest)
              | none =>
                if f.type == .bool then some ("true", rest)
                else match rest with
                  | v :: more => some (v, more)
                  | [] => none
            match taken with
            | none => .error (.needsArgument s)
            | some (v, more) => do
              let p ← p.take f v
              go fuel more p
      | '-' :: c :: more => do
        let (rest, p) ← parseShorts flags (c :: more) rest p
        go fuel rest p
      | _ => go fuel rest { p with args := p.args ++ [s] }
  go (args.length + 1) args {}

end Windowing
