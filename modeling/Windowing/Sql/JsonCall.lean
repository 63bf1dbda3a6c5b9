import Windowing.Sql.JsonPath
import Windowing.Sql.Error

set_option autoImplicit false

/-! # The JSON functions

The functions that read, build and edit JSON. A JSON argument is read from its text (a
number as it prints), or from a blob in binary form; a blob that is not in binary form is
read as text. A null JSON argument gives null.

A value a JSON function returns as JSON text is marked as JSON, and another JSON function
given such a value takes it as JSON rather than as a string. The `jsonb` forms return the
binary form as a blob instead.

A path must start with `$`; the `->` and `->>` operators also take a bare label, an
integer (an array index) or `[N]`. -/

namespace Windowing.Sql

/-- A function argument or result, with whether it is marked as JSON. -/
abbrev Marked := Value × Bool

/-- The failure of a text that is not JSON. -/
def malformedJson : SqlError := SqlError.logic "malformed JSON"

/-- The failure of a path that does not read. -/
def badJsonPath (p : String) : SqlError :=
  SqlError.logic ("bad JSON path: '" ++ p.replace "'" "''" ++ "'")

/-- The failure of a blob where JSON is expected. -/
def blobInJson : SqlError := SqlError.logic "JSON cannot hold BLOB values"

/-- Read JSON text. -/
def parseJsonText (t : String) : Fallible JsonValue :=
  match readJsonText t with
  | .ok (v, _) => pure v
  | .error _ => throw malformedJson

/-- The JSON value an argument holds (none for null). -/
def jsonArg (v : Value) : Fallible (Option JsonValue) :=
  match v with
  | .null => pure none
  | .blob b =>
    if looksBinary b then
      match JsonValue.ofBinary? b with
      | some x => pure (some x)
      | none => throw malformedJson
    else some <$> parseJsonText (Utf8.ofOctets b)
  | v => some <$> parseJsonText (v.asText.getD "")

/-- An SQL value as JSON text, as the functions that build JSON write it. -/
def sqlJsonText (a : Marked) : Fallible String :=
  match a with
  | (.null, _) => pure "null"
  | (.int i, _) => pure (toString i)
  | (.real f, _) => pure (printfText "%!0.15g" [.real f])
  | (.text t, json) => pure (if json then t else "\"" ++ escapeJsonText t ++ "\"")
  | (.blob b, _) =>
    if looksBinary b then
      match JsonValue.ofBinary? b with
      | some x => pure x.render
      | none => throw malformedJson
    else throw blobInJson

/-- An SQL value as a JSON value, as the editing functions take a new value. -/
def sqlJsonValue (a : Marked) : Fallible JsonValue :=
  match a with
  | (.null, _) => pure .null
  | (.int i, _) => pure (.num .int (toString i))
  | (.real f, _) =>
    let t := realText f
    pure (.num .float (if t.startsWith "I" then "9e999" else if t.startsWith "-I" then "-9e999" else t))
  | (.text t, json) => if json then parseJsonText t else pure (.str .raw t)
  | (.blob b, _) =>
    if looksBinary b then
      match JsonValue.ofBinary? b with
      | some x => pure x
      | none => throw malformedJson
    else throw blobInJson

/-- A JSON value returned: marked JSON text, or the binary form. -/
def returnJson (binary : Bool) (v : JsonValue) : Marked :=
  if binary then (.blob v.binary, false) else (.text v.render, true)

/-- JSON text built by a function, returned: marked, or read into the binary form. -/
def returnJsonText (binary : Bool) (t : String) : Fallible Marked :=
  if binary then do pure (.blob (← parseJsonText t).binary, false) else pure (.text t, true)

/-- The SQL value of a part of a JSON value. -/
def jsonSqlValue (v : JsonValue) : Fallible Value :=
  match v.toSql with
  | some x => pure x
  | none => throw malformedJson

/-- The path of an argument, after its `$`. -/
def pathAfterRoot (p : String) : Option (List Char) :=
  match p.toList with
  | '$' :: rest => some rest
  | _ => none

/-- Find a part of a JSON value by a path: none when there is none. -/
def lookupPath (doc : JsonValue) (p : String) : Fallible (Option JsonValue) :=
  match pathAfterRoot p with
  | none => throw (badJsonPath p)
  | some path =>
    match doc.lookup (path.length + 2) path with
    | .found x => pure (some x)
    | .notFound => pure none
    | .badPath => throw (badJsonPath p)

/-- Whether a text has only ASCII letters, digits and underscores. -/
def isPlainLabel (s : String) : Bool := s.all fun c => (c.isAlphanum && c.toNat < 0x80) || c == '_'

/-- The path an operand of `->` names, written in full. -/
def arrowPath (p : Value) : Option String :=
  match p with
  | .null => none
  | .int i => some ("$[" ++ toString i ++ "]")
  | _ =>
    let t := p.asText.getD ""
    if t.startsWith "$" then some t
    else if isPlainLabel t then some ("$." ++ t)
    else if t.startsWith "[" && t.length ≥ 3 && t.endsWith "]" then some ("$" ++ t)
    else some ("$.\"" ++ t ++ "\"")

/-- `->` (`asSql` false) and `->>` (true): the part of a JSON value at a path, as JSON text
or as an SQL value. -/
def jsonArrow (asSql : Bool) (json path : Value) : Fallible Marked := do
  let some doc ← jsonArg json | return (.null, false)
  let some full := arrowPath path | return (.null, false)
  let path' := (full.drop 1).toString.toList
  match doc.lookup (path'.length + 2) path' with
  | .found x =>
    if asSql then do pure (← jsonSqlValue x, false) else pure (.text x.render, true)
  | .notFound => pure (.null, false)
  | .badPath => throw (badJsonPath (path.asText.getD ""))

/-- `json_extract`: the parts of a JSON value at paths; for one path its SQL value, for
more a JSON array of them. -/
def jsonExtract (binary : Bool) (args : List Marked) : Fallible Marked := do
  match args with
  | [] | [_] => pure (.null, false)
  | (json, _) :: paths =>
    let some doc ← jsonArg json | return (.null, false)
    match paths with
    | [(p, _)] =>
      let some pt := p.asText | return (.null, false)
      match ← lookupPath doc pt with
      | none => pure (.null, false)
      | some x =>
        if x.isContainer then pure (returnJson binary x)
        else do pure (← jsonSqlValue x, false)
    | _ =>
      let parts ← paths.mapM fun (p, _) => do
        let some pt := p.asText | throw (SqlError.logic "")
        match ← lookupPath doc pt with
        | some x => pure x.render
        | none => pure "null"
      returnJsonText binary ("[" ++ ",".intercalate parts ++ "]")

/-- A path argument that is null ends the extraction with null. -/
def jsonExtractChecked (binary : Bool) (args : List Marked) : Fallible Marked :=
  if (args.drop 1).any (fun (v, _) => v.isNull) && args.length > 2 then
    -- the paths before the null one are still read
    match args with
    | (json, _) :: paths => do
      let some doc ← jsonArg json | return (.null, false)
      for (p, _) in paths do
        match p.asText with
        | none => return (.null, false)
        | some pt =>
          let _ ← lookupPath doc pt
      pure (.null, false)
    | [] => pure (.null, false)
  else jsonExtract binary args

/-- `json_set`, `json_insert` and `json_replace`: edit a JSON value at each path in turn. -/
def jsonEdit (binary : Bool) (name : String) (kind : EditKind) (args : List Marked) : Fallible Marked := do
  match args with
  | [] => pure (.null, false)
  | (json, _) :: pairs =>
    if pairs.length % 2 == 1 then
      throw (SqlError.logic ("json_" ++ name ++ "() needs an odd number of arguments"))
    let some doc ← jsonArg json | return (.null, false)
    let rec go : Nat → JsonValue → List Marked → Fallible JsonValue
      | 0, d, _ => pure d
      | _ + 1, d, [] => pure d
      | _ + 1, d, [_] => pure d
      | fuel + 1, d, (p, _) :: v :: rest => do
        match p with
        | .null => go fuel d rest
        | _ =>
          let pt := p.asText.getD ""
          let some path := pathAfterRoot pt | throw (badJsonPath pt)
          let new ← sqlJsonValue v
          if path.isEmpty then
            go fuel (if kind == .insert then d else new) rest
          else
            match d.editAt (path.length + 2) kind path new with
            | .found (some d') => go fuel d' rest
            | .found none => go fuel d rest
            | .notFound => go fuel d rest
            | .badPath => throw (badJsonPath pt)
    pure (returnJson binary (← go (pairs.length + 1) doc pairs))

/-- `json_remove`: remove the parts at each path in turn (removing `$` gives null). -/
def jsonRemove (binary : Bool) (args : List Marked) : Fallible Marked := do
  match args with
  | [] => pure (.null, false)
  | (json, _) :: paths =>
    let some doc ← jsonArg json | return (.null, false)
    let rec go : Nat → JsonValue → List Marked → Fallible (Option JsonValue)
      | 0, d, _ => pure (some d)
      | _ + 1, d, [] => pure (some d)
      | fuel + 1, d, (p, _) :: rest => do
        match p.asText with
        | none => pure none
        | some pt =>
          let some path := pathAfterRoot pt | throw (badJsonPath pt)
          if path.isEmpty then pure none
          else
            match d.editAt (path.length + 2) .remove path .null with
            | .found (some d') => go fuel d' rest
            | .found none => go fuel d rest
            | .notFound => go fuel d rest
            | .badPath => throw (badJsonPath pt)
    match ← go (paths.length + 1) doc paths with
    | some d => pure (returnJson binary d)
    | none => pure (.null, false)

/-- `json_type`: the type of a JSON value, or of its part at a path. -/
def jsonType (args : List Marked) : Fallible Marked := do
  let some doc ← jsonArg ((args.headD (.null, false)).1) | return (.null, false)
  match args with
  | [_, (p, _)] =>
    let some pt := p.asText | return (.null, false)
    match ← lookupPath doc pt with
    | some x => pure (.text x.typeName, false)
    | none => pure (.null, false)
  | _ => pure (.text doc.typeName, false)

/-- `json_array_length`: the number of items of a JSON array, or of the array at a path
(zero for anything else). -/
def jsonArrayLength (args : List Marked) : Fallible Marked := do
  let some doc ← jsonArg ((args.headD (.null, false)).1) | return (.null, false)
  match args with
  | [_, (p, _)] =>
    let some pt := p.asText | return (.null, false)
    let path := match pathAfterRoot pt with
      | some path => path
      | none => ['@']
    match doc.lookup (path.length + 2) path with
    | .found x => pure (.int x.arrayLength, false)
    | .notFound => pure (.null, false)
    | .badPath => throw (badJsonPath pt)
  | _ => pure (.int doc.arrayLength, false)

/-- `json_valid`: whether a value is well-formed JSON (flags: 1 standard text, 2 JSON5
text, 4 and 8 the binary form). -/
def jsonValid (args : List Marked) : Fallible Marked := do
  let flags : Int := match args with
    | [_, (f, _)] => f.toInt
    | _ => 1
  if flags < 1 || flags > 15 then
    throw (SqlError.logic "FLAGS parameter to json_valid() must be between 1 and 15")
  let v := (args.headD (.null, false)).1
  let asText (t : String) : Bool :=
    if flags % 4 == 0 then false
    else
      match readJsonText t with
      | .ok (_, nonstandard) => flags / 2 % 2 == 1 || !nonstandard
      | .error _ => false
  match v with
  | .null => pure (.null, false)
  | .blob b =>
    if looksBinary b then
      let ok := if flags / 4 % 2 == 1 then true
        else if flags / 8 % 2 == 1 then (JsonValue.ofBinary? b).isSome
        else false
      pure (.int (if ok then 1 else 0), false)
    else pure (.int (if asText (Utf8.ofOctets b) then 1 else 0), false)
  | v => pure (.int (if asText (v.asText.getD "") then 1 else 0), false)

/-- `json_error_position`: zero for well-formed JSON, else the position (in characters,
from 1) where reading failed. -/
def jsonErrorPosition (v : Value) : Fallible Marked :=
  match v with
  | .null => pure (.null, false)
  | .blob b =>
    if looksBinary b then pure (.int (if (JsonValue.ofBinary? b).isSome then 0 else 1), false)
    else
      match readJsonText (Utf8.ofOctets b) with
      | .ok _ => pure (.int 0, false)
      | .error p => pure (.int p, false)
  | v =>
    match readJsonText (v.asText.getD "") with
    | .ok _ => pure (.int 0, false)
    | .error p => pure (.int p, false)

/-- `json_object`: an object of label and value pairs. -/
def jsonObject (binary : Bool) (args : List Marked) : Fallible Marked := do
  if args.length % 2 == 1 then
    throw (SqlError.logic "json_object() requires an even number of arguments")
  let rec go : Nat → List Marked → Fallible (List String)
    | 0, _ => pure []
    | _ + 1, [] => pure []
    | _ + 1, [_] => pure []
    | fuel + 1, (k, _) :: v :: rest => do
      match k with
      | .text t =>
        let item := "\"" ++ escapeJsonText t ++ "\":" ++ (← sqlJsonText v)
        pure (item :: (← go fuel rest))
      | _ => throw (SqlError.logic "json_object() labels must be TEXT")
  returnJsonText binary ("\x7b" ++ ",".intercalate (← go (args.length + 1) args) ++ "\x7d")

/-- `json_array`: an array of the values. -/
def jsonArray (binary : Bool) (args : List Marked) : Fallible Marked := do
  let items ← args.mapM sqlJsonText
  returnJsonText binary ("[" ++ ",".intercalate items ++ "]")

/-- `json_patch`: merge a patch into a JSON value. -/
def jsonPatch (binary : Bool) (args : List Marked) : Fallible Marked := do
  let some target ← jsonArg ((args.headD (.null, false)).1) | return (.null, false)
  let some patch ← jsonArg ((args.getD 1 (.null, false)).1) | return (.null, false)
  pure (returnJson binary (target.mergePatch (patch.fuel + 2) patch))

/-- Call a JSON function by its lower-case name, if it is one. -/
def jsonCall? (name : String) (args : List Marked) : Option (Fallible Marked) :=
  let binary := name.startsWith "jsonb"
  match name with
  | "json" | "jsonb" => some do
    let some doc ← jsonArg ((args.headD (.null, false)).1) | return (.null, false)
    pure (returnJson binary doc)
  | "json_array" | "jsonb_array" => some (jsonArray binary args)
  | "json_array_length" => some (jsonArrayLength args)
  | "json_error_position" => some (jsonErrorPosition (args.headD (.null, false)).1)
  | "json_extract" | "jsonb_extract" => some (jsonExtractChecked binary args)
  | "json_insert" | "jsonb_insert" => some (jsonEdit binary "insert" .insert args)
  | "json_replace" | "jsonb_replace" => some (jsonEdit binary "replace" .replace args)
  | "json_set" | "jsonb_set" => some (jsonEdit binary "set" .set args)
  | "json_remove" | "jsonb_remove" => some (jsonRemove binary args)
  | "json_object" | "jsonb_object" => some (jsonObject binary args)
  | "json_patch" | "jsonb_patch" => some (jsonPatch binary args)
  | "json_quote" => some do pure (.text (← sqlJsonText (args.headD (.null, false))), true)
  | "json_type" => some (jsonType args)
  | "json_valid" => some (jsonValid args)
  | _ => none

/-- The JSON aggregates over the arguments of their rows: `json_group_array` an array of
the values, `json_group_object` an object of the label and value pairs (a null label is
left out). -/
def aggregateJson (name : String) (rows : List (List Marked)) : Fallible Marked := do
  let binary := name.startsWith "jsonb"
  if name.endsWith "array" then
    let items ← rows.mapM fun r => sqlJsonText (r.headD (.null, false))
    returnJsonText binary ("[" ++ ",".intercalate items ++ "]")
  else
    let items ← rows.filterMapM fun r =>
      match r with
      | (k, _) :: v :: _ =>
        match k.asText with
        | some t => do pure (some ("\"" ++ escapeJsonText (t.toList.takeWhile (· != '\x00') |> String.ofList) ++ "\":" ++ (← sqlJsonText v)))
        | none => pure none
      | _ => pure none
    returnJsonText binary ("\x7b" ++ ",".intercalate items ++ "\x7d")

end Windowing.Sql
