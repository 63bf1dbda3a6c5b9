import Windowing.Yaml.Decode
import Windowing.Schema
import Windowing.Failure

set_option autoImplicit false

/-! # The contexts document

The contexts document is a YAML (or JSON) list of contexts. Each context has a name, an
identifier text, a key template, a key cap, its conditions and its actions; conditions
have a timeout and a renewal timeout (durations: milliseconds as digits, or duration
text), a size cap, patterns and the two pattern flags; an action has a message with an
identifier, a name, a template, value templates and whether it is injected.

Reading a document takes two passes. The first decodes it as plain data, turns that into
JSON and checks it against the contexts schema, which lists every problem at once. The
second decodes it into the context descriptions field by field. A document with nothing
in it has the single problem `document is empty`. -/

namespace Windowing

/-- The message of an action, as the document describes it. -/
structure MessageConfig where
  uuid : String := ""
  name : String := ""
  message : String := ""
  values : Option (List (String × String)) := none
  inject : Bool := false
  deriving Inhabited

/-- An action, as the document describes it; the message may be missing. -/
structure ActionConfig where
  message : Option MessageConfig := none
  deriving Inhabited

/-- Conditions, as the document describes them. -/
structure ConditionsConfig where
  timeout : Duration := 0
  renewTimeout : Duration := 0
  maxSize : Int := 0
  patterns : Option (List String) := none
  firstOpens : Bool := false
  lastCloses : Bool := false
  deriving Inhabited

/-- A context, as the document describes it. -/
structure ContextConfig where
  name : String := ""
  uuid : String := ""
  contextId : String := ""
  maxKeys : Int := 0
  conditions : ConditionsConfig := {}
  actions : List ActionConfig := []
  deriving Inhabited

namespace Document

open Yaml

/-- The shape of an action's message. -/
def messageShape : Shape :=
  .record "config.MessageConfig"
    [("uuid", .text), ("name", .text), ("message", .text), ("values", .textMap), ("inject", .bool)]

/-- The shape of an action. -/
def actionShape : Shape := .record "config.ActionConfig" [("message", .pointer messageShape)]

/-- The shape of conditions. -/
def conditionsShape : Shape :=
  .record "config.ConditionsConfig"
    [("timeout", .duration), ("renew_timeout", .duration), ("max_size", .int),
     ("patterns", .list .text), ("first_opens", .bool), ("last_closes", .bool)]

/-- The shape of a context. -/
def contextShape : Shape :=
  .record "config.ContextConfig"
    [("name", .text), ("uuid", .text), ("context_id", .text), ("max_keys", .int),
     ("conditions", conditionsShape), ("actions", .list actionShape)]

/-- The shape of the whole document. -/
def shape : Shape := .list contextShape

/-- A text field, empty when unset. -/
def textField (fs : List (String × Data)) (k : String) : String :=
  match fs.lookup k with
  | some (.str s) => s
  | _ => ""

/-- An integer field, zero when unset. -/
def intField (fs : List (String × Data)) (k : String) : Int :=
  match fs.lookup k with
  | some (.int i) => i
  | _ => 0

/-- A boolean field, false when unset. -/
def boolField (fs : List (String × Data)) (k : String) : Bool :=
  match fs.lookup k with
  | some (.bool b) => b
  | _ => false

/-- The fields of a record value. -/
def fieldsOf : Data → List (String × Data)
  | .record fs => fs
  | _ => []

/-- A message read from its decoded record. -/
def messageOf (d : Data) : MessageConfig :=
  let fs := fieldsOf d
  { uuid := textField fs "uuid", name := textField fs "name", message := textField fs "message",
    values := match fs.lookup "values" with
      | some (.dict es) => some (es.map fun e => (e.1, match e.2 with | .str s => s | _ => ""))
      | _ => none,
    inject := boolField fs "inject" }

/-- An action read from its decoded record. -/
def actionOf (d : Data) : ActionConfig :=
  match (fieldsOf d).lookup "message" with
  | some (.record fs) => { message := some (messageOf (.record fs)) }
  | _ => {}

/-- Conditions read from their decoded record. -/
def conditionsOf (d : Data) : ConditionsConfig :=
  let fs := fieldsOf d
  { timeout := Int64.ofInt (intField fs "timeout"),
    renewTimeout := Int64.ofInt (intField fs "renew_timeout"),
    maxSize := intField fs "max_size",
    patterns := match fs.lookup "patterns" with
      | some (.seq items) => some (items.filterMap fun i => match i with | .str s => some s | _ => none)
      | _ => none,
    firstOpens := boolField fs "first_opens", lastCloses := boolField fs "last_closes" }

/-- A context read from its decoded record. -/
def contextOf (d : Data) : ContextConfig :=
  let fs := fieldsOf d
  { name := textField fs "name", uuid := textField fs "uuid", contextId := textField fs "context_id",
    maxKeys := intField fs "max_keys",
    conditions := match fs.lookup "conditions" with
      | some c => conditionsOf c
      | none => {},
    actions := match fs.lookup "actions" with
      | some (.seq items) => items.map actionOf
      | _ => [] }

/-- The contexts of a decoded document. -/
def contextsOf : Option Data → List ContextConfig
  | some (.seq items) => items.map contextOf
  | _ => []

/-! ## The schema -/

/-- A duration: a whole number of milliseconds, at least zero, or a non-empty text. -/
def durationSchema : Schema :=
  { anyOf := [{ type := some .integer, minimum := some 0 }, { type := some .string, minLength := some 1 }] }

/-- A text. -/
def textSchema : Schema := { type := some .string }

/-- A non-empty text. -/
def nonEmptySchema : Schema := { type := some .string, minLength := some 1 }

/-- A boolean. -/
def boolSchema : Schema := { type := some .boolean }

/-- A count: an integer, at least zero. -/
def countSchema : Schema := { type := some .integer, minimum := some 0 }

/-- The schema of conditions. -/
def conditionsSchema : Schema :=
  { type := some .object, required := ["timeout"], closed := true,
    properties := [("timeout", durationSchema), ("renew_timeout", durationSchema),
      ("max_size", countSchema),
      ("patterns", { type := some .array, items := some nonEmptySchema }),
      ("first_opens", boolSchema), ("last_closes", boolSchema)] }

/-- The schema of an action's message. -/
def messageSchema : Schema :=
  { type := some .object, required := ["uuid"], closed := true,
    properties := [("uuid", nonEmptySchema), ("name", textSchema), ("message", textSchema),
      ("values", { type := some .object, additional := some textSchema }),
      ("inject", boolSchema)] }

/-- The schema of an action. -/
def actionSchema : Schema :=
  { type := some .object, required := ["message"], closed := true,
    properties := [("message", messageSchema)] }

/-- The schema of a context. -/
def contextSchema : Schema :=
  { type := some .object, required := ["conditions"], closed := true,
    properties := [("name", textSchema), ("uuid", nonEmptySchema), ("context_id", nonEmptySchema),
      ("max_keys", countSchema), ("conditions", conditionsSchema),
      ("actions", { type := some .array, items := some actionSchema })] }

/-- The schema of the document. -/
def schema : Schema := { type := some .array, items := some contextSchema }

/-! ## Decoded data as JSON -/

/-- A path as a JSON pointer. -/
def pointer (path : List String) : String :=
  String.join (path.map fun s => "/" ++ (s.replace "~" "~0").replace "/" "~1")

/-- The JSON text of a moment, or the complaint about one that has none. -/
def timeJson (t : Timestamp) : Except String String :=
  match t.json with
  | .ok s => .ok s
  | .error e => .error ("json: error calling MarshalJSON for type *time.Time: " ++ e)

/-- The JSON object member name of a map key: texts, integers and moments have one (a
moment's may fail to be written). -/
def memberName : Data → Option (Except String String)
  | .str s => some (.ok s)
  | .int i => some (.ok (toString i))
  | .uint n => some (.ok (toString n))
  | .time t => some (timeJson t)
  | _ => none

/-- Entries in byte order of their names. -/
def sortMembers (es : List (String × Data)) : List (String × Data) :=
  es.mergeSort (fun a b => decide (a.1 ≤ b.1))

mutual

/-- Decoded data as JSON, written at offset `pos` of the whole text: a double that is not
finite, or a map key that is not a text or an integer, has no JSON form. -/
def toJsonAt : Nat → Data → List String → Nat → Except String Json
  | 0, _, _, _ => .error "json: nested too deeply"
  | fuel + 1, d, path, pos =>
    match d with
    | .null => .ok .null
    | .bool b => .ok (.bool b)
    | .int i => .ok (.int i)
    | .uint n => .ok (.int n)
    | .float f =>
      if f.isNaN then .error "json: unsupported value: NaN"
      else if f.isInf then .error ("json: unsupported value: " ++ if f > 0 then "+Inf" else "-Inf")
      else .ok (.float f)
    | .str s => .ok (.str s)
    | .time t => (timeJson t).map Json.str
    | .seq items => do
      let js ← itemsAt fuel items path 0 (pos + 1)
      pure (.arr js)
    | .dict es => do
      let fs ← membersAt fuel (sortMembers es) path (pos + 1)
      pure (.obj fs)
    | .record es => do
      let fs ← membersAt fuel (sortMembers es) path (pos + 1)
      pure (.obj fs)
    | .map es =>
      match es.mapM fun e => (memberName e.1).map fun n => (n, e.2) with
      | some named => do
        let named ← named.mapM fun (n, d) => n.map fun n => (n, d)
        let fs ← membersAt fuel (sortMembers named) path (pos + 1)
        pure (.obj fs)
      | none =>
        let within := if path.isEmpty then "" else " within " ++ Text.quote (pointer path)
        .error ("json: unsupported value: jsontext: object member name must be a string" ++
          within ++ " after offset " ++ toString (pos + 2))

/-- Array elements as JSON, the first written at `pos`. -/
def itemsAt : Nat → List Data → List String → Nat → Nat → Except String (List Json)
  | 0, _, _, _, _ => .error "json: nested too deeply"
  | _ + 1, [], _, _, _ => .ok []
  | fuel + 1, d :: rest, path, i, pos => do
    let j ← toJsonAt fuel d (path ++ [toString i]) pos
    let js ← itemsAt fuel rest path (i + 1) (pos + Utf8.size j.encode + 1)
    pure (j :: js)

/-- Object members as JSON, the first written at `pos`. -/
def membersAt : Nat → List (String × Data) → List String → Nat →
    Except String (List (String × Json))
  | 0, _, _, _ => .error "json: nested too deeply"
  | _ + 1, [], _, _ => .ok []
  | fuel + 1, (k, d) :: rest, path, pos => do
    let start := pos + Utf8.size (Json.quote k) + 1
    let j ← toJsonAt fuel d (path ++ [k]) start
    let fs ← membersAt fuel rest path (start + Utf8.size j.encode + 1)
    pure ((k, j) :: fs)

end

/-! ## Reading -/

/-- The failure of a document whose decoding stopped or found type errors. -/
def decodeFailure (pre : String) : DecodeError → Failure
  | .types es => ⟨.yamlType, pre ++ (DecodeError.types es).message⟩
  | .stopped m => Failure.plain (pre ++ m)

/-- Check a document against the contexts schema. -/
def validate (text : String) : Except Failure Unit := do
  let doc ← match load text with
    | .ok d => pure d
    | .error e => throw (Failure.plain ("parse contexts: " ++ e.message))
  let data ← match doc.decode .any with
    | .ok d => pure d
    | .error e => throw (decodeFailure "parse contexts: " e)
  let empty : Failure :=
    ⟨.schema ["document is empty"], "contexts document does not match schema: document is empty"⟩
  match data with
  | none | some .null => throw empty
  | some d =>
    let j ← match toJsonAt 100000 d [] 0 with
      | .ok j => pure j
      | .error m => throw (Failure.plain ("validate contexts: " ++ m))
    let problems := schema.problems j
    if !problems.isEmpty then
      throw ⟨.schema problems, "contexts document does not match schema: " ++ "; ".intercalate problems⟩

/-- Decode a document into context descriptions, with no schema check. -/
def decodeContexts (text : String) : Except Failure (List ContextConfig) := do
  let doc ← match load text with
    | .ok d => pure d
    | .error e => throw (Failure.plain e.message)
  match doc.decode shape with
  | .ok d => pure (contextsOf d)
  | .error e => throw (decodeFailure "" e)

/-- Check a document against the schema, then decode it into context descriptions. -/
def parseContexts (text : String) : Except Failure (List ContextConfig) := do
  validate text
  match decodeContexts text with
  | .ok cs => pure cs
  | .error f => throw (f.wrap "decode contexts: ")

end Document

end Windowing
