import Windowing.Message
import Windowing.Json.Read
import Windowing.Failure

set_option autoImplicit false

/-! # Messages and alerts as JSON

On the wire a message is a JSON object with `id`, `name` and `values` (an object of
strings). Writing it leaves out an empty name and empty values and writes the values in key
order.

Reading checks the text first (a syntax error stops it). Then the members are taken in
order: a member name matches a field when the two agree up to case (`ID`, `Id`; the
Kelvin sign counts as `k` and the long `ſ` as `s`), later members win, and members that
match no field are passed over. `null` leaves a text field as it is and empties the
values; values from two `values` members are merged. A value of the wrong kind is a type
error, named by where it stands (`wireMessage.values.k`); reading goes on past it, and the
first such error is the one reported. The text `null` is the empty message. -/

namespace Windowing

namespace Message

/-- A message as a JSON object: its id, its name unless empty, its values unless none. -/
def toJson (m : Message) : Json :=
  .obj ([("id", .str m.id)] ++
    (if m.name.isEmpty then [] else [("name", .str m.name)]) ++
    (if m.values.isEmpty then []
     else [("values", .obj (m.keys.map fun k => (k, .str ((m.value? k).getD ""))))]))

/-- The text of a message on the wire. -/
def wire (m : Message) : String := m.toJson.encode

/-- A character of a member name, folded for matching field names up to case. -/
def foldChar (c : Char) : Char :=
  if 'a' ≤ c && c ≤ 'z' then Char.ofNat (c.toNat - 32)
  else if c.toNat == 0x212A then 'K'
  else if c.toNat == 0x17F then 'S'
  else c

/-- A member name, folded. -/
def foldName (s : String) : String := String.ofList (s.toList.map foldChar)

/-- The fields of a message as read so far. -/
structure WireFields where
  id : String := ""
  name : String := ""
  values : Option (List (String × String)) := none
  /-- The first type error. -/
  error : Option Json.TypeMismatch := none

/-- Note a type error, keeping the first. -/
def WireFields.fail (w : WireFields) (e : Json.TypeMismatch) : WireFields :=
  { w with error := w.error <|> some e }

/-- The type error of a value of the wrong kind at a field path of the message. -/
def typeError (kind path type : String) : Json.TypeMismatch :=
  ⟨kind, some ("wireMessage", path), type⟩

/-- Set a key of the values, in place when it is there. -/
def setValue (vs : List (String × String)) (k v : String) : List (String × String) :=
  if vs.any (·.1 == k) then vs.map fun e => if e.1 == k then (k, v) else e
  else vs ++ [(k, v)]

/-- Read one member of a `values` object. -/
def readValueMember (w : WireFields) (kv : String × Json) : WireFields :=
  let vs := w.values.getD []
  match kv.2 with
  | .str s => { w with values := some (setValue vs kv.1 s) }
  | .null => { w with values := some (setValue vs kv.1 "") }
  | j =>
    { w with values := some (setValue vs kv.1 "") }.fail
      (typeError (Json.kindName j) ("values." ++ kv.1) "string")

/-- Read a text field. -/
def readText (w : WireFields) (field : String) (j : Json) (set : WireFields → String → WireFields) :
    WireFields :=
  Json.readStringInto (fun w k => w.fail (typeError k field "string")) set w j

/-- Read one member of the message object. -/
def readMember (w : WireFields) (kv : String × Json) : WireFields :=
  match foldName kv.1 with
  | "ID" => readText w "id" kv.2 fun w s => { w with id := s }
  | "NAME" => readText w "name" kv.2 fun w s => { w with name := s }
  | "VALUES" =>
    match kv.2 with
    | .null => { w with values := none }
    | .obj es => es.foldl readValueMember { w with values := some (w.values.getD []) }
    | j => w.fail (typeError (Json.kindName j) "values" "map[string]string")
  | _ => w

/-- Read a message from a JSON value: `null` is the empty message and an object is read member
by member; any other kind is a type error, and so is the first member of the wrong kind. -/
def ofJson (j : Json) : Except Json.TypeMismatch Message := do
  let w : WireFields ← match j with
    | .null => pure {}
    | .obj es => pure (es.foldl readMember {})
    | j => throw ⟨Json.kindName j, none, "model.wireMessage"⟩
  match w.error with
  | some e => throw e
  | none => pure (Message.build w.id w.name [] (KeyMap.ofList (w.values.getD [])))

/-- Read a message from its text on the wire. -/
def ofWire (text : String) : Except Failure Message :=
  match Json.read text with
  | .error e => .error ⟨.jsonSyntax, e⟩
  | .ok j =>
    match ofJson j with
    | .error e => .error ⟨.jsonType, e.render⟩
    | .ok m => .ok m

end Message

/-! ## Alerts as JSON

An alert is written as an object with `action_id`, `context_id`, `context_name` (left out
when empty), `message`, `window_len` and `inject` (left out when false). Reading one into a
fresh alert follows the rules of messages: names match up to case, later members win, `null`
leaves a field as it is, unknown members are passed over, and a value of the wrong kind is a
type error (`Alert.window_len`, say) that is noted while reading goes on. `window_len` takes only
an integer of 64 bits; another number is refused with its text (a number with a fraction or
an exponent by the shortest text of its double). `message` is read as a message is; `null`
there takes the message away, and a message that does not read stops the reading, its error
placed at the field `message`. A fresh alert has no message, so an alert read from text with
none has none (`none` below). -/

/-- The fields of an alert as read so far. -/
structure AlertFields where
  actionId : String := ""
  contextId : String := ""
  contextName : String := ""
  message : Option Message := none
  windowLen : Int := 0
  inject : Bool := false
  /-- The first type error. -/
  error : Option Json.TypeMismatch := none

namespace AlertFields

/-- Note a type error at a field of the alert, keeping the first. -/
def fail (w : AlertFields) (kind field type : String) : AlertFields :=
  { w with error := w.error <|> some ⟨kind, some ("Alert", field), type⟩ }

/-- Read a text field. -/
def readText (w : AlertFields) (field : String) (j : Json)
    (set : AlertFields → String → AlertFields) : AlertFields :=
  Json.readStringInto (fun w k => w.fail k field "string") set w j

/-- Read the window length: an integer of 64 bits. -/
def readWindowLen (w : AlertFields) : Json → AlertFields
  | .int i =>
    if -9223372036854775808 ≤ i ∧ i < 9223372036854775808 then { w with windowLen := i }
    else w.fail ("number " ++ toString i) "window_len" "int"
  | .float f => w.fail ("number " ++ Json.floatText f) "window_len" "int"
  | .null => w
  | j => w.fail (Json.kindName j) "window_len" "int"

/-- Read the message; one that does not read stops the reading. -/
def readMessage (w : AlertFields) : Json → Except Json.TypeMismatch AlertFields
  | .null => .ok { w with message := none }
  | j =>
    match Message.ofJson j with
    | .ok m => .ok { w with message := some m }
    | .error e => .error { e with place := some ("Alert", "message") }

/-- Read one member of the alert object. -/
def readMember (w : AlertFields) (kv : String × Json) : Except Json.TypeMismatch AlertFields :=
  match Message.foldName kv.1 with
  | "ACTION_ID" => .ok (w.readText "action_id" kv.2 fun w s => { w with actionId := s })
  | "CONTEXT_ID" => .ok (w.readText "context_id" kv.2 fun w s => { w with contextId := s })
  | "CONTEXT_NAME" => .ok (w.readText "context_name" kv.2 fun w s => { w with contextName := s })
  | "MESSAGE" => w.readMessage kv.2
  | "WINDOW_LEN" => .ok (w.readWindowLen kv.2)
  | "INJECT" =>
    match kv.2 with
    | .bool b => .ok { w with inject := b }
    | .null => .ok w
    | j => .ok (w.fail (Json.kindName j) "inject" "bool")
  | _ => .ok w

/-- The alert the fields make, if they hold a message. -/
def toAlert? (w : AlertFields) : Option Alert :=
  w.message.map fun m =>
    { actionId := w.actionId, contextId := w.contextId, contextName := w.contextName,
      message := m, windowLen := w.windowLen, inject := w.inject }

end AlertFields

/-- Read an alert from its JSON text into a fresh alert: the alert, or `none` when the text
gives it no message. -/
def Alert.ofWire (text : String) : Except Failure (Option Alert) :=
  match Json.read text with
  | .error e => .error ⟨.jsonSyntax, e⟩
  | .ok j =>
    let w : Except Json.TypeMismatch AlertFields := match j with
      | .null => .ok {}
      | .obj es => es.foldlM AlertFields.readMember {}
      | j => .error ⟨Json.kindName j, none, "model.Alert"⟩
    match w with
    | .error e => .error ⟨.jsonType, e.render⟩
    | .ok w =>
      match w.error with
      | some e => .error ⟨.jsonType, e.render⟩
      | none => .ok w.toAlert?

end Windowing
