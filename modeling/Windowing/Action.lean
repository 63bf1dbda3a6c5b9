import Windowing.Message
import Windowing.Uuid
import Windowing.Template.Exec

set_option autoImplicit false

/-! # Actions: what a closed window produces

An action turns a closed window into an alert. It renders a message template and one
template per value key over the window's data, and builds a message whose id is the
action's id and whose name is the action's name. Its values are the rendered values, then
`MESSAGE` (the rendered message), then `context.name`, `context.id` and `context.len`; a
later key overwrites an earlier one.

A template sees this data:

* `.Context.Name`, `.Context.ID` (canonical text) and `.Context.Len`;
* `.Messages`, each with `ID`, `Name` and `Values`;
* `.First` and `.Last`, all empty when the window is.

Templates are read when the action is built: the message first, then the values in key
order, and the first that does not read is the error. When the action runs, the values
render first in key order, then the message; the first failure is the error. -/

namespace Windowing

open Template

/-- What an action is configured with, before its templates are read. -/
structure ActionSpec where
  id : String
  name : String := ""
  message : String := ""
  values : KeyMap String := {}
  inject : Bool := false
  deriving Inhabited

/-- An action with its templates read. -/
structure Action where
  id : String
  name : String
  message : Tree
  /-- Value templates by key, in key order. -/
  values : List (String × Tree)
  inject : Bool

/-- A closed window as actions see it. -/
structure ClosedWindow where
  contextName : String
  contextId : Uuid
  messages : List Message

/-- Why an action could not be built or run. -/
inductive ActionError where
  | missingId
  | parse (template : String) (error : String)
  | render (template : String) (error : String)

/-- The message of an action error. -/
def ActionError.message : ActionError → String
  | .missingId => "message action: id is required"
  | .parse t e => "parse template " ++ t ++ ": " ++ e
  | .render t e => "render " ++ t ++ ": " ++ e

/-- Whether an action error comes from running a template. -/
def ActionError.isRender : ActionError → Bool
  | .render _ _ => true
  | _ => false

namespace Action

/-- Read one template under a name. -/
def parseTemplate (name text : String) : Except ActionError Tree :=
  match Template.parse name text with
  | .ok t => .ok t
  | .error e => .error (.parse name e)

/-- Build an action: check the id and read every template. -/
def build (spec : ActionSpec) : Except ActionError Action := do
  if spec.id == "" then throw .missingId
  let message ← parseTemplate (spec.id ++ "/message") spec.message
  let values ← spec.values.toList.mapM fun (k, v) => do
    let t ← parseTemplate (spec.id ++ "/values/" ++ k) v
    pure (k, t)
  pure { id := spec.id, name := spec.name, message, values, inject := spec.inject }

/-- The data record of one message. -/
def messageData (m : Message) : Value :=
  .record "correlation.messageData"
    [("ID", .str m.id), ("Name", .str m.name), ("Values", .dict m.values)]

/-- The data record of the empty message: its values are the nil map. -/
def emptyData : Value :=
  .record "correlation.messageData" [("ID", .str ""), ("Name", .str ""), ("Values", .nilDict)]

/-- The data a template of the closed window sees. -/
def windowData (w : ClosedWindow) : Value :=
  let ms := w.messages.map messageData
  .record "correlation.windowData"
    [("Context", .record "struct { Name string; ID string; Len int }"
        [("Name", .str w.contextName), ("ID", .str w.contextId.toText),
         ("Len", .int w.messages.length)]),
     ("Messages", .list "correlation.messageData" ms []),
     ("First", ms.headD emptyData),
     ("Last", ms.getLastD emptyData)]

/-- Render one template over window data. -/
def render (t : Tree) (data : Value) : Except ActionError String :=
  match t.execute data with
  | .ok s => .ok s
  | .error e => .error (.render t.parseName e)

/-- Run the action on a closed window. -/
def execute (a : Action) (w : ClosedWindow) : Except ActionError Alert := do
  let data := windowData w
  let rendered ← a.values.mapM fun (k, t) => do
    let s ← render t data
    pure (k, s)
  let text ← render a.message data
  let idText := w.contextId.toText
  let pairs := rendered ++
    [("MESSAGE", text), ("context.name", w.contextName), ("context.id", idText),
     ("context.len", toString w.messages.length)]
  pure {
    actionId := a.id
    contextId := idText
    contextName := w.contextName
    message := Message.build a.id a.name pairs {}
    windowLen := w.messages.length
    inject := a.inject }

end Action

end Windowing
