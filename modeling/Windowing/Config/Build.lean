import Windowing.Config.Document
import Windowing.Engine

set_option autoImplicit false

/-! # Building contexts from the document

Each described context is built in document order. Its identifier is read from its text,
or, when the text is empty, taken fresh from a supply of identifiers (by the context's
position). Then its conditions are checked, then a key cap without a key template is
refused, then its actions are built (an action with no message is refused), and last a
key template, if there is one, is read; with a key template the context keeps a window
per key, otherwise one window. A failure names the context's position and its name (or
its identifier text when it has no name). -/

namespace Windowing

/-- The conditions a description asks for. -/
def ConditionsConfig.toConditions (c : ConditionsConfig) : Conditions :=
  { timeout := c.timeout, maxSize := c.maxSize, renewTimeout := c.renewTimeout,
    patterns := c.patterns.getD [], firstOpens := c.firstOpens, lastCloses := c.lastCloses }

/-- Build a described action. -/
def ActionConfig.build (a : ActionConfig) : Except Failure Action :=
  match a.message with
  | none => .error ⟨.missingAction, "action has no message"⟩
  | some m =>
    let spec : ActionSpec :=
      { id := m.uuid, name := m.name, message := m.message,
        values := KeyMap.ofList (m.values.getD []), inject := m.inject }
    match Action.build spec with
    | .ok x => .ok x
    | .error e => .error e.toFailure

/-- Build described actions in order; a failure names the action's position. -/
def buildActionConfigs (actions : List ActionConfig) : Except Failure (List Action) :=
  (actions.zip (List.range actions.length)).mapM fun (a, j) =>
    match a.build with
    | .ok x => .ok x
    | .error f => .error (f.wrap ("action " ++ toString j ++ ": "))

namespace ContextConfig

/-- The words that name a context in a failure: its name, or its identifier text. -/
def label (c : ContextConfig) : String := if c.name.isEmpty then c.uuid else c.name

/-- Build a described context, with `fresh` as its identifier when it has none. -/
def build (c : ContextConfig) (fresh : Uuid) : Except Failure Context := do
  let id ← if c.uuid.isEmpty then pure fresh else readUuid c.uuid
  let conditions := c.conditions.toConditions
  match conditions.validate with
  | some e => throw e.toFailure
  | none => pure ()
  if c.maxKeys > 0 && c.contextId.isEmpty then
    throw ⟨.maxKeysWithoutId, "max_keys requires context_id"⟩
  let actions ← buildActionConfigs c.actions
  let rule : Rule := { name := c.name, id, conditions, actions }
  if c.contextId.isEmpty then pure (.linear rule Window.fresh)
  else
    match Context.parseKey c.contextId with
    | .ok t => pure (.keyed rule t c.maxKeys.toNat {})
    | .error e => throw (Failure.plain e)

end ContextConfig

/-- Distinct identifiers by number: the number in the last eight octets, under a fixed
first half. -/
def numberedUuid (i : Nat) : Uuid :=
  ⟨[0x6e, 0x75, 0x6d, 0x62, 0x65, 0x72, 0x65, 0x64] ++
    (List.range 8).reverse.map fun k => (i / Nat.pow 256 k % 256).toUInt8⟩

/-- Build described contexts in order, taking fresh identifiers by position. -/
def buildConfigs (fresh : Nat → Uuid) (cs : List ContextConfig) : Except Failure (List Context) :=
  (cs.zip (List.range cs.length)).mapM fun (c, i) =>
    match c.build (fresh i) with
    | .ok x => .ok x
    | .error f => .error (f.wrap ("context " ++ toString i ++ " (" ++ c.label ++ "): "))

end Windowing
