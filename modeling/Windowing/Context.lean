import Windowing.Conditions
import Windowing.Action

set_option autoImplicit false

/-! # Correlation contexts

A context gathers messages into windows under its conditions and runs its actions when a
window closes. A *linear* context has one window; a *keyed* context has one window per key,
the key being a template rendered over the message's values.

Handling a message or a clock tick gives the context's new state and what it reports, in
order: windows opened, closed (with the reason), refused for lack of room, the alerts its
actions produced and the actions that failed. A failing action is skipped; the window closes
regardless.

* A closed window that receives an opening message opens and takes it; an open window
  takes every message its conditions accept; after taking one, the closing reason is
  checked.
* A tick advances an open window's clocks and then checks the closing reason.
* A keyed context ignores a message its conditions do not accept, or whose key does not
  render. A key with no window is opened only by an opening message, and only while fewer
  than `maxKeys` keys are open (when `maxKeys` is positive); otherwise the message is
  refused. Closed keys are dropped. Ticks go to the open keys in key order. -/

namespace Windowing

/-- What a context reports while it handles a request. -/
inductive Effect where
  | opened
  | closed (reason : ClosingReason)
  | rejected
  | alert (a : Alert)
  | actionFailed

/-- What both kinds of context share: identity, conditions and actions. -/
structure Rule where
  name : String
  id : Uuid
  conditions : Conditions
  actions : List Action

/-- A window after one step of a rule: still going, or closed. -/
structure Outcome where
  window : Window
  closed : Bool
  effects : List Effect

namespace Rule

/-- How the context is named in counters: its name, or its id when unnamed. -/
def label (r : Rule) : String := if r.name != "" then r.name else r.id.toText

/-- Run every action on a closed window, in order. -/
def runActions (r : Rule) (w : Window) : List Effect :=
  let cw : ClosedWindow := { contextName := r.name, contextId := r.id, messages := w.messages }
  r.actions.map fun a =>
    match a.execute cw with
    | .ok al => .alert al
    | .error _ => .actionFailed

/-- Close the window if a closing condition holds. -/
def settle (r : Rule) (w : Window) (before : List Effect) : Outcome :=
  match r.conditions.closingReason w with
  | none => ⟨w, false, before⟩
  | some reason => ⟨w.close, true, before ++ .closed reason :: r.runActions w⟩

/-- Offer a message to a window. -/
def onMessage (r : Rule) (m : Message) (w : Window) : Outcome :=
  if w.isOpen then
    if r.conditions.accepts m then r.settle (w.add m) [] else ⟨w, false, []⟩
  else if r.conditions.isOpening m then r.settle (w.open_.add m) [.opened]
  else ⟨w, false, []⟩

/-- Let time pass for a window. -/
def onTick (r : Rule) (d : Duration) (w : Window) : Outcome :=
  if w.isOpen then r.settle (w.advance d) [] else ⟨w, false, []⟩

end Rule

/-- A linear window after an outcome: a closed window starts afresh. -/
def Outcome.next (o : Outcome) : Window := if o.closed then Window.fresh else o.window

/-- Store a keyed window after an outcome: a closed key is dropped. -/
def Outcome.store (o : Outcome) (ws : KeyMap Window) (k : String) : KeyMap Window :=
  if o.closed then ws.erase k else ws.insert k o.window

/-- A configured context with its current windows. -/
inductive Context where
  | linear (rule : Rule) (window : Window)
  | keyed (rule : Rule) (keyTemplate : Template.Tree) (maxKeys : Nat) (windows : KeyMap Window)

namespace Context

/-- The rule of a context. -/
def rule : Context → Rule
  | .linear r _ => r
  | .keyed r _ _ _ => r

/-- The kind of a context, as summaries name it. -/
def kindName : Context → String
  | .linear .. => "linear"
  | .keyed .. => "map"

/-- Read a key template. -/
def parseKey (text : String) : Except String Template.Tree :=
  match Template.parse "context_id" text with
  | .ok t => .ok t
  | .error e => .error ("parse context_id " ++ Text.quote text ++ ": " ++ e)

/-- The key of a message: the key template rendered over its values. -/
def keyOf (t : Template.Tree) (m : Message) : Except String String :=
  t.execute (.dict m.values)

/-- Handle a message. -/
def onMessage (c : Context) (m : Message) : Context × List Effect :=
  match c with
  | .linear r w =>
    let o := r.onMessage m w
    (.linear r o.next, o.effects)
  | .keyed r t n ws =>
    if !r.conditions.accepts m then (c, [])
    else match keyOf t m with
      | .error _ => (c, [])
      | .ok k =>
        match ws.get? k with
        | some w =>
          let o := r.onMessage m w
          (.keyed r t n (o.store ws k), o.effects)
        | none =>
          if !r.conditions.isOpening m then (c, [])
          else if n > 0 ∧ ws.size ≥ n then (c, [.rejected])
          else
            let o := r.onMessage m Window.fresh
            (.keyed r t n (o.store ws k), o.effects)

/-- Advance the open keys in key order. -/
def tickKeys (r : Rule) (d : Duration) :
    List String → KeyMap Window → List Effect → KeyMap Window × List Effect
  | [], ws, acc => (ws, acc)
  | k :: rest, ws, acc =>
    match ws.get? k with
    | none => tickKeys r d rest ws acc
    | some w =>
      let o := r.onTick d w
      tickKeys r d rest (o.store ws k) (acc ++ o.effects)

/-- Handle a clock tick. -/
def onTick (c : Context) (d : Duration) : Context × List Effect :=
  match c with
  | .linear r w =>
    let o := r.onTick d w
    (.linear r o.next, o.effects)
  | .keyed r t n ws =>
    let (ws', effs) := tickKeys r d ws.keys ws []
    (.keyed r t n ws', effs)

end Context

/-- What a summary of a context tells. -/
structure Summary where
  name : String
  id : String
  kind : String
  patterns : List String
  actions : Nat

/-- The summary of a context. -/
def Context.summary (c : Context) : Summary :=
  let r := c.rule
  { name := r.name, id := r.id.toText, kind := c.kindName, patterns := r.conditions.patterns,
    actions := r.actions.length }

end Windowing
