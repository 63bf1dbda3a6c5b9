import Windowing.Context
import Windowing.Metrics

set_option autoImplicit false

/-! # The reactor

The reactor takes requests one at a time and hands each to the handler registered for its
kind: messages and clock ticks go to every context in order, exit requests answer with an
exit response and confirm the exit. Every request taken is counted by kind, also one with
no handler, which is skipped.

The exit state counts confirmations; once the count reaches the threshold (at least one)
the exit is confirmed, the count stops, and the reactor takes no more requests. -/

namespace Windowing

/-- A request to the reactor. -/
inductive Request where
  | message (m : Message)
  | timer (elapsed : Duration)
  | exit
  /-- A request of a kind no handler knows. -/
  | other (kind : Int)

/-- The name of a request kind by number. -/
def requestKindName (n : Int) : String :=
  match n with
  | 0 => "message"
  | 1 => "timer"
  | 2 => "exit"
  | n => "request(" ++ toString n ++ ")"

/-- The number of a request's kind. -/
def Request.kind : Request → Int
  | .message _ => 0
  | .timer _ => 1
  | .exit => 2
  | .other n => n

/-- A response of the reactor. -/
inductive Response where
  | exit
  | alert (a : Alert)

/-- The name of a response kind by number. -/
def responseKindName (n : Int) : String :=
  match n with
  | 0 => "exit"
  | 1 => "alert"
  | n => "response(" ++ toString n ++ ")"

/-- The number of a response's kind. -/
def Response.kind : Response → Int
  | .exit => 0
  | .alert _ => 1

/-- How far the exit has gone. -/
inductive Phase where
  | running
  | exitRequested
  | confirmed
  deriving DecidableEq

/-- The name of a phase by number. -/
def phaseName (n : Int) : String :=
  match n with
  | 0 => "running"
  | 1 => "exit-requested"
  | 2 => "confirmed"
  | _ => "unknown"

/-- The name of a phase. -/
def Phase.name : Phase → String
  | .running => "running"
  | .exitRequested => "exit-requested"
  | .confirmed => "confirmed"

/-- Confirmations of the exit so far, against a threshold. -/
structure ExitState where
  threshold : Nat
  count : Nat := 0
  phase : Phase := .running

namespace ExitState

/-- A fresh exit state; a threshold below one counts as one. -/
def new (threshold : Int) : ExitState := { threshold := if threshold < 1 then 1 else threshold.toNat }

/-- Count one confirmation, unless the exit is already confirmed. -/
def confirm (e : ExitState) : ExitState :=
  if e.phase = .confirmed then e
  else
    let c := e.count + 1
    { e with count := c, phase := if c ≥ e.threshold then .confirmed else .exitRequested }

/-- Whether the exit is confirmed. -/
def isConfirmed (e : ExitState) : Bool := e.phase = .confirmed

end ExitState

/-- The three handlers the reactor can have. -/
inductive HandlerKind where
  | message
  | timer
  | exit
  deriving DecidableEq

/-- Which handlers are registered. -/
structure Handlers where
  message : Bool := true
  timer : Bool := true
  exit : Bool := true

namespace HandlerKind

/-- The request kind a handler serves. -/
def kind : HandlerKind → Int
  | .message => 0
  | .timer => 1
  | .exit => 2

/-- The type name of a handler, as its complaints show it. -/
def typeName : HandlerKind → String
  | .message => "dispatcher.MessageEventHandler"
  | .timer => "dispatcher.TimerEventHandler"
  | .exit => "*dispatcher.ExitEventHandler"

/-- The complaint of a handler given a request of another kind. -/
def wrongKind (h : HandlerKind) (r : Request) : String :=
  "dispatcher: " ++ h.typeName ++ " received a " ++ requestKindName r.kind ++ " request, want " ++
    requestKindName h.kind

/-- The handler kind that serves a request, if any. -/
def ofRequest : Request → Option HandlerKind
  | .message _ => some .message
  | .timer _ => some .timer
  | .exit => some .exit
  | .other _ => none

/-- Call a handler directly, with no contexts: its responses and the exit state after it,
or its complaint when the request is of another kind. -/
def call (h : HandlerKind) (req : Request) (e : ExitState) :
    Except String (List Response × ExitState) :=
  if ofRequest req == some h then
    match h with
    | .exit => .ok ([.exit], e.confirm)
    | _ => .ok ([], e)
  else .error (h.wrongKind req)

end HandlerKind

namespace Handlers

/-- Whether a handler is registered. -/
def has (hs : Handlers) : HandlerKind → Bool
  | .message => hs.message
  | .timer => hs.timer
  | .exit => hs.exit

/-- Register or forget a handler. -/
def set (hs : Handlers) (h : HandlerKind) (on : Bool) : Handlers :=
  match h with
  | .message => { hs with message := on }
  | .timer => { hs with timer := on }
  | .exit => { hs with exit := on }

end Handlers

/-- The reactor: contexts, handlers, exit state and counters (when kept). -/
structure Reactor where
  contexts : List Context
  handlers : Handlers := {}
  exit : ExitState
  metrics : Option Metrics := some {}

namespace Reactor

/-- Count one event in the counters, if they are kept. -/
def count (r : Reactor) (name : String) (labels : List (String × String)) : Reactor :=
  { r with metrics := r.metrics.map (·.inc name labels) }

/-- Turn what a context reported into counts and responses. -/
def report (label : String) : Option Metrics → List Effect → Option Metrics × List Response
  | m, [] => (m, [])
  | m, e :: rest =>
    let bump (name : String) (labels : List (String × String)) :=
      m.map (·.inc name labels)
    let (m', out) : Option Metrics × List Response := match e with
      | .opened => (bump "correlog_windows_opened_total" [("context", label)], [])
      | .closed reason =>
        (bump "correlog_windows_closed_total" [("context", label), ("reason", reason.label)], [])
      | .rejected => (bump "correlog_windows_rejected_total" [("context", label)], [])
      | .alert a => (bump "correlog_alerts_total" [("context", label)], [.alert a])
      | .actionFailed => (bump "correlog_action_errors_total" [("context", label)], [])
    let (m'', more) := report label m' rest
    (m'', out ++ more)

/-- Give a request to every context in order. -/
def fanOut (step : Context → Context × List Effect) :
    List Context → Option Metrics → List Context × Option Metrics × List Response
  | [], m => ([], m, [])
  | c :: rest, m =>
    let (c', effs) := step c
    let (m', out) := report c.rule.label m effs
    let (cs, m'', more) := fanOut step rest m'
    (c' :: cs, m'', out ++ more)

/-- Handle one request with its registered handler. -/
def handle (r : Reactor) (req : Request) : Reactor × List Response :=
  let dispatch (step : Context → Context × List Effect) : Reactor × List Response :=
    let (cs, m, out) := fanOut step r.contexts r.metrics
    ({ r with contexts := cs, metrics := m }, out)
  match req with
  | .message msg => dispatch (·.onMessage msg)
  | .timer d => dispatch (·.onTick d)
  | .exit => ({ r with exit := r.exit.confirm }, [.exit])
  | .other _ => (r, [])

/-- Take one request: count it, and hand it to its handler if one is registered. -/
def step (r : Reactor) (req : Request) : Reactor × List Response :=
  let r := r.count "correlog_requests_total" [("kind", requestKindName req.kind)]
  match HandlerKind.ofRequest req with
  | some h => if r.handlers.has h then r.handle req else (r, [])
  | none => (r, [])

/-- Whether the reactor still takes requests. -/
def running (r : Reactor) : Bool := !r.exit.isConfirmed

end Reactor

end Windowing
