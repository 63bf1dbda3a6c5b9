import Windowing.Reactor
import Windowing.Failure

set_option autoImplicit false

/-! # The correlator

The correlator is the front of the reactor: messages pushed to it reach the reactor in
the order they were pushed, and what the reactor answers goes to the handlers registered
for each kind of response. An answer with no handler is dropped and counted.

Stopping closes the front (later pushes are refused with `correlator stopped`) and asks
the reactor to exit. The exit handler answers the first exit response with a second exit
request, which confirms the exit. Stopping is done once: asking again gives the first
result.

An alert handler may hold on to its first alert until the correlator has stopped. The
exit response then never reaches its handler, so the exit is never confirmed, and every
attempt (one, and one more per retry) runs out: stopping fails with `exit not confirmed
after N attempts`.

With re-injection, an alert marked for it gives its message back to the front once the
alert handler has seen it, as if pushed right after the message that caused it (the
front takes at most `reinjectLimit` of them per push). -/

namespace Windowing

/-- How a correlator is set up. -/
structure CorrelatorSetup where
  /-- Whether an alert handler is registered. -/
  alertHandler : Bool := true
  /-- Whether the alert handler holds its first alert until the correlator stops. -/
  holdAlerts : Bool := false
  /-- Whether alerts marked for it give their message back to the front. -/
  reinject : Bool := false
  /-- Extra stop attempts after the first. -/
  stopRetries : Nat := 3

/-- The most re-injected messages the front takes per push. -/
def reinjectLimit : Nat := 1000

/-- A correlator: the reactor behind it, what its handlers saw, and how stopping went. -/
structure Correlator where
  setup : CorrelatorSetup
  reactor : Reactor
  /-- Alerts the alert handler saw, in order. -/
  alerts : List Alert := []
  /-- Exit responses the exit handler saw. -/
  exitResponses : Nat := 0
  /-- How stopping went, once it has been asked for: `none` for success. -/
  stopResult : Option (Option Failure) := none

namespace Correlator

/-- A correlator in front of a reactor for some contexts. -/
def new (setup : CorrelatorSetup) (contexts : List Context) : Correlator :=
  { setup, reactor := { contexts, exit := ExitState.new 2 } }

/-- Whether stopping has been asked for. -/
def stopped (c : Correlator) : Bool := c.stopResult.isSome

/-- Deliver responses to their handlers; the messages of alerts to re-inject. -/
def deliver (c : Correlator) : List Response → Correlator × List Message
  | [] => (c, [])
  | .exit :: rest =>
    deliver { c with exitResponses := c.exitResponses + 1 } rest
  | .alert a :: rest =>
    if c.setup.alertHandler then
      let again := if c.setup.reinject && a.inject then [a.message] else []
      let (c', more) := deliver { c with alerts := c.alerts ++ [a] } rest
      (c', again ++ more)
    else
      let r := c.reactor.count "correlog_responses_dropped_total" [("kind", "alert")]
      deliver { c with reactor := r } rest

/-- Hand messages to the reactor in order, with those given back by re-injection after
them, taking at most `fuel` messages. -/
def feed : Nat → Correlator → List Message → Correlator
  | 0, c, _ => c
  | _ + 1, c, [] => c
  | fuel + 1, c, m :: rest =>
    if c.reactor.running then
      let (r, out) := c.reactor.step (.message m)
      let (c', again) := deliver { c with reactor := r } out
      feed fuel c' (rest ++ again)
    else c

/-- Push a message. -/
def push (c : Correlator) : Option Message → Correlator × Option Failure
  | none => (c, some ⟨.nilMessage, "nil message"⟩)
  | some m =>
    if c.stopped then (c, some ⟨.stopped, "correlator stopped"⟩)
    else (feed (reinjectLimit + 1) c [m], none)

/-- Hand one exit request to the reactor and deliver what it answers. -/
def requestExit (c : Correlator) : Correlator :=
  if c.reactor.running then
    let (r, out) := c.reactor.step .exit
    (deliver { c with reactor := r } out).1
  else c

/-- Stop: the first time, ask the reactor to exit and see that it confirms; later, the
first result again. -/
def stop (c : Correlator) : Correlator × Option Failure :=
  match c.stopResult with
  | some r => (c, r)
  | none =>
    if c.setup.holdAlerts && !c.alerts.isEmpty then
      let attempts := c.setup.stopRetries + 1
      let f : Failure :=
        ⟨.stopTimeout, "exit not confirmed after " ++ toString attempts ++ " attempts"⟩
      ({ c with stopResult := some (some f) }, some f)
    else
      let c := c.requestExit.requestExit
      ({ c with stopResult := some none }, none)

end Correlator

/-- One step of a session with the correlator. -/
inductive CorrelatorStep where
  /-- Push a message, or nothing. -/
  | push (m : Option Message)
  | stop
  /-- Ask whether stopping has been asked for. -/
  | stopped
  /-- Let time pass. -/
  | wait

/-- What a step answers. -/
inductive StepAnswer where
  | ok
  | failed (f : Failure)
  | isStopped (b : Bool)

/-- A failure, or none, as a step's answer. -/
def StepAnswer.ofResult : Option Failure → StepAnswer
  | none => .ok
  | some f => .failed f

/-- Run steps in order; the answer of each and the correlator after them. -/
def Correlator.run (c : Correlator) : List CorrelatorStep → List StepAnswer × Correlator
  | [] => ([], c)
  | s :: rest =>
    let (c', a) : Correlator × StepAnswer := match s with
      | .push m => let (c', r) := c.push m; (c', .ofResult r)
      | .stop => let (c', r) := c.stop; (c', .ofResult r)
      | .stopped => (c, .isStopped c.stopped)
      | .wait => (c, .ok)
    let (answers, final) := c'.run rest
    (a :: answers, final)

end Windowing
