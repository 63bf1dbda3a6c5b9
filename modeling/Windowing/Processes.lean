import Windowing.Channel
import Windowing.Correlator

set_option autoImplicit false

/-! # The correlator as processes

A running correlator is a handful of goroutines that share little and talk over two channels.
Producers push messages and a timer pushes clock ticks into the request channel; the reactor
takes requests one at a time and sends what it answers into the response channel; a pump hands
each response to the handler registered for its kind; an injector pushes back the messages of
alerts marked for re-injection. Stopping runs once, in the first caller of `Stop`.

Each goroutine is a process with a place in its code, and `State.step` takes one atomic step of
one process, or of the world around the correlator: a call of `PushMessage` or `Stop` begins, a
handler is registered, the timer sends a tick. A step that would wait is not enabled; where a
`select` could take more than one case, the step names the case it takes. The reachable states
are those that steps lead to from a fresh correlator, in any order: every interleaving.

A step is one access to shared state; a few accesses are one step where no other process can
tell them apart. Taking the push lock exclusively, setting `stopping` and releasing the lock is
one step, which waits until no push holds the lock shared; pushes reading `stopping` do so as they
take the lock shared, since only the exclusive holder writes it. A handler of the caller's own
runs for as long as the schedule lets it; the re-injection wrapper and the exit confirmation run
step by step. A wait with a timeout may time out at any point, and the timer may send at any
time, also once stopped: the model has every schedule of the program, and more.

The pump keeps its count of dropped responses apart from the reactor's counters; counters only
add, so together they are the one registry the program updates from both goroutines.

Ghost state holds what the statements speak of and the program keeps no trace of: where each
accepted message went in the request channel, how many requests the reactor had taken when it
confirmed the exit, which alerts the wrapper's next handler was called on, and, for each push,
whether it began after a `Stop` call had returned. -/

namespace Windowing

/-- How a correlator is built: the room in each of its two channels, and how many more times
stopping asks for the exit when one attempt is not confirmed in time. -/
structure Setup where
  queueSize : Nat := 1024
  queueSize_pos : 0 < queueSize := by decide
  stopRetries : Nat := 3

/-- The number of attempts stopping makes. -/
def Setup.attempts (setup : Setup) : Nat := setup.stopRetries + 1

namespace Failure

/-- A push into a correlator that is stopping. -/
def stopped : Failure := ⟨.stopped, "correlator stopped"⟩

/-- A push of no message. -/
def nilMessage : Failure := ⟨.nilMessage, "nil message"⟩

/-- Stopping when no attempt saw the exit confirmed. -/
def stopTimeout (attempts : Nat) : Failure :=
  ⟨.stopTimeout, "exit not confirmed after " ++ toString attempts ++ " attempts"⟩

end Failure

namespace Processes

/-- The case a `select` takes, where more than one can be ready. -/
inductive Case where
  /-- Send on the channel the select sends on. -/
  | send
  /-- `quit` is closed: the correlator is stopping. -/
  | quit
  /-- The exit is confirmed. -/
  | confirmed
  /-- The wait timed out. -/
  | timeout
  /-- The reactor is done. -/
  | reactorDone
  /-- The injector was woken. -/
  | wake
  deriving DecidableEq

/-- Where a call of `PushMessage` is. -/
inductive PushPc where
  /-- About to take the push lock shared, reading `stopping` as it does. -/
  | locking
  /-- Holding the lock, the correlator not stopping: sending the request, unless `quit` closes
  first. -/
  | selecting
  /-- Holding the lock, about to release it and return. -/
  | leaving (result : Option Failure)
  | returned (result : Option Failure)

/-- A call of `PushMessage`. -/
structure PushCall where
  message : Option Message
  /-- For a push of the injector: the place of the alert among the responses, and its
  message. -/
  origin : Option (Nat × Message) := none
  /-- Whether a `Stop` call had returned when the push began. -/
  late : Bool
  /-- The place of its request in the request channel, once sent. -/
  slot : Option Nat := none
  pc : PushPc

/-- Where a call of `Stop` is. -/
inductive StopCall where
  | entering
  /-- Inside the once: running the shutdown, or waiting for the call that runs it. -/
  | inside
  | returned (result : Option Failure)

/-- Where the shutdown is, which the first call of `Stop` runs. -/
inductive Shutdown where
  /-- `quit` is closed; waiting for every push that holds the push lock to leave. -/
  | locking
  /-- `stopping` is set; about to install the exit confirmation. -/
  | installing
  /-- Sending the exit request of attempt `n`, counted from zero, unless the exit is confirmed
  or the wait times out first. -/
  | requesting (n : Nat)
  /-- Waiting for the exit to be confirmed in attempt `n`, or for the wait to time out. -/
  | awaiting (n : Nat)
  /-- Confirmed: waiting for the reactor to finish, then closing the response channel. -/
  | draining
  | awaitingPump
  | awaitingInjector

/-- The once around the shutdown: not entered yet, running the shutdown, or done with its
result. -/
inductive Once where
  | idle
  | running (phase : Shutdown)
  | done (result : Option Failure)

/-- Where the reactor is. -/
inductive ReactorPc where
  /-- At the top of its loop: done once the exit is confirmed, else taking a request. -/
  | taking
  /-- Handling a request: the responses still to send, and the reactor after the request. -/
  | handling (request : Request) (pending : List Response) (after : Reactor)
  | done

/-- An alert handler: one of the caller's own, told apart by a number, or the re-injection
wrapper around one of them or around none. -/
inductive AlertHandler where
  | own (id : Nat)
  | reinject (next : Option Nat)
  deriving DecidableEq

/-- An exit handler: one of the caller's own, or the exit confirmation that stopping installs
around the handler registered before it, if any. -/
inductive ExitHandler where
  | own (id : Nat)
  | confirm (prev : Option Nat)
  deriving DecidableEq

/-- What the pump did with a response: an alert passed to the alert handler registered when the
pump took it, or dropped when there was none; an exit response the same way. -/
inductive Delivery where
  | alert (a : Alert) (handler : Option AlertHandler)
  | exit (handler : Option ExitHandler)

/-- The response a delivery is of. -/
def Delivery.response : Delivery → Response
  | .alert a _ => .alert a
  | .exit _ => .exit

/-- Where the pump is. -/
inductive PumpPc where
  | taking
  /-- Running a handler of the caller's own. -/
  | calling
  /-- The re-injection wrapper runs its next handler on the alert at place `p`. -/
  | callingNext (p : Nat) (next : Nat) (a : Alert)
  /-- The wrapper checks whether the correlator is stopping before it queues the message of the
  alert at place `p`. -/
  | checking (p : Nat) (m : Message)
  | queueing (p : Nat) (m : Message)
  /-- The wrapper wakes the injector. -/
  | waking
  /-- The exit confirmation runs the exit handler it wraps. -/
  | callingPrev
  | done

/-- The goroutine that sends the second exit request, once the exit confirmation spawned it. -/
inductive Confirmer where
  | unspawned
  | sending
  | done

/-- The goroutine that closes the response channel once the reactor is done, after stopping
gave up. -/
inductive Closer where
  | unspawned
  | waiting
  | done

/-- Where the injector is. -/
inductive InjectorPc where
  /-- Waiting to be woken, or for `quit`. -/
  | waiting
  /-- Woken: about to take the queued messages. -/
  | woken
  /-- Pushing a batch: what is left of it. -/
  | pushing (batch : List (Nat × Message))
  /-- Inside push call `call`, of the message of `e`, with `rest` left of the batch. -/
  | awaiting (e : Nat × Message) (rest : List (Nat × Message)) (call : Nat)
  | done

/-- A running correlator: its channels, the push lock, each process's place, the handlers, and
the ghost state that the statements speak of. -/
structure State where
  setup : Setup
  requests : Channel Request
  responses : Channel Response
  /-- Whether `quit` is closed. -/
  quit : Bool := false
  /-- How many pushes hold the push lock shared. -/
  readers : Nat := 0
  stopping : Bool := false
  reactor : Reactor
  reactorPc : ReactorPc := .taking
  /-- How many requests the reactor had taken when it confirmed the exit. -/
  confirmedAt : Option Nat := none
  alertHandler : Option AlertHandler := none
  exitHandler : Option ExitHandler := none
  pump : PumpPc := .taking
  /-- What the pump did with each response it took, in order. -/
  deliveries : List Delivery := []
  /-- The pump's counts of dropped responses, kept when the reactor keeps counters. -/
  dropped : Option Metrics
  /-- The places of the alerts that the wrapper's next handler was called on, in order. -/
  calledNext : List Nat := []
  confirmer : Confirmer := .unspawned
  closer : Closer := .unspawned
  /-- Every message the wrapper queued for re-injection, with the place of its alert. -/
  queued : List (Nat × Message) := []
  /-- How many queued messages the injector took. -/
  taken : Nat := 0
  /-- Whether the one-slot wake channel holds a signal. -/
  wake : Bool := false
  injector : InjectorPc := .waiting
  pushes : List PushCall := []
  stops : List StopCall := []
  once : Once := .idle

/-- A step of the correlator or of the world around it. -/
inductive Action where
  /-- A producer calls `PushMessage`. -/
  | push (m : Option Message)
  /-- Push call `i` takes a step. -/
  | pushStep (i : Nat) (c : Case)
  /-- A caller calls `Stop`. -/
  | stop
  /-- Stop call `j` takes a step. -/
  | stopStep (j : Nat)
  /-- The shutdown takes a step. -/
  | shutdown (c : Case)
  /-- A caller registers an alert handler, or none. -/
  | registerAlert (h : Option AlertHandler)
  /-- A caller registers an exit handler of its own, or none. -/
  | registerExit (id : Option Nat)
  /-- The timer sends a tick. -/
  | tick (d : Duration)
  | reactor
  | pump
  | confirmer (c : Case)
  | closer
  | injector (c : Case)

/-- Whether a push holds the push lock shared. -/
def PushCall.holdsLock (c : PushCall) : Bool :=
  match c.pc with
  | .selecting | .leaving _ => true
  | _ => false

/-- Whether a stop call has returned. -/
def StopCall.isReturned : StopCall → Bool
  | .returned _ => true
  | _ => false

/-- The handler of the caller's own among exit handlers. -/
def ExitHandler.own? : Option ExitHandler → Option Nat
  | some (.own id) => some id
  | _ => none

/-- What the re-injection wrapper does once its next handler is done: check, then queue the
message of an alert marked for re-injection; return on any other. -/
def afterNext (p : Nat) (a : Alert) : PumpPc := if a.inject then .checking p a.message else .taking

namespace State

/-- A fresh correlator over some contexts: nothing sent, no handler, every process at its
start. -/
def init (setup : Setup) (contexts : List Context) : State where
  setup
  requests := .empty setup.queueSize
  responses := .empty setup.queueSize
  reactor := { contexts, exit := ExitState.new 2 }
  dropped := some {}

/-- A new call of `PushMessage`; a call with no message returns at once. -/
def newPush (s : State) (m : Option Message) (origin : Option (Nat × Message)) : PushCall where
  message := m
  origin
  late := s.stops.any StopCall.isReturned
  pc := if m.isSome then .locking else .returned (some .nilMessage)

/-- The injector goes on once its push, call `i`, returns: with the rest of its batch after a
success, to its end after a failure. -/
def resume (s : State) (i : Nat) (r : Option Failure) : State :=
  match s.injector with
  | .awaiting _ rest k =>
    if k = i then { s with injector := if r.isNone then .pushing rest else .done } else s
  | _ => s

/-- A step of push call `i`; the injector, whose push it may be, goes on as it returns. -/
def pushStep (s : State) (i : Nat) (c : Case) : Option State := do
  let call ← s.pushes[i]?
  match call.pc, call.message, c with
  | .locking, some _, _ =>
    some { s with
      readers := s.readers + 1
      pushes := s.pushes.set i
        { call with pc := if s.stopping then .leaving (some .stopped) else .selecting } }
  | .selecting, some m, .send => do
    let requests ← s.requests.send? (.message m)
    some { s with
      requests
      pushes := s.pushes.set i
        { call with slot := some s.requests.sent.length, pc := .leaving none } }
  | .selecting, some _, .quit =>
    if s.quit then some { s with pushes := s.pushes.set i { call with pc := .leaving (some .stopped) } }
    else none
  | .leaving r, _, _ =>
    some ({ s with
      readers := s.readers - 1
      pushes := s.pushes.set i { call with pc := .returned r } }.resume i r)
  | _, _, _ => none

/-- A step of stop call `j`: the first to enter the once closes `quit` and runs the shutdown;
every call returns the once's result when it is done. -/
def stopStep (s : State) (j : Nat) : Option State := do
  let call ← s.stops[j]?
  match call, s.once with
  | .entering, .idle =>
    some { s with quit := true, once := .running .locking, stops := s.stops.set j .inside }
  | .entering, .running _ => some { s with stops := s.stops.set j .inside }
  | .entering, .done r => some { s with stops := s.stops.set j (.returned r) }
  | .inside, .done r => some { s with stops := s.stops.set j (.returned r) }
  | _, _ => none

/-- Attempt `n` timed out: ask again, or give up, leaving a goroutine to close the response
channel once the reactor is done. -/
def timedOut (s : State) (n : Nat) : State :=
  if n + 1 < s.setup.attempts then { s with once := .running (.requesting (n + 1)) }
  else { s with once := .done (some (.stopTimeout s.setup.attempts)), closer := .waiting }

/-- A step of the shutdown. -/
def shutdownStep (s : State) (c : Case) : Option State :=
  match s.once with
  | .running .locking =>
    if s.readers = 0 then some { s with stopping := true, once := .running .installing } else none
  | .running .installing =>
    some { s with
      exitHandler := some (.confirm (ExitHandler.own? s.exitHandler))
      once := .running (.requesting 0) }
  | .running (.requesting n) =>
    match c with
    | .send => do
      let requests ← s.requests.send? Request.exit
      some { s with requests, once := .running (.awaiting n) }
    | .confirmed =>
      if s.reactor.exit.isConfirmed then some { s with once := .running .draining } else none
    | .timeout => some (s.timedOut n)
    | _ => none
  | .running (.awaiting n) =>
    match c with
    | .confirmed =>
      if s.reactor.exit.isConfirmed then some { s with once := .running .draining } else none
    | .timeout => some (s.timedOut n)
    | _ => none
  | .running .draining =>
    match s.reactorPc with
    | .done => some { s with responses := s.responses.close, once := .running .awaitingPump }
    | _ => none
  | .running .awaitingPump =>
    match s.pump with
    | .done => some { s with once := .running .awaitingInjector }
    | _ => none
  | .running .awaitingInjector =>
    match s.injector with
    | .done => some { s with once := .done none }
    | _ => none
  | _ => none

/-- A step of the reactor: take a request and work out what it answers, send the answers one by
one, then take on the reactor after the request, which confirms the exit after an exit
request. -/
def reactorStep (s : State) : Option State :=
  match s.reactorPc with
  | .taking =>
    if s.reactor.exit.isConfirmed then some { s with reactorPc := .done }
    else do
      let (q, requests) ← s.requests.receive?
      some { s with requests, reactorPc := .handling q (s.reactor.step q).2 (s.reactor.step q).1 }
  | .handling q (resp :: rest) after => do
    let responses ← s.responses.send? resp
    some { s with responses, reactorPc := .handling q rest after }
  | .handling _ [] after =>
    some { s with
      reactor := after
      reactorPc := .taking
      confirmedAt := if after.exit.isConfirmed then some s.requests.received else s.confirmedAt }
  | .done => none

/-- The exit confirmation's once: spawn the goroutine that sends the second exit request, the
first time. -/
def confirmOnce (s : State) : State :=
  match s.confirmer with
  | .unspawned => { s with confirmer := .sending }
  | _ => s

/-- The pump hands the response at place `p` to the handler registered for its kind, or drops
it and counts it. -/
def deliver (s : State) (p : Nat) : Response → State
  | .alert a =>
    match s.alertHandler with
    | none =>
      { s with
        deliveries := s.deliveries ++ [.alert a none]
        dropped := s.dropped.map (·.inc "correlog_responses_dropped_total" [("kind", "alert")]) }
    | some (.own id) =>
      { s with deliveries := s.deliveries ++ [.alert a (some (.own id))], pump := .calling }
    | some (.reinject next) =>
      { s with
        deliveries := s.deliveries ++ [.alert a (some (.reinject next))]
        pump := match next with
          | some n => .callingNext p n a
          | none => afterNext p a }
  | .exit =>
    match s.exitHandler with
    | none =>
      { s with
        deliveries := s.deliveries ++ [.exit none]
        dropped := s.dropped.map (·.inc "correlog_responses_dropped_total" [("kind", "exit")]) }
    | some (.own id) =>
      { s with deliveries := s.deliveries ++ [.exit (some (.own id))], pump := .calling }
    | some (.confirm prev) =>
      match prev with
      | some _ =>
        { s with deliveries := s.deliveries ++ [.exit (some (.confirm prev))], pump := .callingPrev }
      | none => confirmOnce { s with deliveries := s.deliveries ++ [.exit (some (.confirm prev))] }

/-- A step of the pump: take a response and hand it on, or a step of the handler it runs. -/
def pumpStep (s : State) : Option State :=
  match s.pump with
  | .taking =>
    match s.responses.receive? with
    | some (resp, responses) => some ({ s with responses }.deliver s.responses.received resp)
    | none => if s.responses.closed then some { s with pump := .done } else none
  | .calling => some { s with pump := .taking }
  | .callingNext p _ a => some { s with calledNext := s.calledNext ++ [p], pump := afterNext p a }
  | .checking p m => some { s with pump := if s.quit then .taking else .queueing p m }
  | .queueing p m => some { s with queued := s.queued ++ [(p, m)], pump := .waking }
  | .waking => some { s with wake := true, pump := .taking }
  | .callingPrev => some (confirmOnce { s with pump := .taking })
  | .done => none

/-- A step of the goroutine that sends the second exit request. -/
def confirmerStep (s : State) (c : Case) : Option State :=
  match s.confirmer, c with
  | .sending, .send => do
    let requests ← s.requests.send? Request.exit
    some { s with requests, confirmer := .done }
  | .sending, .reactorDone =>
    match s.reactorPc with
    | .done => some { s with confirmer := .done }
    | _ => none
  | _, _ => none

/-- A step of the goroutine that closes the response channel after stopping gave up. -/
def closerStep (s : State) : Option State :=
  match s.closer, s.reactorPc with
  | .waiting, .done => some { s with responses := s.responses.close, closer := .done }
  | _, _ => none

/-- A step of the injector: wait, take what is queued, push it message by message, and stop at
the first push that fails or when `quit` closes, dropping what is still queued. -/
def injectorStep (s : State) (c : Case) : Option State :=
  match s.injector with
  | .waiting =>
    match c with
    | .wake => if s.wake then some { s with wake := false, injector := .woken } else none
    | .quit =>
      if s.quit then some { s with taken := s.queued.length, injector := .done } else none
    | _ => none
  | .woken =>
    some { s with taken := s.queued.length, injector := .pushing (s.queued.drop s.taken) }
  | .pushing [] => some { s with injector := .waiting }
  | .pushing (e :: rest) =>
    some { s with
      pushes := s.pushes ++ [s.newPush (some e.2) (some e)]
      injector := .awaiting e rest s.pushes.length }
  | .awaiting .. | .done => none

/-- One step. -/
def step (s : State) : Action → Option State
  | .push m => some { s with pushes := s.pushes ++ [s.newPush m none] }
  | .pushStep i c => s.pushStep i c
  | .stop => some { s with stops := s.stops ++ [.entering] }
  | .stopStep j => s.stopStep j
  | .shutdown c => s.shutdownStep c
  | .registerAlert h => some { s with alertHandler := h }
  | .registerExit id => some { s with exitHandler := id.map .own }
  | .tick d => do
    let requests ← s.requests.send? (.timer d)
    some { s with requests }
  | .reactor => s.reactorStep
  | .pump => s.pumpStep
  | .confirmer c => s.confirmerStep c
  | .closer => s.closerStep
  | .injector c => s.injectorStep c

/-- Steps one after another; `none` if one of them is not enabled. -/
def run (s : State) : List Action → Option State
  | [] => some s
  | a :: rest => (s.step a).bind (·.run rest)

end State

/-- The states a correlator reaches: every interleaving of steps from a fresh one. -/
inductive Reachable : State → Prop where
  | init (setup : Setup) (contexts : List Context) : Reachable (.init setup contexts)
  | step {s s' : State} (a : Action) : Reachable s → s.step a = some s' → Reachable s'

end Processes

end Windowing
