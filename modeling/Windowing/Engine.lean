import Windowing.Reactor
import Windowing.Failure

set_option autoImplicit false

/-! # Running the engine step by step

A context can be described directly: its kind, name, identifier text, key template, key
cap, conditions and actions. Building it reads the identifier (none means the nil
identifier), then the actions, then the key template; the conditions are taken as they
are.

A session gives the reactor a list of steps: requests, and edits of the registered
handlers. A step is processed while the exit is not confirmed; afterwards every step is
left unprocessed. -/

namespace Windowing

/-- The two kinds of context. -/
inductive ContextKind where
  | linear
  | keyed
  deriving DecidableEq

/-- A context described directly, before its templates are read. -/
structure ContextSpec where
  kind : ContextKind := .linear
  name : String := ""
  uuid : Option String := none
  keyTemplate : String := ""
  maxKeys : Int := 0
  conditions : Conditions := {}
  actions : List ActionSpec := []

/-- An action error as a failure. -/
def ActionError.toFailure (e : ActionError) : Failure :=
  if e.isRender then ⟨.exec, e.message⟩ else Failure.plain e.message

/-- Read an identifier, naming the text when it does not read. -/
def readUuid (text : String) : Except Failure Uuid :=
  match Uuid.parse text with
  | .ok u => .ok u
  | .error e => .error (Failure.plain ("uuid " ++ Text.quote text ++ ": " ++ e.message))

/-- Build all actions, in order. -/
def buildActions (specs : List ActionSpec) : Except Failure (List Action) :=
  specs.mapM fun a =>
    match Action.build a with
    | .ok x => .ok x
    | .error e => .error e.toFailure

namespace ContextSpec

/-- Build a described context. -/
def build (s : ContextSpec) : Except Failure Context := do
  let id ← match s.uuid with
    | none => pure Uuid.nil
    | some t => readUuid t
  let actions ← buildActions s.actions
  let rule : Rule := { name := s.name, id, conditions := s.conditions, actions }
  match s.kind with
  | .linear => pure (.linear rule Window.fresh)
  | .keyed =>
    match Context.parseKey s.keyTemplate with
    | .ok t => pure (.keyed rule t s.maxKeys.toNat {})
    | .error e => throw (Failure.plain e)

end ContextSpec

/-- Build described contexts in order; a failure names the context's position. -/
def buildSpecs (specs : List ContextSpec) : Except Failure (List Context) :=
  (specs.zip (List.range specs.length)).mapM fun (s, i) =>
    match s.build with
    | .ok c => .ok c
    | .error f => .error (f.wrap ("raw context " ++ toString i ++ ": "))

/-- One step of a session. -/
inductive Step where
  | request (r : Request)
  | removeHandler (h : HandlerKind)
  | registerHandler (h : HandlerKind)

namespace Reactor

/-- Apply one step. -/
def apply (r : Reactor) : Step → Reactor × List Response
  | .request q => r.step q
  | .removeHandler h => ({ r with handlers := r.handlers.set h false }, [])
  | .registerHandler h => ({ r with handlers := r.handlers.set h true }, [])

/-- Run steps in order: each processed step gives the reactor after it and its responses;
a step after the exit is confirmed gives nothing. -/
def run (r : Reactor) : List Step → List (Option (Reactor × List Response)) × Reactor
  | [] => ([], r)
  | s :: rest =>
    if r.running then
      let (r', out) := r.apply s
      let (xs, final) := run r' rest
      (some (r', out) :: xs, final)
    else
      let (xs, final) := run r rest
      (none :: xs, final)

end Reactor

end Windowing
