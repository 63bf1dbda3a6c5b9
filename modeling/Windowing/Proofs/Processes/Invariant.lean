import Windowing.Processes
import Windowing.Proofs.Counters
import Windowing.Proofs.Shutdown

set_option autoImplicit false

/-! # What every reachable correlator satisfies

One invariant (`Inv`) holds in every state the processes reach, over every interleaving. It ties
the places of the processes to the shared state and to what was sent before:

* the push lock: the shared holders are counted, no push is about to send once `stopping` is
  set, and every exit request was sent after it was set; so a message accepted by a push sits
  ahead of every exit request in the request channel;
* the reactor: a request being handled is the last one taken, and the exit was confirmed by an
  exit request, the last the reactor took;
* the pump: what it did with the responses, one by one, is the list of responses it took, and the
  dropped alerts are counted;
* the shutdown: each phase it reached has what it waited for;
* re-injection: the queued messages are a prefix of the messages of the alerts the pump passed to
  the re-injection wrapper, and the injector's pushes a prefix of what it took from the queue.

Each step keeps the invariant (`Inv.step`), one lemma per process; a state reached from a fresh
correlator satisfies it (`Reachable.inv`). -/

namespace Windowing.Processes

/-! ## Views of the state -/

/-- Whether the shutdown is past the push lock: `stopping` is set from then on. -/
def Once.pastLock : Once → Bool
  | .idle | .running .locking => false
  | _ => true

/-- Whether a push went through: it sent its request, and returns nil. -/
def PushCall.accepted (c : PushCall) : Bool :=
  match c.pc with
  | .leaving none | .returned none => true
  | _ => false

/-- The alert of the injector's push, once the push returned nil. -/
def PushCall.pushedOrigin (c : PushCall) : Option (Nat × Message) :=
  match c.pc with
  | .returned none => c.origin
  | _ => none

/-- Whether the pump dropped an alert for want of an alert handler. -/
def Delivery.isDroppedAlert : Delivery → Bool
  | .alert _ none => true
  | _ => false

/-- The message the re-injection wrapper is to queue: that of an alert it was passed that is
marked for re-injection. -/
def Delivery.toInject : Delivery → Option Message
  | .alert a (some (.reinject _)) => if a.inject then some a.message else none
  | _ => none

/-- The message the wrapper that the pump runs is about to queue, with the place of its alert. -/
def PumpPc.pending : PumpPc → List (Nat × Message)
  | .callingNext p _ a => if a.inject then [(p, a.message)] else []
  | .checking p m | .queueing p m => [(p, m)]
  | _ => []

namespace State

/-- The messages of the alerts marked for re-injection that the pump passed to the re-injection
wrapper, with the places of the alerts, in the order it passed them. -/
def flagged (s : State) : List (Nat × Message) :=
  s.deliveries.zipIdx.filterMap fun (d, p) => d.toInject.map (p, ·)

/-- The alerts whose messages the injector began to push, in order. -/
def injectorCalls (s : State) : List (Nat × Message) := s.pushes.filterMap PushCall.origin

/-- The alerts whose messages the injector pushed successfully, in order. -/
def reinjected (s : State) : List (Nat × Message) := s.pushes.filterMap PushCall.pushedOrigin

/-- The alert at place `p` went to the re-injection wrapper marked for re-injection, with message
`m`, and the wrapper's next handler, if it has one, was called on it. -/
def Wrapped (s : State) (p : Nat) (m : Message) : Prop :=
  ∃ a next, s.deliveries[p]? = some (.alert a (some (.reinject next))) ∧ a.inject = true ∧
    a.message = m ∧ ∀ n, next = some n → p ∈ s.calledNext

/-- What the shutdown waited for, by the phase it reached. -/
def Progress (s : State) : Prop :=
  match s.once with
  | .running .draining => s.reactor.exit.isConfirmed = true
  | .running .awaitingPump => s.reactorPc = .done ∧ s.responses.closed = true
  | .running .awaitingInjector =>
    s.reactorPc = .done ∧ s.responses.closed = true ∧ s.pump = .done
  | .done none =>
    s.reactorPc = .done ∧ s.responses.closed = true ∧ s.pump = .done ∧ s.injector = .done
  | _ => True

/-- The injector's pushes against what it took from the queue: every push it began is of a
message it took, in order; all went through but the one it is in, and after a failure it pushes
no more. -/
def InjectorAgrees (s : State) : Prop :=
  match s.injector with
  | .waiting | .woken =>
    s.injectorCalls = s.queued.take s.taken ∧ s.reinjected = s.injectorCalls
  | .pushing batch =>
    s.injectorCalls ++ batch = s.queued.take s.taken ∧ s.reinjected = s.injectorCalls
  | .awaiting e rest i =>
    s.injectorCalls ++ rest = s.queued.take s.taken ∧ s.reinjected ++ [e] = s.injectorCalls ∧
      (∃ c, s.pushes[i]? = some c ∧ c.origin = some e) ∧
      ∀ (k : Nat) c, s.pushes[k]? = some c → c.origin.isSome → k ≤ i
  | .done => s.reinjected <+: s.injectorCalls ∧ s.injectorCalls <+: s.queued.take s.taken

end State

/-! ## The invariant -/

/-- What a push satisfies in a reachable state, against the requests sent so far and whether the
correlator is stopping: it sends only while the correlator is not stopping, its request went where
its slot says, ahead of every exit request, and a push that began after a `Stop` call returned is
refused. -/
structure PushCall.Ok (sent : List Request) (stopping : Bool) (c : PushCall) : Prop where
  selecting_open : c.pc = .selecting → stopping = false
  slot_ahead : ∀ p, c.slot = some p →
    (∃ m, c.message = some m ∧ sent[p]? = some (.message m)) ∧
      ∀ q : Nat, sent[q]? = some .exit → p < q
  accepted_slot : c.accepted = true → c.slot.isSome
  late_stopping : c.late = true → stopping = true
  late_refused : c.late = true → c.message.isSome →
    c.pc = .locking ∨ c.pc = .leaving (some .stopped) ∨ c.pc = .returned (some .stopped)
  origin_message : ∀ e, c.origin = some e → c.message = some e.2

/-- What every reachable state satisfies. -/
structure State.Inv (s : State) : Prop where
  readers_eq : s.readers = s.pushes.countP PushCall.holdsLock
  calls_ok : ∀ c ∈ s.pushes, c.Ok s.requests.sent s.stopping
  pastLock_stopping : s.once.pastLock = true → s.stopping = true
  exit_stopping : Request.exit ∈ s.requests.sent → s.stopping = true
  exitHandler_stopping : ∀ prev, s.exitHandler = some (.confirm prev) → s.stopping = true
  callingPrev_stopping : s.pump = .callingPrev → s.stopping = true
  confirmer_stopping : s.confirmer ≠ .unspawned → s.stopping = true
  stop_returned : ∀ (j : Nat) r, s.stops[j]? = some (StopCall.returned r) → s.once = .done r
  handling : ∀ q out after, s.reactorPc = .handling q out after →
    0 < s.requests.received ∧ s.requests.sent[s.requests.received - 1]? = some q ∧
      after = (s.reactor.step q).1 ∧ s.reactor.exit.isConfirmed = false
  confirmedAt_exit : ∀ n, s.confirmedAt = some n → 0 < n ∧ s.requests.sent[n - 1]? = some .exit
  confirmedAt_le : ∀ n, s.confirmedAt = some n → n ≤ s.requests.received
  confirmed_at : s.reactor.exit.isConfirmed = true → s.confirmedAt.isSome
  done_confirmed : s.reactorPc = .done → s.reactor.exit.isConfirmed = true
  closed_done : s.responses.closed = true → s.reactorPc = .done
  deliveries_eq : s.deliveries.map Delivery.response = s.responses.sent.take s.responses.received
  pump_done : s.pump = .done →
    s.responses.closed = true ∧ s.responses.received = s.responses.sent.length
  dropped_eq : ∀ mt, s.dropped = some mt →
    mt.get "correlog_responses_dropped_total" [("kind", "alert")] =
      s.deliveries.countP Delivery.isDroppedAlert
  callingNext_delivered : ∀ p n a, s.pump = .callingNext p n a →
    s.deliveries[p]? = some (.alert a (some (.reinject (some n))))
  wrapped : ∀ p m, s.pump = .checking p m ∨ s.pump = .queueing p m → s.Wrapped p m
  queued_wrapped : ∀ e ∈ s.queued, s.Wrapped e.1 e.2
  progress : s.Progress
  taken_le : s.taken ≤ s.queued.length
  flagged_open : s.quit = false → s.flagged = s.queued ++ s.pump.pending
  flagged_queueing : ∀ p m, s.pump = .queueing p m → s.flagged = s.queued ++ [(p, m)]
  queued_prefix : s.queued <+: s.flagged
  injector_agrees : s.InjectorAgrees
  origin_returned : ∀ (k : Nat) c, s.pushes[k]? = some c → c.origin.isSome →
    (∃ r, c.pc = .returned r) ∨ ∃ e rest, s.injector = .awaiting e rest k

/-- A fresh correlator satisfies the invariant. -/
theorem State.Inv.init (setup : Setup) (contexts : List Context) :
    (State.init setup contexts).Inv where
  readers_eq := rfl
  calls_ok := by simp [State.init]
  pastLock_stopping := by simp [State.init, Once.pastLock]
  exit_stopping := by simp [State.init]
  exitHandler_stopping := by simp [State.init]
  callingPrev_stopping := by simp [State.init]
  confirmer_stopping := by simp [State.init]
  stop_returned := by simp [State.init]
  handling := by simp [State.init]
  confirmedAt_exit := by simp [State.init]
  confirmedAt_le := by simp [State.init]
  confirmed_at := by simp [State.init, ExitState.new, ExitState.isConfirmed]
  done_confirmed := by simp [State.init]
  closed_done := by simp [State.init]
  deliveries_eq := by simp [State.init]
  pump_done := by simp [State.init]
  dropped_eq := by
    intro mt hmt
    cases hmt
    simp [Metrics.get_empty, State.init]
  callingNext_delivered := by simp [State.init]
  wrapped := by simp [State.init]
  queued_wrapped := by simp [State.init]
  progress := by simp [State.init, State.Progress]
  taken_le := Nat.le_refl 0
  flagged_open := by simp [State.init, State.flagged, PumpPc.pending]
  flagged_queueing := by simp [State.init]
  queued_prefix := by simp [State.init, State.flagged]
  injector_agrees := by
    simp [State.init, State.InjectorAgrees, State.injectorCalls, State.reinjected]
  origin_returned := by simp [State.init]

/-! ## Lists of calls -/

/-- Replacing an element by one with the same image leaves a `filterMap` as it was. -/
theorem filterMap_set_of_eq {α β : Type} {f : α → Option β} {l : List α} {i : Nat} {a b : α}
    (hb : l[i]? = some b) (hf : f a = f b) : (l.set i a).filterMap f = l.filterMap f := by
  induction l generalizing i with
  | nil => simp at hb
  | cons x xs ih =>
    cases i with
    | zero =>
      simp only [List.getElem?_cons_zero, Option.some.injEq] at hb
      subst hb
      simp [List.filterMap_cons, hf]
    | succ i =>
      simp only [List.getElem?_cons_succ] at hb
      simp [List.filterMap_cons, ih hb]

/-- Replacing an element without an image, after which no element has one, by one with an image
appends that image. -/
theorem filterMap_set_of_last {α β : Type} {f : α → Option β} {l : List α} {i : Nat} {a b : α}
    (hb : l[i]? = some b) (hfb : f b = none)
    (hafter : ∀ (k : Nat) c, i < k → l[k]? = some c → f c = none) :
    (l.set i a).filterMap f = l.filterMap f ++ (f a).toList := by
  induction l generalizing i with
  | nil => simp at hb
  | cons x xs ih =>
    cases i with
    | zero =>
      simp only [List.getElem?_cons_zero, Option.some.injEq] at hb
      subst hb
      have hrest : xs.filterMap f = [] := List.filterMap_eq_nil_iff.2 fun c hc => by
        obtain ⟨k, hk⟩ := List.mem_iff_getElem?.1 hc
        exact hafter (k + 1) c (by omega) (by simpa using hk)
      cases hfa : f a <;> simp [hfa, hfb, hrest]
    | succ i =>
      simp only [List.getElem?_cons_succ] at hb
      have hset := ih hb fun k c hk hc => hafter (k + 1) c (by omega) (by simpa using hc)
      cases hfx : f x <;> simp [hfx, hset]

/-! ## What a push keeps -/

namespace PushCall.Ok

variable {sent : List Request} {stopping : Bool} {c : PushCall}

/-- A push's facts hold on as a request is sent after the others: a request sent before stays
where it is, and an exit request sent now comes after it. -/
theorem append_request (hc : c.Ok sent stopping) (q : Request) : c.Ok (sent ++ [q]) stopping where
  selecting_open := hc.selecting_open
  slot_ahead p hp := by
    obtain ⟨⟨m, hm, hat⟩, hexit⟩ := hc.slot_ahead p hp
    have hlt : p < sent.length := (List.getElem?_eq_some_iff.1 hat).1
    refine ⟨⟨m, hm, by rw [List.getElem?_append_left hlt]; exact hat⟩, fun r hr => ?_⟩
    by_cases hrl : r < sent.length
    · rw [List.getElem?_append_left hrl] at hr
      exact hexit r hr
    · omega
  accepted_slot := hc.accepted_slot
  late_stopping := hc.late_stopping
  late_refused := hc.late_refused
  origin_message := hc.origin_message

end PushCall.Ok

/-! ## A new push call -/

namespace State

variable (s : State) (m : Option Message) (o : Option (Nat × Message))

@[simp]
theorem holdsLock_newPush : (s.newPush m o).holdsLock = false := by cases m <;> rfl

@[simp]
theorem pushedOrigin_newPush : (s.newPush m o).pushedOrigin = none := by cases m <;> rfl

@[simp]
theorem origin_newPush : (s.newPush m o).origin = o := rfl

end State

/-! ## A push call that moves on -/

/-- The injector's own push returns: the injector goes on with the rest of its batch, or gives up
the batch on a failure. -/
theorem State.resume_of_awaiting {s : State} {e : Nat × Message} {rest : List (Nat × Message)}
    {i : Nat} (hinj : s.injector = .awaiting e rest i) (r : Option Failure) :
    s.resume i r = { s with injector := if r.isNone then .pushing rest else .done } := by
  simp [State.resume, hinj]

/-- Another push returns: the injector stays as it was. -/
theorem State.resume_of_not_awaiting {s : State} {i : Nat}
    (hin : ¬∃ e rest, s.injector = .awaiting e rest i) (r : Option Failure) : s.resume i r = s := by
  unfold State.resume
  split
  · rename_i e rest k hk
    split
    · rename_i hki
      subst hki
      exact absurd ⟨e, rest, hk⟩ hin
    · rfl
  · rfl

/-- The injector's pushes satisfy what they did when a push call moves on with the same origin
and the same outcome so far. -/
theorem injectorAgrees_set {s s' : State} (ha : s.InjectorAgrees) {i : Nat}
    {call call' : PushCall} (hcall : s.pushes[i]? = some call)
    (hpushes : s'.pushes = s.pushes.set i call') (horigin : call'.origin = call.origin)
    (hpushed : call'.pushedOrigin = call.pushedOrigin) (hinj : s'.injector = s.injector)
    (hq : s'.queued = s.queued) (ht : s'.taken = s.taken) : s'.InjectorAgrees := by
  have hcalls : s'.injectorCalls = s.injectorCalls := by
    rw [State.injectorCalls, hpushes, filterMap_set_of_eq hcall horigin]; rfl
  have hre : s'.reinjected = s.reinjected := by
    rw [State.reinjected, hpushes, filterMap_set_of_eq hcall hpushed]; rfl
  have hi : i < s.pushes.length := (List.getElem?_eq_some_iff.1 hcall).1
  -- every place holds a call with the same origin as before
  have hlook : ∀ k : Nat, (s'.pushes[k]?).map PushCall.origin = (s.pushes[k]?).map PushCall.origin := by
    intro k
    rw [hpushes, List.getElem?_set]
    split
    · subst_vars
      rw [hcall]
      simp [horigin]
    · rfl
  unfold State.InjectorAgrees at ha ⊢
  rw [hinj, hcalls, hre, hq, ht]
  cases hj : s.injector with
  | awaiting e rest j =>
    rw [hj] at ha
    obtain ⟨h1, h2, ⟨c, hc, hce⟩, h4⟩ := ha
    refine ⟨h1, h2, ?_, fun k c' hk' ho => ?_⟩
    · have hj' := hlook j
      rw [hc] at hj'
      cases hk : s'.pushes[j]? with
      | none => simp [hk] at hj'
      | some c' =>
        simp only [hk, Option.map_some, Option.some.injEq] at hj'
        exact ⟨c', rfl, hj'.trans hce⟩
    · have hk'' := hlook k
      rw [hk'] at hk''
      cases hk : s.pushes[k]? with
      | none => simp [hk] at hk''
      | some c₀ =>
        simp only [hk, Option.map_some, Option.some.injEq] at hk''
        exact h4 k c₀ hk (by rw [← hk'']; exact ho)
  | _ => rw [hj] at ha; exact ha

/-- The injector's pushes satisfy what they did while the calls, the injector and the part of the
queue the injector took stay. -/
theorem injectorAgrees_of_queued {s s' : State} (ha : s.InjectorAgrees)
    (hpushes : s'.pushes = s.pushes) (hinj : s'.injector = s.injector)
    (htake : s'.queued.take s'.taken = s.queued.take s.taken) : s'.InjectorAgrees := by
  have hcalls : s'.injectorCalls = s.injectorCalls := by rw [State.injectorCalls, hpushes]; rfl
  have hre : s'.reinjected = s.reinjected := by rw [State.reinjected, hpushes]; rfl
  unfold State.InjectorAgrees at ha ⊢
  rw [hinj, hcalls, hre, htake, hpushes]
  exact ha

/-- A call of the injector that has not returned is the one the injector is in; so it stays, when
a push call moves on without returning. -/
theorem originReturned_set {s s' : State} (h : s.Inv) {i : Nat} {call call' : PushCall}
    (hcall : s.pushes[i]? = some call) (hpushes : s'.pushes = s.pushes.set i call')
    (hnot : ∀ r, call.pc ≠ .returned r) (horigin : call'.origin = call.origin)
    (hinj : s'.injector = s.injector) :
    ∀ (k : Nat) c, s'.pushes[k]? = some c → c.origin.isSome →
      (∃ r, c.pc = .returned r) ∨ ∃ e rest, s'.injector = .awaiting e rest k := by
  intro k c hk ho
  rw [hinj]
  rw [hpushes, List.getElem?_set] at hk
  split at hk
  · rename_i hik
    subst hik
    have hi : i < s.pushes.length := (List.getElem?_eq_some_iff.1 hcall).1
    simp only [hi, if_true, Option.some.injEq] at hk
    subst hk
    rw [horigin] at ho
    rcases h.origin_returned i call hcall ho with ⟨r, hr⟩ | hawait
    · exact absurd hr (hnot r)
    · exact .inr hawait
  · exact h.origin_returned k c hk ho

/-- The injector's pushes satisfy what they did after the injector's own push returns: it goes
on with the rest of its batch after a success, and is done after a failure. -/
theorem injectorAgrees_returned {s s' : State} (ha : s.InjectorAgrees) {e : Nat × Message}
    {rest : List (Nat × Message)} {i : Nat} (hinj : s.injector = .awaiting e rest i)
    {call : PushCall} (hcall : s.pushes[i]? = some call) {r : Option Failure}
    (hpc : call.pc = .leaving r) (hpushes : s'.pushes = s.pushes.set i { call with pc := .returned r })
    (hinj' : s'.injector = if r.isNone then .pushing rest else .done)
    (hq : s'.queued = s.queued) (ht : s'.taken = s.taken) : s'.InjectorAgrees := by
  unfold State.InjectorAgrees at ha
  rw [hinj] at ha
  obtain ⟨h1, h2, ⟨c, hc, hce⟩, h4⟩ := ha
  rw [hcall, Option.some.injEq] at hc
  subst hc
  have hcalls : s'.injectorCalls = s.injectorCalls := by
    rw [State.injectorCalls, hpushes]
    exact filterMap_set_of_eq hcall rfl
  -- the push is the last of the injector's, so what went through grows by its alert at most
  have hre : s'.reinjected = s.reinjected ++ (if r.isNone then [e] else []) := by
    rw [State.reinjected, hpushes,
      filterMap_set_of_last hcall (by simp [PushCall.pushedOrigin, hpc])]
    · cases r <;> simp [PushCall.pushedOrigin, hce, State.reinjected]
    · intro k c hk hc
      cases hp : c.pushedOrigin with
      | none => rfl
      | some x =>
        have ho : c.origin.isSome := by
          unfold PushCall.pushedOrigin at hp
          split at hp <;> simp_all
        exact absurd (h4 k c hc ho) (by omega)
  unfold State.InjectorAgrees
  rw [hinj', hcalls, hre, hq, ht]
  cases r with
  | none =>
    simp only [Option.isNone_none, ↓reduceIte]
    exact ⟨h1, h2⟩
  | some f =>
    simp only [Option.isNone_some, Bool.false_eq_true, ↓reduceIte, List.append_nil]
    exact ⟨by rw [← h2]; exact List.prefix_append _ _, by rw [← h1]; exact List.prefix_append _ _⟩

/-- After the injector's own push returns, every push of the injector has returned. -/
theorem originReturned_resumed {s s' : State} (h : s.Inv) {e : Nat × Message}
    {rest : List (Nat × Message)} {i : Nat} (hinj : s.injector = .awaiting e rest i)
    {call : PushCall} {r : Option Failure}
    (hpushes : s'.pushes = s.pushes.set i { call with pc := .returned r }) :
    ∀ (k : Nat) c, s'.pushes[k]? = some c → c.origin.isSome →
      (∃ r, c.pc = .returned r) ∨ ∃ e rest, s'.injector = .awaiting e rest k := by
  intro k c hk ho
  rw [hpushes, List.getElem?_set] at hk
  by_cases hik : i = k
  · -- the push that returned
    simp only [hik, if_true] at hk
    split at hk
    · cases hk
      exact .inl ⟨r, rfl⟩
    · cases hk
  · simp only [hik, if_false] at hk
    rcases h.origin_returned k c hk ho with hr | ⟨e', rest', hk'⟩
    · exact .inl hr
    · rw [hinj] at hk'
      cases hk'
      exact absurd rfl hik

/-- What the shutdown waited for stays true while its phase stays: the reactor, the pump and the
injector stay done, the response channel stays closed, and a confirmed exit stays confirmed. -/
theorem State.Progress.mono {s s' : State} (hp : s.Progress) (honce : s'.once = s.once)
    (hconf : s.reactor.exit.isConfirmed = true → s'.reactor.exit.isConfirmed = true)
    (hreactor : s.reactorPc = .done → s'.reactorPc = .done)
    (hclosed : s.responses.closed = true → s'.responses.closed = true)
    (hpump : s.pump = .done → s'.pump = .done)
    (hinj : s.injector = .done → s'.injector = .done) : s'.Progress := by
  unfold State.Progress at hp ⊢
  rw [honce]
  cases ho : s.once with
  | idle => trivial
  | running ph =>
    rw [ho] at hp
    cases ph with
    | draining => exact hconf hp
    | awaitingPump => exact ⟨hreactor hp.1, hclosed hp.2⟩
    | awaitingInjector => exact ⟨hreactor hp.1, hclosed hp.2.1, hpump hp.2.2⟩
    | _ => trivial
  | done r =>
    rw [ho] at hp
    cases r with
    | none => exact ⟨hreactor hp.1, hclosed hp.2.1, hpump hp.2.2.1, hinj hp.2.2.2⟩
    | some f => trivial

namespace State.Inv

variable {s : State} {i : Nat} {call : PushCall}

/-- A request sent after the others keeps the invariant, an exit request once the correlator is
stopping: what was sent before stays where it was, and nothing was received. -/
theorem sendRequest (h : s.Inv) {q : Request} {requests : Channel Request}
    (hsend : s.requests.send? q = some requests) (hexit : q = .exit → s.stopping = true) :
    ({ s with requests } : State).Inv := by
  obtain ⟨-, -, hsent, hrecv, -, -⟩ := Channel.send?_eq_some hsend
  have hkeep : ∀ k : Nat, k < s.requests.sent.length → requests.sent[k]? = s.requests.sent[k]? :=
    fun k hk => by rw [hsent, List.getElem?_append_left hk]
  exact { h with
    calls_ok := fun c hc => by rw [hsent]; exact (h.calls_ok c hc).append_request q
    exit_stopping := fun hx => by
      rw [hsent, List.mem_append, List.mem_singleton] at hx
      rcases hx with hx | hx
      · exact h.exit_stopping hx
      · exact hexit hx.symm
    handling := fun q out after hr => by
      obtain ⟨h1, h2, h3, h4⟩ := h.handling q out after hr
      have hle := s.requests.received_le
      refine ⟨by rw [hrecv]; exact h1, ?_, h3, h4⟩
      rw [hrecv, hkeep _ (by omega)]
      exact h2
    confirmedAt_exit := fun n hn => by
      obtain ⟨h1, h2⟩ := h.confirmedAt_exit n hn
      exact ⟨h1, by rw [hkeep _ (List.getElem?_eq_some_iff.1 h2).1]; exact h2⟩
    confirmedAt_le := fun n hn => by rw [hrecv]; exact h.confirmedAt_le n hn }

/-- A push call that moves on while holding the lock, or while not holding it, and without
returning keeps the invariant, when its own facts hold after the move. -/
theorem setCall (h : s.Inv) (hcall : s.pushes[i]? = some call) {call' : PushCall}
    (hnew : call'.Ok s.requests.sent s.stopping) (hlock : call'.holdsLock = call.holdsLock)
    (hnot : ∀ r, call.pc ≠ .returned r) (horigin : call'.origin = call.origin)
    (hpushed : call'.pushedOrigin = call.pushedOrigin) :
    ({ s with pushes := s.pushes.set i call' } : State).Inv := by
  obtain ⟨hi, hget⟩ := List.getElem?_eq_some_iff.1 hcall
  exact { h with
    readers_eq := by
      rw [List.countP_set hi, hget, hlock, h.readers_eq]
      by_cases hl : call.holdsLock = true
      · have hpos : 0 < s.pushes.countP PushCall.holdsLock :=
          List.countP_pos_iff.2 ⟨call, List.mem_of_getElem? hcall, hl⟩
        simp only [hl, if_true]
        omega
      · simp [hl]
    calls_ok := fun c hc => by
      rcases List.mem_or_eq_of_mem_set hc with hc | rfl
      · exact h.calls_ok c hc
      · exact hnew
    injector_agrees := injectorAgrees_set h.injector_agrees hcall rfl horigin hpushed rfl rfl rfl
    origin_returned := originReturned_set h hcall rfl hnot horigin rfl }

/-- A push call that begins satisfies its facts: one that begins after a `Stop` call returned
begins while the correlator is stopping. -/
theorem newPush_ok (h : s.Inv) {m : Option Message} {o : Option (Nat × Message)}
    (ho : ∀ e, o = some e → m = some e.2) : (s.newPush m o).Ok s.requests.sent s.stopping where
  selecting_open hp := by cases m <;> cases hp
  slot_ahead _ hp := by cases hp
  accepted_slot ha := by cases m <;> cases ha
  late_stopping hl := by
    obtain ⟨c, hc, hr⟩ := List.any_eq_true.1 hl
    obtain ⟨j, hj⟩ := List.mem_iff_getElem?.1 hc
    cases c with
    | returned r => exact h.pastLock_stopping (by rw [h.stop_returned j r hj]; rfl)
    | _ => cases hr
  late_refused _ hm := .inl (by cases m <;> simp_all [State.newPush])
  origin_message := ho

/-- A push takes the lock shared: it will send, or leave refused if the correlator is
stopping. -/
theorem lock (h : s.Inv) (hcall : s.pushes[i]? = some call) (hpc : call.pc = .locking) :
    ({ s with
      readers := s.readers + 1
      pushes := s.pushes.set i
        { call with pc := if s.stopping then .leaving (some .stopped) else .selecting } } :
      State).Inv := by
  obtain ⟨hi, hget⟩ := List.getElem?_eq_some_iff.1 hcall
  have hok := h.calls_ok call (List.mem_of_getElem? hcall)
  have hnew : PushCall.Ok s.requests.sent s.stopping
      { call with pc := if s.stopping then .leaving (some .stopped) else .selecting } :=
    { selecting_open := by split <;> simp_all
      slot_ahead := hok.slot_ahead
      accepted_slot := by split <;> simp [PushCall.accepted]
      late_stopping := hok.late_stopping
      late_refused := fun hl _ => by simp [hok.late_stopping hl]
      origin_message := hok.origin_message }
  exact { h with
    readers_eq := by
      rw [List.countP_set hi, hget, ← h.readers_eq]
      simp [PushCall.holdsLock, hpc]
      split <;> rfl
    calls_ok := fun c hc => by
      rcases List.mem_or_eq_of_mem_set hc with hc | rfl
      · exact h.calls_ok c hc
      · exact hnew
    injector_agrees := injectorAgrees_set h.injector_agrees hcall rfl rfl
      (by cases s.stopping <;> simp [PushCall.pushedOrigin, hpc]) rfl rfl rfl
    origin_returned := originReturned_set h hcall rfl (by simp [hpc]) rfl rfl }

/-- A push holding the lock sends its request: it goes after every request sent before, and no
exit request has been sent yet. -/
theorem send (h : s.Inv) (hcall : s.pushes[i]? = some call) (hpc : call.pc = .selecting)
    {m : Message} (hm : call.message = some m) {requests : Channel Request}
    (hsend : s.requests.send? (.message m) = some requests) :
    ({ s with
      requests
      pushes := s.pushes.set i
        { call with slot := some s.requests.sent.length, pc := .leaving none } } : State).Inv := by
  obtain ⟨-, -, hsent, -, -, -⟩ := Channel.send?_eq_some hsend
  have hok := h.calls_ok call (List.mem_of_getElem? hcall)
  have hopen : s.stopping = false := hok.selecting_open hpc
  -- an exit request sent before would have come after `stopping` was set
  have hnoexit : Request.exit ∉ s.requests.sent := fun hx => by
    simp [h.exit_stopping hx] at hopen
  have hnew : PushCall.Ok requests.sent s.stopping
      { call with slot := some s.requests.sent.length, pc := .leaving none } :=
    { selecting_open := by simp
      slot_ahead := fun p hp => by
        simp only [Option.some.injEq] at hp
        subst hp
        refine ⟨⟨m, hm, by simp [hsent]⟩, fun q hq => ?_⟩
        simp only [hsent] at hq
        rcases Nat.lt_or_ge q s.requests.sent.length with hlt | hge
        · rw [List.getElem?_append_left hlt] at hq
          exact absurd (List.mem_of_getElem? hq) hnoexit
        · rcases Nat.lt_or_eq_of_le hge with hgt | heq
          · exact hgt
          · subst heq
            simp at hq
      accepted_slot := by simp
      late_stopping := hok.late_stopping
      late_refused := fun hl hms => by
        rcases hok.late_refused hl hms with h1 | h1 | h1 <;> simp [hpc] at h1
      origin_message := hok.origin_message }
  exact (h.sendRequest hsend (by simp)).setCall hcall hnew (by simp [PushCall.holdsLock, hpc])
    (by simp [hpc]) rfl (by simp [PushCall.pushedOrigin, hpc])

/-- A push holding the lock sees `quit` closed and leaves refused. -/
theorem quit (h : s.Inv) (hcall : s.pushes[i]? = some call) (hpc : call.pc = .selecting) :
    ({ s with pushes := s.pushes.set i { call with pc := .leaving (some .stopped) } } :
      State).Inv := by
  have hok := h.calls_ok call (List.mem_of_getElem? hcall)
  have hnew : PushCall.Ok s.requests.sent s.stopping { call with pc := .leaving (some .stopped) } :=
    { selecting_open := by simp
      slot_ahead := hok.slot_ahead
      accepted_slot := by simp [PushCall.accepted]
      late_stopping := hok.late_stopping
      late_refused := fun _ _ => by simp
      origin_message := hok.origin_message }
  exact h.setCall hcall hnew (by simp [PushCall.holdsLock, hpc]) (by simp [hpc]) rfl
    (by simp [PushCall.pushedOrigin, hpc])

/-- A push releases the lock and returns. When it is the injector's push, the injector goes on:
with the rest of its batch after a success, to its end after a failure. -/
theorem leave (h : s.Inv) (hcall : s.pushes[i]? = some call) {r : Option Failure}
    (hpc : call.pc = .leaving r) :
    (({ s with
      readers := s.readers - 1
      pushes := s.pushes.set i { call with pc := .returned r } } : State).resume i r).Inv := by
  obtain ⟨hi, hget⟩ := List.getElem?_eq_some_iff.1 hcall
  have hok := h.calls_ok call (List.mem_of_getElem? hcall)
  have hnew : PushCall.Ok s.requests.sent s.stopping { call with pc := .returned r } :=
    { selecting_open := by simp
      slot_ahead := hok.slot_ahead
      accepted_slot := fun ha => hok.accepted_slot (by cases r <;> simp_all [PushCall.accepted])
      late_stopping := hok.late_stopping
      late_refused := fun hl hms => by
        rcases hok.late_refused hl hms with h1 | h1 | h1 <;> simp_all
      origin_message := hok.origin_message }
  have hreaders : s.readers - 1 =
      (s.pushes.set i { call with pc := .returned r }).countP PushCall.holdsLock := by
    have hpos : 0 < s.pushes.countP PushCall.holdsLock := List.countP_pos_iff.2
      ⟨call, List.mem_of_getElem? hcall, by simp [PushCall.holdsLock, hpc]⟩
    rw [List.countP_set hi, hget, h.readers_eq]
    simp [PushCall.holdsLock, hpc]
  have hcalls : ∀ c ∈ s.pushes.set i { call with pc := .returned r },
      c.Ok s.requests.sent s.stopping := fun c hc => by
    rcases List.mem_or_eq_of_mem_set hc with hc | rfl
    · exact h.calls_ok c hc
    · exact hnew
  -- the call releases the lock and returns; the injector goes on if the call is its push
  set s₁ : State := { s with
    readers := s.readers - 1
    pushes := s.pushes.set i { call with pc := .returned r } }
  by_cases hin : ∃ e rest, s.injector = .awaiting e rest i
  · obtain ⟨e, rest, hinj⟩ := hin
    rw [State.resume_of_awaiting (show s₁.injector = _ from hinj)]
    exact { h with
      readers_eq := hreaders
      calls_ok := hcalls
      progress := h.progress.mono rfl id id id id (by simp [hinj])
      injector_agrees := injectorAgrees_returned h.injector_agrees hinj hcall hpc rfl rfl rfl rfl
      origin_returned := originReturned_resumed h hinj rfl }
  · -- the injector is not in the call, so the call has no origin
    have horigin : call.origin = none := by
      cases ho : call.origin with
      | none => rfl
      | some x =>
        rcases h.origin_returned i call hcall (by simp [ho]) with ⟨r', hr'⟩ | hw
        · rw [hpc] at hr'; cases hr'
        · exact absurd hw hin
    rw [State.resume_of_not_awaiting (show ¬∃ e rest, s₁.injector = .awaiting e rest i from hin)]
    exact { h with
      readers_eq := hreaders
      calls_ok := hcalls
      injector_agrees := injectorAgrees_set h.injector_agrees hcall rfl rfl
        (by simp [PushCall.pushedOrigin, hpc, horigin]; cases r <;> rfl) rfl rfl rfl
      origin_returned := originReturned_set h hcall rfl (by simp [hpc]) rfl rfl }

/-- Every step of a push call keeps the invariant. -/
theorem pushStep (h : s.Inv) {c : Case} {s' : State} (hs : s.pushStep i c = some s') : s'.Inv := by
  unfold State.pushStep at hs
  cases hcall : s.pushes[i]? with
  | none => simp [hcall] at hs
  | some call =>
    simp only [hcall, Option.bind_eq_bind, Option.bind_some] at hs
    split at hs
    · cases hs
      exact h.lock hcall ‹_›
    · rename_i m hpc hm
      cases hsend : s.requests.send? (.message m) with
      | none => simp [hsend] at hs
      | some requests =>
        simp only [hsend, Option.bind_some, Option.some.injEq] at hs
        subst hs
        exact h.send hcall hpc hm hsend
    · split at hs
      · cases hs
        exact h.quit hcall ‹_›
      · cases hs
    · cases hs
      exact h.leave hcall ‹_›
    · cases hs

end State.Inv

end Windowing.Processes
