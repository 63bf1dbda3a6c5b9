import Windowing.Proofs.Processes.Reachable

set_option autoImplicit false

/-! # Stopping loses nothing

Stopping runs in two phases. It closes `quit` and waits, under the push lock, until no push holds
the lock; from then on `stopping` is set and no push sends. Only then does it send the exit
request, so every message a push sent is ahead of every exit request in the request channel.
The reactor takes requests in order and confirms the exit only on an exit request, so it took
every accepted message before it confirmed. After the confirmation stopping waits for the reactor
to finish, closes the response channel, and waits for the pump to hand on what is left in it.

Read off the invariant, in every reachable state (`stop_loses_nothing`): once a `Stop` call
returned nil, every push that returned nil was taken by the reactor before the exit request that
confirmed the exit, and the pump handed every response on, once each and in order; a push that
began after a `Stop` call returned is refused, and never waits; and every `Stop` call returns
the result of the one shutdown. -/

namespace Windowing.Processes

namespace State.Inv

variable {s : State}

/-- Once the shutdown finished with nil, the reactor, the pump and the injector are done and the
response channel is closed. -/
theorem finished (h : s.Inv) (hdone : s.once = .done none) :
    s.reactorPc = .done ∧ s.responses.closed = true ∧ s.pump = .done ∧ s.injector = .done := by
  have hp := h.progress
  simp only [State.Progress, hdone] at hp
  exact hp

/-- A reactor that is done confirmed the exit on an exit request, which it took after all the
requests before it. -/
theorem confirmed_on_exit (h : s.Inv) (hdone : s.reactorPc = .done) :
    ∃ n, s.confirmedAt = some n ∧ 0 < n ∧ s.requests.sent[n - 1]? = some .exit ∧
      n ≤ s.requests.received := by
  obtain ⟨n, hn⟩ := Option.isSome_iff_exists.1 (h.confirmed_at (h.done_confirmed hdone))
  obtain ⟨h1, h2⟩ := h.confirmedAt_exit n hn
  exact ⟨n, hn, h1, h2, h.confirmedAt_le n hn⟩

/-- A push that returned nil sent its message ahead of every exit request. -/
theorem accepted_ahead (h : s.Inv) {c : PushCall} (hc : c ∈ s.pushes)
    (hr : c.pc = .returned none) :
    ∃ p m, c.slot = some p ∧ c.message = some m ∧ s.requests.sent[p]? = some (.message m) ∧
      ∀ q : Nat, s.requests.sent[q]? = some .exit → p < q := by
  have hok := h.calls_ok c hc
  obtain ⟨p, hp⟩ :=
    Option.isSome_iff_exists.1 (hok.accepted_slot (by simp [PushCall.accepted, hr]))
  obtain ⟨⟨m, hm, hat⟩, hexit⟩ := hok.slot_ahead p hp
  exact ⟨p, m, hp, hm, hat, hexit⟩

/-- Once the pump is done, it handed on every response the reactor sent, once each and in
order. -/
theorem delivered_all (h : s.Inv) (hpump : s.pump = .done) :
    s.deliveries.map Delivery.response = s.responses.sent := by
  rw [h.deliveries_eq, (h.pump_done hpump).2, List.take_length]

/-- A push of a message that began after a `Stop` call returned returns only the stopped
failure, and its next step is always enabled. -/
theorem late_push_refused (h : s.Inv) {i : Nat} {c : PushCall} (hc : s.pushes[i]? = some c)
    (hlate : c.late = true) (hm : c.message.isSome) :
    (∀ r, c.pc = .returned r → r = some .stopped) ∧
      ((∀ r, c.pc ≠ .returned r) → ∀ k, (s.pushStep i k).isSome) := by
  obtain ⟨m, hm'⟩ := Option.isSome_iff_exists.1 hm
  rcases (h.calls_ok c (List.mem_of_getElem? hc)).late_refused hlate hm with hpc | hpc | hpc
  · exact ⟨fun r hr => (by rw [hpc] at hr; cases hr),
      fun _ k => by simp [State.pushStep, hc, hpc, hm']⟩
  · exact ⟨fun r hr => (by rw [hpc] at hr; cases hr),
      fun _ k => by simp [State.pushStep, hc, hpc]⟩
  · exact ⟨fun r hr => (by rw [hpc] at hr; cases hr; rfl), fun hnot => absurd hpc (hnot _)⟩

/-- Every `Stop` call that returned returned the result of the shutdown; a call that has not
returned returns the same at its next step. -/
theorem stops_agree (h : s.Inv) {j : Nat} {r : Option Failure}
    (hj : s.stops[j]? = some (.returned r)) (j' : Nat) (c : StopCall)
    (hc : s.stops[j']? = some c) :
    c = .returned r ∨ ∃ s', s.stopStep j' = some s' ∧ s'.stops[j']? = some (.returned r) := by
  have hdone := h.stop_returned j r hj
  have hlt : j' < s.stops.length := (List.getElem?_eq_some_iff.1 hc).1
  cases c with
  | entering =>
    exact .inr ⟨{ s with stops := s.stops.set j' (.returned r) },
      by simp [State.stopStep, hc, hdone], by simp [hlt]⟩
  | inside =>
    exact .inr ⟨{ s with stops := s.stops.set j' (.returned r) },
      by simp [State.stopStep, hc, hdone], by simp [hlt]⟩
  | returned r' =>
    have := h.stop_returned j' r' hc
    rw [hdone] at this
    cases this
    exact .inl rfl

end State.Inv

/-- Stopping loses nothing. In every state a correlator reaches, over every interleaving of
pushes (the injector's among them), ticks, handler registrations and `Stop` calls:

* once a `Stop` call returned nil, every push that returned nil sent its message as a request
  before the exit request on which the reactor confirmed the exit, and the reactor took it
  before it confirmed; the reactor and the pump are done, the pump handed on every response the
  reactor sent, once each and in order, to the handler registered when it took it, and counted
  each alert it dropped for want of one;
* a push of a message that began after a `Stop` call returned returns only the stopped failure,
  and never waits;
* every `Stop` call returns the result of the one shutdown: one that has not returned yet
  returns it at its next step. -/
theorem stop_loses_nothing {s : State} (hs : Reachable s) :
    (∀ j : Nat, s.stops[j]? = some (.returned none) →
      (∀ c ∈ s.pushes, c.pc = .returned none →
        ∃ p m n, c.slot = some p ∧ c.message = some m ∧ s.requests.sent[p]? = some (.message m) ∧
          s.confirmedAt = some n ∧ s.requests.sent[n - 1]? = some .exit ∧ p + 1 < n ∧
          n ≤ s.requests.received) ∧
      s.reactorPc = .done ∧ s.pump = .done ∧
      s.deliveries.map Delivery.response = s.responses.sent ∧
      ∀ mt, s.dropped = some mt →
        mt.get "correlog_responses_dropped_total" [("kind", "alert")] =
          s.deliveries.countP Delivery.isDroppedAlert) ∧
    (∀ (i : Nat) c, s.pushes[i]? = some c → c.late = true → c.message.isSome →
      (∀ r, c.pc = .returned r → r = some .stopped) ∧
        ((∀ r, c.pc ≠ .returned r) → ∀ k, (s.pushStep i k).isSome)) ∧
    (∀ (j : Nat) r, s.stops[j]? = some (.returned r) → ∀ (j' : Nat) c, s.stops[j']? = some c →
      c = .returned r ∨ ∃ s', s.stopStep j' = some s' ∧ s'.stops[j']? = some (.returned r)) := by
  have h := hs.inv
  refine ⟨fun j hj => ?_, fun i c hc hlate hm => h.late_push_refused hc hlate hm,
    fun j r hj => h.stops_agree hj⟩
  obtain ⟨hreactor, -, hpump, -⟩ := h.finished (h.stop_returned j none hj)
  obtain ⟨n, hn, hpos, hexit, hle⟩ := h.confirmed_on_exit hreactor
  refine ⟨fun c hc hr => ?_, hreactor, hpump, h.delivered_all hpump, h.dropped_eq⟩
  obtain ⟨p, m, hp, hm, hat, hahead⟩ := h.accepted_ahead hc hr
  have hpn := hahead (n - 1) hexit
  exact ⟨p, m, n, hp, hm, hat, hn, hexit, by omega, hle⟩

/-- A correlator with no context: a message is pushed and accepted, a `Stop` call returns nil
after two exit requests (the second from the exit confirmation), and a push begun after it is
refused. -/
def pushThenStop : List Action :=
  [.push (some ⟨"a", "", {}⟩), .pushStep 0 .send, .pushStep 0 .send, .pushStep 0 .send,
    .stop, .stopStep 0, .shutdown .send, .shutdown .send, .shutdown .send,
    .reactor, .reactor, .reactor, .reactor, .reactor, .pump, .confirmer .send,
    .reactor, .reactor, .reactor, .reactor, .shutdown .confirmed, .shutdown .send,
    .pump, .pump, .shutdown .send, .injector .quit, .shutdown .send, .stopStep 0,
    .push (some ⟨"b", "", {}⟩), .pushStep 1 .send, .pushStep 1 .send]

theorem pushThenStop_runs : ((State.fresh []).run pushThenStop).isSome := by decide

/-- The state `pushThenStop` leads to. -/
def stoppedAfterPush : State := ((State.fresh []).run pushThenStop).get pushThenStop_runs

/-- In `stoppedAfterPush` the `Stop` call returned nil, the first push returned nil and the late
one the stopped failure; the accepted message went ahead of the confirming exit request, and the
pump handed on every response. -/
theorem stopped_after_push_drained :
    Reachable stoppedAfterPush ∧ stoppedAfterPush.stops[0]? = some (.returned none) ∧
      stoppedAfterPush.pushes.map PushCall.pc = [.returned none, .returned (some .stopped)] ∧
      (∀ c ∈ stoppedAfterPush.pushes, c.pc = .returned none →
        ∃ p m n, c.slot = some p ∧ c.message = some m ∧
          stoppedAfterPush.requests.sent[p]? = some (.message m) ∧
          stoppedAfterPush.confirmedAt = some n ∧
          stoppedAfterPush.requests.sent[n - 1]? = some .exit ∧ p + 1 < n ∧
          n ≤ stoppedAfterPush.requests.received) ∧
      stoppedAfterPush.deliveries.map Delivery.response = stoppedAfterPush.responses.sent := by
  have hs : Reachable stoppedAfterPush :=
    (Reachable.fresh []).run (Option.eq_some_of_isSome pushThenStop_runs)
  have hstop : stoppedAfterPush.stops[0]? = some (.returned none) := rfl
  have hdrain := (stop_loses_nothing hs).1 0 hstop
  exact ⟨hs, hstop, rfl, hdrain.1, hdrain.2.2.2.1⟩

end Windowing.Processes
