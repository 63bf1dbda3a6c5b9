import Windowing.Proofs.Processes.Invariant

set_option autoImplicit false

/-! # Stopping keeps the invariant

The steps of the `Stop` calls, of the shutdown that the first of them runs, and of the two
goroutines stopping may leave behind (the one that sends the second exit request and the one that
closes the response channel after stopping gave up) each keep `Inv`.

The shutdown's steps are few kinds of change: it sets `stopping` once no push holds the lock,
sends an exit request, closes the response channel once the reactor is done, and moves to its
next phase. Each kind is one lemma; a step of the shutdown is a change of one kind followed by a
move of the phase (`setOnce`), which only has to show what the new phase waited for. -/

namespace Windowing.Processes

namespace PushCall.Ok

/-- A push that is not about to send keeps its facts as `stopping` is set. -/
theorem of_stopping {sent : List Request} {stopping : Bool} {c : PushCall}
    (hc : c.Ok sent stopping) (hsel : c.pc ≠ .selecting) : c.Ok sent true where
  selecting_open h := absurd h hsel
  slot_ahead := hc.slot_ahead
  accepted_slot := hc.accepted_slot
  late_stopping _ := rfl
  late_refused := hc.late_refused
  origin_message := hc.origin_message

end PushCall.Ok

namespace State.Inv

variable {s : State}

/-- While the shutdown runs, no `Stop` call has returned: they return the once's result. -/
theorem not_returned_of_running (h : s.Inv) {ph : Shutdown} (hrun : s.once = .running ph)
    (j : Nat) (r : Option Failure) : s.stops[j]? ≠ some (.returned r) := fun hj => by
  have := h.stop_returned j r hj
  rw [hrun] at this
  cases this

/-- The shutdown moves from a phase to another, or to its end, having what the new place waits
for. -/
theorem setOnce (h : s.Inv) {ph : Shutdown} (hrun : s.once = .running ph) {o : Once}
    (hpast : o.pastLock = true → s.stopping = true)
    (hprog : ({ s with once := o } : State).Progress) : ({ s with once := o } : State).Inv :=
  { h with
    pastLock_stopping := hpast
    stop_returned := fun j r hj => absurd hj (h.not_returned_of_running hrun j r)
    progress := hprog }

/-- Setting `stopping` once no push holds the lock: no push is about to send. -/
theorem setStopping (h : s.Inv) (hreaders : s.readers = 0) :
    ({ s with stopping := true } : State).Inv := by
  have hfree : ∀ c ∈ s.pushes, c.holdsLock = false := by
    rw [h.readers_eq, List.countP_eq_zero] at hreaders
    intro c hc
    simpa using hreaders c hc
  exact { h with
    calls_ok := fun c hc => (h.calls_ok c hc).of_stopping fun hsel => by
      simpa [PushCall.holdsLock, hsel] using hfree c hc
    pastLock_stopping := fun _ => rfl
    exit_stopping := fun _ => rfl
    exitHandler_stopping := fun _ _ => rfl
    callingPrev_stopping := fun _ => rfl
    confirmer_stopping := fun _ => rfl }

/-- Closing the response channel once the reactor is done. -/
theorem closeResponses (h : s.Inv) (hdone : s.reactorPc = .done) :
    ({ s with responses := s.responses.close } : State).Inv :=
  { h with
    closed_done := fun _ => hdone
    pump_done := fun hp => ⟨rfl, (h.pump_done hp).2⟩
    progress := h.progress.mono rfl id id (fun _ => rfl) id id }

/-- Every step of a `Stop` call keeps the invariant: the first to enter closes `quit` and begins
the shutdown; a call returns the once's result. -/
theorem stopStep (h : s.Inv) {j : Nat} {s' : State} (hs : s.stopStep j = some s') : s'.Inv := by
  -- a call that moves on is returned only with the once's result, before and after
  have hset : ∀ {x : StopCall} {o : Once}, (∀ r, x = .returned r → o = .done r) →
      (∀ r, s.once = .done r → o = .done r) →
      ∀ (k : Nat) r, (s.stops.set j x)[k]? = some (.returned r) → o = .done r := by
    intro x o hx hold k r hk
    rw [List.getElem?_set] at hk
    split at hk
    · split at hk
      · exact hx r (Option.some.inj hk)
      · cases hk
    · exact hold r (h.stop_returned k r hk)
  unfold State.stopStep at hs
  cases hcall : s.stops[j]? with
  | none => simp [hcall] at hs
  | some call =>
    simp only [hcall, Option.bind_eq_bind, Option.bind_some] at hs
    split at hs
    · -- the first call closes `quit`; no call has returned, the once being idle
      rename_i hidle
      cases hs
      exact { h with
        pastLock_stopping := fun hp => by simp [Once.pastLock] at hp
        stop_returned := hset (by simp) (by simp [hidle])
        flagged_open := fun hq => by simp at hq
        progress := by simp [State.Progress] }
    · cases hs
      exact { h with stop_returned := hset (by simp) fun _ => id }
    · rename_i r hdone
      cases hs
      exact { h with stop_returned := hset (by simp [hdone]) fun _ => id }
    · rename_i r hdone
      cases hs
      exact { h with stop_returned := hset (by simp [hdone]) fun _ => id }
    · cases hs

/-- The shutdown moves on from a phase past the push lock: `stopping` was set by then. -/
theorem advance (h : s.Inv) {ph : Shutdown} (hrun : s.once = .running ph)
    (hpast : s.once.pastLock = true) {o : Once} (hprog : ({ s with once := o } : State).Progress) :
    ({ s with once := o } : State).Inv :=
  h.setOnce hrun (fun _ => h.pastLock_stopping hpast) hprog

/-- The shutdown sees the exit confirmed, and waits for the reactor to finish. -/
theorem confirmExit (h : s.Inv) {ph : Shutdown} (hrun : s.once = .running ph)
    (hpast : s.once.pastLock = true) (hconf : s.reactor.exit.isConfirmed = true) :
    ({ s with once := .running .draining } : State).Inv :=
  h.advance hrun hpast (by simpa [State.Progress] using hconf)

/-- The shutdown gives up an attempt: it asks again, or gives up and leaves a goroutine to close
the response channel. -/
theorem timedOut (h : s.Inv) {ph : Shutdown} (hrun : s.once = .running ph)
    (hpast : s.once.pastLock = true) (n : Nat) : (s.timedOut n).Inv := by
  unfold State.timedOut
  split
  · exact h.advance hrun hpast (by simp [State.Progress])
  · have hdone : ({ s with once := .done (some (.stopTimeout s.setup.attempts)) } : State).Inv :=
      h.advance hrun hpast (by simp [State.Progress])
    exact { hdone with }

/-- Every step of the shutdown keeps the invariant. -/
theorem shutdownStep (h : s.Inv) {c : Case} {s' : State} (hs : s.shutdownStep c = some s') :
    s'.Inv := by
  have hprog := h.progress
  unfold State.shutdownStep at hs
  split at hs
  · -- the push lock: `stopping` is set once no push holds it
    rename_i hrun
    split at hs
    · cases hs
      exact (h.setStopping ‹_›).setOnce hrun (fun _ => rfl) (by simp [State.Progress])
    · cases hs
  · -- the exit confirmation is installed around the exit handler
    rename_i hrun
    cases hs
    have hstop := h.pastLock_stopping (by simp [hrun, Once.pastLock])
    exact ({ h with exitHandler_stopping := fun _ _ => hstop } :
      ({ s with exitHandler := some (.confirm (ExitHandler.own? s.exitHandler)) } : State).Inv).setOnce
      hrun (fun _ => hstop) (by simp [State.Progress])
  · rename_i n hrun
    have hpast : s.once.pastLock = true := by simp [hrun, Once.pastLock]
    split at hs
    · cases hsend : s.requests.send? Request.exit with
      | none => simp [hsend] at hs
      | some requests =>
        simp only [hsend, Option.bind_eq_bind, Option.bind_some, Option.some.injEq] at hs
        subst hs
        have hstop := h.pastLock_stopping hpast
        exact (h.sendRequest hsend fun _ => hstop).setOnce hrun (fun _ => hstop)
          (by simp [State.Progress])
    · split at hs
      · cases hs
        exact h.confirmExit hrun hpast ‹_›
      · cases hs
    · cases hs
      exact h.timedOut hrun hpast n
    · cases hs
  · rename_i n hrun
    have hpast : s.once.pastLock = true := by simp [hrun, Once.pastLock]
    split at hs
    · split at hs
      · cases hs
        exact h.confirmExit hrun hpast ‹_›
      · cases hs
    · cases hs
      exact h.timedOut hrun hpast n
    · cases hs
  · -- the reactor is done: the response channel is closed
    rename_i hrun
    split at hs
    · rename_i hdone
      cases hs
      exact (h.closeResponses hdone).setOnce hrun
        (fun _ => h.pastLock_stopping (by simp [hrun, Once.pastLock]))
        (by simp [State.Progress, hdone])
    · cases hs
  · -- the pump is done: the shutdown waits for the injector
    rename_i hrun
    split at hs
    · rename_i hpump
      cases hs
      simp only [State.Progress, hrun] at hprog
      exact h.advance hrun (by simp [hrun, Once.pastLock]) (by simp [State.Progress, hprog, hpump])
    · cases hs
  · -- the injector is done: the shutdown finished
    rename_i hrun
    split at hs
    · rename_i hinj
      cases hs
      simp only [State.Progress, hrun] at hprog
      exact h.advance hrun (by simp [hrun, Once.pastLock]) (by simp [State.Progress, hprog, hinj])
    · cases hs
  · cases hs

/-- Every step of the goroutine that sends the second exit request keeps the invariant. -/
theorem confirmerStep (h : s.Inv) {c : Case} {s' : State} (hs : s.confirmerStep c = some s') :
    s'.Inv := by
  unfold State.confirmerStep at hs
  split at hs
  · rename_i hsending
    have hstop := h.confirmer_stopping (by simp [hsending])
    cases hsend : s.requests.send? Request.exit with
    | none => simp [hsend] at hs
    | some requests =>
      simp only [hsend, Option.bind_eq_bind, Option.bind_some, Option.some.injEq] at hs
      subst hs
      exact { h.sendRequest hsend fun _ => hstop with confirmer_stopping := fun _ => hstop }
  · rename_i hsending
    have hstop := h.confirmer_stopping (by simp [hsending])
    split at hs
    · cases hs
      exact { h with confirmer_stopping := fun _ => hstop }
    · cases hs
  · cases hs

/-- The step of the goroutine that closes the response channel keeps the invariant. -/
theorem closerStep (h : s.Inv) {s' : State} (hs : s.closerStep = some s') : s'.Inv := by
  unfold State.closerStep at hs
  split at hs
  · rename_i hdone
    cases hs
    exact { h.closeResponses hdone with }
  · cases hs

end State.Inv

end Windowing.Processes
