import Windowing.Proofs.Processes.Stopping
import Windowing.Proofs.Processes.Pump

set_option autoImplicit false

/-! # Every reachable correlator satisfies the invariant

The steps of the world around the correlator keep `Inv` too: a call of `PushMessage` or `Stop`
begins, a handler is registered, the timer sends a tick. With the steps of the processes, every
step keeps it (`Inv.step`), and by induction over the steps every reachable state satisfies it
(`Reachable.inv`). -/

namespace Windowing.Processes

/-- A push call that begins without an origin leaves the injector's pushes as they were. -/
theorem injectorAgrees_append {s s' : State} (ha : s.InjectorAgrees) {c : PushCall}
    (hpushes : s'.pushes = s.pushes ++ [c]) (horigin : c.origin = none)
    (hinj : s'.injector = s.injector) (hq : s'.queued = s.queued) (ht : s'.taken = s.taken) :
    s'.InjectorAgrees := by
  have hpushed : c.pushedOrigin = none := by
    unfold PushCall.pushedOrigin
    split <;> simp [horigin]
  have hcalls : s'.injectorCalls = s.injectorCalls := by
    simp [State.injectorCalls, hpushes, horigin]
  have hre : s'.reinjected = s.reinjected := by simp [State.reinjected, hpushes, hpushed]
  unfold State.InjectorAgrees at ha ⊢
  rw [hinj, hcalls, hre, hq, ht]
  cases hj : s.injector with
  | awaiting e rest i =>
    rw [hj] at ha
    obtain ⟨h1, h2, ⟨c', hc', hce⟩, h4⟩ := ha
    have hlt := (List.getElem?_eq_some_iff.1 hc').1
    refine ⟨h1, h2, ⟨c', by rw [hpushes, List.getElem?_append_left hlt]; exact hc', hce⟩,
      fun k c'' hk ho => ?_⟩
    rw [hpushes, List.getElem?_append] at hk
    split at hk
    · exact h4 k c'' hk ho
    · -- the call that began has no origin
      have hc'' : c'' = c := List.mem_singleton.1 (List.mem_of_getElem? hk)
      subst hc''
      simp [horigin] at ho
  | _ => rw [hj] at ha; exact ha

namespace State.Inv

variable {s : State}

/-- A producer calls `PushMessage`. -/
theorem push (h : s.Inv) (m : Option Message) :
    ({ s with pushes := s.pushes ++ [s.newPush m none] } : State).Inv :=
  { h with
    readers_eq := by
      rw [List.countP_append, h.readers_eq]
      simp
    calls_ok := fun c hc => by
      rcases List.mem_append.1 hc with hc | hc
      · exact h.calls_ok c hc
      · rw [List.mem_singleton.1 hc]
        exact h.newPush_ok fun _ he => by cases he
    injector_agrees := injectorAgrees_append h.injector_agrees rfl rfl rfl rfl rfl
    origin_returned := fun k c hk ho => by
      rw [List.getElem?_append] at hk
      split at hk
      · exact h.origin_returned k c hk ho
      · have hc : c = s.newPush m none := List.mem_singleton.1 (List.mem_of_getElem? hk)
        subst hc
        simp at ho }

/-- A caller calls `Stop`. -/
theorem stop (h : s.Inv) : ({ s with stops := s.stops ++ [.entering] } : State).Inv :=
  { h with
    stop_returned := fun j r hj => by
      rw [List.getElem?_append] at hj
      split at hj
      · exact h.stop_returned j r hj
      · cases List.mem_singleton.1 (List.mem_of_getElem? hj) }

/-- Every step keeps the invariant. -/
theorem step (h : s.Inv) {a : Action} {s' : State} (hs : s.step a = some s') : s'.Inv := by
  cases a with
  | push m =>
    cases hs
    exact h.push m
  | pushStep i c => exact h.pushStep hs
  | stop =>
    cases hs
    exact h.stop
  | stopStep j => exact h.stopStep hs
  | shutdown c => exact h.shutdownStep hs
  | registerAlert ah =>
    cases hs
    exact { h with }
  | registerExit id =>
    cases hs
    -- a handler of the caller's own replaces the exit confirmation
    exact { h with exitHandler_stopping := fun prev hp => by cases id <;> cases hp }
  | tick d =>
    simp only [State.step] at hs
    cases hsend : s.requests.send? (.timer d) with
    | none => simp [hsend] at hs
    | some requests =>
      simp only [hsend, Option.bind_eq_bind, Option.bind_some, Option.some.injEq] at hs
      subst hs
      exact h.sendRequest hsend fun hq => by cases hq
  | reactor => exact h.reactorStep hs
  | pump => exact h.pumpStep hs
  | confirmer c => exact h.confirmerStep hs
  | closer => exact h.closerStep hs
  | injector c => exact h.injectorStep hs

end State.Inv

/-- Every reachable state satisfies the invariant. -/
theorem Reachable.inv {s : State} (hs : Reachable s) : s.Inv := by
  induction hs with
  | init setup contexts => exact State.Inv.init setup contexts
  | step a _ hstep ih => exact ih.step hstep

/-- A correlator as built with the default setup: room for 1024 values in each channel, and three
more attempts when the exit is not confirmed in time. -/
def State.fresh (contexts : List Context) : State := .init {} contexts

/-- A fresh correlator is reachable. -/
theorem Reachable.fresh (contexts : List Context) : Reachable (State.fresh contexts) :=
  .init {} contexts

/-- The state a run of steps leads to from a reachable state is reachable. -/
theorem Reachable.run {s s' : State} (hs : Reachable s) {as : List Action}
    (hrun : s.run as = some s') : Reachable s' := by
  induction as generalizing s with
  | nil =>
    cases hrun
    exact hs
  | cons a rest ih =>
    simp only [State.run] at hrun
    cases hstep : s.step a with
    | none => simp [hstep] at hrun
    | some s₁ =>
      simp only [hstep, Option.bind_some] at hrun
      exact ih (.step a hs hstep) hrun

end Windowing.Processes
