import Windowing.Proofs.Processes.Reachable

set_option autoImplicit false

/-! # Re-injection neither duplicates nor reorders

The re-injection wrapper runs on the pump: it calls its next handler on an alert, then, for an
alert marked for re-injection, checks `quit` and queues the alert's message. The injector takes
what was queued since it last took, in order, and pushes it message by message, dropping the
rest of a batch at the first push that fails.

Read off the invariant, in every reachable state (`reinjection_in_order`): the alerts whose
messages the injector pushed successfully are a prefix of the alerts marked for re-injection, in
the order the pump passed them to the wrapper; every push of the injector pushes its alert's
message; no alert is pushed twice; and every queued message was queued after the wrapper's next
handler ran on its alert. -/

namespace Windowing.Processes

/-- The places of the elements of a list that a function keeps are distinct: they are among the
places of the list, in order. -/
theorem map_fst_filterMap_zipIdx_sublist {α β : Type} (f : α → Option β) (l : List α) (k : Nat) :
    List.Sublist (((l.zipIdx k).filterMap fun (a, p) => (f a).map (p, ·)).map Prod.fst)
      (List.range' k l.length) := by
  induction l generalizing k with
  | nil => simp
  | cons a rest ih =>
    rw [List.zipIdx_cons, List.filterMap_cons, List.length_cons, List.range'_succ]
    dsimp only
    cases f a with
    | none => exact (ih (k + 1)).cons k
    | some b => exact (ih (k + 1)).cons_cons k

/-- No alert is flagged twice: the places of the flagged alerts are distinct. -/
theorem State.nodup_flagged (s : State) : (s.flagged.map Prod.fst).Nodup :=
  (List.nodup_range' 1).sublist (map_fst_filterMap_zipIdx_sublist _ _ 0)

/-- The injector's pushes in order: those that went through are a prefix of those it began, and
those it began a prefix of what it took from the queue. -/
theorem State.InjectorAgrees.prefixes {s : State} (ha : s.InjectorAgrees) :
    s.reinjected <+: s.injectorCalls ∧ s.injectorCalls <+: s.queued.take s.taken := by
  unfold State.InjectorAgrees at ha
  split at ha
  · exact ⟨by rw [ha.2], by rw [ha.1]⟩
  · exact ⟨by rw [ha.2], by rw [ha.1]⟩
  · exact ⟨by rw [ha.2], ha.1 ▸ List.prefix_append _ _⟩
  · exact ⟨ha.2.1 ▸ List.prefix_append _ _, ha.1 ▸ List.prefix_append _ _⟩
  · exact ha

/-- Re-injection neither duplicates nor reorders. In every state a correlator reaches, over every
interleaving of the pump, the injector, pushes and `Stop` calls:

* the alerts whose messages the injector pushed successfully, with their places among the
  responses, are a prefix of the alerts marked for re-injection that the pump passed to the
  re-injection wrapper, in the order it passed them;
* each push of the injector pushes the message of its alert;
* the injector begins at most one push for each alert;
* every message the wrapper queued is that of an alert marked for re-injection that the pump
  passed to it, and the wrapper's next handler, if it has one, was called on that alert
  before. -/
theorem reinjection_in_order {s : State} (hs : Reachable s) :
    s.reinjected <+: s.flagged ∧
    (∀ c ∈ s.pushes, ∀ e, c.origin = some e → c.message = some e.2) ∧
    (s.injectorCalls.map Prod.fst).Nodup ∧
    ∀ p m, (p, m) ∈ s.queued →
      ∃ a next, s.deliveries[p]? = some (.alert a (some (.reinject next))) ∧ a.inject = true ∧
        a.message = m ∧ ∀ n, next = some n → p ∈ s.calledNext := by
  have h := hs.inv
  obtain ⟨hre, hcalls⟩ := h.injector_agrees.prefixes
  -- what the injector began is a prefix of what it took, which is a prefix of what was queued
  have hflag : s.injectorCalls <+: s.flagged :=
    hcalls.trans ((List.take_prefix _ _).trans h.queued_prefix)
  exact ⟨hre.trans hflag, fun c hc e he => (h.calls_ok c hc).origin_message e he,
    s.nodup_flagged.sublist (hflag.sublist.map _), fun p m hm => h.queued_wrapped (p, m) hm⟩

/-- An action whose alert, with the text `x`, is marked for re-injection. -/
def reinjectingAction : Windowing.Action :=
  { id := "act", name := "", message := ⟨"m", "x", [("m", [.text 0 "x"])]⟩, values := [],
    inject := true }

/-- A context whose windows close on their first message, raising the alert of
`reinjectingAction`. -/
def reinjectingContext : Context :=
  .linear ⟨"r", Uuid.nil, { timeout := 1000000, maxSize := 1 }, [reinjectingAction]⟩ Window.fresh

/-- The re-injection wrapper around a handler of the caller's own is registered; a message is
pushed, its alert re-injected, and the injector's push of its message goes through. -/
def reinjectOnce : List Action :=
  [.registerAlert (some (.reinject (some 7))), .push (some ⟨"a", "", {}⟩),
    .pushStep 0 .send, .pushStep 0 .send, .pushStep 0 .send,
    .reactor, .reactor, .reactor, .pump, .pump, .pump, .pump, .pump,
    .injector .wake, .injector .wake, .injector .wake,
    .pushStep 1 .send, .pushStep 1 .send, .pushStep 1 .send, .injector .wake]

theorem reinjectOnce_runs : ((State.fresh [reinjectingContext]).run reinjectOnce).isSome := by
  decide

/-- The state `reinjectOnce` leads to. -/
def reinjectedOnce : State :=
  ((State.fresh [reinjectingContext]).run reinjectOnce).get reinjectOnce_runs

/-- In `reinjectedOnce` the injector pushed one message, of the alert the wrapper's next handler
ran on, in the order the alerts were flagged, and no alert twice. -/
theorem reinjected_once_in_order :
    Reachable reinjectedOnce ∧ reinjectedOnce.reinjected.length = 1 ∧
      reinjectedOnce.calledNext = [0] ∧ reinjectedOnce.reinjected <+: reinjectedOnce.flagged ∧
      (reinjectedOnce.injectorCalls.map Prod.fst).Nodup := by
  have hs : Reachable reinjectedOnce :=
    (Reachable.fresh [reinjectingContext]).run (Option.eq_some_of_isSome reinjectOnce_runs)
  have h := reinjection_in_order hs
  exact ⟨hs, by decide, by decide, h.1, h.2.2.1⟩

end Windowing.Processes
