import Mathlib.Logic.Function.Iterate
import Windowing.Engine

set_option autoImplicit false

/-! # The reactor stops after its exits

A session hands the reactor steps: requests of any kind, and removals and registrations of its
three handlers. The reactor takes the steps in order while its exit is unconfirmed. An exit
request that meets a registered exit handler answers one exit response and confirms the exit once;
the exit is confirmed after as many confirmations as its threshold, which is at least one. From
then on the reactor takes no step: it neither handles nor counts one.

The exit state is described by its count alone (`ExitState.Lawful`): the phase is running before
the first confirmation, confirmed at the threshold, and the exit was requested in between. The
done signal closes on the confirmation that confirms the exit (`ExitState.closesDone`), and no
later confirmation closes it again, since a confirmed exit state ignores confirmations.

Over a session from a fresh exit state, the state after any prefix of the steps has counted the
exit requests of that prefix that met a registered exit handler (`exitsMet`), up to the threshold,
and it still runs exactly while fewer than the threshold did. -/

namespace Windowing

/-! ## The exit state -/

namespace ExitState

/-- What every exit state reached from a fresh one satisfies: a positive threshold, at most that
many confirmations, and the phase that the count gives. -/
structure Lawful (e : ExitState) : Prop where
  threshold_pos : 0 < e.threshold
  count_le : e.count ≤ e.threshold
  running_iff : e.phase = .running ↔ e.count = 0
  requested_iff : e.phase = .exitRequested ↔ 0 < e.count ∧ e.count < e.threshold
  confirmed_iff : e.phase = .confirmed ↔ e.count = e.threshold

/-- Whether a confirmation closes the done signal: it is the one that confirms the exit, the
branch of `confirm` that moves an unconfirmed exit to its threshold. -/
def closesDone (e : ExitState) : Prop := e.phase ≠ .confirmed ∧ e.threshold ≤ e.count + 1

/-- A threshold below one counts as one. -/
theorem threshold_new (t : Int) : ((new t).threshold : Int) = max t 1 := by
  simp only [new]
  split <;> omega

theorem lawful_new (t : Int) : (new t).Lawful where
  threshold_pos := by
    simp only [new]
    split <;> omega
  count_le := Nat.zero_le _
  running_iff := by simp [new]
  requested_iff := by simp [new]
  confirmed_iff := by
    simp only [new]
    constructor
    · intro h; cases h
    · intro h
      split at h <;> omega

/-- A confirmed exit state ignores confirmations. -/
theorem confirm_of_confirmed {e : ExitState} (h : e.phase = .confirmed) : e.confirm = e := by
  simp [confirm, h]

/-- The done signal closes exactly on the confirmation that confirms the exit. -/
theorem closesDone_iff (e : ExitState) :
    e.closesDone ↔ e.phase ≠ .confirmed ∧ e.confirm.phase = .confirmed := by
  unfold closesDone
  by_cases hc : e.phase = .confirmed
  · simp [hc]
  · by_cases hge : e.count + 1 ≥ e.threshold
    · simp [confirm, hc, hge]
    · simp [confirm, hc, hge]

/-- A confirmation counts one more, up to the threshold, and keeps the state lawful. -/
theorem Lawful.confirm {e : ExitState} (h : e.Lawful) :
    e.confirm.Lawful ∧ e.confirm.threshold = e.threshold ∧
      e.confirm.count = min (e.count + 1) e.threshold := by
  by_cases hc : e.phase = .confirmed
  · have hcount := h.confirmed_iff.1 hc
    rw [confirm_of_confirmed hc]
    exact ⟨h, rfl, by omega⟩
  · -- an unconfirmed state is below its threshold, so the new count stays within it
    have hlt : e.count < e.threshold := by
      have := h.count_le
      have := mt h.confirmed_iff.2 hc
      omega
    have hpos := h.threshold_pos
    by_cases hge : e.count + 1 ≥ e.threshold
    · refine ⟨⟨?_, ?_, ?_, ?_, ?_⟩, ?_, ?_⟩ <;> simp [ExitState.confirm, hc, hge] <;> omega
    · refine ⟨⟨?_, ?_, ?_, ?_, ?_⟩, ?_, ?_⟩ <;> simp [ExitState.confirm, hc, hge] <;> omega

/-- A lawful exit state is confirmed exactly at its threshold. -/
theorem Lawful.isConfirmed_iff {e : ExitState} (h : e.Lawful) :
    e.isConfirmed = true ↔ e.count = e.threshold := by
  rw [← h.confirmed_iff]
  simp [isConfirmed]

end ExitState

/-! ## One step -/

namespace Step

/-- Whether a step is an exit request that meets a registered exit handler. -/
def confirms (hs : Handlers) : Step → Bool
  | .request .exit => hs.exit
  | _ => false

/-- The handlers after a step. -/
def handlersAfter (hs : Handlers) : Step → Handlers
  | .request _ => hs
  | .removeHandler h => hs.set h false
  | .registerHandler h => hs.set h true

end Step

/-- The exit requests among some steps that meet a registered exit handler, the handlers edited
by the steps along the way. -/
def exitsMet : Handlers → List Step → Nat
  | _, [] => 0
  | hs, s :: rest => (if s.confirms hs then 1 else 0) + exitsMet (s.handlersAfter hs) rest

namespace Reactor

variable (r : Reactor)

@[simp]
theorem handlers_count (name : String) (labels : List (String × String)) :
    (r.count name labels).handlers = r.handlers := rfl

@[simp]
theorem exit_count (name : String) (labels : List (String × String)) :
    (r.count name labels).exit = r.exit := rfl

/-- A request never edits the handlers, and touches the exit state only when it is an exit
request that meets a registered exit handler, which confirms it once. -/
theorem apply_request (q : Request) :
    (r.apply (.request q)).1.handlers = r.handlers ∧ (r.apply (.request q)).1.exit =
      if (Step.request q).confirms r.handlers then r.exit.confirm else r.exit := by
  simp only [apply, step]
  -- each handled kind is handled or skipped as its handler is registered or not
  cases q with
  | exit =>
    cases hx : r.handlers.exit <;>
      simp [HandlerKind.ofRequest, Handlers.has, Step.confirms, hx, handle]
  | message m =>
    cases hx : r.handlers.message <;>
      simp [HandlerKind.ofRequest, Handlers.has, Step.confirms, hx, handle]
  | timer d =>
    cases hx : r.handlers.timer <;>
      simp [HandlerKind.ofRequest, Handlers.has, Step.confirms, hx, handle]
  | other k => exact ⟨rfl, rfl⟩

theorem apply_exit_state (s : Step) :
    (r.apply s).1.exit = if s.confirms r.handlers then r.exit.confirm else r.exit := by
  cases s with
  | request q => exact (r.apply_request q).2
  | removeHandler h => rfl
  | registerHandler h => rfl

/-- Only a handler edit changes the handlers. -/
theorem apply_handlers (s : Step) : (r.apply s).1.handlers = s.handlersAfter r.handlers := by
  cases s with
  | request q => exact (r.apply_request q).1
  | removeHandler h => rfl
  | registerHandler h => rfl

/-- An exit request that meets a registered exit handler is counted, answers one exit response,
and confirms the exit. -/
theorem apply_exit_request (h : r.handlers.exit = true) :
    r.apply (.request .exit) = ({ r.count "correlog_requests_total" [("kind", "exit")] with
      exit := r.exit.confirm }, [.exit]) := by
  simp [apply, step, HandlerKind.ofRequest, Handlers.has, count, handle, h, requestKindName,
    Request.kind]

/-- A request whose kind has no registered handler is counted and changes nothing else. -/
theorem apply_unhandled (q : Request)
    (h : ∀ k, HandlerKind.ofRequest q = some k → r.handlers.has k = false) :
    r.apply (.request q) =
      (r.count "correlog_requests_total" [("kind", requestKindName q.kind)], []) := by
  simp only [apply, step]
  cases hk : HandlerKind.ofRequest q with
  | none => rfl
  | some k =>
    have hoff : r.handlers.has k = false := h k hk
    simp [hoff]

/-! ## A run -/

theorem running_iff {r : Reactor} (h : r.exit.Lawful) :
    r.running = true ↔ r.exit.count < r.exit.threshold := by
  have hle := h.count_le
  have hconf := h.isConfirmed_iff
  simp only [running, Bool.not_eq_true']
  cases hc : r.exit.isConfirmed
  · simp only [hc, Bool.false_eq_true, false_iff] at hconf
    simp only [true_iff]
    omega
  · simp only [hc, true_iff] at hconf
    simp only [Bool.true_eq_false, false_iff]
    omega

theorem run_of_running {r : Reactor} (h : r.running = true) (s : Step) (rest : List Step) :
    r.run (s :: rest) =
      (some (r.apply s) :: ((r.apply s).1.run rest).1, ((r.apply s).1.run rest).2) := by
  simp [run, h]

/-- A reactor whose exit is confirmed takes no step, and stays as it is. -/
theorem run_of_stopped {r : Reactor} (h : r.running = false) (ss : List Step) :
    r.run ss = (List.replicate ss.length none, r) := by
  induction ss with
  | nil => rfl
  | cons s rest ih => simp [run, h, ih, List.replicate_succ]

theorem length_run (r : Reactor) (ss : List Step) : (r.run ss).1.length = ss.length := by
  induction ss generalizing r with
  | nil => rfl
  | cons s rest ih =>
    by_cases h : r.running = true
    · rw [run_of_running h]
      simp [ih]
    · rw [run_of_stopped (by simpa using h)]
      simp

/-- A run over two parts of the steps is the run over the first, then the run over the second
from where the first left the reactor. -/
theorem run_append (r : Reactor) (p q : List Step) :
    r.run (p ++ q) = ((r.run p).1 ++ ((r.run p).2.run q).1, ((r.run p).2.run q).2) := by
  induction p generalizing r with
  | nil => rfl
  | cons s rest ih =>
    by_cases h : r.running = true
    · rw [List.cons_append, run_of_running h, run_of_running h, ih]
      rfl
    · have hs : r.running = false := by simpa using h
      rw [List.cons_append, run_of_stopped hs, run_of_stopped hs, run_of_stopped hs]
      simp
      omega

/-- Over any steps from a lawful exit state, the exit counts the steps' exit requests that meet a
registered exit handler, up to its threshold, and stays lawful. The induction follows the steps;
once the count reaches the threshold the reactor stops and the count with it. -/
theorem run_exit {r : Reactor} (h : r.exit.Lawful) (ss : List Step) :
    (r.run ss).2.exit.Lawful ∧ (r.run ss).2.exit.threshold = r.exit.threshold ∧
      (r.run ss).2.exit.count = min (r.exit.count + exitsMet r.handlers ss) r.exit.threshold := by
  induction ss generalizing r with
  | nil =>
    have := h.count_le
    refine ⟨h, rfl, ?_⟩
    show r.exit.count = min (r.exit.count + 0) r.exit.threshold
    omega
  | cons s rest ih =>
    by_cases hrun : r.running = true
    · have hlt := (running_iff h).1 hrun
      -- one step confirms at most once, from below the threshold
      have hstep : (r.apply s).1.exit.Lawful ∧ (r.apply s).1.exit.threshold = r.exit.threshold ∧
          (r.apply s).1.exit.count = r.exit.count + (if s.confirms r.handlers then 1 else 0) := by
        rw [apply_exit_state]
        split
        · obtain ⟨hl, ht, hc⟩ := h.confirm
          exact ⟨hl, ht, by omega⟩
        · exact ⟨h, rfl, by omega⟩
      obtain ⟨hl, ht, hc⟩ := ih hstep.1
      rw [run_of_running hrun]
      refine ⟨hl, ht.trans hstep.2.1, ?_⟩
      rw [hc, hstep.2.1, hstep.2.2, apply_handlers, exitsMet]
      omega
    · have hstop : r.running = false := by simpa using hrun
      have heq : r.exit.count = r.exit.threshold := by
        have := (running_iff h).not.1 hrun
        have := h.count_le
        omega
      rw [run_of_stopped hstop]
      refine ⟨h, rfl, ?_⟩
      show r.exit.count = min (r.exit.count + exitsMet r.handlers (s :: rest)) r.exit.threshold
      omega

/-- The run's answer to each step: the step applied to the reactor the earlier steps left, while
that reactor still runs, and nothing once it has stopped. -/
theorem run_getElem? (r : Reactor) (ss : List Step) (i : Nat) (hi : i < ss.length) :
    (r.run ss).1[i]? = some (if (r.run (ss.take i)).2.running then
      some ((r.run (ss.take i)).2.apply ss[i]) else none) := by
  have hsplit : ss = ss.take i ++ ss[i] :: ss.drop (i + 1) := by
    rw [← List.drop_eq_getElem_cons hi, List.take_append_drop]
  have hlen : ((r.run (ss.take i)).1).length = i := by
    rw [length_run, List.length_take]
    omega
  conv => lhs; rw [hsplit, run_append]
  rw [List.getElem?_append_right (by omega), hlen, Nat.sub_self]
  split
  · rename_i hrun
    rw [run_of_running hrun]
    rfl
  · rename_i hrun
    rw [run_of_stopped (by simpa using hrun)]
    rfl

section Fresh

variable {r : Reactor} {t : Int} (hr : r.exit = ExitState.new t)
include hr

/-- From a fresh exit state, the exit after any steps has counted their exit requests that met a
registered exit handler, up to the threshold, and the reactor runs while fewer did. -/
theorem run_exit_new (p : List Step) :
    (r.run p).2.exit.Lawful ∧ (r.run p).2.exit.threshold = (ExitState.new t).threshold ∧
      (r.run p).2.exit.count = min (exitsMet r.handlers p) (ExitState.new t).threshold ∧
      ((r.run p).2.running = true ↔ exitsMet r.handlers p < (ExitState.new t).threshold) := by
  have hl : r.exit.Lawful := hr ▸ ExitState.lawful_new t
  obtain ⟨hl', ht, hc⟩ := run_exit hl p
  have hzero : (ExitState.new t).count = 0 := rfl
  rw [hr] at ht hc
  refine ⟨hl', ht, by rw [hc, hzero, Nat.zero_add], ?_⟩
  rw [running_iff hl', hc, ht, hzero, Nat.zero_add]
  omega

/-- After the exit is confirmed the reactor takes no more steps and stays as it is. -/
theorem run_after_confirmed (p rest : List Step)
    (hp : (ExitState.new t).threshold ≤ exitsMet r.handlers p) :
    r.run (p ++ rest) = ((r.run p).1 ++ List.replicate rest.length none, (r.run p).2) := by
  have hstop : (r.run p).2.running = false := by
    have := (run_exit_new hr p).2.2.2
    cases h : (r.run p).2.running
    · rfl
    · exact absurd (this.1 h) (by omega)
  rw [run_append, run_of_stopped hstop]

/-- The done signal closes at the step that brings the exit requests met by a registered handler
to the threshold, and at no other. -/
theorem closesDone_at (ss : List Step) (i : Nat) (hi : i < ss.length) :
    (ss[i].confirms (r.run (ss.take i)).2.handlers = true ∧
        (r.run (ss.take i)).2.exit.closesDone) ↔
      exitsMet r.handlers (ss.take i) < (ExitState.new t).threshold ∧
        (ExitState.new t).threshold ≤ exitsMet r.handlers (ss.take (i + 1)) := by
  obtain ⟨hl, ht, hc, hrun⟩ := run_exit_new hr (ss.take i)
  obtain ⟨-, -, hc', -⟩ := run_exit_new hr (ss.take (i + 1))
  generalize hb : (r.run (ss.take i)).2 = b at hl ht hc hrun ⊢
  unfold ExitState.closesDone
  by_cases hlt : exitsMet r.handlers (ss.take i) < (ExitState.new t).threshold
  · -- the step is taken: it confirms once exactly when it is an exit that meets a handler
    have hrun' : b.running = true := hrun.2 hlt
    have hafter : (r.run (ss.take (i + 1))).2 = (b.apply ss[i]).1 := by
      rw [List.take_succ_eq_append_getElem hi, run_append, hb, run_of_running hrun']
      rfl
    have hnot : b.exit.phase ≠ .confirmed := by
      rw [ne_eq, hl.confirmed_iff]
      omega
    rw [hafter, apply_exit_state] at hc'
    cases hconf : ss[i].confirms b.handlers
    · simp only [hconf, Bool.false_eq_true, ↓reduceIte] at hc'
      simp only [Bool.false_eq_true, false_and, false_iff, not_and]
      omega
    · simp only [hconf, ↓reduceIte] at hc'
      rw [hl.confirm.2.2, ht] at hc'
      simp only [true_and, hnot, ne_eq, not_false_eq_true, hlt]
      omega
  · -- the step is not taken: the exit is confirmed already
    have hconfirmed : b.exit.phase = .confirmed := by
      rw [hl.confirmed_iff]
      omega
    simp [hconfirmed, hlt]

end Fresh

end Reactor

/-- The reactor's exit protocol, over any session from a fresh exit state with threshold `t`: the
effective threshold is at least one; the steps are taken in order, each from the reactor the
earlier ones left, exactly while fewer exit requests than the threshold met a registered exit
handler; the exit state has counted those, up to the threshold, with the phase the count gives;
after the last of them the reactor takes and counts nothing; the done signal closes at that step
only, and no later confirmation closes it again; an exit request that meets a registered handler
answers one exit response and confirms the exit, and a request of a kind with no registered
handler is only counted. -/
theorem reactor_stops_after_exits (cs : List Context) (hs : Handlers) (t : Int)
    (m : Option Metrics) (ss : List Step) :
    let r₀ : Reactor := { contexts := cs, handlers := hs, exit := ExitState.new t, metrics := m }
    let t' := (ExitState.new t).threshold
    (t' : Int) = max t 1 ∧
    (r₀.run ss).1.length = ss.length ∧
    (∀ i (hi : i < ss.length), (r₀.run ss).1[i]? = some (if exitsMet hs (ss.take i) < t' then
      some ((r₀.run (ss.take i)).2.apply ss[i]) else none)) ∧
    (∀ p : List Step, (r₀.run p).2.exit.Lawful ∧ (r₀.run p).2.exit.threshold = t' ∧
      (r₀.run p).2.exit.count = min (exitsMet hs p) t' ∧
      ((r₀.run p).2.running = true ↔ exitsMet hs p < t')) ∧
    (∀ p rest : List Step, t' ≤ exitsMet hs p →
      r₀.run (p ++ rest) =
        ((r₀.run p).1 ++ List.replicate rest.length none, (r₀.run p).2)) ∧
    (∀ i (hi : i < ss.length),
      (ss[i].confirms (r₀.run (ss.take i)).2.handlers = true ∧
          (r₀.run (ss.take i)).2.exit.closesDone) ↔
        exitsMet hs (ss.take i) < t' ∧ t' ≤ exitsMet hs (ss.take (i + 1))) ∧
    (∀ e : ExitState, e.phase = .confirmed →
      ∀ k, ¬ (Nat.iterate ExitState.confirm k e).closesDone) ∧
    (∀ r : Reactor, r.handlers.exit = true →
      r.apply (.request .exit) = ({ r.count "correlog_requests_total" [("kind", "exit")] with
        exit := r.exit.confirm }, [.exit])) ∧
    (∀ (r : Reactor) (q : Request),
      (∀ k, HandlerKind.ofRequest q = some k → r.handlers.has k = false) →
        r.apply (.request q) =
          (r.count "correlog_requests_total" [("kind", requestKindName q.kind)], [])) := by
  intro r₀ t'
  have hr : r₀.exit = ExitState.new t := rfl
  refine ⟨ExitState.threshold_new t, Reactor.length_run r₀ ss, ?_, Reactor.run_exit_new hr,
    Reactor.run_after_confirmed hr, Reactor.closesDone_at hr ss, ?_, Reactor.apply_exit_request,
    Reactor.apply_unhandled⟩
  · intro i hi
    rw [Reactor.run_getElem? r₀ ss i hi]
    have hrun := (Reactor.run_exit_new hr (ss.take i)).2.2.2
    by_cases hlt : exitsMet hs (ss.take i) < t'
    · rw [if_pos (hrun.2 hlt), if_pos hlt]
    · rw [if_neg (fun h => hlt (hrun.1 h)), if_neg hlt]
  · intro e he k hdone
    rw [Function.iterate_fixed (ExitState.confirm_of_confirmed he) k] at hdone
    exact hdone.1 he

end Windowing
