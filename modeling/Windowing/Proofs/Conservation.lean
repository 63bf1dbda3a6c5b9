import Windowing.Proofs.OpenWindows

set_option autoImplicit false

/-! # No message is lost or doubled

A linear context cuts the messages it takes into windows. A message is taken when it arrives at an
open window whose conditions accept it, or at a closed window that it may open
(`Rule.takes`). Over any sequence of requests, the messages of the windows closed along the way, in
closing order, followed by the messages of the window still open at the end, are exactly the
messages taken, in arrival order (`Rule.closedWindows`, `Rule.taken`). No closed window is empty.

When a window closes, every action runs once on it, in the order the actions are configured, and
sees the context's name and id and that window's messages; what the actions report, over the whole
run, is exactly that, window after window, and the alerts the reactor sends for the context are the
alerts of the actions that succeeded, in the same order. A closed window never reports again: the
linear context starts afresh.

Each step is either idle (nothing taken, nothing reported) or settles a window that holds what the
open window held plus what was taken (`Rule.outcome_cases`); the run follows by induction over the
requests, with the window's soundness from `Context.Sound` to know that a ticked window is not
empty. -/

namespace Windowing

/-- What an effect says an action gave: the alert of one that succeeded, nothing for one that
failed; other effects are no action's result. -/
def Effect.actionResult : Effect → Option (Option Alert)
  | .alert a => some (some a)
  | .actionFailed => some none
  | _ => none

/-- The alert an effect carries, if any. -/
def Effect.alert? : Effect → Option Alert
  | .alert a => some a
  | _ => none

/-- The messages of a window while it is open, none once it is closed. -/
def Window.openMessages (w : Window) : List Message := if w.isOpen then w.messages else []

/-- The window an outcome closes: none, or the one it closed. -/
def Outcome.closedWindow (o : Outcome) : List Window := if o.closed then [o.window] else []

namespace Rule

variable (r : Rule)

/-- What a linear window does with one request. -/
def outcome (w : Window) : Request → Outcome
  | .message m => r.onMessage m w
  | .timer d => r.onTick d w
  | _ => ⟨w, false, []⟩

/-- Whether a window takes a message that arrives at it: an open window takes what its conditions
accept, a closed one what may open it. -/
def takes (w : Window) (m : Message) : Bool :=
  if w.isOpen then r.conditions.accepts m else r.conditions.isOpening m

/-- The message a request brings that the window takes, if any. -/
def takenBy (w : Window) : Request → List Message
  | .message m => if r.takes w m then [m] else []
  | _ => []

/-- The messages taken along a run of a linear window, in arrival order. -/
def taken : Window → List Request → List Message
  | _, [] => []
  | w, q :: rest => r.takenBy w q ++ taken (r.outcome w q).next rest

/-- The windows closed along a run of a linear window, in closing order. -/
def closedWindows : Window → List Request → List Window
  | _, [] => []
  | w, q :: rest => (r.outcome w q).closedWindow ++ closedWindows (r.outcome w q).next rest

/-- The linear window at the end of a run. -/
def finalWindow (w : Window) (rs : List Request) : Window :=
  rs.foldl (fun w q => (r.outcome w q).next) w

/-- The closed window as the actions see it. -/
def closedView (w : Window) : ClosedWindow :=
  { contextName := r.name, contextId := r.id, messages := w.messages }

/-- What each action gives on a closed window, in the order the actions are configured: its
alert, or nothing when it fails. -/
def results (w : Window) : List (Option Alert) :=
  r.actions.map fun a => (a.execute (r.closedView w)).toOption

end Rule

namespace Context

theorem linear_onRequest (r : Rule) (w : Window) (q : Request) :
    (Context.linear r w).onRequest q =
      (.linear r (r.outcome w q).next, (r.outcome w q).effects) := by
  cases q <;> rfl

end Context

/-! ## One step -/

namespace Rule

variable (r : Rule)

/-- The effects of running the actions on a window report each action's result, in order. -/
theorem runActions_results (w : Window) :
    (r.runActions w).filterMap Effect.actionResult = r.results w := by
  unfold runActions results closedView
  induction r.actions with
  | nil => rfl
  | cons a rest ih =>
    simp only [List.map_cons, List.filterMap_cons]
    cases a.execute _ <;> simp [Effect.actionResult, Except.toOption, ih]

/-- Closing a window keeps what the actions see of it. -/
@[simp]
theorem results_close (w : Window) : r.results w.close = r.results w := rfl

/-! A settled open window splits its messages between the window it closes and the window that
follows, reports the actions' results exactly on the window it closes, and closes no empty
window. -/

theorem settle_splits {w : Window} (hw : w.isOpen = true) (before : List Effect) :
    (r.settle w before).closedWindow.flatMap Window.messages ++
      (r.settle w before).next.openMessages = w.messages := by
  cases h : r.conditions.closingReason w with
  | none => simp [settle_of_none r h, Outcome.closedWindow, Outcome.next, Window.openMessages, hw]
  | some reason =>
    simp [settle_of_some r h, Outcome.closedWindow, Outcome.next, Window.openMessages,
      Window.fresh, Window.close]

theorem settle_results (w : Window) {before : List Effect}
    (hb : before.filterMap Effect.actionResult = []) :
    (r.settle w before).effects.filterMap Effect.actionResult =
      (r.settle w before).closedWindow.flatMap r.results := by
  cases h : r.conditions.closingReason w with
  | none => simp [settle_of_none r h, Outcome.closedWindow, hb]
  | some reason =>
    -- the closing effect is no action's result; the actions' effects follow it
    have hrun : (Effect.closed reason :: r.runActions w).filterMap Effect.actionResult =
        r.results w := by
      rw [List.filterMap_cons_none rfl, runActions_results]
    simp [settle_of_some r h, Outcome.closedWindow, hb, hrun]

theorem settle_closes_nonempty {w : Window} (hne : w.messages ≠ []) (before : List Effect) :
    ∀ W ∈ (r.settle w before).closedWindow, W.messages ≠ [] := by
  intro W hW
  cases h : r.conditions.closingReason w with
  | none => simp [settle_of_none r h, Outcome.closedWindow] at hW
  | some reason =>
    simp only [settle_of_some r h, Outcome.closedWindow, ↓reduceIte, List.mem_singleton] at hW
    subst hW
    exact hne

variable {r}

/-- Every step of a sound linear window is idle, taking and reporting nothing, or settles a window
that holds the open window's messages and then what was taken, is open and not empty, after
reporting no action's result. -/
theorem outcome_cases {w : Window} (hs : (Context.linear r w).Sound) (q : Request) :
    (r.outcome w q = ⟨w, false, []⟩ ∧ r.takenBy w q = []) ∨
      ∃ w' before, r.outcome w q = r.settle w' before ∧ w'.isOpen = true ∧
        w'.messages = w.openMessages ++ r.takenBy w q ∧ w'.messages ≠ [] ∧
        before.filterMap Effect.actionResult = [] := by
  obtain ⟨hsound, hfresh⟩ := hs
  cases q with
  | message m =>
    cases hopen : w.isOpen
    · obtain rfl := hfresh hopen
      cases ho : r.conditions.isOpening m
      · left
        exact ⟨onMessage_of_closed_of_not_opening hopen ho, by simp [takenBy, takes, hopen, ho]⟩
      · right
        refine ⟨_, _, onMessage_of_closed hopen ho, rfl, ?_, by simp [Window.add], rfl⟩
        simp [Window.add, Window.open_, Window.fresh, Window.openMessages, takenBy, takes, ho]
    · cases ha : r.conditions.accepts m
      · left
        exact ⟨onMessage_of_open_of_not_accepts hopen ha, by simp [takenBy, takes, hopen, ha]⟩
      · right
        refine ⟨_, _, onMessage_of_open hopen ha, by simp [hopen], ?_, by simp, rfl⟩
        simp [Window.openMessages, takenBy, takes, hopen, ha]
  | timer d =>
    cases hopen : w.isOpen
    · left
      exact ⟨onTick_of_closed d hopen, rfl⟩
    · right
      -- a ticked window is open, hence sound, hence not empty
      have hne : w.messages ≠ [] := by
        intro he
        have := (hsound hopen).nonempty
        simp [Window.len, he] at this
      refine ⟨_, _, onTick_of_open d hopen, by simp [hopen], ?_, by simpa using hne, rfl⟩
      simp [Window.openMessages, takenBy, hopen]
  | exit => exact .inl ⟨rfl, rfl⟩
  | other _ => exact .inl ⟨rfl, rfl⟩

section Step

variable {w : Window}

/-- A step splits the open window's messages and what it took between the window it closes and
the window that follows. -/
theorem outcome_splits (hs : (Context.linear r w).Sound) (q : Request) :
    (r.outcome w q).closedWindow.flatMap Window.messages ++ (r.outcome w q).next.openMessages =
      w.openMessages ++ r.takenBy w q := by
  rcases outcome_cases hs q with ⟨hidle, htaken⟩ | ⟨w', before, hout, hopen, hmsgs, -, -⟩
  · simp [hidle, htaken, Outcome.closedWindow, Outcome.next]
  · rw [hout, settle_splits r hopen, hmsgs]

/-- A step reports the actions' results exactly on the window it closes. -/
theorem outcome_results (hs : (Context.linear r w).Sound) (q : Request) :
    (r.outcome w q).effects.filterMap Effect.actionResult =
      (r.outcome w q).closedWindow.flatMap r.results := by
  rcases outcome_cases hs q with ⟨hidle, -⟩ | ⟨w', before, hout, -, -, -, hb⟩
  · simp [hidle, Outcome.closedWindow]
  · rw [hout, settle_results r w' hb]

theorem outcome_closes_nonempty (hs : (Context.linear r w).Sound) (q : Request) :
    ∀ W ∈ (r.outcome w q).closedWindow, W.messages ≠ [] := by
  rcases outcome_cases hs q with ⟨hidle, -⟩ | ⟨w', before, hout, -, -, hne, -⟩
  · simp [hidle, Outcome.closedWindow]
  · rw [hout]
    exact settle_closes_nonempty r hne before

theorem sound_next (hs : (Context.linear r w).Sound) (q : Request) :
    (Context.linear r (r.outcome w q).next).Sound := by
  have h := hs.onRequest q
  rwa [Context.linear_onRequest] at h

end Step

/-! ## A run -/

variable (r) in
theorem after_linear (w : Window) (rs : List Request) :
    (Context.linear r w).after rs = .linear r (r.finalWindow w rs) := by
  induction rs generalizing w with
  | nil => rfl
  | cons q rest ih => rw [Context.after_cons, Context.linear_onRequest, ih]; rfl

theorem reports_linear (w : Window) (q : Request) (rest : List Request) :
    (Context.linear r w).reports (q :: rest) =
      (r.outcome w q).effects :: (Context.linear r (r.outcome w q).next).reports rest := by
  rw [Context.reports_cons, Context.linear_onRequest]

/-- Along a run, the closed windows and the final window hold the open window's messages and then
every message taken, each once, in order. -/
theorem run_splits {w : Window} (hs : (Context.linear r w).Sound) (rs : List Request) :
    (r.closedWindows w rs).flatMap Window.messages ++ (r.finalWindow w rs).openMessages =
      w.openMessages ++ r.taken w rs := by
  induction rs generalizing w with
  | nil => simp [closedWindows, finalWindow, taken]
  | cons q rest ih =>
    let o := r.outcome w q
    calc (r.closedWindows w (q :: rest)).flatMap Window.messages ++
          (r.finalWindow w (q :: rest)).openMessages
        = o.closedWindow.flatMap Window.messages ++ ((r.closedWindows o.next rest).flatMap
            Window.messages ++ (r.finalWindow o.next rest).openMessages) := by
          simp [o, closedWindows, finalWindow]
      _ = o.closedWindow.flatMap Window.messages ++
            (o.next.openMessages ++ r.taken o.next rest) := by
          rw [ih (sound_next hs q)]
      _ = w.openMessages ++ r.taken w (q :: rest) := by
          rw [← List.append_assoc, outcome_splits hs q]
          simp [o, taken]

theorem run_closes_nonempty {w : Window} (hs : (Context.linear r w).Sound) (rs : List Request) :
    ∀ W ∈ r.closedWindows w rs, W.messages ≠ [] := by
  induction rs generalizing w with
  | nil => simp [closedWindows]
  | cons q rest ih =>
    intro W hW
    rcases List.mem_append.1 hW with hW | hW
    · exact outcome_closes_nonempty hs q W hW
    · exact ih (sound_next hs q) W hW

/-- Along a run, the actions' results reported are theirs on each closed window, in order. -/
theorem run_results {w : Window} (hs : (Context.linear r w).Sound) (rs : List Request) :
    ((Context.linear r w).reports rs).flatten.filterMap Effect.actionResult =
      (r.closedWindows w rs).flatMap r.results := by
  induction rs generalizing w with
  | nil => rfl
  | cons q rest ih =>
    rw [reports_linear, List.flatten_cons, List.filterMap_append, outcome_results hs q,
      ih (sound_next hs q)]
    simp [closedWindows]

end Rule

/-! ## The alerts a context sends -/

/-- The alerts are the results of the actions that succeeded. -/
theorem Effect.filterMap_alert? (effs : List Effect) :
    effs.filterMap Effect.alert? = (effs.filterMap Effect.actionResult).filterMap id := by
  rw [List.filterMap_filterMap]
  congr 1
  funext e
  cases e <;> rfl

/-- The reactor answers what a context reported with one alert response per alert, in order. -/
theorem Reactor.report_responses (label : String) (m : Option Metrics) (effs : List Effect) :
    (Reactor.report label m effs).2 = (effs.filterMap Effect.alert?).map Response.alert := by
  induction effs generalizing m with
  | nil => rfl
  | cons e rest ih => cases e <;> simp [Reactor.report, ih, Effect.alert?, List.filterMap_cons]

/-- Over a run, whatever counters the reactor holds at each request, it sends for a context's
reports one alert response per succeeding action, in order. -/
theorem Reactor.report_runs (label : String) (mt : Nat → Option Metrics)
    (reports : List (List Effect)) :
    (reports.mapIdx fun i effs => (Reactor.report label (mt i) effs).2).flatten =
      ((reports.flatten.filterMap Effect.actionResult).filterMap id).map Response.alert := by
  induction reports generalizing mt with
  | nil => rfl
  | cons effs rest ih =>
    rw [List.mapIdx_cons, List.flatten_cons, ih, report_responses, Effect.filterMap_alert?,
      List.flatten_cons, List.filterMap_append, List.filterMap_append, List.map_append]

/-- A linear context loses and doubles no message. Over any run from its fresh window, the
windows it closes, in closing order, followed by the window still open at the end, hold exactly
the messages it took, in arrival order, and none of the closed windows is empty. Each closed
window has every action run on it once, in order, which is all the actions' results the context
reports, and the reactor sends the alerts of the actions that succeeded, in that order. -/
theorem linear_run_conserves_messages (r : Rule) (rs : List Request) :
    let c := Context.linear r Window.fresh
    let closed := r.closedWindows Window.fresh rs
    let final := r.finalWindow Window.fresh rs
    c.after rs = .linear r final ∧
      closed.flatMap Window.messages ++ final.openMessages = r.taken Window.fresh rs ∧
      (∀ W ∈ closed, W.messages ≠ []) ∧
      (c.reports rs).flatten.filterMap Effect.actionResult = closed.flatMap r.results ∧
      ∀ mt : Nat → Option Metrics,
        ((c.reports rs).mapIdx fun i effs => (Reactor.report r.label (mt i) effs).2).flatten =
          ((closed.flatMap r.results).filterMap id).map Response.alert := by
  dsimp only
  have hs : (Context.linear r Window.fresh).Sound := Context.Initial.sound rfl
  have hresults := Rule.run_results hs rs
  refine ⟨Rule.after_linear r _ rs, ?_, Rule.run_closes_nonempty hs rs, hresults, ?_⟩
  · simpa [Window.openMessages, Window.fresh] using Rule.run_splits hs rs
  · intro mt
    rw [Reactor.report_runs, hresults]

end Windowing
