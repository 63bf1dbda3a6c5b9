import Mathlib
import Windowing.Proofs.Conservation

set_option autoImplicit false

/-! # The counters agree with the windows

The reactor bumps one counter for every effect a context reports, labelled with the context's
label (its name, or its id when unnamed): windows opened, windows closed with their reason, opening
messages refused at the key cap, alerts and failed actions. Several contexts may share a label, so
the counters of a label add up what every context of that label reported.

Over any sequence of requests handled by the reactor, from contexts as they are built and an empty
set of counters, three laws hold for every label:

* the windows opened are the windows closed, over every reason, and the windows still open;
* the alerts and the failed actions are, for each context, its number of actions times the number
  of windows it closed;
* the alerts counted are the alert responses sent whose alert names a context of the label.

The counters are first read back as sums over the contexts of what each reported
(`Reactor.handleAll_metrics`, `Reactor.handleAll_alerts`), so that each law becomes a law of one
context's reports. One step of a context keeps the balance of opened and closed windows against
its open windows (`Context.opens_onRequest`), and every list of effects a rule reports gives each
closed window one result per action and names the rule's context in its alerts (`Rule.Reports`). -/

namespace Windowing

/-! ## Reading a counter -/

namespace Metrics

/-- Bumping a counter adds one to it and to no other counter. -/
theorem get_inc (m : Metrics) (name : String) (labels : List (String × String)) (name' : String)
    (labels' : List (String × String)) :
    (m.inc name labels).get name' labels' =
      m.get name' labels' + if name = name' ∧ labels = labels' then 1 else 0 := by
  obtain ⟨cs⟩ := m
  simp only [inc, get]
  induction cs with
  | nil =>
    by_cases h : name = name' ∧ labels = labels'
    · obtain ⟨rfl, rfl⟩ := h
      simp [inc.go]
    · simp [inc.go, List.find?, h]
  | cons c rest ih =>
    by_cases hc : c.name = name ∧ c.labels = labels
    · obtain ⟨hn, hl⟩ := hc
      by_cases h : name = name' ∧ labels = labels'
      · obtain ⟨rfl, rfl⟩ := h
        simp [inc.go, hn, hl]
      · simp [inc.go, hn, hl, h]
    · -- the head is not the bumped counter, so the bump happens in the rest
      have hgo : inc.go name labels (c :: rest) = c :: inc.go name labels rest := by
        simp [inc.go, hc]
      rw [hgo]
      by_cases hc' : c.name = name' ∧ c.labels = labels'
      · have h : ¬(name = name' ∧ labels = labels') := by
          rintro ⟨rfl, rfl⟩
          exact hc hc'
        simp [hc', h]
      · simpa [List.find?_cons, hc'] using ih

@[simp]
theorem get_empty (name : String) (labels : List (String × String)) :
    ({} : Metrics).get name labels = 0 := rfl

end Metrics

/-! ## The counter of each effect -/

/-- The counter that an effect of a context labelled `label` bumps: its family and labels. -/
def Effect.counter (label : String) : Effect → String × List (String × String)
  | .opened => ("correlog_windows_opened_total", [("context", label)])
  | .closed reason =>
    ("correlog_windows_closed_total", [("context", label), ("reason", reason.label)])
  | .rejected => ("correlog_windows_rejected_total", [("context", label)])
  | .alert _ => ("correlog_alerts_total", [("context", label)])
  | .actionFailed => ("correlog_action_errors_total", [("context", label)])

/-- Bumping the counters of effects one after another adds to each counter the number of effects
that bump it. -/
theorem Metrics.get_foldl_inc (label : String) (effs : List Effect) (mt : Metrics) (n : String)
    (ls : List (String × String)) :
    (effs.foldl (fun mt e => mt.inc (e.counter label).1 (e.counter label).2) mt).get n ls =
      mt.get n ls + effs.countP (·.counter label = (n, ls)) := by
  induction effs generalizing mt with
  | nil => simp
  | cons e rest ih =>
    rw [List.foldl_cons, ih, get_inc, List.countP_cons]
    simp [Prod.ext_iff]
    omega

/-- The reactor bumps, for each effect a context reports, the effect's counter. -/
theorem Reactor.report_fst (label : String) (m : Option Metrics) (effs : List Effect) :
    (Reactor.report label m effs).1 =
      m.map fun mt => effs.foldl (fun mt e => mt.inc (e.counter label).1 (e.counter label).2) mt := by
  induction effs generalizing m with
  | nil => cases m <;> rfl
  | cons e rest ih =>
    cases e <;> simp [Reactor.report, ih, Option.map_map, Function.comp_def, Effect.counter]

/-! ## The reactor over a run -/

/-- The alert a response carries, if any. -/
def Response.alert? : Response → Option Alert
  | .alert a => some a
  | .exit => none

namespace Reactor

section FanOut

variable (step : Context → Context × List Effect)

theorem fanOut_contexts (cs : List Context) (m : Option Metrics) :
    (fanOut step cs m).1 = cs.map fun c => (step c).1 := by
  induction cs generalizing m with
  | nil => rfl
  | cons c rest ih => simp [fanOut, ih]

/-- Giving a request to every context bumps each counter by what every context reported. -/
theorem fanOut_metrics (cs : List Context) (mt : Metrics) :
    ∃ mt', (fanOut step cs (some mt)).2.1 = some mt' ∧ ∀ n ls, mt'.get n ls =
      mt.get n ls + (cs.map fun c => (step c).2.countP (·.counter c.rule.label = (n, ls))).sum := by
  induction cs generalizing mt with
  | nil => exact ⟨mt, rfl, by simp⟩
  | cons c rest ih =>
    obtain ⟨mt', hmt', hget⟩ := ih ((step c).2.foldl
      (fun mt e => mt.inc (e.counter c.rule.label).1 (e.counter c.rule.label).2) mt)
    refine ⟨mt', ?_, fun n ls => ?_⟩
    · simpa [fanOut, report_fst] using hmt'
    · rw [hget, Metrics.get_foldl_inc, List.map_cons, List.sum_cons]
      omega

/-- The alerts sent for a request are those the contexts reported, context after context. -/
theorem fanOut_alerts (cs : List Context) (m : Option Metrics) :
    (fanOut step cs m).2.2.filterMap Response.alert? =
      cs.flatMap fun c => (step c).2.filterMap Effect.alert? := by
  induction cs generalizing m with
  | nil => rfl
  | cons c rest ih =>
    simp [fanOut, ih, report_responses, List.filterMap_append, List.filterMap_map,
      Function.comp_def, Response.alert?]

end FanOut

theorem handle_contexts (r : Reactor) (q : Request) :
    (r.handle q).1.contexts = r.contexts.map fun c => (c.onRequest q).1 := by
  cases q with
  | message m => exact fanOut_contexts _ r.contexts r.metrics
  | timer d => exact fanOut_contexts _ r.contexts r.metrics
  | exit => simp [handle, Context.onRequest]
  | other n => simp [handle, Context.onRequest]

theorem handle_metrics (r : Reactor) (q : Request) {mt : Metrics} (hm : r.metrics = some mt) :
    ∃ mt', (r.handle q).1.metrics = some mt' ∧ ∀ n ls, mt'.get n ls =
      mt.get n ls +
        (r.contexts.map fun c => (c.onRequest q).2.countP (·.counter c.rule.label = (n, ls))).sum := by
  cases q with
  | message m =>
    obtain ⟨mt', h, hget⟩ := fanOut_metrics (·.onMessage m) r.contexts mt
    exact ⟨mt', by simpa [handle, hm] using h, hget⟩
  | timer d =>
    obtain ⟨mt', h, hget⟩ := fanOut_metrics (·.onTick d) r.contexts mt
    exact ⟨mt', by simpa [handle, hm] using h, hget⟩
  | exit => exact ⟨mt, hm, by simp [Context.onRequest, List.map_const']⟩
  | other n => exact ⟨mt, hm, by simp [Context.onRequest, List.map_const']⟩

theorem handle_alerts (r : Reactor) (q : Request) :
    (r.handle q).2.filterMap Response.alert? =
      r.contexts.flatMap fun c => (c.onRequest q).2.filterMap Effect.alert? := by
  cases q with
  | message m => exact fanOut_alerts _ r.contexts r.metrics
  | timer d => exact fanOut_alerts _ r.contexts r.metrics
  | exit => simp [handle, Context.onRequest, List.filterMap_cons, Response.alert?]
  | other n => simp [handle, Context.onRequest]

/-- Handle requests one after another: the reactor after them and every response sent, in
order. -/
def handleAll (r : Reactor) : List Request → Reactor × List Response
  | [] => (r, [])
  | q :: rest =>
    let (r', out) := r.handle q
    let (r'', more) := r'.handleAll rest
    (r'', out ++ more)

@[simp]
theorem handleAll_nil (r : Reactor) : r.handleAll [] = (r, []) := rfl

theorem handleAll_cons (r : Reactor) (q : Request) (rest : List Request) :
    r.handleAll (q :: rest) =
      (((r.handle q).1.handleAll rest).1, (r.handle q).2 ++ ((r.handle q).1.handleAll rest).2) :=
  rfl

/-- Each context goes its own way: after a run the reactor holds each context as the requests
left it. -/
theorem handleAll_contexts (r : Reactor) (qs : List Request) :
    (r.handleAll qs).1.contexts = r.contexts.map (·.after qs) := by
  induction qs generalizing r with
  | nil => simp
  | cons q rest ih => simp [handleAll_cons, ih, handle_contexts]

/-- After a run, each counter holds what it held before and what every context reported for it
along the run. -/
theorem handleAll_metrics (r : Reactor) (qs : List Request) {mt : Metrics}
    (hm : r.metrics = some mt) :
    ∃ mt', (r.handleAll qs).1.metrics = some mt' ∧ ∀ n ls, mt'.get n ls =
      mt.get n ls + (r.contexts.map fun c =>
        (c.reports qs).flatten.countP (·.counter c.rule.label = (n, ls))).sum := by
  induction qs generalizing r mt with
  | nil => exact ⟨mt, hm, by simp [List.map_const']⟩
  | cons q rest ih =>
    obtain ⟨mt₁, h₁, hget₁⟩ := handle_metrics r q hm
    obtain ⟨mt', h', hget'⟩ := ih (r.handle q).1 h₁
    refine ⟨mt', h', fun n ls => ?_⟩
    -- a step keeps each context's rule, hence its label
    have hrule : ∀ c : Context, (c.onRequest q).1.rule = c.rule := fun c => by
      simpa using Context.rule_after c [q]
    rw [hget', hget₁, handle_contexts, List.map_map, Nat.add_assoc, ← List.sum_map_add]
    simp [hrule]

/-- The alerts sent along a run, counted by any test, are the alerts every context reported. -/
theorem handleAll_alerts (r : Reactor) (qs : List Request) (p : Alert → Bool) :
    ((r.handleAll qs).2.filterMap Response.alert?).countP p =
      (r.contexts.map fun c => ((c.reports qs).flatten.filterMap Effect.alert?).countP p).sum := by
  induction qs generalizing r with
  | nil => simp [List.map_const']
  | cons q rest ih =>
    rw [handleAll_cons, List.filterMap_append, List.countP_append, handle_alerts, ih,
      handle_contexts, List.map_map, List.countP_flatMap, ← List.sum_map_add]
    simp [Function.comp_def, List.filterMap_append]

end Reactor

/-! ## What a rule reports -/

/-- Whether an effect reports a window that opened. -/
def Effect.isOpened : Effect → Bool
  | .opened => true
  | _ => false

/-- Whether an effect reports a window that closed. -/
def Effect.isClosed : Effect → Bool
  | .closed _ => true
  | _ => false

/-- How the context that sent an alert is named in counters: its name, or its id when
unnamed. -/
def Alert.contextLabel (a : Alert) : String := if a.contextName != "" then a.contextName else a.contextId

/-- An alert names the closed window's context: its name and the text of its id. -/
theorem Action.execute_context (a : Action) (w : ClosedWindow) {al : Alert}
    (h : a.execute w = .ok al) : al.contextName = w.contextName ∧ al.contextId = w.contextId.toText := by
  unfold execute at h
  simp only [bind, Except.bind] at h
  split at h
  · cases h
  · split at h
    · cases h
    · cases h
      exact ⟨rfl, rfl⟩

/-- The number of windows a context closes along a run: each closed window is reported closed
once. -/
def Context.closings (c : Context) (qs : List Request) : Nat :=
  (c.reports qs).flatten.countP Effect.isClosed

namespace Rule

variable (r : Rule)

/-- Each effect of running the actions is the result of one action: its alert, or its failure. -/
theorem mem_runActions (w : Window) {e : Effect} (he : e ∈ r.runActions w) :
    e = .actionFailed ∨ ∃ a ∈ r.actions, ∃ al, a.execute (r.closedView w) = .ok al ∧ e = .alert al := by
  simp only [runActions, List.mem_map] at he
  obtain ⟨a, ha, rfl⟩ := he
  split
  · exact .inr ⟨a, ha, _, ‹_›, rfl⟩
  · exact .inl rfl

/-- No action's result is counted by a test that holds of no result. -/
theorem countP_runActions_eq_zero (w : Window) {p : Effect → Bool} (hf : p .actionFailed = false)
    (ha : ∀ al, p (.alert al) = false) : (r.runActions w).countP p = 0 := by
  refine List.countP_eq_zero.2 fun e he => ?_
  rcases mem_runActions r w he with rfl | ⟨a, -, al, -, rfl⟩
  · simp [hf]
  · simp [ha al]

/-- What every list of effects of a rule satisfies: each closed window has one result per action
reported, and each alert names the rule's context. -/
structure Reports (effs : List Effect) : Prop where
  results : effs.countP (·.actionResult.isSome) = r.actions.length * effs.countP Effect.isClosed
  labels : ∀ a ∈ effs.filterMap Effect.alert?, a.contextLabel = r.label

variable {r}

theorem Reports.nil : r.Reports [] := ⟨rfl, by simp⟩

theorem Reports.append {effs effs' : List Effect} (h : r.Reports effs) (h' : r.Reports effs') :
    r.Reports (effs ++ effs') := by
  refine ⟨?_, ?_⟩
  · simp only [List.countP_append, h.results, h'.results, Nat.mul_add]
  · intro a ha
    rw [List.filterMap_append, List.mem_append] at ha
    exact ha.elim (h.labels a) (h'.labels a)

/-- An effect that is no window's closing and no action's result. -/
theorem Reports.single {e : Effect} (hc : e.isClosed = false) (ha : e.actionResult = none) :
    r.Reports [e] := by
  have hal : e.alert? = none := by cases e <;> simp_all [Effect.alert?, Effect.actionResult]
  exact ⟨by simp [hc, ha], by simp [hal]⟩

variable (r)

/-- Closing a window runs every action once, and the alerts name the rule's context. -/
theorem reports_closed (reason : ClosingReason) (w : Window) :
    r.Reports (.closed reason :: r.runActions w) := by
  refine ⟨?_, fun al hal => ?_⟩
  · have hall : (r.runActions w).countP (·.actionResult.isSome) = r.actions.length := by
      rw [List.countP_eq_length.2 fun e he => ?_]
      · simp [runActions]
      · rcases mem_runActions r w he with rfl | ⟨a, -, al, -, rfl⟩ <;> rfl
    have hnone : (r.runActions w).countP Effect.isClosed = 0 :=
      countP_runActions_eq_zero r w rfl fun _ => rfl
    rw [List.countP_cons, List.countP_cons, hall, hnone]
    simp [Effect.actionResult, Effect.isClosed]
  · simp only [List.filterMap_cons, Effect.alert?, List.mem_filterMap] at hal
    obtain ⟨e, he, hea⟩ := hal
    rcases mem_runActions r w he with rfl | ⟨a, -, al', hex, rfl⟩
    · cases hea
    · cases hea
      obtain ⟨hname, hid⟩ := Action.execute_context a _ hex
      simp [Alert.contextLabel, Rule.label, hname, hid, closedView]

variable {r}

theorem reports_settle (w : Window) {before : List Effect} (hb : r.Reports before) :
    r.Reports (r.settle w before).effects := by
  cases h : r.conditions.closingReason w with
  | none => simpa [settle_of_none r h] using hb
  | some reason =>
    rw [settle_of_some r h]
    exact hb.append (reports_closed r reason w)

theorem reports_onMessage (m : Message) (w : Window) : r.Reports (r.onMessage m w).effects := by
  unfold onMessage
  split
  · split
    · exact reports_settle _ .nil
    · exact .nil
  · split
    · exact reports_settle _ (.single rfl rfl)
    · exact .nil

theorem reports_onTick (d : Duration) (w : Window) : r.Reports (r.onTick d w).effects := by
  unfold onTick
  split
  · exact reports_settle _ .nil
  · exact .nil

end Rule

namespace Context

theorem reports_tickKeys (r : Rule) (d : Duration) :
    ∀ (ks : List String) (ws : KeyMap Window) (acc : List Effect), r.Reports acc →
      r.Reports (tickKeys r d ks ws acc).2
  | [], ws, acc, h => h
  | k :: rest, ws, acc, h => by
    cases hw : ws.get? k with
    | none =>
      simp only [tickKeys, hw]
      exact reports_tickKeys r d rest ws acc h
    | some w =>
      simp only [tickKeys, hw]
      exact reports_tickKeys r d rest _ _ (h.append (Rule.reports_onTick d w))

/-- Whatever a context reports for a request is what its rule reports. -/
theorem reports_onRequest (c : Context) (q : Request) : c.rule.Reports (c.onRequest q).2 := by
  cases c with
  | linear r w =>
    rw [linear_onRequest]
    cases q with
    | message m => exact Rule.reports_onMessage m w
    | timer d => exact Rule.reports_onTick d w
    | exit => exact .nil
    | other n => exact .nil
  | keyed r t n ws =>
    cases q with
    | message m =>
      show r.Reports ((Context.keyed r t n ws).onMessage m).2
      rcases keyed_onMessage_spec r t n ws m with h | h | ⟨k, o, -, -, hcase, h⟩ <;> rw [h]
      · exact .nil
      · exact .single rfl rfl
      · rcases hcase with ⟨w, -, rfl⟩ | ⟨-, -, -, rfl⟩ <;> exact Rule.reports_onMessage m _
    | timer d => exact reports_tickKeys r d ws.keys ws [] .nil
    | exit => exact .nil
    | other n => exact .nil

/-- Along a run, a context reports only what its rule reports. -/
theorem reports_run (c : Context) (qs : List Request) : c.rule.Reports (c.reports qs).flatten := by
  induction qs generalizing c with
  | nil => exact .nil
  | cons q rest ih =>
    have hrule : (c.onRequest q).1.rule = c.rule := by simpa using Context.rule_after c [q]
    have := ih (c.onRequest q).1
    rw [hrule] at this
    exact (reports_onRequest c q).append this

end Context

/-! ## Open windows -/

/-- The number of windows a context holds open. -/
def Context.openCount : Context → Nat
  | .linear _ w => if w.isOpen then 1 else 0
  | .keyed _ _ _ ws => ws.count (·.isOpen)

/-- An outcome reports windows opened and closed as the openness of the window changes: the
windows it reports opened, with the window it started from if that was open, are the windows it
reports closed, with the window that follows if that one is open. -/
def Outcome.Balanced (o : Outcome) (w : Window) : Prop :=
  o.effects.countP Effect.isOpened + (if w.isOpen then 1 else 0) =
    o.effects.countP Effect.isClosed + if o.next.isOpen then 1 else 0

namespace Rule

variable {r : Rule}

/-- Settling an open window balances when the reports before it leave the window open. -/
theorem balanced_settle {w w' : Window} (hw' : w'.isOpen = true) {before : List Effect}
    (hb : before.countP Effect.isOpened + (if w.isOpen then 1 else 0) =
      before.countP Effect.isClosed + 1) :
    (r.settle w' before).Balanced w := by
  unfold Outcome.Balanced
  cases h : r.conditions.closingReason w' with
  | none => simpa [settle_of_none r h, Outcome.next, hw'] using hb
  | some reason =>
    -- the window closes: one closing is reported, and the actions report no opening or closing
    have hopen := countP_runActions_eq_zero r w' (p := Effect.isOpened) rfl fun _ => rfl
    have hclosed := countP_runActions_eq_zero r w' (p := Effect.isClosed) rfl fun _ => rfl
    rw [settle_of_some r h]
    simp only [List.countP_append, List.countP_cons, hopen, hclosed, Outcome.next, ↓reduceIte,
      Window.fresh, Effect.isOpened, Effect.isClosed, Bool.false_eq_true]
    omega

theorem balanced_onMessage (m : Message) (w : Window) : (r.onMessage m w).Balanced w := by
  unfold onMessage
  split
  · split
    · exact balanced_settle (by simpa using ‹w.isOpen = true›) (by simp [‹w.isOpen = true›])
    · simp [Outcome.Balanced, Outcome.next]
  · split
    · exact balanced_settle rfl (by simp [Effect.isOpened, Effect.isClosed, ‹¬w.isOpen = true›])
    · simp [Outcome.Balanced, Outcome.next]

theorem balanced_onTick (d : Duration) (w : Window) : (r.onTick d w).Balanced w := by
  unfold onTick
  split
  · exact balanced_settle (by simpa using ‹w.isOpen = true›) (by simp [‹w.isOpen = true›])
  · simp [Outcome.Balanced, Outcome.next]

end Rule

namespace Outcome

/-- Storing an outcome under a stored key of an ordered map trades the stored window for the
window that follows. -/
theorem count_store_of_some (o : Outcome) {ws : KeyMap Window} (hws : ws.Ordered) {k : String}
    {w : Window} (hw : ws.get? k = some w) :
    (o.store ws k).count (·.isOpen) + (if w.isOpen then 1 else 0) =
      ws.count (·.isOpen) + if o.next.isOpen then 1 else 0 := by
  unfold store next
  split
  · simpa [Window.fresh] using KeyMap.count_erase_of_get?_eq_some hws hw (·.isOpen)
  · simpa using KeyMap.count_insert_of_get?_eq_some hws hw (·.isOpen) o.window

/-- Storing an outcome under a key with no window adds the window that follows. -/
theorem count_store_of_none (o : Outcome) {ws : KeyMap Window} {k : String}
    (hw : ws.get? k = none) :
    (o.store ws k).count (·.isOpen) = ws.count (·.isOpen) + if o.next.isOpen then 1 else 0 := by
  unfold store next
  split
  · simpa [Window.fresh] using KeyMap.count_erase_of_get?_eq_none hw (·.isOpen)
  · simpa using KeyMap.count_insert_of_get?_eq_none hw (·.isOpen) o.window

end Outcome

namespace Context

/-- A tick over stored keys reports as many openings, with the windows open before, as closings,
with the windows open after. -/
theorem opens_tickKeys (r : Rule) (d : Duration) :
    ∀ (ks : List String) (ws : KeyMap Window) (acc : List Effect), ws.Ordered →
      (tickKeys r d ks ws acc).2.countP Effect.isOpened + ws.count (·.isOpen) +
          acc.countP Effect.isClosed =
        (tickKeys r d ks ws acc).2.countP Effect.isClosed +
          (tickKeys r d ks ws acc).1.count (·.isOpen) + acc.countP Effect.isOpened
  | [], ws, acc, _ => by simp only [tickKeys]; omega
  | k :: rest, ws, acc, hws => by
    cases hw : ws.get? k with
    | none =>
      simp only [tickKeys, hw]
      exact opens_tickKeys r d rest ws acc hws
    | some w =>
      simp only [tickKeys, hw]
      have ih := opens_tickKeys r d rest _ (acc ++ (r.onTick d w).effects)
        ((r.onTick d w).ordered_store hws k)
      have hbal : (r.onTick d w).Balanced w := Rule.balanced_onTick d w
      have hstore := (r.onTick d w).count_store_of_some hws hw
      unfold Outcome.Balanced at hbal
      simp only [List.countP_append] at ih
      omega

/-- One request to a sound context reports as many openings, with the windows open before, as
closings, with the windows open after. -/
theorem opens_onRequest {c : Context} (hc : c.Sound) (q : Request) :
    (c.onRequest q).2.countP Effect.isOpened + c.openCount =
      (c.onRequest q).2.countP Effect.isClosed + (c.onRequest q).1.openCount := by
  cases c with
  | linear r w =>
    rw [linear_onRequest]
    have hbal : (r.outcome w q).Balanced w := by
      cases q with
      | message m => exact Rule.balanced_onMessage m w
      | timer d => exact Rule.balanced_onTick d w
      | exit => simp [Outcome.Balanced, Rule.outcome, Outcome.next]
      | other n => simp [Outcome.Balanced, Rule.outcome, Outcome.next]
    exact hbal
  | keyed r t n ws =>
    have hws : ws.Ordered := hc.1
    cases q with
    | message m =>
      show ((Context.keyed r t n ws).onMessage m).2.countP Effect.isOpened + ws.count (·.isOpen) =
        ((Context.keyed r t n ws).onMessage m).2.countP Effect.isClosed +
          ((Context.keyed r t n ws).onMessage m).1.openCount
      rcases keyed_onMessage_spec r t n ws m with h | h | ⟨k, o, -, -, hcase, h⟩ <;> rw [h]
      · simp [openCount]
      · simp [openCount, Effect.isOpened, Effect.isClosed]
      · rcases hcase with ⟨w, hw, rfl⟩ | ⟨hw, -, -, rfl⟩
        · have hbal := Rule.balanced_onMessage (r := r) m w
          have hstore := (r.onMessage m w).count_store_of_some hws hw
          unfold Outcome.Balanced at hbal
          simp only [openCount]
          omega
        · have hbal := Rule.balanced_onMessage (r := r) m Window.fresh
          have hstore := (r.onMessage m Window.fresh).count_store_of_none (k := k) hw
          unfold Outcome.Balanced at hbal
          have hfresh : Window.fresh.isOpen = false := rfl
          simp only [hfresh, Bool.false_eq_true, ↓reduceIte] at hbal
          simp only [openCount]
          omega
    | timer d =>
      have := opens_tickKeys r d ws.keys ws [] hws
      simp only [List.countP_nil] at this
      simpa [onRequest, onTick_keyed, openCount] using this
    | exit => rfl
    | other _ => rfl

/-- Along a run, a sound context reports as many openings, with the windows open at the start, as
closings, with the windows open at the end. -/
theorem opens_run {c : Context} (hc : c.Sound) (qs : List Request) :
    (c.reports qs).flatten.countP Effect.isOpened + c.openCount =
      (c.reports qs).flatten.countP Effect.isClosed + (c.after qs).openCount := by
  induction qs generalizing c with
  | nil => simp
  | cons q rest ih =>
    have hstep := opens_onRequest hc q
    have hrest := ih (hc.onRequest q)
    simp only [reports_cons, after_cons, List.flatten_cons, List.countP_append]
    omega

theorem Initial.openCount_eq_zero {c : Context} (h : c.Initial) : c.openCount = 0 := by
  cases c with
  | linear r w => cases h; rfl
  | keyed r t n ws => cases h; rfl

end Context

/-! ## The counters of one label -/

/-- The closing reasons, each once. -/
def ClosingReason.all : List ClosingReason := [.timeout, .maxSize, .renewTimeout, .lastCloses]

namespace Effect

variable (ℓ L : String)

/-- The windows-opened counter of a label counts the openings of contexts with that label. -/
theorem countP_counter_opened (effs : List Effect) :
    effs.countP (·.counter ℓ = ("correlog_windows_opened_total", [("context", L)])) =
      if ℓ = L then effs.countP isOpened else 0 := by
  induction effs with
  | nil => simp
  | cons e rest ih =>
    by_cases h : ℓ = L <;> cases e <;> simp_all [counter, isOpened, List.countP_cons]

/-- The windows-closed counters of a label, over every reason, count the closings of contexts
with that label. -/
theorem sum_countP_counter_closed (effs : List Effect) :
    (ClosingReason.all.map fun R => effs.countP
        (·.counter ℓ = ("correlog_windows_closed_total", [("context", L), ("reason", R.label)]))).sum =
      if ℓ = L then effs.countP isClosed else 0 := by
  induction effs with
  | nil => simp [ClosingReason.all]
  | cons e rest ih =>
    simp only [ClosingReason.all, List.map_cons, List.map_nil, List.sum_cons, List.sum_nil,
      List.countP_cons] at ih ⊢
    by_cases h : ℓ = L
    · cases e with
      | closed reason => cases reason <;> simp [counter, isClosed, ClosingReason.label, h] at ih ⊢ <;> omega
      | _ =>
        simp [counter, isClosed, h] at ih ⊢
        omega
    · cases e <;> simp [counter, h] at ih ⊢ <;> omega

/-- The alerts counter of a label counts the alerts of contexts with that label. -/
theorem countP_counter_alerts (effs : List Effect) :
    effs.countP (·.counter ℓ = ("correlog_alerts_total", [("context", L)])) =
      if ℓ = L then (effs.filterMap alert?).length else 0 := by
  induction effs with
  | nil => simp
  | cons e rest ih =>
    by_cases h : ℓ = L <;> cases e <;> simp_all [counter, alert?, List.filterMap_cons]

/-- The alerts and action-errors counters of a label together count the actions' results of
contexts with that label. -/
theorem countP_counter_results (effs : List Effect) :
    effs.countP (·.counter ℓ = ("correlog_alerts_total", [("context", L)])) +
        effs.countP (·.counter ℓ = ("correlog_action_errors_total", [("context", L)])) =
      if ℓ = L then effs.countP (·.actionResult.isSome) else 0 := by
  induction effs with
  | nil => simp
  | cons e rest ih =>
    by_cases h : ℓ = L <;> cases e <;> simp [counter, actionResult, h] at ih ⊢ <;>
      omega

end Effect

/-- A sum over the contexts of what only the contexts of one label contribute is a sum over those
contexts. -/
private theorem sum_map_label (L : String) (f : Context → Nat) (cs : List Context) :
    (cs.map fun c => if c.rule.label = L then f c else 0).sum =
      ((cs.filter (·.rule.label = L)).map f).sum := by
  rw [List.sum_map_ite]
  simp

/-- The counters agree with the windows. After any requests handled by the reactor, from contexts
as they are built and an empty set of counters, for every label: the windows opened are the windows
closed, summed over the reasons, and the windows the contexts of the label still hold open; the
alerts and failed actions are, summed over the contexts of the label, the number of actions times
the number of windows closed; and the alerts counted are the alert responses sent whose alert names
a context of the label. -/
theorem counters_agree_with_windows (cs : List Context) (hcs : ∀ c ∈ cs, c.Initial)
    (exit : ExitState) (qs : List Request) (L : String) :
    let run := ({ contexts := cs, exit, metrics := some {} } : Reactor).handleAll qs
    let m := run.1.metrics.getD {}
    run.1.metrics.isSome ∧
      m.get "correlog_windows_opened_total" [("context", L)] =
        (ClosingReason.all.map fun R =>
          m.get "correlog_windows_closed_total" [("context", L), ("reason", R.label)]).sum +
        ((run.1.contexts.filter (·.rule.label = L)).map Context.openCount).sum ∧
      m.get "correlog_alerts_total" [("context", L)] +
          m.get "correlog_action_errors_total" [("context", L)] =
        ((cs.filter (·.rule.label = L)).map fun c => c.rule.actions.length * c.closings qs).sum ∧
      m.get "correlog_alerts_total" [("context", L)] =
        (run.2.filterMap Response.alert?).countP (·.contextLabel = L) := by
  intro run m
  obtain ⟨mt, hmt, hget⟩ :=
    Reactor.handleAll_metrics { contexts := cs, exit, metrics := some {} } qs rfl
  have hm : m = mt := by simp [m, run, hmt]
  -- every counter of the label is a sum over the contexts of the label
  have hopened : m.get "correlog_windows_opened_total" [("context", L)] =
      ((cs.filter (·.rule.label = L)).map fun c =>
        (c.reports qs).flatten.countP Effect.isOpened).sum := by
    simp only [hm, hget, Metrics.get_empty, Nat.zero_add, Effect.countP_counter_opened,
      sum_map_label]
  have hclosed : (ClosingReason.all.map fun R =>
      m.get "correlog_windows_closed_total" [("context", L), ("reason", R.label)]).sum =
      ((cs.filter (·.rule.label = L)).map fun c => c.closings qs).sum := by
    have hswap := Multiset.sum_map_sum_map (ClosingReason.all : Multiset ClosingReason)
      (cs : Multiset Context) (f := fun R c => (c.reports qs).flatten.countP
        (·.counter c.rule.label = ("correlog_windows_closed_total",
          [("context", L), ("reason", R.label)])))
    simp only [Multiset.map_coe, Multiset.sum_coe] at hswap
    simp only [hm, hget, Metrics.get_empty, Nat.zero_add, hswap,
      Effect.sum_countP_counter_closed, sum_map_label, Context.closings]
  have hresults : m.get "correlog_alerts_total" [("context", L)] +
      m.get "correlog_action_errors_total" [("context", L)] =
      ((cs.filter (·.rule.label = L)).map fun c =>
        (c.reports qs).flatten.countP (·.actionResult.isSome)).sum := by
    simp only [hm, hget, Metrics.get_empty, Nat.zero_add, ← List.sum_map_add,
      Effect.countP_counter_results, sum_map_label]
  refine ⟨by simp [run, hmt], ?_, ?_, ?_⟩
  · -- each context opened the windows it closed and the windows it holds open
    have hnow : ((run.1.contexts.filter (·.rule.label = L)).map Context.openCount).sum =
        ((cs.filter (·.rule.label = L)).map fun c => (c.after qs).openCount).sum := by
      simp only [run, Reactor.handleAll_contexts, List.filter_map, List.map_map]
      congr 2
      exact List.filter_congr fun c _ => by simp [Context.rule_after]
    rw [hopened, hclosed, hnow, ← List.sum_map_add]
    congr 1
    refine List.map_congr_left fun c hc => ?_
    have hc' := hcs c (List.mem_of_mem_filter hc)
    have := Context.opens_run hc'.sound qs
    rw [hc'.openCount_eq_zero] at this
    simpa [Context.closings] using this
  · rw [hresults]
    congr 1
    refine List.map_congr_left fun c _ => ?_
    exact (Context.reports_run c qs).results
  · -- every alert a context reports names that context's label
    have hlabel : ∀ c : Context, ((c.reports qs).flatten.filterMap Effect.alert?).countP
        (·.contextLabel = L) =
        if c.rule.label = L then ((c.reports qs).flatten.filterMap Effect.alert?).length else 0 := by
      intro c
      have hall := (Context.reports_run c qs).labels
      split
      · exact List.countP_eq_length.2 fun a ha => by simp [hall a ha, ‹c.rule.label = L›]
      · exact List.countP_eq_zero.2 fun a ha => by simp [hall a ha, ‹¬c.rule.label = L›]
    simp only [run, Reactor.handleAll_alerts, hlabel, hm, hget, Metrics.get_empty, Nat.zero_add,
      Effect.countP_counter_alerts]

/-- A linear and a keyed context that share their name, both fed one message and one tick. -/
theorem shared_label_counted :
    let cs : List Context :=
      [.linear ⟨"w", Uuid.nil, { timeout := 1 }, []⟩ Window.fresh,
        .keyed ⟨"w", Uuid.nil, { timeout := 2 }, []⟩
          ⟨"context_id", "k", [("context_id", [.text 0 "k"])]⟩ 0 ∅]
    let qs : List Request := [.message ⟨"a", "", {}⟩, .timer 1]
    (∀ c ∈ cs, c.Initial) ∧
      let run := ({ contexts := cs, exit := ExitState.new 2, metrics := some {} } : Reactor).handleAll qs
      let m := run.1.metrics.getD {}
      run.1.metrics.isSome ∧
        m.get "correlog_windows_opened_total" [("context", "w")] =
          (ClosingReason.all.map fun R =>
            m.get "correlog_windows_closed_total" [("context", "w"), ("reason", R.label)]).sum +
          ((run.1.contexts.filter (·.rule.label = "w")).map Context.openCount).sum ∧
        m.get "correlog_alerts_total" [("context", "w")] +
            m.get "correlog_action_errors_total" [("context", "w")] =
          ((cs.filter (·.rule.label = "w")).map fun c =>
            c.rule.actions.length * c.closings qs).sum ∧
        m.get "correlog_alerts_total" [("context", "w")] =
          (run.2.filterMap Response.alert?).countP (·.contextLabel = "w") := by
  intro cs qs
  have hcs : ∀ c ∈ cs, c.Initial := by
    simp only [cs, List.mem_cons, List.not_mem_nil, or_false]
    rintro c (rfl | rfl) <;> rfl
  exact ⟨hcs, counters_agree_with_windows cs hcs (ExitState.new 2) qs "w"⟩

end Windowing
