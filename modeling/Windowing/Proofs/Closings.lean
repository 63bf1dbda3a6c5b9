import Windowing.Proofs.TickGranularity

set_option autoImplicit false

/-! # What a closing looks like

Every request settles some windows of a context (`Context.settled`): a linear context its one
window, a keyed context the window of a message's key, or on a tick every stored window in key
order. What the context reports for the request is what those steps report, one after the other,
unless the key cap refuses the message, which is then all it reports (`settled_reports`).

A step that closes a window reports the closing, with its reason, right before what the actions give
on the closed window (`ClosingShape`). In every context a run reaches, the closed window holds at
least one message and no more than a positive size cap allows, and the reason fits the request
(`closings_well_formed`): a message closes a window by the size cap or by the last pattern, or by
the timeout exactly when the timeout is not positive, and a tick closes one only by one of the two
timeouts.

This follows from what each kind of step can change in a window that had no closing reason: a
message leaves the elapsed time alone and restarts the time since the last message, so no timeout
comes due; a tick leaves the messages alone, so neither the size cap nor the last pattern comes
due. A window opened by a message has no time behind it, so the timeout closes it at once exactly
when the timeout is not positive; and then no window ever stays open. -/

namespace Windowing

/-! ## The reasons -/

/-- What a closing reason says of a window under conditions `c`. -/
def ClosingReason.Holds (c : Conditions) (w : Window) : ClosingReason → Prop
  | .timeout => c.timeout ≤ w.elapsed
  | .maxSize => 0 < c.maxSize ∧ c.maxSize ≤ w.len
  | .renewTimeout => 0 < c.renewTimeout ∧ c.renewTimeout ≤ w.sinceLast
  | .lastCloses => c.lastCloses = true ∧ c.closesOnLast w = true

namespace Conditions

variable {c : Conditions} {w : Window}

/-- The reason a window must close holds of it. -/
theorem holds_of_closingReason_eq_some {reason : ClosingReason}
    (h : c.closingReason w = some reason) : reason.Holds c w := by
  unfold closingReason at h
  split_ifs at h with h₁ h₂ h₃ h₄ <;> cases h <;> simp_all [ClosingReason.Holds]

/-- The timeout is the reason exactly when it is due: it is checked first. -/
theorem closingReason_eq_timeout_iff :
    c.closingReason w = some .timeout ↔ c.timeout ≤ w.elapsed := by
  unfold closingReason
  split_ifs <;> simp_all

end Conditions

/-- An open window stays below a positive size cap. -/
theorem Window.Sound.len_lt_maxSize {c : Conditions} {w : Window} (hw : w.Sound c)
    (hmax : 0 < c.maxSize) : (w.len : Int) < c.maxSize := by
  obtain ⟨-, hsize, -, -⟩ := Conditions.closingReason_eq_none_iff.1 hw.unsettled
  exact Int.lt_of_not_ge fun hle => hsize ⟨hmax, hle⟩

/-- The reasons a request can close a window for: a message closes one by the size cap or the
last pattern, or by the timeout exactly when the timeout is not positive; a tick closes one by a
timeout; other requests close none. -/
def ClosingReason.FitsRequest (c : Conditions) : Request → ClosingReason → Prop
  | .message _, reason =>
    (reason = .maxSize ∨ reason = .lastCloses ∨ reason = .timeout) ∧
      (reason = .timeout ↔ c.timeout ≤ 0)
  | .timer _, reason => reason = .timeout ∨ reason = .renewTimeout
  | _, _ => False

/-! ## The shape of a closing -/

/-- What a step caused by request `q` looks like when it closes its window under rule `r`: the
closed window holds at least one message and no more than a positive size cap, and the step reports,
after at most the opening of the window, the closing with a reason that fits the request, and then
what the actions give on the closed window. -/
structure ClosingShape (r : Rule) (q : Request) (o : Outcome) : Prop where
  nonempty : 1 ≤ o.window.len
  withinCap : 0 < r.conditions.maxSize → (o.window.len : Int) ≤ r.conditions.maxSize
  reported : ∃ before reason, (before = [] ∨ before = [.opened]) ∧
    o.effects = before ++ .closed reason :: r.runActions o.window ∧
      reason.FitsRequest r.conditions q

namespace Rule

variable (r : Rule)

/-- A settled window that closes has the shape of a closing when its size fits and every reason it
could close for fits the request. -/
theorem closingShape_settle {w : Window} {before : List Effect} (q : Request)
    (hb : before = [] ∨ before = [.opened]) (hlen : 1 ≤ w.len)
    (hcap : 0 < r.conditions.maxSize → (w.len : Int) ≤ r.conditions.maxSize)
    (hfits : ∀ reason, r.conditions.closingReason w = some reason →
      reason.FitsRequest r.conditions q)
    (hclosed : (r.settle w before).closed = true) : ClosingShape r q (r.settle w before) := by
  rw [settle_closed, Option.isSome_iff_exists] at hclosed
  obtain ⟨reason, hreason⟩ := hclosed
  rw [settle_of_some r hreason]
  exact ⟨hlen, hcap, before, reason, hb, rfl, hfits reason hreason⟩

variable {r}

/-- A message that an open window takes closes it, if at all, by the size cap or the last pattern:
the elapsed time stays below a positive timeout, and the time since the last message restarts. -/
theorem closingShape_add {w : Window} (hw : w.Sound r.conditions)
    (hpos : 0 < r.conditions.timeout) (m : Message)
    (hclosed : (r.settle (w.add m) []).closed = true) :
    ClosingShape r (.message m) (r.settle (w.add m) []) := by
  obtain ⟨helapsed, -, -, -⟩ := Conditions.closingReason_eq_none_iff.1 hw.unsettled
  refine r.closingShape_settle _ (.inl rfl) ?_ (fun hmax => ?_) (fun reason h => ?_) hclosed
  · have := hw.nonempty
    simp [Window.len] at this ⊢
  · have hlt := hw.len_lt_maxSize hmax
    simp only [Window.len, Window.messages_add, List.length_append, List.length_singleton] at hlt ⊢
    omega
  · have hholds := Conditions.holds_of_closingReason_eq_some h
    have hnot : ¬ r.conditions.timeout ≤ 0 := Int64.not_le.2 hpos
    cases reason with
    | timeout =>
      have hdue : r.conditions.timeout ≤ w.elapsed := hholds
      exact absurd hdue (Int64.not_le.2 helapsed)
    | maxSize => exact ⟨.inl rfl, by simp [hnot]⟩
    | renewTimeout =>
      have hdue : r.conditions.renewTimeout ≤ 0 := hholds.2
      exact absurd hdue (Int64.not_le.2 hholds.1)
    | lastCloses => exact ⟨.inr (.inl rfl), by simp [hnot]⟩

/-- A message that opens a window closes it at once, if at all, by the size cap, the last pattern,
or the timeout exactly when it is not positive: the new window has no time behind it. -/
theorem closingShape_open (m : Message)
    (hclosed : (r.settle (Window.fresh.open_.add m) [.opened]).closed = true) :
    ClosingShape r (.message m) (r.settle (Window.fresh.open_.add m) [.opened]) := by
  refine r.closingShape_settle _ (.inr rfl) (by simp [Window.len]) (fun hmax => ?_)
    (fun reason h => ?_) hclosed
  · simp only [Window.len, Window.messages_add, List.length_append, List.length_singleton]
    simp only [Window.fresh, Window.open_, List.length_nil]
    omega
  -- a timeout that is not positive is due at once, and it is checked first
  have hdue : r.conditions.timeout ≤ 0 → reason = .timeout := fun hle =>
    Option.some.inj (h.symm.trans (Conditions.closingReason_eq_timeout_iff.2 hle))
  have hholds := Conditions.holds_of_closingReason_eq_some h
  cases reason with
  | timeout => exact ⟨.inr (.inr rfl), iff_of_true rfl hholds⟩
  | maxSize => exact ⟨.inl rfl, iff_of_false (by simp) fun hle => by cases hdue hle⟩
  | renewTimeout =>
    have hdue' : r.conditions.renewTimeout ≤ 0 := hholds.2
    exact absurd hdue' (Int64.not_le.2 hholds.1)
  | lastCloses => exact ⟨.inr (.inl rfl), iff_of_false (by simp) fun hle => by cases hdue hle⟩

/-- A tick closes an open window, if at all, by one of the two timeouts: the size cap and the last
pattern read the messages, which a tick leaves alone. -/
theorem closingShape_advance {w : Window} (hw : w.Sound r.conditions) (d : Duration)
    (hclosed : (r.settle (w.advance d) []).closed = true) :
    ClosingShape r (.timer d) (r.settle (w.advance d) []) := by
  obtain ⟨-, hsize, -, hlast⟩ := Conditions.closingReason_eq_none_iff.1 hw.unsettled
  refine r.closingShape_settle _ (.inl rfl) hw.nonempty
    (fun hmax => Int.le_of_lt (hw.len_lt_maxSize hmax)) (fun reason h => ?_) hclosed
  have hholds := Conditions.holds_of_closingReason_eq_some h
  cases reason with
  | timeout => exact .inl rfl
  | maxSize => exact absurd hholds hsize
  | renewTimeout => exact .inr rfl
  | lastCloses => exact absurd hholds hlast

end Rule

/-! ## The windows a request settles -/

namespace Context

/-- The window a keyed context offers a message to: the one stored under the message's key, or a
fresh one when the message may open a window and the key cap leaves room; none when the conditions
do not take the message, its key does not render, or no window may take it. -/
def keyedWindow (r : Rule) (t : Template.Tree) (n : Nat) (ws : KeyMap Window) (m : Message) :
    Option Window :=
  if r.conditions.accepts m then
    match keyOf t m with
    | .ok k =>
      match ws.get? k with
      | some w => some w
      | none =>
        if r.conditions.isOpening m = true ∧ ¬(0 < n ∧ n ≤ ws.size) then some Window.fresh
        else none
    | .error _ => none
  else none

/-- The windows a request settles in a context, as the outcomes of their steps, in the order the
context settles them: the one window of a linear context; the window a keyed context offers a
message to; every stored window of a keyed context on a tick, in key order. -/
def settled : Context → Request → List Outcome
  | .linear r w, q => [r.outcome w q]
  | .keyed r t n ws, .message m => ((keyedWindow r t n ws m).map (r.onMessage m)).toList
  | .keyed r _ _ ws, .timer d => ws.keys.filterMap (tickAt r d ws)
  | .keyed .., _ => []

/-- A window a keyed context offers a message to is taken by its conditions, and is the window
stored under some key, or a fresh one that the message may open. -/
theorem keyedWindow_eq_some {r : Rule} {t : Template.Tree} {n : Nat} {ws : KeyMap Window}
    {m : Message} {w : Window} (h : keyedWindow r t n ws m = some w) :
    r.conditions.accepts m = true ∧
      ((∃ k, ws.get? k = some w) ∨ (w = Window.fresh ∧ r.conditions.isOpening m = true)) := by
  unfold keyedWindow at h
  split at h
  · rename_i ha
    refine ⟨ha, ?_⟩
    split at h
    · rename_i k _
      split at h
      · rename_i hw
        cases h
        exact .inl ⟨k, hw⟩
      · split at h
        · rename_i hopen
          cases h
          exact .inr ⟨rfl, hopen.1⟩
        · cases h
    · cases h
  · cases h

/-- Walking the keys through a partial step gives what walking the steps that exist gives. -/
private theorem flatMap_filterMap_option {α β γ : Type} (l : List α) (f : α → Option β)
    (g : β → List γ) : (l.filterMap f).flatMap g = l.flatMap fun a => ((f a).map g).getD [] := by
  induction l with
  | nil => rfl
  | cons a rest ih => cases h : f a <;> simp [h, ih]

/-- A sound context reports for a request what the windows it settles report, in order, unless the
key cap refuses the message, which is then all it reports. -/
theorem settled_reports {c : Context} (hs : c.Sound) (q : Request) :
    (c.onRequest q).2 = (c.settled q).flatMap Outcome.effects ∨
      ((c.onRequest q).2 = [.rejected] ∧ c.settled q = []) := by
  cases c with
  | linear r w =>
    left
    rw [linear_onRequest]
    simp [settled]
  | keyed r t n ws =>
    cases q with
    | message m =>
      -- the cases follow the keyed context's checks: conditions, key, stored window, key cap
      cases ha : r.conditions.accepts m
      · left; simp [onRequest, onMessage, settled, keyedWindow, ha]
      cases hk : keyOf t m with
      | error e => left; simp [onRequest, onMessage, settled, keyedWindow, ha, hk]
      | ok k =>
        cases hw : ws.get? k with
        | some w => left; simp [onRequest, onMessage, settled, keyedWindow, ha, hk, hw]
        | none =>
          cases ho : r.conditions.isOpening m
          · left; simp [onRequest, onMessage, settled, keyedWindow, ha, hk, hw, ho]
          by_cases hcap : 0 < n ∧ n ≤ ws.size
          · right; simp [onRequest, onMessage, settled, keyedWindow, ha, hk, hw, ho, hcap]
          · left; simp [onRequest, onMessage, settled, keyedWindow, ha, hk, hw, ho, hcap]
    | timer d =>
      left
      rw [onRequest, onTick_keyed, (tickKeys_spec r d ws.keys ws [] hs.1.nodup_keys).2,
        List.nil_append]
      simp only [settled, flatMap_filterMap_option]
    | exit => exact .inl rfl
    | other _ => exact .inl rfl

end Context

/-! ## No window outlives a timeout that is not positive -/

/-- A window is open after a step only if one was open before it, or the step opened one, which a
timeout that is not positive would have closed at once. -/
theorem WindowStep.open_or_timeout_pos {c : Conditions} {admits : Message → Prop}
    {v : Option Window} {q : Request} {w : Window} (h : WindowStep c admits v q (some w)) :
    v.isSome ∨ 0 < c.timeout := by
  generalize hv' : some w = v' at h
  cases h with
  | closes => cases hv'
  | skips => exact .inl (hv' ▸ rfl)
  | exits => exact .inl (hv' ▸ rfl)
  | ignores => exact .inl (hv' ▸ rfl)
  | opens m _ _ hc => exact .inr (Conditions.closingReason_eq_none_iff.1 hc).1
  | adds => exact .inl rfl
  | ticks => exact .inl rfl

/-- A context only holds a window open when its timeout is positive. -/
theorem Context.timeout_pos_of_openAt (c : Context) (hc : c.Initial) (rs : List Request)
    {k : String} {w : Window} (hw : (c.after rs).openAt k = some w) :
    0 < c.rule.conditions.timeout := by
  induction rs using List.reverseRecOn generalizing w with
  | nil =>
    cases c with
    | linear r w₀ => cases hc; simp [Context.openAt, Window.view, Window.fresh] at hw
    | keyed r t n ws => cases hc; simp [Context.openAt] at hw
  | append_singleton rs q ih =>
    -- the window was open before the request, or the request opened it
    have hstep := (hc.sound.after rs).windowStep q k
    rw [Context.rule_after, ← Context.after_concat, hw] at hstep
    rcases hstep.open_or_timeout_pos with hbefore | hpos
    · obtain ⟨w₀, hw₀⟩ := Option.isSome_iff_exists.1 hbefore
      exact ih hw₀
    · exact hpos

/-! ## Every reachable closing -/

namespace Context

/-- In a sound context whose open windows have a positive timeout, every window a request settles
and closes has the shape of a closing. -/
theorem closingShape_settled {c : Context} (hs : c.Sound)
    (hpos : ∀ k w, c.openAt k = some w → 0 < c.rule.conditions.timeout) (q : Request) :
    ∀ o ∈ c.settled q, o.closed = true → ClosingShape c.rule q o := by
  intro o ho hclosed
  cases c with
  | linear r w =>
    obtain rfl : o = r.outcome w q := List.mem_singleton.1 ho
    have hpos' : w.isOpen = true → 0 < r.conditions.timeout := fun hopen =>
      hpos "" w (by simp [openAt, Window.view, hopen])
    cases q with
    | message m =>
      cases hopen : w.isOpen
      · -- a closed window is fresh, and only an opening message opens it
        obtain rfl := hs.2 hopen
        cases hop : r.conditions.isOpening m
        · simp [Rule.outcome, Rule.onMessage_of_closed_of_not_opening hopen hop] at hclosed
        · simp only [Rule.outcome, Rule.onMessage_of_closed hopen hop] at hclosed ⊢
          exact Rule.closingShape_open m hclosed
      · cases ha : r.conditions.accepts m
        · simp [Rule.outcome, Rule.onMessage_of_open_of_not_accepts hopen ha] at hclosed
        · simp only [Rule.outcome, Rule.onMessage_of_open hopen ha] at hclosed ⊢
          exact Rule.closingShape_add (hs.1 hopen) (hpos' hopen) m hclosed
    | timer d =>
      cases hopen : w.isOpen
      · simp [Rule.outcome, Rule.onTick_of_closed d hopen] at hclosed
      · simp only [Rule.outcome, Rule.onTick_of_open d hopen] at hclosed ⊢
        exact Rule.closingShape_advance (hs.1 hopen) d hclosed
    | exit => cases hclosed
    | other _ => cases hclosed
  | keyed r t n ws =>
    cases q with
    | message m =>
      obtain ⟨w, hw, rfl⟩ : ∃ w, keyedWindow r t n ws m = some w ∧ o = r.onMessage m w := by
        simpa [settled, eq_comm] using ho
      obtain ⟨ha, ⟨k, hk⟩ | ⟨rfl, hop⟩⟩ := keyedWindow_eq_some hw
      · -- the stored window of the key takes the message
        have hsound := (hs.2.1 k w hk).1
        rw [Rule.onMessage_of_open hsound.isOpen ha] at hclosed ⊢
        exact Rule.closingShape_add hsound (hpos k w hk) m hclosed
      · rw [Rule.onMessage_of_closed rfl hop] at hclosed ⊢
        exact Rule.closingShape_open m hclosed
    | timer d =>
      obtain ⟨k, -, hk⟩ := List.mem_filterMap.1 ho
      obtain ⟨w, hw, rfl⟩ := Option.map_eq_some_iff.1 hk
      have hsound := (hs.2.1 k w hw).1
      rw [Rule.onTick_of_open d hsound.isOpen] at hclosed ⊢
      exact Rule.closingShape_advance hsound d hclosed
    | exit => cases ho
    | other _ => cases ho

end Context

/-- What a closing looks like. For every context as built, every run and every request: the context
reports what the windows the request settles report, in order (or only the refusal of a message at
the key cap), and every window the request closes holds at least one message and no more than a
positive size cap, and is reported as closed, after at most its opening, for a reason that fits the
request, followed by what the actions give on it. A message closes a window by the size cap or the
last pattern, or by the timeout exactly when the timeout is not positive; a tick closes one by the
timeout or the renew timeout. -/
theorem closings_well_formed (c : Context) (hc : c.Initial) (rs : List Request) (q : Request) :
    let now := c.after rs
    ((now.onRequest q).2 = (now.settled q).flatMap Outcome.effects ∨
        ((now.onRequest q).2 = [.rejected] ∧ now.settled q = [])) ∧
      ∀ o ∈ now.settled q, o.closed = true → ClosingShape c.rule q o := by
  intro now
  have hs : now.Sound := hc.sound.after rs
  have hpos : ∀ k w, now.openAt k = some w → 0 < now.rule.conditions.timeout := by
    intro k w hw
    rw [Context.rule_after]
    exact Context.timeout_pos_of_openAt c hc rs hw
  have hshape := Context.closingShape_settled hs hpos q
  rw [Context.rule_after] at hshape
  exact ⟨Context.settled_reports hs q, hshape⟩

/-- A linear context with a size cap of two closes its window at the second message, by the size
cap, with both messages in it. -/
theorem second_message_closes_at_cap :
    let c : Context := .linear ⟨"lin", Uuid.nil, { timeout := 10, maxSize := 2 }, []⟩ Window.fresh
    let rs : List Request := [.message ⟨"a", "", {}⟩]
    let q : Request := .message ⟨"b", "", {}⟩
    let now := c.after rs
    c.Initial ∧
      ((now.onRequest q).2 = (now.settled q).flatMap Outcome.effects ∨
          ((now.onRequest q).2 = [.rejected] ∧ now.settled q = [])) ∧
        ∀ o ∈ now.settled q, o.closed = true → ClosingShape c.rule q o := by
  intro c rs q now
  exact ⟨rfl, closings_well_formed c rfl rs q⟩

end Windowing
