import Windowing.Proofs.Processes.Invariant

set_option autoImplicit false

/-! # The reactor, the pump and the injector keep the invariant

The reactor takes the requests in order and confirms the exit only on an exit request, which it
records in `confirmedAt`. The pump records what it did with each response it took, one delivery
per response; a delivery is recorded in one lemma (`hand`), whatever the handler, given what the
pump goes on to do (`PumpPc.Follows`). The re-injection wrapper then calls its next handler,
checks `quit` and queues; the injector takes what is queued and pushes it. -/

namespace Windowing.Processes

/-- A request that confirms the exit of a reactor whose exit is not confirmed is an exit
request. -/
theorem Reactor.eq_exit_of_confirmed {r : Reactor} {q : Request}
    (hr : r.exit.isConfirmed = false) (hq : (r.step q).1.exit.isConfirmed = true) : q = .exit := by
  have hexit : (r.step q).1.exit =
      if (Step.request q).confirms r.handlers then r.exit.confirm else r.exit :=
    (r.apply_request q).2
  cases q with
  | exit => rfl
  | _ => simp [hexit, Step.confirms, hr] at hq

/-- What the pump does right after it handed the response at place `p` on as `d`: take the next
response, run a handler, or run the re-injection wrapper on that very alert. -/
def PumpPc.Follows (p : Nat) (d : Delivery) : PumpPc → Prop
  | .taking | .calling | .callingPrev => d.toInject = none
  | .callingNext p' n a => p' = p ∧ d = .alert a (some (.reinject (some n)))
  | .checking p' m =>
    p' = p ∧ ∃ a, d = .alert a (some (.reinject none)) ∧ a.inject = true ∧ a.message = m
  | _ => False

/-- Right after a delivery, the pump is about to queue the message the delivery marks for
re-injection, if any. -/
theorem PumpPc.Follows.pending {p : Nat} {d : Delivery} {pc : PumpPc} (h : pc.Follows p d) :
    pc.pending = (d.toInject.map (p, ·)).toList := by
  cases pc with
  | taking | calling | callingPrev => simp [PumpPc.pending, show d.toInject = none from h]
  | callingNext p' n a =>
    obtain ⟨rfl, rfl⟩ := h
    cases ha : a.inject <;> simp [PumpPc.pending, Delivery.toInject, ha]
  | checking p' m =>
    obtain ⟨rfl, a, rfl, ha, rfl⟩ := h
    simp [PumpPc.pending, Delivery.toInject, ha]
  | queueing | waking | done => exact h.elim

/-- Recording one more delivery adds what it marks for re-injection, at its place, to the
flagged messages. -/
theorem State.flagged_of_deliveries {s s' : State} {d : Delivery}
    (hd : s'.deliveries = s.deliveries ++ [d]) :
    s'.flagged = s.flagged ++ (d.toInject.map (s.deliveries.length, ·)).toList := by
  unfold State.flagged
  rw [hd, List.zipIdx_append, List.filterMap_append, List.zipIdx_singleton]
  cases hd' : d.toInject <;> simp [hd']

/-- That an alert went to the wrapper stays true as deliveries are recorded after it and the
next handler is called on more alerts. -/
theorem State.Wrapped.mono {s s' : State} {p : Nat} {m : Message} (hw : s.Wrapped p m)
    (hd : s.deliveries <+: s'.deliveries) (hc : s.calledNext ⊆ s'.calledNext) :
    s'.Wrapped p m := by
  obtain ⟨a, next, hat, hinj, hmsg, hcalled⟩ := hw
  obtain ⟨t, ht⟩ := hd
  have hlt : p < s.deliveries.length := (List.getElem?_eq_some_iff.1 hat).1
  refine ⟨a, next, ?_, hinj, hmsg, fun n hn => hc (hcalled n hn)⟩
  rw [← ht, List.getElem?_append_left hlt]
  exact hat

namespace State.Inv

variable {s : State}

/-- The pump has made one delivery per response it took. -/
theorem length_deliveries (h : s.Inv) : s.deliveries.length = s.responses.received := by
  have hlen := congrArg List.length h.deliveries_eq
  have hle := s.responses.received_le
  simp only [List.length_map, List.length_take] at hlen
  omega

/-! ## The reactor -/

/-- The reactor takes the oldest request and works out what it answers. -/
theorem takeRequest (h : s.Inv) (hpc : s.reactorPc = .taking)
    (hconf : ¬s.reactor.exit.isConfirmed = true) {q : Request} {requests : Channel Request}
    (hrecv : s.requests.receive? = some (q, requests)) :
    ({ s with requests, reactorPc := .handling q (s.reactor.step q).2 (s.reactor.step q).1 } :
      State).Inv := by
  obtain ⟨hq, hsent, hrecd, -, -⟩ := Channel.receive?_eq_some hrecv
  exact { h with
    calls_ok := fun c hc => by rw [hsent]; exact h.calls_ok c hc
    exit_stopping := fun hx => h.exit_stopping (by rw [← hsent]; exact hx)
    handling := fun q' out after hr => by
      cases hr
      refine ⟨by rw [hrecd]; omega, ?_, rfl, by simpa using hconf⟩
      rw [hsent, hrecd]
      exact hq
    confirmedAt_exit := fun n hn => by rw [hsent]; exact h.confirmedAt_exit n hn
    confirmedAt_le := fun n hn => by rw [hrecd]; exact Nat.le_succ_of_le (h.confirmedAt_le n hn)
    done_confirmed := fun hd => by cases hd
    closed_done := fun hc => absurd (h.closed_done hc) (by simp [hpc])
    progress := h.progress.mono rfl id (fun hd => absurd hd (by simp [hpc])) id id id }

/-- The reactor sends one of its answers; the pump is not done, since the channel is open. -/
theorem sendAnswer (h : s.Inv) {q : Request} {resp : Response} {rest : List Response}
    {after : Reactor} (hpc : s.reactorPc = .handling q (resp :: rest) after)
    {responses : Channel Response} (hsend : s.responses.send? resp = some responses) :
    ({ s with responses, reactorPc := .handling q rest after } : State).Inv := by
  obtain ⟨hopen, -, hsent, hrecd, hclosed, -⟩ := Channel.send?_eq_some hsend
  have hle := s.responses.received_le
  exact { h with
    handling := fun q' out after' hr => by
      cases hr
      exact h.handling q (resp :: rest) after hpc
    done_confirmed := fun hd => by cases hd
    closed_done := fun hc => absurd (h.closed_done (by rw [← hclosed]; exact hc)) (by simp [hpc])
    deliveries_eq := by rw [hsent, hrecd, List.take_append_of_le_length hle]; exact h.deliveries_eq
    pump_done := fun hp => absurd (h.pump_done hp).1 (by simp [hopen])
    progress := h.progress.mono rfl id (fun hd => absurd hd (by simp [hpc]))
      (fun hc => by rw [hclosed]; exact hc) id id }

/-- The reactor is done with a request and takes on the reactor after it; when that confirms the
exit, the request was an exit request, and the reactor records how many requests it took. -/
theorem finishRequest (h : s.Inv) {q : Request} {after : Reactor}
    (hpc : s.reactorPc = .handling q [] after) :
    ({ s with
      reactor := after
      reactorPc := .taking
      confirmedAt := if after.exit.isConfirmed then some s.requests.received else s.confirmedAt } :
      State).Inv := by
  obtain ⟨h1, h2, h3, h4⟩ := h.handling q [] after hpc
  exact { h with
    handling := fun _ _ _ hr => by cases hr
    confirmedAt_exit := fun n hn => by
      by_cases hc : after.exit.isConfirmed = true
      · simp only [hc, if_true, Option.some.injEq] at hn
        subst hn
        rw [h3] at hc
        exact ⟨h1, by rw [h2, Reactor.eq_exit_of_confirmed h4 hc]⟩
      · simp only [hc, Bool.false_eq_true, if_false] at hn
        exact h.confirmedAt_exit n hn
    confirmedAt_le := fun n hn => by
      by_cases hc : after.exit.isConfirmed = true
      · simp only [hc, if_true, Option.some.injEq] at hn
        subst hn
        exact Nat.le_refl _
      · simp only [hc, Bool.false_eq_true, if_false] at hn
        exact h.confirmedAt_le n hn
    confirmed_at := fun hc => by simp [hc]
    done_confirmed := fun hd => by cases hd
    closed_done := fun hc => absurd (h.closed_done hc) (by simp [hpc])
    progress := h.progress.mono rfl (fun hc => absurd hc (by simp [h4]))
      (fun hd => absurd hd (by simp [hpc])) id id id }

/-- Every step of the reactor keeps the invariant. -/
theorem reactorStep (h : s.Inv) {s' : State} (hs : s.reactorStep = some s') : s'.Inv := by
  unfold State.reactorStep at hs
  split at hs
  · rename_i hpc
    split at hs
    · -- the exit is confirmed: the reactor is done
      rename_i hconf
      cases hs
      exact { h with
        handling := fun _ _ _ hr => by cases hr
        done_confirmed := fun _ => hconf
        closed_done := fun _ => rfl
        progress := h.progress.mono rfl id (fun _ => rfl) id id id }
    · rename_i hconf
      cases hrecv : s.requests.receive? with
      | none => simp [hrecv] at hs
      | some x =>
        obtain ⟨q, requests⟩ := x
        simp only [hrecv, Option.bind_eq_bind, Option.bind_some, Option.some.injEq] at hs
        subst hs
        exact h.takeRequest hpc hconf hrecv
  · rename_i q resp rest after hpc
    cases hsend : s.responses.send? resp with
    | none => simp [hsend] at hs
    | some responses =>
      simp only [hsend, Option.bind_eq_bind, Option.bind_some, Option.some.injEq] at hs
      subst hs
      exact h.sendAnswer hpc hsend
  · rename_i q after hpc
    cases hs
    exact h.finishRequest hpc
  · cases hs

/-! ## The pump -/

/-- The pump hands the response it took on: it records the delivery, counts it if it drops an
alert, and goes on as the delivery asks. -/
theorem hand (h : s.Inv) (hpump : s.pump = .taking) {resp : Response}
    {responses : Channel Response} (hrecv : s.responses.receive? = some (resp, responses))
    (d : Delivery) (hd : d.response = resp) (pc : PumpPc)
    (hpc : pc.Follows s.responses.received d) (hprev : pc = .callingPrev → s.stopping = true)
    {dropped : Option Metrics}
    (hdropped : ∀ mt', dropped = some mt' → ∃ mt, s.dropped = some mt ∧
      mt'.get "correlog_responses_dropped_total" [("kind", "alert")] =
        mt.get "correlog_responses_dropped_total" [("kind", "alert")] +
          if d.isDroppedAlert then 1 else 0) :
    ({ s with responses, deliveries := s.deliveries ++ [d], pump := pc, dropped } : State).Inv := by
  obtain ⟨hat, hsent, hrecd, hclosed, -⟩ := Channel.receive?_eq_some hrecv
  have hlen := h.length_deliveries
  have hflag : ({ s with responses, deliveries := s.deliveries ++ [d], pump := pc, dropped } :
      State).flagged = s.flagged ++ (d.toInject.map (s.responses.received, ·)).toList := by
    rw [← hlen]
    exact State.flagged_of_deliveries rfl
  have hnew : (s.deliveries ++ [d])[s.responses.received]? = some d := by simp [← hlen]
  exact { h with
    closed_done := fun hc => h.closed_done (by rw [← hclosed]; exact hc)
    deliveries_eq := by
      rw [List.map_append, h.deliveries_eq, hsent, hrecd, List.take_add_one, hat]
      simp [hd]
    pump_done := fun (hp : pc = .done) => by subst hp; exact hpc.elim
    dropped_eq := fun mt' hmt' => by
      obtain ⟨mt, hmt, heq⟩ := hdropped mt' hmt'
      rw [heq, h.dropped_eq mt hmt, List.countP_append, List.countP_singleton]
    callingNext_delivered := fun p n a (hp : pc = .callingNext p n a) => by
      subst hp
      obtain ⟨rfl, rfl⟩ := hpc
      exact hnew
    callingPrev_stopping := hprev
    wrapped := fun p m hp => by
      rcases hp with (hp : pc = .checking p m) | (hp : pc = .queueing p m)
      · subst hp
        obtain ⟨rfl, a, rfl, hinj, hmsg⟩ := hpc
        exact ⟨a, none, hnew, hinj, hmsg, by simp⟩
      · subst hp
        exact hpc.elim
    queued_wrapped := fun e he =>
      (h.queued_wrapped e he).mono ⟨[d], rfl⟩ (List.Subset.refl _)
    progress := h.progress.mono rfl id id (fun hc => by rw [hclosed]; exact hc)
      (fun hp => absurd hp (by simp [hpump])) id
    flagged_open := fun hq => by
      rw [hflag, h.flagged_open hq, hpump, hpc.pending]
      simp [PumpPc.pending]
    flagged_queueing := fun p m (hp : pc = .queueing p m) => by subst hp; exact hpc.elim
    queued_prefix := by
      rw [hflag]
      exact h.queued_prefix.trans (List.prefix_append _ _) }

/-- The exit confirmation spawns, once, the goroutine that sends the second exit request; the
correlator is stopping by then. -/
theorem confirmOnce (h : s.Inv) (hstop : s.stopping = true) : (State.confirmOnce s).Inv := by
  unfold State.confirmOnce
  split
  · exact { h with confirmer_stopping := fun _ => hstop }
  · exact h

/-- The pump takes a response and hands it to the handler registered for its kind, or drops it
and counts it. -/
theorem pumpTake (h : s.Inv) (hpump : s.pump = .taking) {resp : Response}
    {responses : Channel Response} (hrecv : s.responses.receive? = some (resp, responses)) :
    ({ s with responses }.deliver s.responses.received resp).Inv := by
  -- a delivery that drops no alert leaves the count of dropped alerts as it was
  have hkeep : ∀ {d : Delivery}, d.isDroppedAlert = false → ∀ mt', s.dropped = some mt' →
      ∃ mt, s.dropped = some mt ∧
        mt'.get "correlog_responses_dropped_total" [("kind", "alert")] =
          mt.get "correlog_responses_dropped_total" [("kind", "alert")] +
            if d.isDroppedAlert then 1 else 0 :=
    fun hd mt' hmt' => ⟨mt', hmt', by simp [hd]⟩
  have hquiet : ∀ {d : Delivery}, d.toInject = none → s.pump.Follows s.responses.received d :=
    fun hd => by rw [hpump]; exact hd
  cases resp with
  | alert a =>
    simp only [State.deliver]
    split
    · refine h.hand hpump hrecv (.alert a none) rfl s.pump (hquiet rfl) (by simp [hpump])
        fun mt' hmt' => ?_
      obtain ⟨mt, hmt, rfl⟩ := Option.map_eq_some_iff.1 hmt'
      exact ⟨mt, hmt, by simp [Metrics.get_inc, Delivery.isDroppedAlert]⟩
    · rename_i id _
      exact h.hand hpump hrecv (.alert a (some (.own id))) rfl .calling rfl (by simp) (hkeep rfl)
    · split
      · rename_i n _
        exact h.hand hpump hrecv (.alert a (some (.reinject (some n)))) rfl (.callingNext _ n a)
          ⟨rfl, rfl⟩ (by simp) (hkeep rfl)
      · unfold afterNext
        split
        · rename_i hinj
          exact h.hand hpump hrecv (.alert a (some (.reinject none))) rfl (.checking _ a.message)
            ⟨rfl, a, rfl, hinj, rfl⟩ (by simp) (hkeep rfl)
        · rename_i hinj
          exact h.hand hpump hrecv (.alert a (some (.reinject none))) rfl .taking
            (by simp [PumpPc.Follows, Delivery.toInject, hinj]) (by simp) (hkeep rfl)
  | exit =>
    simp only [State.deliver]
    split
    · refine h.hand hpump hrecv (.exit none) rfl s.pump (hquiet rfl) (by simp [hpump])
        fun mt' hmt' => ?_
      obtain ⟨mt, hmt, rfl⟩ := Option.map_eq_some_iff.1 hmt'
      exact ⟨mt, hmt, by simp [Metrics.get_inc, Delivery.isDroppedAlert]⟩
    · rename_i id _
      exact h.hand hpump hrecv (.exit (some (.own id))) rfl .calling rfl (by simp) (hkeep rfl)
    · rename_i prev hh
      have hstop := h.exitHandler_stopping prev hh
      split
      · rename_i id
        exact h.hand hpump hrecv (.exit (some (.confirm (some id)))) rfl .callingPrev rfl
          (fun _ => hstop) (hkeep rfl)
      · exact (h.hand hpump hrecv (.exit (some (.confirm none))) rfl s.pump (hquiet rfl)
          (by simp [hpump]) (hkeep rfl)).confirmOnce hstop

/-- The pump moves to a place where it queues nothing and runs no wrapper, from one where it had
nothing about to be queued while the correlator runs. -/
theorem setPumpQuiet (h : s.Inv) {pc : PumpPc}
    (hquiet : pc = .taking ∨ pc = .calling ∨ pc = .waking)
    (hpending : s.quit = false → s.pump.pending = []) (hdone : s.pump ≠ .done) :
    ({ s with pump := pc } : State).Inv := by
  have hpc : pc.pending = [] := by rcases hquiet with rfl | rfl | rfl <;> rfl
  exact { h with
    pump_done := fun (hp : pc = .done) => by rcases hquiet with rfl | rfl | rfl <;> cases hp
    callingNext_delivered := fun p n a (hp : pc = .callingNext p n a) => by
      rcases hquiet with rfl | rfl | rfl <;> cases hp
    callingPrev_stopping := fun (hp : pc = .callingPrev) => by
      rcases hquiet with rfl | rfl | rfl <;> cases hp
    wrapped := fun p m hp => by
      rcases hp with hp | hp <;> rcases hquiet with rfl | rfl | rfl <;> cases hp
    flagged_open := fun hq => by
      show s.flagged = s.queued ++ pc.pending
      rw [h.flagged_open hq, hpending hq, hpc]
    flagged_queueing := fun p m (hp : pc = .queueing p m) => by
      rcases hquiet with rfl | rfl | rfl <;> cases hp
    progress := h.progress.mono rfl id id id (fun hp => absurd hp hdone) id }

/-- The re-injection wrapper's next handler returns on the alert at place `p`; the wrapper goes
on to check, for an alert marked for re-injection, and returns otherwise. -/
theorem callNext (h : s.Inv) {p n : Nat} {a : Alert} (hpump : s.pump = .callingNext p n a) :
    ({ s with calledNext := s.calledNext ++ [p], pump := afterNext p a } : State).Inv := by
  have hdel := h.callingNext_delivered p n a hpump
  -- the alerts the wrapper ran its next handler on only grow
  have hqueued : ∀ e ∈ s.queued,
      ({ s with calledNext := s.calledNext ++ [p] } : State).Wrapped e.1 e.2 := fun e he =>
    (h.queued_wrapped e he).mono (List.prefix_refl _) (List.subset_append_left _ _)
  unfold afterNext
  split
  · rename_i hinj
    exact { h with
      pump_done := fun hp => by cases hp
      callingNext_delivered := fun _ _ _ hp => by cases hp
      callingPrev_stopping := fun hp => by cases hp
      wrapped := fun p' m hp => by
        rcases hp with hp | hp <;> cases hp
        exact ⟨a, some n, hdel, hinj, rfl, fun _ _ => by simp⟩
      queued_wrapped := hqueued
      flagged_open := fun hq =>
        (h.flagged_open hq).trans (by rw [hpump]; simp [PumpPc.pending, hinj])
      flagged_queueing := fun _ _ hp => by cases hp
      progress := h.progress.mono rfl id id id (fun hp => absurd hp (by simp [hpump])) id }
  · rename_i hinj
    have hh : ({ s with calledNext := s.calledNext ++ [p] } : State).Inv :=
      { h with
        queued_wrapped := hqueued
        wrapped := fun p' m hp => by rw [hpump] at hp; rcases hp with hp | hp <;> cases hp }
    exact hh.setPumpQuiet (.inl rfl) (fun _ => by simp [hpump, PumpPc.pending, hinj])
      (by simp [hpump])

/-- The re-injection wrapper checks whether the correlator is stopping: it returns if so, and
goes on to queue the message otherwise. -/
theorem checkQuit (h : s.Inv) {p : Nat} {m : Message} (hpump : s.pump = .checking p m) :
    ({ s with pump := if s.quit then .taking else .queueing p m } : State).Inv := by
  split
  · rename_i hquit
    exact h.setPumpQuiet (.inl rfl) (fun hq => by simp [hquit] at hq) (by simp [hpump])
  · rename_i hquit
    have hopen : s.quit = false := by simpa using hquit
    exact { h with
      pump_done := fun hp => by cases hp
      callingNext_delivered := fun _ _ _ hp => by cases hp
      callingPrev_stopping := fun hp => by cases hp
      wrapped := fun p' m' hp => by
        rcases hp with hp | hp <;> cases hp
        exact h.wrapped p m (.inl hpump)
      flagged_open := fun hq => (h.flagged_open hq).trans (by rw [hpump]; rfl)
      flagged_queueing := fun p' m' hp => by
        cases hp
        exact (h.flagged_open hopen).trans (by rw [hpump]; rfl)
      progress := h.progress.mono rfl id id id (fun hp => absurd hp (by simp [hpump])) id }

/-- The re-injection wrapper queues the message of the alert at place `p`, the next one the
injector has to take. -/
theorem queueMessage (h : s.Inv) {p : Nat} {m : Message} (hpump : s.pump = .queueing p m) :
    ({ s with queued := s.queued ++ [(p, m)], pump := .waking } : State).Inv := by
  have hw := h.wrapped p m (.inr hpump)
  have hflag := h.flagged_queueing p m hpump
  exact { h with
    pump_done := fun hp => by cases hp
    callingNext_delivered := fun _ _ _ hp => by cases hp
    callingPrev_stopping := fun hp => by cases hp
    wrapped := fun _ _ hp => by rcases hp with hp | hp <;> cases hp
    queued_wrapped := fun e he => by
      rcases List.mem_append.1 he with he | he
      · exact h.queued_wrapped e he
      · rw [List.mem_singleton.1 he]
        exact hw
    taken_le := by simp only [List.length_append]; have := h.taken_le; omega
    flagged_open := fun _ => hflag.trans (List.append_nil _).symm
    flagged_queueing := fun _ _ hp => by cases hp
    queued_prefix := by
      show s.queued ++ [(p, m)] <+: s.flagged
      exact hflag ▸ List.prefix_refl _
    injector_agrees := injectorAgrees_of_queued h.injector_agrees rfl rfl
      (List.take_append_of_le_length h.taken_le)
    progress := h.progress.mono rfl id id id (fun hp => absurd hp (by simp [hpump])) id }

/-- Every step of the pump keeps the invariant. -/
theorem pumpStep (h : s.Inv) {s' : State} (hs : s.pumpStep = some s') : s'.Inv := by
  unfold State.pumpStep at hs
  split at hs
  · rename_i hpump
    split at hs
    · rename_i resp responses hrecv
      cases hs
      exact h.pumpTake hpump hrecv
    · -- nothing left and the channel closed: the pump is done
      rename_i hrecv
      split at hs
      · rename_i hclosed
        cases hs
        exact { h with
          pump_done := fun _ => ⟨hclosed, Channel.receive?_eq_none.1 hrecv⟩
          callingNext_delivered := fun _ _ _ hp => by cases hp
          callingPrev_stopping := fun hp => by cases hp
          wrapped := fun _ _ hp => by rcases hp with hp | hp <;> cases hp
          flagged_open := fun hq => (h.flagged_open hq).trans (by rw [hpump]; rfl)
          flagged_queueing := fun _ _ hp => by cases hp
          progress := h.progress.mono rfl id id id (fun _ => rfl) id }
      · cases hs
  · rename_i hpump
    cases hs
    exact h.setPumpQuiet (.inl rfl) (fun _ => by rw [hpump]; rfl) (by simp [hpump])
  · rename_i p n a hpump
    cases hs
    exact h.callNext hpump
  · rename_i p m hpump
    cases hs
    exact h.checkQuit hpump
  · rename_i p m hpump
    cases hs
    exact h.queueMessage hpump
  · -- the wrapper wakes the injector
    rename_i hpump
    cases hs
    exact ({ h with } : ({ s with wake := true } : State).Inv).setPumpQuiet (.inl rfl)
      (fun _ => by rw [hpump]; rfl) (by simp [hpump])
  · -- the exit confirmation runs the exit handler it wraps, then its once
    rename_i hpump
    cases hs
    exact (h.setPumpQuiet (.inl rfl) (fun _ => by rw [hpump]; rfl) (by simp [hpump])).confirmOnce
      (h.callingPrev_stopping hpump)
  · cases hs

/-! ## The injector -/

/-- While the injector is not inside a push, every push of its has returned. -/
theorem returned_of_origin (h : s.Inv) (hinj : ∀ e rest k, s.injector ≠ .awaiting e rest k) :
    ∀ (k : Nat) c, s.pushes[k]? = some c → c.origin.isSome → ∃ r, c.pc = .returned r :=
  fun k c hk ho => (h.origin_returned k c hk ho).resolve_right fun ⟨e, rest, hw⟩ => hinj e rest k hw

/-- The injector begins to push the next message of its batch. -/
theorem pushNext (h : s.Inv) {e : Nat × Message} {rest : List (Nat × Message)}
    (hinj : s.injector = .pushing (e :: rest)) :
    ({ s with
      pushes := s.pushes ++ [s.newPush (some e.2) (some e)]
      injector := .awaiting e rest s.pushes.length } : State).Inv := by
  have ha := h.injector_agrees
  unfold State.InjectorAgrees at ha
  rw [hinj] at ha
  obtain ⟨h1, h2⟩ := ha
  have hret := h.returned_of_origin (by simp [hinj])
  have hcalls : (s.pushes ++ [s.newPush (some e.2) (some e)]).filterMap PushCall.origin =
      s.injectorCalls ++ [e] := by simp [State.injectorCalls]
  have hre : (s.pushes ++ [s.newPush (some e.2) (some e)]).filterMap PushCall.pushedOrigin =
      s.reinjected := by simp [State.reinjected]
  exact { h with
    readers_eq := by
      rw [List.countP_append, h.readers_eq]
      simp
    calls_ok := fun c hc => by
      rcases List.mem_append.1 hc with hc | hc
      · exact h.calls_ok c hc
      · rw [List.mem_singleton.1 hc]
        exact h.newPush_ok fun e' he' => by cases he'; rfl
    injector_agrees := by
      refine ⟨?_, ?_, ⟨s.newPush (some e.2) (some e), by simp, rfl⟩, fun k c hk _ => ?_⟩
      · show (s.pushes ++ _).filterMap PushCall.origin ++ rest = s.queued.take s.taken
        rw [hcalls, List.append_assoc]
        exact h1
      · show (s.pushes ++ _).filterMap PushCall.pushedOrigin ++ [e] =
          (s.pushes ++ _).filterMap PushCall.origin
        rw [hcalls, hre, h2]
      · have := (List.getElem?_eq_some_iff.1 hk).1
        simp only [List.length_append, List.length_singleton] at this
        omega
    origin_returned := fun k c hk ho => by
      rw [List.getElem?_append] at hk
      split at hk
      · exact .inl (hret k c hk ho)
      · rename_i hk'
        have hlt := (List.getElem?_eq_some_iff.1 hk).1
        simp only [List.length_singleton] at hlt
        have hk : k = s.pushes.length := by omega
        subst hk
        exact .inr ⟨e, rest, rfl⟩
    progress := h.progress.mono rfl id id id id fun hd => absurd hd (by simp [hinj]) }

/-- The injector moves between places outside any push, the pushes as they were: the queue it
agrees with is all there is to show. -/
theorem moveInjector (h : s.Inv) (hout : ∀ e rest k, s.injector ≠ .awaiting e rest k)
    {taken : Nat} {wake : Bool} {inj : InjectorPc} (hle : taken ≤ s.queued.length)
    (ha : ({ s with taken, wake, injector := inj } : State).InjectorAgrees)
    (hdone : s.injector = .done → inj = .done) :
    ({ s with taken, wake, injector := inj } : State).Inv :=
  { h with
    taken_le := hle
    injector_agrees := ha
    origin_returned := fun k c hk ho => .inl (h.returned_of_origin hout k c hk ho)
    progress := h.progress.mono rfl id id id id hdone }

/-- Every step of the injector keeps the invariant. -/
theorem injectorStep (h : s.Inv) {c : Case} {s' : State} (hs : s.injectorStep c = some s') :
    s'.Inv := by
  have ha := h.injector_agrees
  unfold State.InjectorAgrees at ha
  unfold State.injectorStep at hs
  split at hs
  · rename_i hinj
    rw [hinj] at ha
    obtain ⟨h1, h2⟩ := ha
    have hout : ∀ e rest k, s.injector ≠ .awaiting e rest k := by simp [hinj]
    split at hs
    · -- woken
      split at hs
      · cases hs
        exact h.moveInjector hout h.taken_le ⟨h1, h2⟩ fun hd => absurd hd (by simp [hinj])
      · cases hs
    · -- `quit` is closed: the injector drops what is queued and is done
      split at hs
      · cases hs
        refine h.moveInjector hout (Nat.le_refl _) ?_ fun _ => rfl
        show s.reinjected <+: s.injectorCalls ∧ s.injectorCalls <+: s.queued.take s.queued.length
        rw [h2, h1, List.take_length]
        exact ⟨List.prefix_refl _, List.take_prefix _ _⟩
      · cases hs
    · cases hs
  · -- woken: the injector takes what was queued since it last took
    rename_i hinj
    rw [hinj] at ha
    obtain ⟨h1, h2⟩ := ha
    cases hs
    refine h.moveInjector (by simp [hinj]) (Nat.le_refl _) ?_ fun hd => absurd hd (by simp [hinj])
    show s.injectorCalls ++ s.queued.drop s.taken = s.queued.take s.queued.length ∧
      s.reinjected = s.injectorCalls
    rw [h1, List.take_append_drop, List.take_length]
    exact ⟨rfl, h2.trans h1⟩
  · -- the batch is pushed
    rename_i hinj
    rw [hinj] at ha
    obtain ⟨h1, h2⟩ := ha
    cases hs
    rw [List.append_nil] at h1
    exact h.moveInjector (by simp [hinj]) h.taken_le ⟨h1, h2⟩ fun hd => absurd hd (by simp [hinj])
  · rename_i e rest hinj
    cases hs
    exact h.pushNext hinj
  · cases hs
  · cases hs

end State.Inv

end Windowing.Processes
