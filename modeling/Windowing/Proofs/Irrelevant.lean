import Mathlib
import Windowing.Proofs.Counters

set_option autoImplicit false

/-! # Messages a context does not take

A message that a context's conditions do not accept leaves the context as it is, and the context
reports nothing (`Context.onMessage_of_not_accepts`). For a linear context this rests on every
opening message being accepted (`Conditions.accepts_of_isOpening`): a closed window is not opened
by such a message and an open one does not take it. A keyed context checks acceptance before it
renders the key, so no key is touched.

The reactor gives a message to its contexts one after another, each reporting to the counters the
one before left (`Reactor.fanOut_append`); a context that reports nothing passes them on untouched
(`Reactor.fanOut_cons_of_silent`). So a context that does not take the message is invisible: the
reactor with it, at any position, answers what the reactor without it answers (the same
responses, counters, exit state and other contexts), and keeps it as it was
(`irrelevant_message_invisible`). -/

namespace Windowing

namespace Context

/-- A message the conditions do not accept leaves a context as it is, and the context reports
nothing. -/
theorem onMessage_of_not_accepts (c : Context) {m : Message}
    (h : c.rule.conditions.accepts m = false) : c.onMessage m = (c, []) := by
  cases c with
  | linear r w =>
    -- a message that is not accepted does not open a window either
    have ho : r.conditions.isOpening m = false := by
      cases ho : r.conditions.isOpening m
      · rfl
      · have ha := Conditions.accepts_of_isOpening _ _ ho
        simp only [rule] at h
        rw [h] at ha
        cases ha
    have hout : r.onMessage m w = ⟨w, false, []⟩ := by
      cases hw : w.isOpen
      · exact Rule.onMessage_of_closed_of_not_opening hw ho
      · exact Rule.onMessage_of_open_of_not_accepts hw h
    simp [onMessage, hout, Outcome.next]
  | keyed r t n ws =>
    simp only [rule] at h
    simp [onMessage, h]

end Context

namespace Reactor

/-- The reactor with a context put among its contexts at a position. -/
def withContext (r : Reactor) (i : Nat) (c : Context) : Reactor :=
  { r with contexts := r.contexts.take i ++ c :: r.contexts.drop i }

@[simp]
theorem withContext_handlers (r : Reactor) (i : Nat) (c : Context) :
    (r.withContext i c).handlers = r.handlers := rfl

section FanOut

variable (step : Context → Context × List Effect)

/-- Giving a request to two runs of contexts in a row: the second run starts from the counters
the first one left. -/
theorem fanOut_append (cs₁ cs₂ : List Context) (m : Option Metrics) :
    fanOut step (cs₁ ++ cs₂) m =
      ((fanOut step cs₁ m).1 ++ (fanOut step cs₂ (fanOut step cs₁ m).2.1).1,
        (fanOut step cs₂ (fanOut step cs₁ m).2.1).2.1,
        (fanOut step cs₁ m).2.2 ++ (fanOut step cs₂ (fanOut step cs₁ m).2.1).2.2) := by
  induction cs₁ generalizing m with
  | nil => rfl
  | cons c rest ih => simp [fanOut, ih]

/-- A context that stays as it is and reports nothing leaves the counters and the responses to
the contexts after it. -/
theorem fanOut_cons_of_silent {c : Context} (hc : step c = (c, [])) (cs : List Context)
    (m : Option Metrics) :
    fanOut step (c :: cs) m = (c :: (fanOut step cs m).1, (fanOut step cs m).2) := by
  simp [fanOut, hc, report]

/-- Putting a context that stays as it is and reports nothing among the contexts changes
nothing else of what they answer. -/
theorem fanOut_insert_silent {c : Context} (hc : step c = (c, [])) (cs : List Context) (i : Nat)
    (m : Option Metrics) :
    fanOut step (cs.take i ++ c :: cs.drop i) m =
      ((fanOut step cs m).1.take i ++ c :: (fanOut step cs m).1.drop i, (fanOut step cs m).2) := by
  have hsplit : fanOut step cs m = fanOut step (cs.take i ++ cs.drop i) m := by
    rw [List.take_append_drop]
  rw [fanOut_append, fanOut_cons_of_silent step hc, hsplit, fanOut_append]
  -- the contexts are mapped one by one, so the position of the split carries over
  simp only [fanOut_contexts, List.map_take, List.map_drop, List.take_append_drop]

end FanOut

/-- Handling a message with a silent context among the contexts: the same answer, with the context
kept at its position. -/
theorem handle_withContext_of_silent (r : Reactor) (i : Nat) {c : Context} {m : Message}
    (hc : c.onMessage m = (c, [])) :
    (r.withContext i c).handle (.message m) =
      ((r.handle (.message m)).1.withContext i c, (r.handle (.message m)).2) := by
  simp only [handle, withContext]
  rw [fanOut_insert_silent (·.onMessage m) hc]

end Reactor

/-- A context that does not take a message is invisible. For every reactor (any contexts,
handlers, exit state and counters), every position and every context whose conditions do not
accept the message: the context stays as it is and reports nothing, and the reactor with the
context at that position answers the message as the reactor without it does, with the same
responses, counters and exit state, the other contexts handled alike and the context kept at its
position. -/
theorem irrelevant_message_invisible (r : Reactor) (i : Nat) (c : Context) {m : Message}
    (h : c.rule.conditions.accepts m = false) :
    c.onMessage m = (c, []) ∧
    (r.withContext i c).step (.message m) =
      ((r.step (.message m)).1.withContext i c, (r.step (.message m)).2) := by
  have hc := Context.onMessage_of_not_accepts c h
  refine ⟨hc, ?_⟩
  -- the request is counted alike with the context and without it
  have hcount : ∀ name labels,
      (r.withContext i c).count name labels = (r.count name labels).withContext i c :=
    fun _ _ => rfl
  have hhandlers : ∀ name labels, (r.count name labels).handlers = r.handlers := fun _ _ => rfl
  simp only [Reactor.step, HandlerKind.ofRequest, hcount, Reactor.withContext_handlers, hhandlers]
  cases hreg : r.handlers.has .message
  · rfl
  · exact Reactor.handle_withContext_of_silent _ i hc

/-- A message `b` offered to a reactor whose only context takes just `a`: the context is left
alone, and the reactor answers as one with no contexts. -/
theorem unmatched_message_invisible :
    (Context.linear ⟨"lin", Uuid.nil, { timeout := 10, patterns := ["a"] }, []⟩
        Window.fresh).rule.conditions.accepts ⟨"b", "", {}⟩ = false ∧
      (Context.linear ⟨"lin", Uuid.nil, { timeout := 10, patterns := ["a"] }, []⟩
          Window.fresh).onMessage ⟨"b", "", {}⟩ =
        (Context.linear ⟨"lin", Uuid.nil, { timeout := 10, patterns := ["a"] }, []⟩ Window.fresh, []) ∧
      (({ contexts := [], exit := ExitState.new 2 } : Reactor).withContext 0
          (Context.linear ⟨"lin", Uuid.nil, { timeout := 10, patterns := ["a"] }, []⟩
            Window.fresh)).step (.message ⟨"b", "", {}⟩) =
        ((({ contexts := [], exit := ExitState.new 2 } : Reactor).step
            (.message ⟨"b", "", {}⟩)).1.withContext 0
            (Context.linear ⟨"lin", Uuid.nil, { timeout := 10, patterns := ["a"] }, []⟩ Window.fresh),
          (({ contexts := [], exit := ExitState.new 2 } : Reactor).step (.message ⟨"b", "", {}⟩)).2) :=
  have h : (Context.linear ⟨"lin", Uuid.nil, { timeout := 10, patterns := ["a"] }, []⟩
      Window.fresh).rule.conditions.accepts ⟨"b", "", {}⟩ = false := by decide
  ⟨h, irrelevant_message_invisible { contexts := [], exit := ExitState.new 2 } 0 _ h⟩

end Windowing
