import Windowing.Reactor
import Windowing.Proofs.KeyMap

set_option autoImplicit false

/-! # How a context handles a request

A context sees the reactor's requests one at a time: a message goes to `Context.onMessage`, a
clock tick to `Context.onTick`, and an exit or an unknown request leaves it alone
(`Context.onRequest`). `Context.after` is the context at the end of a sequence of requests and
`Context.reports` what it reported for each of them.

Below each step of a rule gets its spec lemma, so that later proofs never unfold `Rule.settle`,
`Rule.onMessage` or `Rule.onTick`: the outcome of a step is a settled window, and a settled window
is kept exactly when no closing reason holds. For a keyed context the window of one key is what
`KeyMap.get?` answers for it: storing an outcome keeps the window under its key or forgets the key,
and a tick walks the stored keys, so on an ordered map every stored key is ticked once, in key
order, and no other key is touched. -/

namespace Windowing

/-- A context's answer to one request: messages and clock ticks are handled, every other request
leaves the context as it is. -/
def Context.onRequest (c : Context) : Request → Context × List Effect
  | .message m => c.onMessage m
  | .timer d => c.onTick d
  | _ => (c, [])

namespace Context

/-- The context after a sequence of requests. -/
def after (c : Context) (rs : List Request) : Context :=
  rs.foldl (fun c q => (c.onRequest q).1) c

/-- What a context reports for each request of a sequence, in order. -/
def reports : Context → List Request → List (List Effect)
  | _, [] => []
  | c, q :: rest => (c.onRequest q).2 :: reports (c.onRequest q).1 rest

@[simp]
theorem after_nil (c : Context) : c.after [] = c := rfl

@[simp]
theorem after_cons (c : Context) (q : Request) (rs : List Request) :
    c.after (q :: rs) = (c.onRequest q).1.after rs := rfl

theorem after_append (c : Context) (rs rs' : List Request) :
    c.after (rs ++ rs') = (c.after rs).after rs' :=
  List.foldl_append

theorem after_concat (c : Context) (rs : List Request) (q : Request) :
    c.after (rs ++ [q]) = ((c.after rs).onRequest q).1 := by
  rw [after_append]; rfl

@[simp]
theorem reports_nil (c : Context) : c.reports [] = [] := rfl

@[simp]
theorem reports_cons (c : Context) (q : Request) (rs : List Request) :
    c.reports (q :: rs) = (c.onRequest q).2 :: (c.onRequest q).1.reports rs := rfl

/-- A linear context stays linear under its rule. -/
theorem onRequest_linear (r : Rule) (w : Window) (q : Request) :
    ∃ w', ((Context.linear r w).onRequest q).1 = .linear r w' := by
  cases q <;> exact ⟨_, rfl⟩

end Context

/-! ## Settling a window -/

namespace Rule

variable (r : Rule)

/-- A window with no closing reason is kept as it is. -/
theorem settle_of_none {w : Window} (h : r.conditions.closingReason w = none)
    (before : List Effect) : r.settle w before = ⟨w, false, before⟩ := by
  simp [settle, h]

/-- A window with a closing reason is closed, and every action runs on it. -/
theorem settle_of_some {w : Window} {reason : ClosingReason}
    (h : r.conditions.closingReason w = some reason) (before : List Effect) :
    r.settle w before = ⟨w.close, true, before ++ .closed reason :: r.runActions w⟩ := by
  simp [settle, h]

@[simp]
theorem settle_closed (w : Window) (before : List Effect) :
    (r.settle w before).closed = (r.conditions.closingReason w).isSome := by
  cases h : r.conditions.closingReason w <;> simp [settle, h]

@[simp]
theorem settle_messages (w : Window) (before : List Effect) :
    (r.settle w before).window.messages = w.messages := by
  cases h : r.conditions.closingReason w <;> simp [settle, h, Window.close]

/-! ## One step of a window -/

variable {r}

theorem onMessage_of_open {w : Window} {m : Message} (hw : w.isOpen = true)
    (ha : r.conditions.accepts m = true) : r.onMessage m w = r.settle (w.add m) [] := by
  simp [onMessage, hw, ha]

theorem onMessage_of_open_of_not_accepts {w : Window} {m : Message} (hw : w.isOpen = true)
    (ha : r.conditions.accepts m = false) : r.onMessage m w = ⟨w, false, []⟩ := by
  simp [onMessage, hw, ha]

theorem onMessage_of_closed {w : Window} {m : Message} (hw : w.isOpen = false)
    (ho : r.conditions.isOpening m = true) :
    r.onMessage m w = r.settle (w.open_.add m) [.opened] := by
  simp [onMessage, hw, ho]

theorem onMessage_of_closed_of_not_opening {w : Window} {m : Message} (hw : w.isOpen = false)
    (ho : r.conditions.isOpening m = false) : r.onMessage m w = ⟨w, false, []⟩ := by
  simp [onMessage, hw, ho]

theorem onTick_of_open {w : Window} (d : Duration) (hw : w.isOpen = true) :
    r.onTick d w = r.settle (w.advance d) [] := by
  simp [onTick, hw]

theorem onTick_of_closed {w : Window} (d : Duration) (hw : w.isOpen = false) :
    r.onTick d w = ⟨w, false, []⟩ := by
  simp [onTick, hw]

end Rule

/-! ## Storing an outcome -/

/-- The window an outcome keeps open, if it is not closed. -/
def Outcome.kept (o : Outcome) : Option Window := if o.closed then none else some o.window

namespace Outcome

@[simp]
theorem kept_settle (r : Rule) (w : Window) (before : List Effect) :
    (r.settle w before).kept = if (r.conditions.closingReason w).isSome then none else some w := by
  cases h : r.conditions.closingReason w <;> simp [kept, Rule.settle, h]

@[simp]
theorem get?_store (o : Outcome) (ws : KeyMap Window) (k k' : String) :
    (o.store ws k).get? k' = if k' = k then o.kept else ws.get? k' := by
  unfold store kept
  by_cases hc : o.closed <;> by_cases hk : k' = k <;> simp [hc, hk]

theorem ordered_store (o : Outcome) {ws : KeyMap Window} (hws : ws.Ordered) (k : String) :
    (o.store ws k).Ordered := by
  unfold store
  split
  · exact hws.erase k
  · exact hws.insert k o.window

/-- Storing under a key already stored never grows an ordered map. -/
theorem size_store_le (o : Outcome) {ws : KeyMap Window} (hws : ws.Ordered) {k : String}
    (hk : (ws.get? k).isSome) : (o.store ws k).size ≤ ws.size := by
  unfold store
  split
  · exact KeyMap.size_erase_le ws k
  · exact Nat.le_of_eq (KeyMap.size_insert_of_isSome hws hk o.window)

end Outcome

/-! ## Ticking the stored keys -/

namespace Context

variable (r : Rule) (d : Duration)

/-- What a tick does to the window stored under one key, as an outcome. -/
def tickAt (ws : KeyMap Window) (k : String) : Option Outcome :=
  (ws.get? k).map (r.onTick d)

/-- Ticking a list of distinct keys ticks each of them once, leaves the others alone, and reports
what each key reported, in the order of the list. -/
theorem tickKeys_spec :
    ∀ (ks : List String) (ws : KeyMap Window) (acc : List Effect), ks.Nodup →
      (∀ k, (tickKeys r d ks ws acc).1.get? k =
        if k ∈ ks then (tickAt r d ws k).bind Outcome.kept else ws.get? k) ∧
      (tickKeys r d ks ws acc).2 =
        acc ++ ks.flatMap fun k => ((tickAt r d ws k).map Outcome.effects).getD []
  | [], ws, acc, _ => by simp [tickKeys]
  | k₀ :: rest, ws, acc, hnd => by
    obtain ⟨hk₀, hrest⟩ := List.nodup_cons.1 hnd
    cases hw : ws.get? k₀ with
    | none =>
      have ih := tickKeys_spec rest ws acc hrest
      simp only [tickKeys, hw]
      refine ⟨fun k => ?_, ?_⟩
      · rw [ih.1 k]
        by_cases hk : k = k₀
        · subst hk; simp [tickAt, hw]
        · simp [hk]
      · simp [ih.2, tickAt, hw]
    | some w =>
      -- ticking `k₀` first changes only `k₀`, which the rest of the list never visits again
      have ih := tickKeys_spec rest ((r.onTick d w).store ws k₀) (acc ++ (r.onTick d w).effects) hrest
      have hframe : ∀ k ∈ rest, tickAt r d ((r.onTick d w).store ws k₀) k = tickAt r d ws k := by
        intro k hk
        have hne : k ≠ k₀ := fun e => hk₀ (e ▸ hk)
        simp [tickAt, hne]
      simp only [tickKeys, hw]
      refine ⟨fun k => ?_, ?_⟩
      · rw [ih.1 k]
        by_cases hk : k = k₀
        · subst hk; simp [hk₀, tickAt, hw]
        · by_cases hkr : k ∈ rest
          · simp [hkr, hk, hframe k hkr]
          · simp [hkr, hk]
      · have hsame : rest.flatMap (fun k => ((tickAt r d ((r.onTick d w).store ws k₀) k).map
            Outcome.effects).getD []) = rest.flatMap fun k => ((tickAt r d ws k).map Outcome.effects).getD [] := by
          simp only [List.flatMap_def]
          rw [List.map_congr_left fun k hk => by rw [hframe k hk]]
        rw [ih.2, hsame]
        simp [tickAt, hw]

/-- Ticking stored keys keeps a map ordered and never grows it. -/
theorem tickKeys_ordered :
    ∀ (ks : List String) (ws : KeyMap Window) (acc : List Effect), ws.Ordered →
      (tickKeys r d ks ws acc).1.Ordered ∧ (tickKeys r d ks ws acc).1.size ≤ ws.size
  | [], ws, acc, hws => ⟨hws, Nat.le_refl _⟩
  | k₀ :: rest, ws, acc, hws => by
    cases hw : ws.get? k₀ with
    | none =>
      simp only [tickKeys, hw]
      exact tickKeys_ordered rest ws acc hws
    | some w =>
      simp only [tickKeys, hw]
      have hstore := Outcome.ordered_store (r.onTick d w) hws k₀
      have hsize := Outcome.size_store_le (r.onTick d w) hws (k := k₀) (by simp [hw])
      have ih := tickKeys_ordered rest _ (acc ++ (r.onTick d w).effects) hstore
      exact ⟨ih.1, Nat.le_trans ih.2 hsize⟩

end Context

/-! ## A keyed context -/

namespace Context

theorem onTick_keyed (r : Rule) (t : Template.Tree) (n : Nat) (ws : KeyMap Window) (d : Duration) :
    (Context.keyed r t n ws).onTick d =
      (.keyed r t n (tickKeys r d ws.keys ws []).1, (tickKeys r d ws.keys ws []).2) := rfl

/-- Everything a keyed context can do with a message, with what it reports: ignore it, refuse it at
the key cap, or offer it to the window of its key (the stored one, or for an opening message a
fresh one while the key cap allows), store the outcome under the key and report the outcome's
effects. -/
theorem keyed_onMessage_spec (r : Rule) (t : Template.Tree) (n : Nat) (ws : KeyMap Window)
    (m : Message) :
    (Context.keyed r t n ws).onMessage m = (.keyed r t n ws, []) ∨
      (Context.keyed r t n ws).onMessage m = (.keyed r t n ws, [.rejected]) ∨
      ∃ k o, r.conditions.accepts m = true ∧ keyOf t m = .ok k ∧
        ((∃ w, ws.get? k = some w ∧ o = r.onMessage m w) ∨
          (ws.get? k = none ∧ r.conditions.isOpening m = true ∧ ¬(0 < n ∧ n ≤ ws.size) ∧
            o = r.onMessage m Window.fresh)) ∧
        (Context.keyed r t n ws).onMessage m = (.keyed r t n (o.store ws k), o.effects) := by
  cases ha : r.conditions.accepts m
  · left; simp [onMessage, ha]
  · cases hk : keyOf t m with
    | error e => left; simp [onMessage, ha, hk]
    | ok k =>
      cases hw : ws.get? k with
      | some w =>
        exact .inr (.inr ⟨k, _, rfl, rfl, .inl ⟨w, hw, rfl⟩, by simp [onMessage, ha, hk, hw]⟩)
      | none =>
        cases ho : r.conditions.isOpening m
        · left; simp [onMessage, ha, hk, hw, ho]
        · by_cases hcap : 0 < n ∧ n ≤ ws.size
          · right; left; simp [onMessage, ha, hk, hw, ho, hcap]
          · exact .inr (.inr ⟨k, _, rfl, rfl, .inr ⟨hw, rfl, hcap, rfl⟩,
              by simp [onMessage, ha, hk, hw, ho, hcap]⟩)

/-- Everything a keyed context can do with its windows on a message: leave them alone, or offer
the message to the window of its key and store the outcome under the key. -/
theorem keyed_onMessage_cases (r : Rule) (t : Template.Tree) (n : Nat) (ws : KeyMap Window)
    (m : Message) :
    ((Context.keyed r t n ws).onMessage m).1 = .keyed r t n ws ∨
      ∃ k o, r.conditions.accepts m = true ∧ keyOf t m = .ok k ∧
        ((∃ w, ws.get? k = some w ∧ o = r.onMessage m w) ∨
          (ws.get? k = none ∧ r.conditions.isOpening m = true ∧ ¬(0 < n ∧ n ≤ ws.size) ∧
            o = r.onMessage m Window.fresh)) ∧
        ((Context.keyed r t n ws).onMessage m).1 = .keyed r t n (o.store ws k) := by
  rcases keyed_onMessage_spec r t n ws m with h | h | ⟨k, o, ha, hk, hcase, h⟩
  · exact .inl (by rw [h])
  · exact .inl (by rw [h])
  · exact .inr ⟨k, o, ha, hk, hcase, by rw [h]⟩

/-- A keyed context stays keyed under its rule, template and key cap. -/
theorem onRequest_keyed (r : Rule) (t : Template.Tree) (n : Nat) (ws : KeyMap Window)
    (q : Request) : ∃ ws', ((Context.keyed r t n ws).onRequest q).1 = .keyed r t n ws' := by
  cases q with
  | message m =>
    rcases keyed_onMessage_cases r t n ws m with hsame | ⟨k, o, -, -, -, hstore⟩
    · exact ⟨ws, hsame⟩
    · exact ⟨_, hstore⟩
  | timer d => exact ⟨_, by rw [onRequest, onTick_keyed]⟩
  | exit => exact ⟨ws, rfl⟩
  | other _ => exact ⟨ws, rfl⟩

end Context

end Windowing
