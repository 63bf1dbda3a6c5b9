import Mathlib.Data.Finset.Sort
import Mathlib.Data.Set.Finite.Basic
import Mathlib.Data.String.Basic
import Windowing.Proofs.Conservation

set_option autoImplicit false

/-! # A keyed context is a family of linear windows

A keyed context keeps one window per correlation key in a sorted map, drops a key when its window
closes, and caps how many keys may be open. This module shows that it behaves exactly like a
family of independent linear windows, one for every key (`Family`), where

* the window of key `k` gets every clock tick, and exactly the messages the conditions accept,
  whose key renders to `k`, and that the key cap does not refuse;
* the cap refuses a message when a cap is set, the window of its key is closed, the message would
  open it, and as many windows as the cap allows are open already (`Family.refuses`);
* a message reports what the window of its key reports, a refused one reports only the refusal,
  and a tick reports what the open windows report, in increasing key order.

The map stores exactly the family's open windows, and a closed window of the family is fresh
(`Family.Represents`). That relation holds at the start, every request keeps it and makes both
report the same effects (`Family.keyed_step`), so over any run the keyed context reports what the
family reports and ends with the family's open windows (`keyed_refines_linear_family`). -/

namespace Windowing

/-- One linear window for every key. -/
abbrev Family := String → Window

namespace Family

/-- Every key's window fresh. -/
def fresh : Family := fun _ => Window.fresh

open Classical in
/-- The keys whose window is open, in increasing order (none when infinitely many are open, which
no run reaches). -/
noncomputable def openKeys (f : Family) : List String :=
  if h : {k | (f k).isOpen}.Finite then h.toFinset.sort else []

/-- Whether the key cap refuses a message for the window of a key. -/
def refuses (r : Rule) (n : Nat) (f : Family) (k : String) (m : Message) : Prop :=
  0 < n ∧ (f k).isOpen = false ∧ r.conditions.isOpening m = true ∧ n ≤ f.openKeys.length

noncomputable instance (r : Rule) (n : Nat) (f : Family) (k : String) (m : Message) :
    Decidable (refuses r n f k m) :=
  inferInstanceAs (Decidable (_ ∧ _ ∧ _ ∧ _))

variable (r : Rule) (t : Template.Tree) (n : Nat)

/-- The family's answer to one request. A message that the conditions accept and whose key
renders goes to the window of its key, unless the key cap refuses it; a tick goes to every window,
and the open ones report, in key order. -/
noncomputable def onRequest (f : Family) : Request → Family × List Effect
  | .message m =>
    if r.conditions.accepts m then
      match Context.keyOf t m with
      | .ok k =>
        if refuses r n f k m then (f, [.rejected])
        else (Function.update f k (r.onMessage m (f k)).next, (r.onMessage m (f k)).effects)
      | .error _ => (f, [])
    else (f, [])
  | .timer d =>
    (fun k => (r.onTick d (f k)).next, f.openKeys.flatMap fun k => (r.onTick d (f k)).effects)
  | _ => (f, [])

/-- The family after a sequence of requests. -/
noncomputable def after (f : Family) (rs : List Request) : Family :=
  rs.foldl (fun f q => (onRequest r t n f q).1) f

/-- What the family reports for each request of a sequence. -/
noncomputable def reports : Family → List Request → List (List Effect)
  | _, [] => []
  | f, q :: rest => (onRequest r t n f q).2 :: reports (onRequest r t n f q).1 rest

/-- A key map represents a family when it stores exactly the family's open windows, and every
closed window of the family is fresh. -/
def Represents (ws : KeyMap Window) (f : Family) : Prop :=
  ∀ k, ws.get? k = (f k).view ∧ ((f k).isOpen = false → f k = Window.fresh)

end Family

/-! ## Outcomes that close the window or keep it open -/

/-- An outcome is live when it closes its window or keeps it open: every step of an open window,
and the step that opens a fresh one, is live. -/
def Outcome.Live (o : Outcome) : Prop := o.closed = false → o.window.isOpen = true

@[simp]
theorem Window.view_of_isOpen {w : Window} (h : w.isOpen = true) : w.view = some w := by
  simp [Window.view, h]

@[simp]
theorem Window.view_of_not_isOpen {w : Window} (h : w.isOpen = false) : w.view = none := by
  simp [Window.view, h]

namespace Outcome

variable {o : Outcome}

/-- The linear window after a live outcome is seen as what a key map keeps of it. -/
theorem Live.view_next (h : o.Live) : o.next.view = o.kept := by
  unfold next kept
  cases hc : o.closed
  · simp [h hc]
  · simp [Window.fresh]

/-- The linear window after a live outcome is fresh when it is closed. -/
theorem Live.next_fresh (h : o.Live) : o.next.isOpen = false → o.next = Window.fresh := by
  unfold next
  cases hc : o.closed
  · simp [h hc]
  · simp

end Outcome

namespace Rule

variable (r : Rule) {w : Window}

theorem live_settle (hw : w.isOpen = true) (before : List Effect) : (r.settle w before).Live := by
  cases h : r.conditions.closingReason w <;> simp [Outcome.Live, settle, h, hw]

theorem live_onMessage (hw : w.isOpen = true) (m : Message) : (r.onMessage m w).Live := by
  cases ha : r.conditions.accepts m
  · rw [onMessage_of_open_of_not_accepts hw ha]
    exact fun _ => hw
  · rw [onMessage_of_open hw ha]
    exact r.live_settle (by simpa using hw) []

theorem live_onMessage_fresh {m : Message} (ho : r.conditions.isOpening m = true) :
    (r.onMessage m Window.fresh).Live := by
  rw [onMessage_of_closed rfl ho]
  exact r.live_settle rfl [.opened]

theorem live_onTick (hw : w.isOpen = true) (d : Duration) : (r.onTick d w).Live := by
  rw [onTick_of_open d hw]
  exact r.live_settle (by simpa using hw) []

/-- A closed window lets a tick pass and stays as it is. -/
theorem onTick_next_of_closed (hw : w.isOpen = false) (d : Duration) : (r.onTick d w).next = w := by
  rw [onTick_of_closed d hw]
  rfl

end Rule

/-! ## A key map that represents a family -/

namespace Family.Represents

variable {ws : KeyMap Window} {f : Family}

theorem get?_of_isOpen (h : Represents ws f) {k : String} (hk : (f k).isOpen = true) :
    ws.get? k = some (f k) := by
  rw [(h k).1, Window.view_of_isOpen hk]

theorem get?_of_not_isOpen (h : Represents ws f) {k : String} (hk : (f k).isOpen = false) :
    ws.get? k = none := by
  rw [(h k).1, Window.view_of_not_isOpen hk]

/-- A stored window is the family's window of its key, and it is open. -/
theorem eq_of_get? (h : Represents ws f) {k : String} {w : Window} (hw : ws.get? k = some w) :
    f k = w ∧ w.isOpen = true := by
  cases hk : (f k).isOpen
  · rw [h.get?_of_not_isOpen hk] at hw
    cases hw
  · rw [h.get?_of_isOpen hk] at hw
    cases hw
    exact ⟨rfl, hk⟩

/-- A key with no stored window has a fresh window in the family. -/
theorem fresh_of_get? (h : Represents ws f) {k : String} (hw : ws.get? k = none) :
    f k = Window.fresh := by
  apply (h k).2
  cases hk : (f k).isOpen
  · rfl
  · rw [h.get?_of_isOpen hk] at hw
    cases hw

theorem mem_keys_iff (h : Represents ws f) (k : String) :
    k ∈ ws.keys ↔ (f k).isOpen = true := by
  rw [KeyMap.mem_keys_iff]
  cases hk : (f k).isOpen
  · simp [h.get?_of_not_isOpen hk]
  · simp [h.get?_of_isOpen hk]

/-- The family's open keys are the keys an ordered map lists. -/
theorem openKeys_eq (h : Represents ws f) (hord : ws.Ordered) : f.openKeys = ws.keys := by
  have hset : {k | (f k).isOpen = true} = {k | k ∈ ws.keys} := by
    ext k
    simp [h.mem_keys_iff]
  have hfin : {k | (f k).isOpen = true}.Finite := hset ▸ List.finite_toSet ws.keys
  unfold openKeys
  rw [dif_pos hfin]
  apply List.SortedLT.eq_of_mem_iff (Finset.sortedLT_sort _)
    (List.sortedLT_iff_pairwise.2 hord.keys_sorted)
  intro k
  rw [Finset.mem_sort, Set.Finite.mem_toFinset, Set.mem_ofPred_eq, h.mem_keys_iff]

theorem length_openKeys (h : Represents ws f) (hord : ws.Ordered) :
    f.openKeys.length = ws.size := by
  rw [h.openKeys_eq hord]
  simp [KeyMap.keys, KeyMap.size]

/-- Storing a live outcome under a key represents giving the key's window what follows it. -/
theorem store (h : Represents ws f) (k : String) {o : Outcome} (ho : o.Live) :
    Represents (o.store ws k) (Function.update f k o.next) := by
  intro k'
  by_cases hk : k' = k
  · subst hk
    rw [Outcome.get?_store, if_pos rfl, Function.update_self]
    exact ⟨ho.view_next.symm, ho.next_fresh⟩
  · rw [Outcome.get?_store, if_neg hk, Function.update_of_ne hk]
    exact h k'

end Family.Represents

theorem Family.represents_fresh : Family.Represents ∅ Family.fresh := by
  intro k
  simp [Family.fresh, Window.fresh, Window.view]

/-! ## One request -/

namespace Family

variable (r : Rule) (t : Template.Tree) (n : Nat) {ws : KeyMap Window} {f : Family}

/-- A message does the same to a keyed context as to the family it represents, and both report
the same. The cases follow the keyed context's checks: conditions, key, stored window, opening
message, key cap. -/
theorem keyed_onMessage (hord : ws.Ordered) (h : Represents ws f) (m : Message) :
    ∃ ws', (Context.keyed r t n ws).onMessage m =
        (.keyed r t n ws', (onRequest r t n f (.message m)).2) ∧
      Represents ws' (onRequest r t n f (.message m)).1 := by
  cases ha : r.conditions.accepts m
  · exact ⟨ws, by simp [Context.onMessage, onRequest, ha], by simpa [onRequest, ha] using h⟩
  cases hk : Context.keyOf t m with
  | error e =>
    exact ⟨ws, by simp [Context.onMessage, onRequest, ha, hk],
      by simpa [onRequest, ha, hk] using h⟩
  | ok k =>
    cases hw : ws.get? k with
    | some w =>
      -- the key's window is open in both, so the cap does not apply
      obtain ⟨hfk, hopen⟩ := h.eq_of_get? hw
      have hnot : ¬ refuses r n f k m := fun hr => by
        have hclosed := hr.2.1
        simp [hfk, hopen] at hclosed
      refine ⟨(r.onMessage m w).store ws k,
        by simp [Context.onMessage, onRequest, ha, hk, hw, hnot, hfk], ?_⟩
      simpa [onRequest, ha, hk, hnot, hfk] using h.store k (r.live_onMessage hopen m)
    | none =>
      have hfk := h.fresh_of_get? hw
      cases ho : r.conditions.isOpening m
      · -- a message that cannot open the closed window leaves it fresh
        have hnot : ¬ refuses r n f k m := fun hr => by
          have hopening := hr.2.2.1
          simp [ho] at hopening
        have hidle := Rule.onMessage_of_closed_of_not_opening (r := r) (w := Window.fresh) rfl ho
        have hsame : Function.update f k (r.onMessage m (f k)).next = f := by
          rw [Function.update_eq_self_iff, hfk, hidle]
          rfl
        refine ⟨ws, ?_, by simpa [onRequest, ha, hk, hnot, hsame] using h⟩
        simp [Context.onMessage, onRequest, ha, hk, hw, ho, hnot, hfk, hidle]
      · have hlen := h.length_openKeys hord
        by_cases hcap : 0 < n ∧ n ≤ ws.size
        · have hr : refuses r n f k m := ⟨hcap.1, by rw [hfk]; rfl, ho, hlen ▸ hcap.2⟩
          exact ⟨ws, by simp [Context.onMessage, onRequest, ha, hk, hw, ho, hcap, hr],
            by simpa [onRequest, ha, hk, hr] using h⟩
        · have hnot : ¬ refuses r n f k m := fun hr => hcap ⟨hr.1, hlen ▸ hr.2.2.2⟩
          refine ⟨(r.onMessage m Window.fresh).store ws k,
            by simp [Context.onMessage, onRequest, ha, hk, hw, ho, hcap, hnot, hfk], ?_⟩
          simpa [onRequest, ha, hk, hnot, hfk] using h.store k (r.live_onMessage_fresh ho)

/-- A tick does the same to a keyed context as to the family it represents: the stored keys are
the family's open keys, in the same order, and the other windows are fresh and stay so. -/
theorem keyed_onTick (hord : ws.Ordered) (h : Represents ws f) (d : Duration) :
    ∃ ws', (Context.keyed r t n ws).onTick d =
        (.keyed r t n ws', (onRequest r t n f (.timer d)).2) ∧
      Represents ws' (onRequest r t n f (.timer d)).1 := by
  obtain ⟨hget, heffs⟩ := Context.tickKeys_spec r d ws.keys ws [] hord.nodup_keys
  have htick : ∀ k ∈ ws.keys, Context.tickAt r d ws k = some (r.onTick d (f k)) := by
    intro k hk
    simp [Context.tickAt, h.get?_of_isOpen ((h.mem_keys_iff k).1 hk)]
  refine ⟨(Context.tickKeys r d ws.keys ws []).1, ?_, ?_⟩
  · rw [Context.onTick_keyed, heffs, List.nil_append]
    simp only [onRequest, h.openKeys_eq hord, List.flatMap_def]
    rw [List.map_congr_left fun k hk => by rw [htick k hk]]
    rfl
  · intro k
    rw [hget k]
    by_cases hk : k ∈ ws.keys
    · have hopen := (h.mem_keys_iff k).1 hk
      have hlive := r.live_onTick hopen d
      rw [if_pos hk, htick k hk, Option.bind_some]
      exact ⟨hlive.view_next.symm, hlive.next_fresh⟩
    · have hclosed : (f k).isOpen = false := by simpa [h.mem_keys_iff] using hk
      rw [if_neg hk]
      simp only [onRequest, r.onTick_next_of_closed hclosed]
      exact h k

/-- Every request does the same to a sound keyed context as to the family it represents, and both
report the same. -/
theorem keyed_step (hs : (Context.keyed r t n ws).Sound) (h : Represents ws f) (q : Request) :
    ∃ ws', (Context.keyed r t n ws).onRequest q = (.keyed r t n ws', (onRequest r t n f q).2) ∧
      Represents ws' (onRequest r t n f q).1 := by
  cases q with
  | message m => exact keyed_onMessage r t n hs.1 h m
  | timer d => exact keyed_onTick r t n hs.1 h d
  | exit => exact ⟨ws, rfl, h⟩
  | other _ => exact ⟨ws, rfl, h⟩

/-- Over any run, a sound keyed context and the family it represents report the same and end
represented. -/
theorem keyed_run (hs : (Context.keyed r t n ws).Sound) (h : Represents ws f) (rs : List Request) :
    ∃ ws', (Context.keyed r t n ws).after rs = .keyed r t n ws' ∧
      Represents ws' (f.after r t n rs) ∧
      (Context.keyed r t n ws).reports rs = f.reports r t n rs := by
  induction rs generalizing ws f with
  | nil => exact ⟨ws, rfl, h, rfl⟩
  | cons q rest ih =>
    obtain ⟨ws₁, hstep, h₁⟩ := keyed_step r t n hs h q
    have hs₁ : (Context.keyed r t n ws₁).Sound := by
      have := hs.onRequest q
      rwa [hstep] at this
    obtain ⟨ws', hafter, h', hreports⟩ := ih hs₁ h₁
    refine ⟨ws', ?_, h', ?_⟩
    · rw [Context.after_cons, hstep]
      exact hafter
    · rw [Context.reports_cons, hstep, hreports]
      rfl

end Family

/-- A keyed context is a family of independent linear windows, one per key. Over any run from no
stored window, it reports for every request exactly what the family reports, and ends with the
family's open windows stored under their keys. -/
theorem keyed_refines_linear_family (r : Rule) (t : Template.Tree) (n : Nat) (rs : List Request) :
    (Context.keyed r t n ∅).reports rs = Family.fresh.reports r t n rs ∧
      ∀ k, ((Context.keyed r t n ∅).after rs).openAt k =
        (Family.fresh.after r t n rs k).view := by
  have hs : (Context.keyed r t n ∅).Sound := Context.Initial.sound rfl
  obtain ⟨ws', hafter, h', hreports⟩ := Family.keyed_run r t n hs Family.represents_fresh rs
  refine ⟨hreports, fun k => ?_⟩
  rw [hafter]
  exact (h' k).1

end Windowing
