import Mathlib.Data.List.Induction
import Windowing.Proofs.Requests

set_option autoImplicit false

/-! # Open windows

Whatever its conditions and actions, a context only ever holds windows of one shape, and their
clocks tell the time that passed. Every open window holds at least one message, its first message
is one that may open a window, every message in it is one the conditions take, and no closing
reason holds of it (`Window.Sound`). Its elapsed time is the wrapping sum of the clock ticks since
it opened, and its time since the last message the sum of the ticks since that message
(`ClocksAgree`). A linear context whose window is closed holds the fresh window; a keyed context
stores only open windows, each message under the key it renders to, and never more than its key
cap (`Context.Sound`).

The proof says once what one request can do to the window under one key (`WindowStep`): it closes,
stays, opens on an opening message, takes a message, or takes a tick, and whatever it becomes has
no closing reason. Soundness of the windows and the two clocks follow from that alone, by induction
over the requests; the two kinds of context only have to show that they move their windows that way
(`linear_windowStep`, `keyed_windowStep`). -/

namespace Windowing

/-! ## Sound windows -/

/-- What every open window of a context satisfies under its conditions. -/
structure Window.Sound (c : Conditions) (w : Window) : Prop where
  /-- The window is open. -/
  isOpen : w.isOpen = true
  /-- It holds at least one message. -/
  nonempty : 1 ≤ w.len
  /-- Its first message may open a window. -/
  opening : ∀ m, w.messages.head? = some m → c.isOpening m = true
  /-- Every message in it is one the conditions take. -/
  matching : ∀ m ∈ w.messages, c.accepts m = true
  /-- No closing reason holds. -/
  unsettled : c.closingReason w = none

/-- The time a request lets pass: the delta of a clock tick, nothing otherwise. -/
def Request.delta : Request → Duration
  | .timer d => d
  | _ => 0

/-- The time a sequence of requests lets pass: the wrapping sum of its ticks, in order. -/
def passedTime (rs : List Request) : Duration :=
  rs.foldl (fun t q => t + q.delta) 0

@[simp]
theorem passedTime_nil : passedTime [] = 0 := rfl

@[simp]
theorem passedTime_singleton (q : Request) : passedTime [q] = q.delta := by
  simp [passedTime]

@[simp]
theorem passedTime_concat (rs : List Request) (q : Request) :
    passedTime (rs ++ [q]) = passedTime rs + q.delta := by
  simp [passedTime, List.foldl_append]

/-- How the open window under one key can change in one request, under conditions `c`; each
message it takes satisfies `admits`. Whatever window is left open has no closing reason. -/
inductive WindowStep (c : Conditions) (admits : Message → Prop) :
    Option Window → Request → Option Window → Prop
  /-- The window closes, or none is left open. -/
  | closes (v : Option Window) (q : Request) : WindowStep c admits v q none
  /-- A message passes it by. -/
  | skips (v : Option Window) (m : Message) : WindowStep c admits v (.message m) v
  /-- An exit request leaves it alone. -/
  | exits (v : Option Window) : WindowStep c admits v .exit v
  /-- A request of another kind leaves it alone. -/
  | ignores (v : Option Window) (n : Int) : WindowStep c admits v (.other n) v
  /-- An opening message opens a fresh window. -/
  | opens (m : Message) (ho : c.isOpening m = true) (hm : admits m)
      (hc : c.closingReason (Window.fresh.open_.add m) = none) :
      WindowStep c admits none (.message m) (some (Window.fresh.open_.add m))
  /-- An open window takes a message its conditions accept. -/
  | adds (w : Window) (m : Message) (ha : c.accepts m = true) (hm : admits m)
      (hc : c.closingReason (w.add m) = none) :
      WindowStep c admits (some w) (.message m) (some (w.add m))
  /-- An open window takes a tick. -/
  | ticks (w : Window) (d : Duration) (hc : c.closingReason (w.advance d) = none) :
      WindowStep c admits (some w) (.timer d) (some (w.advance d))

namespace WindowStep

variable {c : Conditions} {admits : Message → Prop}

/-- Every window shown is sound and holds only admitted messages. -/
def Holds (c : Conditions) (admits : Message → Prop) (v : Option Window) : Prop :=
  ∀ w, v = some w → w.Sound c ∧ ∀ m ∈ w.messages, admits m

theorem holds_none : Holds c admits none := by
  intro w h; cases h

/-- A step keeps the windows shown sound. -/
theorem holds {v v' : Option Window} {q : Request} (h : WindowStep c admits v q v')
    (hv : Holds c admits v) : Holds c admits v' := by
  cases h with
  | closes => exact holds_none
  | skips => exact hv
  | exits => exact hv
  | ignores => exact hv
  | opens m ho hm hc =>
    rintro w ⟨⟩
    refine ⟨⟨rfl, by simp [Window.len, Window.add, Window.fresh, Window.open_], ?_, ?_, hc⟩, ?_⟩
    · intro m' hm'
      simp only [Window.add, Window.fresh, Window.open_, List.nil_append, List.head?_cons,
        Option.some.injEq] at hm'
      exact hm' ▸ ho
    · intro m' hm'
      simp only [Window.add, Window.fresh, Window.open_, List.nil_append, List.mem_singleton] at hm'
      exact hm' ▸ Conditions.accepts_of_isOpening c m ho
    · intro m' hm'
      simp only [Window.add, Window.fresh, Window.open_, List.nil_append, List.mem_singleton] at hm'
      exact hm' ▸ hm
  | adds w m ha hm hc =>
    rintro w' ⟨⟩
    obtain ⟨hs, hadm⟩ := hv w rfl
    have hne : w.messages ≠ [] := by
      intro he; have := hs.nonempty; simp [Window.len, he] at this
    refine ⟨⟨hs.isOpen, by simp [Window.len], ?_, ?_, hc⟩, ?_⟩
    · intro m' hm'
      obtain ⟨x, xs, hx⟩ := List.exists_cons_of_ne_nil hne
      rw [Window.messages_add, hx] at hm'
      apply hs.opening m'
      rw [hx]
      simpa using hm'
    · intro m' hm'
      rcases List.mem_append.1 hm' with hm' | hm'
      · exact hs.matching m' hm'
      · exact (List.mem_singleton.1 hm') ▸ ha
    · intro m' hm'
      rcases List.mem_append.1 hm' with hm' | hm'
      · exact hadm m' hm'
      · exact (List.mem_singleton.1 hm') ▸ hm
  | ticks w d hc =>
    rintro w' ⟨⟩
    obtain ⟨hs, hadm⟩ := hv w rfl
    exact ⟨⟨hs.isOpen, hs.nonempty, hs.opening, hs.matching, hc⟩, hadm⟩

end WindowStep

/-! ## Clocks -/

section Clocks

variable (shown : List Request → Option Window)

/-- A window is shown after every nonempty part of the suffix `post` of `rs`, none before it, and
`post` lets pass the time `t`: the window shown after `rs` opened `t` ago. `shown p` is the window
shown after the prefix `p`. -/
def OpenedFor (rs : List Request) (t : Duration) : Prop :=
  ∃ pre post, rs = pre ++ post ∧ shown pre = none ∧
    (∀ mid, mid ≠ [] → mid <+: post → (shown (pre ++ mid)).isSome) ∧ t = passedTime post

/-- The messages `ms` are shown after every nonempty part of the suffix `post` of `rs`, other ones
(or none) before it, and `post` lets pass the time `t`: the last of `ms` came `t` ago. -/
def UnchangedFor (rs : List Request) (ms : List Message) (t : Duration) : Prop :=
  ∃ pre post, rs = pre ++ post ∧ (shown pre).map Window.messages ≠ some ms ∧
    (∀ mid, mid ≠ [] → mid <+: post → (shown (pre ++ mid)).map Window.messages = some ms) ∧
    t = passedTime post

/-- The clocks of the window `w` shown after `rs`: its elapsed time is the time since it opened,
its time since the last message the time since its messages last changed. -/
structure ClocksAgree (rs : List Request) (w : Window) : Prop where
  elapsed : OpenedFor shown rs w.elapsed
  sinceLast : UnchangedFor shown rs w.messages w.sinceLast

variable {shown}

private theorem mid_eq_singleton {mid : List Request} {q : Request} (hne : mid ≠ [])
    (hp : mid <+: [q]) : mid = [q] := by
  rcases List.prefix_cons_iff.1 hp with h | ⟨t, rfl, ht⟩
  · exact absurd h hne
  · rw [List.prefix_nil.1 ht]

theorem OpenedFor.start {rs : List Request} {q : Request} (h : shown rs = none)
    (hq : (shown (rs ++ [q])).isSome) : OpenedFor shown (rs ++ [q]) (passedTime [q]) := by
  refine ⟨rs, [q], rfl, h, fun mid hne hp => ?_, rfl⟩
  rw [mid_eq_singleton hne hp]
  exact hq

theorem OpenedFor.extend {rs : List Request} {q : Request} {t : Duration}
    (h : OpenedFor shown rs t) (hq : (shown (rs ++ [q])).isSome) :
    OpenedFor shown (rs ++ [q]) (t + q.delta) := by
  obtain ⟨pre, post, rfl, hpre, hmid, rfl⟩ := h
  refine ⟨pre, post ++ [q], by simp, hpre, fun mid hne hp => ?_, by simp⟩
  rcases List.prefix_concat_iff.1 hp with rfl | hp
  · rw [← List.append_assoc]; exact hq
  · exact hmid mid hne hp

theorem UnchangedFor.start {rs : List Request} {q : Request} {ms : List Message}
    (h : (shown rs).map Window.messages ≠ some ms)
    (hq : (shown (rs ++ [q])).map Window.messages = some ms) :
    UnchangedFor shown (rs ++ [q]) ms (passedTime [q]) := by
  refine ⟨rs, [q], rfl, h, fun mid hne hp => ?_, rfl⟩
  rw [mid_eq_singleton hne hp]
  exact hq

theorem UnchangedFor.extend {rs : List Request} {q : Request} {ms : List Message} {t : Duration}
    (h : UnchangedFor shown rs ms t) (hq : (shown (rs ++ [q])).map Window.messages = some ms) :
    UnchangedFor shown (rs ++ [q]) ms (t + q.delta) := by
  obtain ⟨pre, post, rfl, hpre, hmid, rfl⟩ := h
  refine ⟨pre, post ++ [q], by simp, hpre, fun mid hne hp => ?_, by simp⟩
  rcases List.prefix_concat_iff.1 hp with rfl | hp
  · rw [← List.append_assoc]; exact hq
  · exact hmid mid hne hp

variable {c : Conditions} {admits : Message → Prop}

/-- One request keeps the clocks right: a tick moves both by its delta, a message that opens a
window starts both, a message that is taken restarts the second. -/
theorem ClocksAgree.step {rs : List Request} {q : Request} {w' : Window}
    (hs : WindowStep c admits (shown rs) q (shown (rs ++ [q])))
    (ih : ∀ w, shown rs = some w → ClocksAgree shown rs w) (hw' : shown (rs ++ [q]) = some w') :
    ClocksAgree shown (rs ++ [q]) w' := by
  have hsome : (shown (rs ++ [q])).isSome := by simp [hw']
  have hmsgs : (shown (rs ++ [q])).map Window.messages = some w'.messages := by simp [hw']
  generalize hv : shown rs = v at hs ih
  generalize hv' : shown (rs ++ [q]) = v' at hs hw'
  -- a request that leaves the window alone lets no time pass for it
  have hstill : ∀ (hq : q.delta = 0), v = v' → ClocksAgree shown (rs ++ [q]) w' := by
    intro hq he
    subst he
    obtain ⟨he, hl⟩ := ih w' hw'
    exact ⟨by simpa [hq] using he.extend hsome, by simpa [hq] using hl.extend hmsgs⟩
  cases hs with
  | closes => cases hw'
  | skips => exact hstill rfl rfl
  | exits => exact hstill rfl rfl
  | ignores => exact hstill rfl rfl
  | opens m _ _ _ =>
    cases hw'
    refine ⟨?_, ?_⟩
    · simpa [Window.add, Window.open_, Window.fresh, Request.delta]
        using OpenedFor.start hv hsome
    · simpa [Window.add, Window.open_, Window.fresh, Request.delta]
        using UnchangedFor.start (by simp [hv]) hmsgs
  | adds w m _ _ _ =>
    cases hw'
    obtain ⟨he, -⟩ := ih w rfl
    refine ⟨?_, ?_⟩
    · simpa [Window.add, Request.delta] using he.extend hsome
    · simpa [Window.add, Request.delta]
        using UnchangedFor.start (by simp [hv]) hmsgs
  | ticks w d _ =>
    cases hw'
    obtain ⟨he, hl⟩ := ih w rfl
    exact ⟨by simpa [Window.advance, Request.delta] using he.extend hsome,
      by simpa [Window.advance, Request.delta] using hl.extend hmsgs⟩

/-- If nothing is shown at first and every request moves the shown window by a `WindowStep`, the
clocks of every window shown are right. -/
theorem ClocksAgree.of_steps (h0 : shown [] = none)
    (hstep : ∀ p q, WindowStep c admits (shown p) q (shown (p ++ [q]))) :
    ∀ rs w, shown rs = some w → ClocksAgree shown rs w := by
  intro rs
  induction rs using List.reverseRecOn with
  | nil => intro w h; rw [h0] at h; cases h
  | append_singleton rs q ih => exact fun w' hw' => ClocksAgree.step (hstep rs q) ih hw'

end Clocks

/-! ## The windows of a context -/

/-- A window as a view: itself while it is open, nothing once it is closed. -/
def Window.view (w : Window) : Option Window := if w.isOpen then some w else none

namespace Rule

variable (r : Rule)

theorem next_settle (w : Window) (before : List Effect) :
    (r.settle w before).next = if (r.conditions.closingReason w).isSome then Window.fresh else w := by
  cases h : r.conditions.closingReason w <;> simp [Rule.settle, Outcome.next, h]

/-- A settled open window is seen as what the outcome keeps. -/
theorem view_next_settle {w : Window} (hw : w.isOpen = true) (before : List Effect) :
    (r.settle w before).next.view = (r.settle w before).kept := by
  rw [next_settle, Outcome.kept_settle]
  split <;> simp [Window.view, Window.fresh, hw]

end Rule

/-- A window that settles moves by a step when, kept, it does. -/
theorem WindowStep.settle {r : Rule} {admits : Message → Prop} {v : Option Window} {q : Request}
    {w : Window} (before : List Effect)
    (h : r.conditions.closingReason w = none → WindowStep r.conditions admits v q (some w)) :
    WindowStep r.conditions admits v q (r.settle w before).kept := by
  rw [Outcome.kept_settle]
  cases hc : r.conditions.closingReason w with
  | none => exact h hc
  | some _ => exact .closes v q

namespace Context

/-- The window a context holds open under a key: a keyed context's stored window, or a linear
context's one window, the same under every key, while it is open. -/
def openAt : Context → String → Option Window
  | .linear _ w, _ => w.view
  | .keyed _ _ _ ws, k => ws.get? k

/-- The messages a context may take under a key: any for a linear context, those whose key renders
to it for a keyed one. -/
def admits : Context → String → Message → Prop
  | .linear _ _, _, _ => True
  | .keyed _ t _ _, k, m => keyOf t m = .ok k

/-- A context as it is built: a linear one with the fresh window, a keyed one with none. -/
def Initial : Context → Prop
  | .linear _ w => w = Window.fresh
  | .keyed _ _ _ ws => ws = ∅

/-- What holds of every context a run reaches. A linear context's window is sound while open
and fresh once closed. A keyed context keeps its keys ordered, stores only sound windows, each
message under the key it renders to, and no more windows than a positive key cap allows. -/
def Sound : Context → Prop
  | .linear r w => (w.isOpen = true → w.Sound r.conditions) ∧ (w.isOpen = false → w = Window.fresh)
  | .keyed r t n ws =>
    ws.Ordered ∧
      (∀ k w, ws.get? k = some w → w.Sound r.conditions ∧ ∀ m ∈ w.messages, keyOf t m = .ok k) ∧
      (0 < n → ws.size ≤ n)

end Context

/-! ## A linear context -/

namespace Context

/-- A linear context whose closed window is fresh moves its window by a `WindowStep`. -/
theorem linear_windowStep (r : Rule) {w : Window} (hw : w.isOpen = false → w = Window.fresh)
    (q : Request) (k : String) :
    WindowStep r.conditions (fun _ => True) ((Context.linear r w).openAt k) q
      (((Context.linear r w).onRequest q).1.openAt k) := by
  cases q with
  | message m =>
    show WindowStep _ _ w.view _ (r.onMessage m w).next.view
    cases hopen : w.isOpen
    · -- a closed window is the fresh one, and only an opening message opens it
      obtain rfl := hw hopen
      cases ho : r.conditions.isOpening m
      · rw [Rule.onMessage_of_closed_of_not_opening hopen ho]
        exact .skips _ m
      · rw [Rule.onMessage_of_closed hopen ho, r.view_next_settle rfl]
        have hv : Window.fresh.view = none := by simp [Window.view, Window.fresh]
        rw [hv]
        exact WindowStep.settle _ fun hc => .opens m ho trivial hc
    · have hv : w.view = some w := by simp [Window.view, hopen]
      cases ha : r.conditions.accepts m
      · rw [Rule.onMessage_of_open_of_not_accepts hopen ha]
        exact .skips _ m
      · rw [Rule.onMessage_of_open hopen ha, r.view_next_settle (by simp [hopen]), hv]
        exact WindowStep.settle _ fun hc => .adds w m ha trivial hc
  | timer d =>
    show WindowStep _ _ w.view _ (r.onTick d w).next.view
    cases hopen : w.isOpen
    · rw [Rule.onTick_of_closed d hopen]
      have hv : w.view = none := by simp [Window.view, hopen]
      rw [show (⟨w, false, []⟩ : Outcome).next = w from rfl, hv]
      exact .closes none _
    · have hv : w.view = some w := by simp [Window.view, hopen]
      rw [Rule.onTick_of_open d hopen, r.view_next_settle (by simp [Window.advance, hopen]), hv]
      exact WindowStep.settle _ fun hc => .ticks w d hc
  | exit => exact .exits _
  | other n => exact .ignores _ n

/-- A linear context's window stays fresh while closed: a step either leaves it, restarts it, or
leaves an open window. -/
theorem linear_fresh (r : Rule) {w : Window} (hw : w.isOpen = false → w = Window.fresh)
    (q : Request) :
    ∃ w', ((Context.linear r w).onRequest q).1 = .linear r w' ∧
      (w'.isOpen = false → w' = Window.fresh) := by
  -- a settled open window is either restarted or still open
  have hsettle : ∀ (w' : Window) (b : List Effect), w'.isOpen = true →
      (r.settle w' b).next.isOpen = false → (r.settle w' b).next = Window.fresh := by
    intro w' b hw' hc
    rw [r.next_settle] at hc ⊢
    split at hc
    · rw [if_pos ‹_›]
    · simp [hw'] at hc
  cases q with
  | message m =>
    refine ⟨(r.onMessage m w).next, rfl, ?_⟩
    cases hopen : w.isOpen
    · cases ho : r.conditions.isOpening m
      · rw [Rule.onMessage_of_closed_of_not_opening hopen ho]; exact hw
      · rw [Rule.onMessage_of_closed hopen ho]; exact hsettle _ _ rfl
    · cases ha : r.conditions.accepts m
      · rw [Rule.onMessage_of_open_of_not_accepts hopen ha]; exact hw
      · rw [Rule.onMessage_of_open hopen ha]; exact hsettle _ _ (by simp [hopen])
  | timer d =>
    refine ⟨(r.onTick d w).next, rfl, ?_⟩
    cases hopen : w.isOpen
    · rw [Rule.onTick_of_closed d hopen]; exact hw
    · rw [Rule.onTick_of_open d hopen]; exact hsettle _ _ (by simp [Window.advance, hopen])
  | exit => exact ⟨w, rfl, hw⟩
  | other n => exact ⟨w, rfl, hw⟩

end Context

/-! ## A keyed context -/

namespace Context

/-- A keyed context whose stored windows are open moves the window of every key by a
`WindowStep`, taking under a key only messages that render to it. -/
theorem keyed_windowStep (r : Rule) (t : Template.Tree) (n : Nat) {ws : KeyMap Window}
    (hord : ws.Ordered) (hopen : ∀ k w, ws.get? k = some w → w.isOpen = true) (q : Request)
    (k : String) :
    WindowStep r.conditions (fun m => keyOf t m = .ok k) ((Context.keyed r t n ws).openAt k) q
      (((Context.keyed r t n ws).onRequest q).1.openAt k) := by
  cases q with
  | message m =>
    show WindowStep _ _ (ws.get? k) _ (((Context.keyed r t n ws).onMessage m).1.openAt k)
    rcases keyed_onMessage_cases r t n ws m with hsame | ⟨k₀, o, ha, hk, hcase, hstore⟩
    · rw [hsame]
      exact .skips _ m
    · rw [hstore]
      show WindowStep _ _ _ _ ((o.store ws k₀).get? k)
      rw [Outcome.get?_store]
      by_cases hkk : k = k₀
      · -- the message goes to this key: the stored window takes it, or a fresh one opens
        subst hkk
        rw [if_pos rfl]
        rcases hcase with ⟨w, hw, rfl⟩ | ⟨hw, ho, -, rfl⟩
        · rw [hw, Rule.onMessage_of_open (hopen _ w hw) ha]
          exact WindowStep.settle _ fun hc => .adds w m ha hk hc
        · rw [hw, Rule.onMessage_of_closed rfl ho]
          exact WindowStep.settle _ fun hc => .opens m ho hk hc
      · rw [if_neg hkk]
        exact .skips _ m
  | timer d =>
    show WindowStep _ _ (ws.get? k) _ (((Context.keyed r t n ws).onTick d).1.openAt k)
    rw [onTick_keyed]
    show WindowStep _ _ _ _ ((tickKeys r d ws.keys ws []).1.get? k)
    rw [(tickKeys_spec r d ws.keys ws [] hord.nodup_keys).1 k]
    by_cases hk : k ∈ ws.keys
    · obtain ⟨w, hw⟩ := Option.isSome_iff_exists.1 ((KeyMap.mem_keys_iff ws k).1 hk)
      rw [if_pos hk, tickAt, hw, Option.map_some, Option.bind_some,
        Rule.onTick_of_open d (hopen k w hw)]
      exact WindowStep.settle _ fun hc => .ticks w d hc
    · rw [if_neg hk, (KeyMap.get?_eq_none_iff ws k).2 hk]
      exact .closes none _
  | exit => exact .exits _
  | other n' => exact .ignores _ n'

/-- A keyed context keeps its keys ordered and within a positive key cap. -/
theorem keyed_bounded (r : Rule) (t : Template.Tree) (n : Nat) {ws : KeyMap Window}
    (hord : ws.Ordered) (hcap : 0 < n → ws.size ≤ n) (q : Request) :
    ∃ ws', ((Context.keyed r t n ws).onRequest q).1 = .keyed r t n ws' ∧ ws'.Ordered ∧
      (0 < n → ws'.size ≤ n) := by
  cases q with
  | message m =>
    rcases keyed_onMessage_cases r t n ws m with hsame | ⟨k, o, -, -, hcase, hstore⟩
    · exact ⟨ws, hsame, hord, hcap⟩
    · refine ⟨o.store ws k, hstore, o.ordered_store hord k, fun hn => ?_⟩
      rcases hcase with ⟨w, hw, -⟩ | ⟨hw, -, hroom, -⟩
      · exact Nat.le_trans (o.size_store_le hord (by simp [hw])) (hcap hn)
      · -- a new key is stored only while the map is below its cap
        have hlt : ws.size < n := Nat.lt_of_not_le fun hle => hroom ⟨hn, hle⟩
        unfold Outcome.store
        split
        · exact Nat.le_trans (KeyMap.size_erase_le ws k) (Nat.le_of_lt hlt)
        · rw [KeyMap.size_insert_of_get?_eq_none hw]
          exact hlt
  | timer d =>
    have h := tickKeys_ordered r d ws.keys ws [] hord
    exact ⟨_, by rw [onRequest, onTick_keyed], h.1, fun hn => Nat.le_trans h.2 (hcap hn)⟩
  | exit => exact ⟨ws, rfl, hord, hcap⟩
  | other _ => exact ⟨ws, rfl, hord, hcap⟩

/-! ## Every run -/

/-- One request keeps a context sound. -/
theorem Sound.onRequest {c : Context} (h : c.Sound) (q : Request) : (c.onRequest q).1.Sound := by
  cases c with
  | linear r w =>
    obtain ⟨hsound, hfresh⟩ := h
    obtain ⟨w', heq, hfresh'⟩ := linear_fresh r hfresh q
    have hstep := linear_windowStep r hfresh q ""
    rw [heq] at hstep ⊢
    have hv : WindowStep.Holds r.conditions (fun _ => True) w.view := by
      intro w₀ hw₀
      simp only [Window.view] at hw₀
      split at hw₀
      · cases hw₀; exact ⟨hsound ‹_›, fun _ _ => trivial⟩
      · cases hw₀
    refine ⟨fun hopen => ?_, hfresh'⟩
    exact (hstep.holds hv w' (by simp [openAt, Window.view, hopen])).1
  | keyed r t n ws =>
    obtain ⟨hord, hwin, hcap⟩ := h
    obtain ⟨ws', heq, hord', hcap'⟩ := keyed_bounded r t n hord hcap q
    refine heq ▸ ⟨hord', fun k w' hw' => ?_, hcap'⟩
    have hstep := keyed_windowStep r t n hord (fun k w hw => (hwin k w hw).1.isOpen) q k
    rw [heq] at hstep
    exact hstep.holds (fun w hw => hwin k w hw) w' hw'

theorem Sound.after {c : Context} (h : c.Sound) (rs : List Request) : (c.after rs).Sound := by
  induction rs generalizing c with
  | nil => exact h
  | cons q rest ih => exact ih (h.onRequest q)

theorem Initial.sound {c : Context} (h : c.Initial) : c.Sound := by
  cases c with
  | linear r w =>
    cases h
    exact ⟨fun h => by simp [Window.fresh] at h, fun _ => rfl⟩
  | keyed r t n ws =>
    cases h
    exact ⟨KeyMap.ordered_empty, fun k w hw => by simp at hw, fun _ => Nat.zero_le _⟩

/-- A context keeps its rule along a run. -/
theorem rule_after (c : Context) (rs : List Request) : (c.after rs).rule = c.rule := by
  induction rs generalizing c with
  | nil => rfl
  | cons q rest ih =>
    rw [after_cons, ih]
    cases c with
    | linear r w =>
      obtain ⟨w', hw'⟩ := onRequest_linear r w q
      rw [hw']; rfl
    | keyed r t n ws =>
      obtain ⟨ws', hws'⟩ := onRequest_keyed r t n ws q
      rw [hws']; rfl

/-- A context keeps the messages it admits along a run. -/
theorem admits_after (c : Context) (rs : List Request) : (c.after rs).admits = c.admits := by
  induction rs generalizing c with
  | nil => rfl
  | cons q rest ih =>
    rw [after_cons, ih]
    cases c with
    | linear r w =>
      obtain ⟨w', hw'⟩ := onRequest_linear r w q
      rw [hw']; rfl
    | keyed r t n ws =>
      obtain ⟨ws', hws'⟩ := onRequest_keyed r t n ws q
      rw [hws']; rfl

/-- The windows a sound context holds open are sound. -/
theorem Sound.open_sound {c : Context} (h : c.Sound) {k : String} {w : Window}
    (hw : c.openAt k = some w) : w.Sound c.rule.conditions := by
  cases c with
  | linear r w₀ =>
    simp only [Context.openAt, Window.view] at hw
    split at hw
    · cases hw; exact h.1 ‹_›
    · cases hw
  | keyed r t n ws => exact (h.2.1 k w hw).1

/-- Every sound context moves the window under every key by a `WindowStep` of its rule, taking
only messages its kind admits under the key. -/
theorem Sound.windowStep {c : Context} (h : c.Sound) (q : Request) (k : String) :
    WindowStep c.rule.conditions (c.admits k) (c.openAt k) q ((c.onRequest q).1.openAt k) := by
  cases c with
  | linear r w => exact linear_windowStep r h.2 q k
  | keyed r t n ws => exact keyed_windowStep r t n h.1 (fun k w hw => (h.2.1 k w hw).1.isOpen) q k

end Context

/-! ## Every reachable window -/

/-- Every context reached from a built one, whatever requests it received, is sound, and every window
it holds open is sound under its conditions, with clocks that count the time since the window
opened and since its last message. -/
theorem reachable_windows_sound (c : Context) (hc : c.Initial) (rs : List Request) :
    (c.after rs).Sound ∧
      ∀ k w, (c.after rs).openAt k = some w →
        w.Sound c.rule.conditions ∧ ClocksAgree (fun p => (c.after p).openAt k) rs w := by
  have hsound : ∀ p, (c.after p).Sound := fun p => hc.sound.after p
  refine ⟨hsound rs, fun k w hw => ⟨?_, ?_⟩⟩
  · have := (hsound rs).open_sound hw
    rwa [Context.rule_after] at this
  · -- nothing is open at first, and every request moves the window under `k` by a step
    have h0 : (c.after []).openAt k = none := by
      cases c with
      | linear r w₀ => cases hc; rfl
      | keyed r t n ws => cases hc; rfl
    have hstep : ∀ p q, WindowStep c.rule.conditions (c.admits k) ((c.after p).openAt k) q
        ((c.after (p ++ [q])).openAt k) := by
      intro p q
      have := (hsound p).windowStep q k
      rwa [Context.rule_after, Context.admits_after, ← Context.after_concat] at this
    exact ClocksAgree.of_steps h0 hstep rs w hw

/-- A linear context that receives one message holds sound windows. -/
theorem linear_after_message_sound :
    let c : Context := .linear ⟨"", Uuid.nil, {}, []⟩ Window.fresh
    let rs : List Request := [.message ⟨"a", "", {}⟩, .timer 1]
    c.Initial ∧ (c.after rs).Sound ∧
      ∀ k w, (c.after rs).openAt k = some w →
        w.Sound c.rule.conditions ∧ ClocksAgree (fun p => (c.after p).openAt k) rs w := by
  intro c rs
  exact ⟨rfl, reachable_windows_sound c rfl rs⟩

end Windowing
