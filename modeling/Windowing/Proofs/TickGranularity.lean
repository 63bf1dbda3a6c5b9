import Windowing.Proofs.KeyedFamily
import Windowing.Proofs.Lifetime

set_option autoImplicit false

/-! # Tick granularity

How finely the clock is sliced does not change what a context does: two ticks in a row, of
non-negative durations, do what one tick of their sum does (`tick_granularity`). Both end with the
same windows, and report the same alerts: in the same order for a linear context, in another order
for a keyed one, whose keys may close at the first tick or at the second.

The reason is that a tick only moves the two clocks of an open window. Of the four closing
conditions, the size cap and the last pattern read the messages, which a tick leaves alone, so on a
window that had no closing reason a tick can only bring a timeout due; and the timeouts compare the
clocks with fixed bounds, so once due they stay due as time goes on. A window that closes at the
first tick is gone at the second; one that does not has run both ticks' time when the second one
comes. This needs the clocks to count exactly: none of the sums may pass the largest duration,
which is why the statement bounds them. -/

namespace Windowing

/-! ## Clocks -/

namespace Window

@[simp]
theorem len_advance (w : Window) (d : Duration) : (w.advance d).len = w.len := rfl

@[simp]
theorem elapsed_advance (w : Window) (d : Duration) : (w.advance d).elapsed = w.elapsed + d := rfl

@[simp]
theorem sinceLast_advance (w : Window) (d : Duration) :
    (w.advance d).sinceLast = w.sinceLast + d := rfl

theorem advance_advance (w : Window) (d₁ d₂ : Duration) :
    (w.advance d₁).advance d₂ = w.advance (d₁ + d₂) := by
  simp only [advance, Int64.add_assoc]

end Window

/-! ## What a tick can bring due -/

namespace Conditions

variable {c : Conditions} {w : Window}

/-- A window has no closing reason exactly when none of the four conditions holds. -/
theorem closingReason_eq_none_iff :
    c.closingReason w = none ↔
      w.elapsed < c.timeout ∧ ¬(0 < c.maxSize ∧ c.maxSize ≤ w.len) ∧
        ¬(0 < c.renewTimeout ∧ c.renewTimeout ≤ w.sinceLast) ∧
          ¬(c.lastCloses = true ∧ c.closesOnLast w = true) := by
  unfold closingReason
  split_ifs with h₁ h₂ h₃ h₄ <;> simp_all [Int64.not_le]

/-- On a window with no closing reason, a tick can bring only a timeout due: the size cap and the
last pattern read the messages, which a tick leaves alone. -/
theorem closingReason_advance_eq_none_iff (h : c.closingReason w = none) (d : Duration) :
    c.closingReason (w.advance d) = none ↔
      w.elapsed + d < c.timeout ∧ ¬(0 < c.renewTimeout ∧ c.renewTimeout ≤ w.sinceLast + d) := by
  obtain ⟨-, hsize, -, hlast⟩ := closingReason_eq_none_iff.1 h
  have hlast' : c.closesOnLast (w.advance d) = c.closesOnLast w := rfl
  rw [closingReason_eq_none_iff, Window.len_advance, hlast', Window.elapsed_advance,
    Window.sinceLast_advance]
  exact ⟨fun ⟨he, _, hs, _⟩ => ⟨he, hs⟩, fun ⟨he, hs⟩ => ⟨he, hsize, hs, hlast⟩⟩

/-- While the clocks count exactly, a timeout that is due after a tick is due after a longer one:
no closing reason after the longer tick means none after the shorter. -/
theorem closingReason_advance_mono (h : c.closingReason w = none) {d d' : Duration}
    (hd : 0 ≤ d.toInt) (hle : d.toInt ≤ d'.toInt) (he : w.elapsed.toInt + d'.toInt < 2 ^ 63)
    (hs : w.sinceLast.toInt + d'.toInt < 2 ^ 63) (h' : c.closingReason (w.advance d') = none) :
    c.closingReason (w.advance d) = none := by
  rw [closingReason_advance_eq_none_iff h] at h' ⊢
  have hel := Int64.le_toInt w.elapsed
  have hsl := Int64.le_toInt w.sinceLast
  -- every sum in sight fits, so the wrapped clocks are the exact ones
  have e₁ := Duration.toInt_add_of_fits (a := w.elapsed) (b := d) (by omega) (by omega)
  have e₂ := Duration.toInt_add_of_fits (a := w.elapsed) (b := d') (by omega) (by omega)
  have s₁ := Duration.toInt_add_of_fits (a := w.sinceLast) (b := d) (by omega) (by omega)
  have s₂ := Duration.toInt_add_of_fits (a := w.sinceLast) (b := d') (by omega) (by omega)
  simp only [Int64.lt_iff_toInt_lt, Int64.le_iff_toInt_le, e₁, e₂, s₁, s₂, Int64.toInt_zero]
    at h' ⊢
  omega

end Conditions

/-! ## One window -/

namespace Rule

variable (r : Rule) {d₁ d₂ : Duration}

/-- The actions read only the messages of a window, which a tick leaves alone. -/
theorem runActions_advance (w : Window) (d : Duration) :
    r.runActions (w.advance d) = r.runActions w := rfl

/-- Two non-negative ticks do to a window what one tick of their sum does, and report the same
alerts in the same order, as long as the window is sound while open and its clocks count both
ticks exactly. -/
theorem onTick_split {w : Window} (h₁ : 0 ≤ d₁) (h₂ : 0 ≤ d₂)
    (hsum : d₁.toInt + d₂.toInt < 2 ^ 63)
    (hw : w.isOpen = true → w.Sound r.conditions ∧ w.elapsed.toInt + d₁.toInt + d₂.toInt < 2 ^ 63 ∧
      w.sinceLast.toInt + d₁.toInt + d₂.toInt < 2 ^ 63) :
    (r.onTick d₂ (r.onTick d₁ w).next).next = (r.onTick (d₁ + d₂) w).next ∧
      ((r.onTick d₁ w).effects ++ (r.onTick d₂ (r.onTick d₁ w).next).effects).filterMap
          Effect.alert? = (r.onTick (d₁ + d₂) w).effects.filterMap Effect.alert? := by
  cases hopen : w.isOpen
  · -- a closed window lets both ticks pass
    simp [onTick_of_closed _ hopen, Outcome.next]
  obtain ⟨hsound, he, hs⟩ := hw hopen
  have hd₁ : 0 ≤ d₁.toInt := Int64.le_iff_toInt_le.1 h₁
  have hd₂ : 0 ≤ d₂.toInt := Int64.le_iff_toInt_le.1 h₂
  have hsum' : (d₁ + d₂).toInt = d₁.toInt + d₂.toInt :=
    Duration.toInt_add_of_fits (by omega) hsum
  rw [onTick_of_open _ hopen, onTick_of_open _ hopen]
  cases hc : r.conditions.closingReason (w.advance d₁) with
  | none =>
    rw [settle_of_none r hc, show (⟨w.advance d₁, false, []⟩ : Outcome).next = w.advance d₁ from rfl,
      onTick_of_open _ (by simpa using hopen), Window.advance_advance]
    simp
  | some reason =>
    have hc' : (r.conditions.closingReason (w.advance (d₁ + d₂))).isSome := by
      cases h' : r.conditions.closingReason (w.advance (d₁ + d₂)) with
      | some _ => rfl
      | none =>
        have := Conditions.closingReason_advance_mono hsound.unsettled hd₁ (by omega) (by omega)
          (by omega) h'
        rw [hc] at this
        cases this
    obtain ⟨reason', hreason'⟩ := Option.isSome_iff_exists.1 hc'
    rw [settle_of_some r hc, settle_of_some r hreason']
    simp only [Outcome.next, if_true, onTick_of_closed _ (rfl : Window.fresh.isOpen = false),
      List.nil_append, List.append_nil, runActions_advance]
    -- the closing reasons may differ, but they are no alerts
    rw [List.filterMap_cons_none rfl, List.filterMap_cons_none rfl]
    exact ⟨ite_self _, rfl⟩

end Rule

/-! ## A linear context -/

namespace Context

variable {d₁ d₂ : Duration}

/-- Two non-negative ticks do to a sound linear context what one tick of their sum does, and it
reports the same alerts in the same order, while its open window counts both ticks exactly. -/
theorem linear_tick_split (r : Rule) {w : Window} (hs : (Context.linear r w).Sound)
    (h₁ : 0 ≤ d₁) (h₂ : 0 ≤ d₂) (hsum : d₁.toInt + d₂.toInt < 2 ^ 63)
    (hfit : w.isOpen = true → w.elapsed.toInt + d₁.toInt + d₂.toInt < 2 ^ 63 ∧
      w.sinceLast.toInt + d₁.toInt + d₂.toInt < 2 ^ 63) :
    (((Context.linear r w).onTick d₁).1.onTick d₂).1 = ((Context.linear r w).onTick (d₁ + d₂)).1 ∧
      (((Context.linear r w).onTick d₁).2 ++ (((Context.linear r w).onTick d₁).1.onTick d₂).2).filterMap
          Effect.alert? = ((Context.linear r w).onTick (d₁ + d₂)).2.filterMap Effect.alert? := by
  obtain ⟨hnext, halerts⟩ := r.onTick_split h₁ h₂ hsum fun hopen => ⟨hs.1 hopen, hfit hopen⟩
  exact ⟨congrArg (Context.linear r) hnext, halerts⟩

end Context

/-! ## A keyed context -/

/-- Dropping the elements that a function sends to nothing keeps what it gives over a list. -/
private theorem flatMap_filter_of_nil {α β : Type} (l : List α) (p : α → Bool) (g : α → List β)
    (h : ∀ a, p a = false → g a = []) : (l.filter p).flatMap g = l.flatMap g := by
  induction l with
  | nil => rfl
  | cons a rest ih =>
    cases hp : p a
    · rw [List.filter_cons_of_neg (by simp [hp]), ih, List.flatMap_cons, h a hp, List.nil_append]
    · rw [List.filter_cons_of_pos hp, List.flatMap_cons, List.flatMap_cons, ih]

/-- The windows a keyed context stores, with a fresh window under every other key: the family of
linear windows it represents. -/
def KeyMap.family (ws : KeyMap Window) : Family := fun k => (ws.get? k).getD Window.fresh

theorem KeyMap.represents_family {ws : KeyMap Window}
    (hopen : ∀ k w, ws.get? k = some w → w.isOpen = true) : Family.Represents ws ws.family := by
  intro k
  cases hw : ws.get? k with
  | none => exact ⟨by simp [KeyMap.family, hw, Window.view, Window.fresh], fun _ => by simp [KeyMap.family, hw]⟩
  | some w =>
    have hw' := hopen k w hw
    refine ⟨by simp [KeyMap.family, hw, Window.view, hw'], fun hc => ?_⟩
    simp [KeyMap.family, hw, hw'] at hc

namespace Context

variable {d₁ d₂ : Duration}

/-- Two non-negative ticks do to a sound keyed context what one tick of their sum does, and it
reports the same alerts, perhaps in another order, while every stored window counts both ticks
exactly. -/
theorem keyed_tick_split (r : Rule) (t : Template.Tree) (n : Nat) {ws : KeyMap Window}
    (hs : (Context.keyed r t n ws).Sound) (h₁ : 0 ≤ d₁) (h₂ : 0 ≤ d₂)
    (hsum : d₁.toInt + d₂.toInt < 2 ^ 63)
    (hfit : ∀ k w, ws.get? k = some w → w.elapsed.toInt + d₁.toInt + d₂.toInt < 2 ^ 63 ∧
      w.sinceLast.toInt + d₁.toInt + d₂.toInt < 2 ^ 63) :
    (((Context.keyed r t n ws).onTick d₁).1.onTick d₂).1 =
        ((Context.keyed r t n ws).onTick (d₁ + d₂)).1 ∧
      ((((Context.keyed r t n ws).onTick d₁).2 ++
          (((Context.keyed r t n ws).onTick d₁).1.onTick d₂).2).filterMap Effect.alert?).Perm
        (((Context.keyed r t n ws).onTick (d₁ + d₂)).2.filterMap Effect.alert?) := by
  have hrep := KeyMap.represents_family fun k w hw => (hs.2.1 k w hw).1.isOpen
  set f := ws.family
  obtain ⟨ws₁, hstep₁, hrep₁⟩ := Family.keyed_onTick r t n hs.1 hrep d₁
  have hs₁ : (Context.keyed r t n ws₁).Sound := by
    have := hs.onRequest (.timer d₁)
    rwa [onRequest, hstep₁] at this
  obtain ⟨ws₂, hstep₂, hrep₂⟩ := Family.keyed_onTick r t n hs₁.1 hrep₁ d₂
  have hs₂ : (Context.keyed r t n ws₂).Sound := by
    have := hs₁.onRequest (.timer d₂)
    rwa [onRequest, hstep₂] at this
  obtain ⟨ws', hstep', hrep'⟩ := Family.keyed_onTick r t n hs.1 hrep (d₁ + d₂)
  have hs' : (Context.keyed r t n ws').Sound := by
    have := hs.onRequest (.timer (d₁ + d₂))
    rwa [onRequest, hstep'] at this
  have hkey : ∀ k, (r.onTick d₂ (r.onTick d₁ (f k)).next).next = (r.onTick (d₁ + d₂) (f k)).next ∧
      ((r.onTick d₁ (f k)).effects ++ (r.onTick d₂ (r.onTick d₁ (f k)).next).effects).filterMap
        Effect.alert? = (r.onTick (d₁ + d₂) (f k)).effects.filterMap Effect.alert? := by
    intro k
    refine r.onTick_split h₁ h₂ hsum fun hopen => ?_
    have hw := hrep.get?_of_isOpen hopen
    exact ⟨(hs.2.1 k _ hw).1, hfit k _ hw⟩
  rw [hstep₁]
  dsimp only
  rw [hstep₂, hstep']
  dsimp only
  have hws : ws₂ = ws' := KeyMap.Ordered.ext hs₂.1 hs'.1 fun k => by
    rw [(hrep₂ k).1, (hrep' k).1]
    exact congrArg Window.view (hkey k).1
  refine ⟨by rw [hws], ?_⟩
  have hkeys : (Family.onRequest r t n f (.timer d₁)).1.openKeys =
      f.openKeys.filter fun k => ((r.onTick d₁ (f k)).next).isOpen := by
    rw [hrep₁.openKeys_eq hs₁.1, hrep.openKeys_eq hs.1]
    refine List.SortedLT.eq_of_mem_iff (List.sortedLT_iff_pairwise.2 hs₁.1.keys_sorted)
      (List.sortedLT_iff_pairwise.2 (hs.1.keys_sorted.filter _)) fun k => ?_
    rw [hrep₁.mem_keys_iff, List.mem_filter, hrep.mem_keys_iff]
    -- a window closed before the first tick stays closed
    cases hopen : (f k).isOpen
    · simp [Family.onRequest, r.onTick_next_of_closed hopen, hopen]
    · simp [Family.onRequest]
  have hsecond : ((Family.onRequest r t n f (.timer d₁)).1.openKeys.flatMap fun k =>
      (r.onTick d₂ ((Family.onRequest r t n f (.timer d₁)).1 k)).effects) =
      f.openKeys.flatMap fun k => (r.onTick d₂ (r.onTick d₁ (f k)).next).effects := by
    rw [hkeys]
    exact flatMap_filter_of_nil _ _ _ fun k hk => congrArg Outcome.effects (Rule.onTick_of_closed d₂ hk)
  simp only [Family.onRequest] at hsecond ⊢
  rw [hsecond, List.filterMap_append, List.filterMap_flatMap, List.filterMap_flatMap,
    List.filterMap_flatMap]
  refine (List.flatMap_append_perm _ _ _).trans (List.Perm.of_eq ?_)
  congr 1
  funext k
  rw [← List.filterMap_append]
  exact (hkey k).2

end Context

/-! ## Every reachable context -/

/-- How finely the clock is sliced does not change what a context does. For every context as
built, every run, and every two non-negative ticks whose sum, and whose sum with each clock of every
window open at the end of the run, fit a duration: two ticks in a row leave the context as one tick
of their sum does, and report the same alerts, in the same order when the context is linear. -/
theorem tick_granularity (c : Context) (hc : c.Initial) (rs : List Request) (d₁ d₂ : Duration)
    (h₁ : 0 ≤ d₁) (h₂ : 0 ≤ d₂) (hsum : d₁.toInt + d₂.toInt < 2 ^ 63)
    (hfit : ∀ k w, (c.after rs).openAt k = some w →
      w.elapsed.toInt + d₁.toInt + d₂.toInt < 2 ^ 63 ∧
        w.sinceLast.toInt + d₁.toInt + d₂.toInt < 2 ^ 63) :
    let now := c.after rs
    let alerts := ((now.onTick d₁).2 ++ ((now.onTick d₁).1.onTick d₂).2).filterMap Effect.alert?
    ((now.onTick d₁).1.onTick d₂).1 = (now.onTick (d₁ + d₂)).1 ∧
      alerts.Perm ((now.onTick (d₁ + d₂)).2.filterMap Effect.alert?) ∧
      ∀ r w, c = .linear r w → alerts = (now.onTick (d₁ + d₂)).2.filterMap Effect.alert? := by
  intro now alerts
  have hs : now.Sound := hc.sound.after rs
  cases hnow : now with
  | linear r w =>
    rw [hnow] at hs
    obtain ⟨hstate, halerts⟩ := Context.linear_tick_split r hs h₁ h₂ hsum fun hopen =>
      hfit "" w (by simp [now, hnow, Context.openAt, Window.view, hopen])
    simp only [alerts, hnow]
    exact ⟨hstate, List.Perm.of_eq halerts, fun _ _ _ => halerts⟩
  | keyed r t n ws =>
    rw [hnow] at hs
    obtain ⟨hstate, halerts⟩ := Context.keyed_tick_split r t n hs h₁ h₂ hsum fun k w hw =>
      hfit k w (by simp [now, hnow, Context.openAt, hw])
    simp only [alerts, hnow]
    refine ⟨hstate, halerts, fun r' w' hlin => ?_⟩
    -- a linear context stays linear
    have hlinear : now = .linear r' (r'.finalWindow w' rs) := by
      simp only [now, hlin, Rule.after_linear]
    rw [hlinear] at hnow
    cases hnow

/-- Ticks of three and of four nanoseconds close a linear window with a timeout of five as one tick
of seven does, and its action reports the same alert. -/
theorem split_ticks_close_like_their_sum :
    let c : Context := .linear ⟨"lin", Uuid.nil, { timeout := 5 },
      [⟨"act", "", ⟨"m", "done", [("m", [.text 0 "done"])]⟩, [], false⟩]⟩ Window.fresh
    let rs : List Request := [.message ⟨"a", "", {}⟩]
    let now := c.after rs
    let alerts := ((now.onTick 3).2 ++ ((now.onTick 3).1.onTick 4).2).filterMap Effect.alert?
    c.Initial ∧ (0 : Duration) ≤ 3 ∧ (0 : Duration) ≤ 4 ∧
      (3 : Duration).toInt + (4 : Duration).toInt < 2 ^ 63 ∧
      (∀ k w, now.openAt k = some w →
        w.elapsed.toInt + (3 : Duration).toInt + (4 : Duration).toInt < 2 ^ 63 ∧
          w.sinceLast.toInt + (3 : Duration).toInt + (4 : Duration).toInt < 2 ^ 63) ∧
      ((now.onTick 3).1.onTick 4).1 = (now.onTick (3 + 4)).1 ∧
      alerts.Perm ((now.onTick (3 + 4)).2.filterMap Effect.alert?) ∧
      ∀ r w, c = .linear r w → alerts = (now.onTick (3 + 4)).2.filterMap Effect.alert? := by
  intro c rs now alerts
  have hfit : ∀ k w, now.openAt k = some w →
      w.elapsed.toInt + (3 : Duration).toInt + (4 : Duration).toInt < 2 ^ 63 ∧
        w.sinceLast.toInt + (3 : Duration).toInt + (4 : Duration).toInt < 2 ^ 63 := by
    intro k w hw
    have hopen : now.openAt k = some ⟨[⟨"a", "", {}⟩], true, 0, 0⟩ := rfl
    rw [hopen] at hw
    cases hw
    decide
  exact ⟨rfl, by decide, by decide, by decide, hfit,
    tick_granularity c rfl rs 3 4 (by decide) (by decide) (by decide) hfit⟩

end Windowing
