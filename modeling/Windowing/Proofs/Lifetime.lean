import Mathlib
import Windowing.Proofs.OpenWindows

set_option autoImplicit false

/-! # How long a window stays open

A window's clocks are wrapping sums of the ticks it received (`ClocksAgree`). A window is open only
while no closing reason holds, so its elapsed time is below its timeout and, with a positive renew
timeout, its time since the last message below the renew timeout. Counted exactly, as integers, the
ticks since a window opened agree with its elapsed time as long as their sum fits a duration: with
non-negative ticks, a window is then open only while the exact time since it opened is below its
timeout, and the exact time since its last message below the renew timeout
(`open_window_lifetime_bounded`).

Past that bound the clock wraps around and the bound fails: a window with a timeout of ten
nanoseconds that receives a tick of five and then one of the largest duration has been open for
more than its timeout, yet its elapsed time is negative and it stays open
(`wrapped_clock_keeps_window_open`). -/

namespace Windowing

/-- The exact time a sequence of requests lets pass: the integer sum of its ticks, without
wrapping. -/
def exactTime (rs : List Request) : Int := (rs.map fun q => q.delta.toInt).sum

@[simp]
theorem exactTime_nil : exactTime [] = 0 := rfl

@[simp]
theorem exactTime_concat (rs : List Request) (q : Request) :
    exactTime (rs ++ [q]) = exactTime rs + q.delta.toInt := by
  simp [exactTime]

theorem exactTime_nonneg {rs : List Request} (hd : ∀ q ∈ rs, 0 ≤ q.delta) : 0 ≤ exactTime rs := by
  induction rs with
  | nil => simp
  | cons q rest ih =>
    have hq : 0 ≤ q.delta.toInt := Int64.le_iff_toInt_le.1 (hd q (by simp))
    have hrest := ih fun q' h => hd q' (by simp [h])
    simp only [exactTime, List.map_cons, List.sum_cons] at hrest ⊢
    omega

/-- Adding durations is exact while the sum fits a duration. -/
theorem Duration.toInt_add_of_fits {a b : Duration} (h₀ : -2 ^ 63 ≤ a.toInt + b.toInt)
    (h₁ : a.toInt + b.toInt < 2 ^ 63) : (a + b).toInt = a.toInt + b.toInt := by
  rw [Int64.toInt_add]
  exact Int.bmod_eq_of_le (by omega) (by omega)

/-- While the exact time of non-negative ticks fits a duration, the wrapped time is the exact
time. -/
theorem passedTime_toInt {rs : List Request} (hd : ∀ q ∈ rs, 0 ≤ q.delta)
    (hfit : exactTime rs < 2 ^ 63) : (passedTime rs).toInt = exactTime rs := by
  induction rs using List.reverseRecOn with
  | nil => rfl
  | append_singleton rs q ih =>
    have hq : 0 ≤ q.delta.toInt := Int64.le_iff_toInt_le.1 (hd q (by simp))
    have hrest : ∀ q' ∈ rs, 0 ≤ q'.delta := fun q' h => hd q' (by simp [h])
    have hnn := exactTime_nonneg hrest
    rw [exactTime_concat] at hfit
    have ih' := ih hrest (by omega)
    rw [passedTime_concat, exactTime_concat, Duration.toInt_add_of_fits (by omega) (by omega), ih']

/-! ## Open windows and their closing reasons -/

namespace Conditions

variable {c : Conditions} {w : Window}

/-- A window with no closing reason has been open less than the timeout. -/
theorem elapsed_lt_of_closingReason_eq_none (h : c.closingReason w = none) : w.elapsed < c.timeout := by
  unfold closingReason at h
  split at h
  · cases h
  · exact Int64.not_le.1 ‹_›

/-- A window with no closing reason had its last message less than a positive renew timeout
ago. -/
theorem sinceLast_lt_of_closingReason_eq_none (h : c.closingReason w = none)
    (hr : 0 < c.renewTimeout) : w.sinceLast < c.renewTimeout := by
  unfold closingReason at h
  split at h
  · cases h
  · split at h
    · cases h
    · split at h
      · cases h
      · rename_i hrenew
        simp only [Bool.and_eq_true, decide_eq_true_eq, not_and] at hrenew
        exact Int64.not_le.1 (hrenew hr)

end Conditions

/-- A clock that has run for the time of `post` is below a bound that it has not reached, when
counted exactly, unless the exact time does not fit a duration. -/
private theorem exactTime_lt_or_overflow {post : List Request} (hd : ∀ q ∈ post, 0 ≤ q.delta)
    {bound : Duration} (hlt : passedTime post < bound) :
    exactTime post < bound.toInt ∨ 2 ^ 63 ≤ exactTime post := by
  by_cases hfit : exactTime post < 2 ^ 63
  · left
    rw [← passedTime_toInt hd hfit]
    exact Int64.lt_iff_toInt_lt.1 hlt
  · exact .inr (by omega)

/-- A window's lifetime is bounded by its timeouts while the ticks fit a duration. For every
context as built, every run of non-negative ticks and every window open at its end: the window
opened at the start of a suffix of the run, and the exact time of that suffix is below the timeout
unless it does not fit a duration; with a positive renew timeout, the window's messages have been
the same over a suffix whose exact time is below the renew timeout, unless it does not fit a
duration. -/
theorem open_window_lifetime_bounded (c : Context) (hc : c.Initial) (rs : List Request)
    (hd : ∀ q ∈ rs, 0 ≤ q.delta) (k : String) (w : Window)
    (hw : (c.after rs).openAt k = some w) :
    (∃ pre post, rs = pre ++ post ∧ (c.after pre).openAt k = none ∧
      (∀ mid, mid ≠ [] → mid <+: post → ((c.after (pre ++ mid)).openAt k).isSome) ∧
      (exactTime post < c.rule.conditions.timeout.toInt ∨ 2 ^ 63 ≤ exactTime post)) ∧
    (0 < c.rule.conditions.renewTimeout →
      ∃ pre post, rs = pre ++ post ∧ ((c.after pre).openAt k).map Window.messages ≠ some w.messages ∧
        (∀ mid, mid ≠ [] → mid <+: post →
          ((c.after (pre ++ mid)).openAt k).map Window.messages = some w.messages) ∧
        (exactTime post < c.rule.conditions.renewTimeout.toInt ∨ 2 ^ 63 ≤ exactTime post)) := by
  obtain ⟨hsound, hclocks⟩ := (reachable_windows_sound c hc rs).2 k w hw
  have hnone := hsound.unsettled
  refine ⟨?_, fun hr => ?_⟩
  · obtain ⟨pre, post, rfl, hpre, hmid, helapsed⟩ := hclocks.elapsed
    have hpost : ∀ q ∈ post, 0 ≤ q.delta := fun q hq => hd q (List.mem_append_right pre hq)
    refine ⟨pre, post, rfl, hpre, hmid, exactTime_lt_or_overflow hpost ?_⟩
    rw [← helapsed]
    exact Conditions.elapsed_lt_of_closingReason_eq_none hnone
  · obtain ⟨pre, post, rfl, hpre, hmid, hsince⟩ := hclocks.sinceLast
    have hpost : ∀ q ∈ post, 0 ≤ q.delta := fun q hq => hd q (List.mem_append_right pre hq)
    refine ⟨pre, post, rfl, hpre, hmid, exactTime_lt_or_overflow hpost ?_⟩
    rw [← hsince]
    exact Conditions.sinceLast_lt_of_closingReason_eq_none hnone hr

/-- The bound fails once the ticks overflow: a linear window with a timeout of ten nanoseconds,
opened by a message and then ticked by five nanoseconds and by the largest duration, has been open
for more than its timeout, counted exactly, and is still open. -/
theorem wrapped_clock_keeps_window_open :
    let c : Context := .linear ⟨"lin", Uuid.nil, { timeout := 10 }, []⟩ Window.fresh
    let rs : List Request := [.message ⟨"a", "", {}⟩, .timer 5, .timer 9223372036854775807]
    (∀ q ∈ rs, 0 ≤ q.delta) ∧ c.rule.conditions.timeout.toInt ≤ exactTime rs ∧
      ((c.after rs).openAt "").isSome := by
  decide

end Windowing
