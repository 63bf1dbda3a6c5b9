import Mathlib
import Windowing.Clock

set_option autoImplicit false

/-! # Clock deltas telescope to the running maximum

A tick moves the clock's last instant to the larger of it and the new reading, and gives the
distance it moved, clamped to the range of a duration (`tick_last`, `tick_delta`): a reading
that goes back gives zero and moves nothing. Over a sequence of readings the last instant is
therefore the running maximum, and while every two readings lie within the largest duration of
one another nothing is clamped, so the deltas are the steps of the running maximum: none is
negative and together they sum to the largest reading less the first (`ticks_telescope`). When
the readings never go back, the running maximum is the latest reading, so each delta is the
distance from the reading before and the deltas sum to the last reading less the first. -/

namespace Windowing.Clock

/-- The largest duration, in nanoseconds. -/
def maxDelta : Int := 9223372036854775807

/-! ## One tick -/

/-- A tick moves the last instant to the larger of it and the reading. -/
theorem tick_last (c : Clock) (now : Int) : (c.tick now).2.last = max c.last now := by
  unfold tick between
  dsimp only
  split_ifs <;> simp only <;> omega

/-- A tick gives the distance the last instant moved, clamped to the largest duration. -/
theorem tick_delta (c : Clock) (now : Int) :
    (c.tick now).1 = min (max c.last now - c.last) maxDelta := by
  unfold tick between maxDelta
  dsimp only
  split_ifs <;> simp only <;> omega

@[simp]
theorem ticks_nil (c : Clock) : c.ticks [] = [] := rfl

@[simp]
theorem ticks_cons (c : Clock) (now : Int) (rest : List Int) :
    c.ticks (now :: rest) = ((c.tick now).1, (c.tick now).2.last) :: (c.tick now).2.ticks rest :=
  rfl

/-! ## A sequence of ticks -/

/-- Readings that lie within the largest duration of one another. -/
def Near (rs : List Int) : Prop := ∀ a ∈ rs, ∀ b ∈ rs, a - b ≤ maxDelta

/-- After a tick the readings still to come, with the new last instant in front, are near one
another: the new last instant is the old one or the reading just taken. -/
theorem Near.tick {c : Clock} {now : Int} {rest : List Int} (h : Near (c.last :: now :: rest)) :
    Near ((c.tick now).2.last :: rest) := by
  have hmem : (c.tick now).2.last ∈ c.last :: now :: rest := by
    rw [tick_last]
    rcases max_choice c.last now with hm | hm <;> simp [hm]
  have hsub : ∀ x ∈ (c.tick now).2.last :: rest, x ∈ c.last :: now :: rest := by
    intro x hx
    rcases List.mem_cons.1 hx with rfl | hx
    · exact hmem
    · simp [hx]
  exact fun a ha b hb => h a (hsub a ha) b (hsub b hb)

theorem length_ticks (c : Clock) (rs : List Int) : (c.ticks rs).length = rs.length := by
  induction rs generalizing c with
  | nil => rfl
  | cons now rest ih => simp [ih]

/-- No tick gives a negative delta. -/
theorem delta_nonneg_of_mem_ticks (c : Clock) (rs : List Int) :
    ∀ p ∈ c.ticks rs, 0 ≤ p.1 := by
  induction rs generalizing c with
  | nil => simp
  | cons now rest ih =>
    intro p hp
    rcases List.mem_cons.1 (by simpa using hp) with rfl | hp
    · rw [tick_delta]
      unfold maxDelta
      omega
    · exact ih _ p hp

/-- After the `i + 1`-st tick the last instant is the largest of the first reading and the
readings taken so far. -/
theorem last_getElem_ticks (c : Clock) (rs : List Int) (i : Nat)
    (hi : i < (c.ticks rs).length) :
    (c.ticks rs)[i].2 = (rs.take (i + 1)).foldl max c.last := by
  induction rs generalizing c i with
  | nil => simp at hi
  | cons now rest ih =>
    cases i with
    | zero => simp [tick_last]
    | succ i =>
      -- the rest of the run starts from the clock after the first tick
      have hi' : i < ((c.tick now).2.ticks rest).length := by simpa using hi
      simp only [ticks_cons, List.getElem_cons_succ, List.take_succ_cons, List.foldl_cons]
      rw [ih _ i hi', tick_last]

/-- While the readings are near one another, the deltas sum to the largest reading less the
first: each delta is the step of the running maximum, never clamped. -/
theorem sum_deltas_ticks (c : Clock) (rs : List Int) (hnear : Near (c.last :: rs)) :
    ((c.ticks rs).map Prod.fst).sum = rs.foldl max c.last - c.last := by
  induction rs generalizing c with
  | nil => simp
  | cons now rest ih =>
    have hstep : max c.last now - c.last ≤ maxDelta := by
      rcases max_choice c.last now with hm | hm <;> rw [hm]
      · unfold maxDelta; omega
      · exact hnear now (by simp) c.last (by simp)
    have hrest := ih (c.tick now).2 hnear.tick
    rw [tick_last] at hrest
    simp only [ticks_cons, List.map_cons, List.sum_cons, List.foldl_cons, hrest, tick_delta,
      min_eq_left hstep]
    omega

/-! ## Readings that never go back -/

/-- Over readings that never go back, the running maximum is the latest reading. -/
theorem foldl_max_of_isChain (r₀ : Int) (rs : List Int) (h : (r₀ :: rs).IsChain (· ≤ ·)) :
    rs.foldl max r₀ = (r₀ :: rs).getLast (List.cons_ne_nil r₀ rs) := by
  induction rs generalizing r₀ with
  | nil => rfl
  | cons r rest ih =>
    obtain ⟨hle, hchain⟩ := List.isChain_cons_cons.1 h
    rw [List.foldl_cons, max_eq_right hle, ih r hchain, List.getLast_cons_cons]

/-- Over readings that never go back and are near one another, each tick gives the distance
from the reading before. -/
theorem deltas_of_isChain (r₀ : Int) (rs : List Int) (h : (r₀ :: rs).IsChain (· ≤ ·))
    (hnear : Near (r₀ :: rs)) :
    ((Clock.mk r₀).ticks rs).map Prod.fst = List.zipWith (· - ·) rs (r₀ :: rs) := by
  induction rs generalizing r₀ with
  | nil => rfl
  | cons r rest ih =>
    obtain ⟨hle, hchain⟩ := List.isChain_cons_cons.1 h
    have hlast : (Clock.mk r₀).tick r = (r - r₀, ⟨r⟩) := by
      have hd := tick_delta ⟨r₀⟩ r
      have hl := tick_last ⟨r₀⟩ r
      simp only [max_eq_right hle] at hd hl
      have hfit : r - r₀ ≤ maxDelta := hnear r (by simp) r₀ (by simp)
      rw [min_eq_left hfit] at hd
      exact Prod.ext hd (by cases h' : ((Clock.mk r₀).tick r).2; simp_all)
    have hnear' : Near (r :: rest) := fun a ha b hb => hnear a (by simp [ha]) b (by simp [hb])
    rw [ticks_cons, hlast, List.map_cons, ih r hchain hnear', List.zipWith_cons_cons]

/-- Clock deltas telescope to the running maximum. For every first reading and every sequence of
later readings, all within the largest duration of one another: there is one tick per reading,
no tick gives a negative delta, the last instant after each tick is the largest reading so far,
and the deltas sum to the largest reading less the first. When the readings never go back, each
tick gives the distance from the reading before, and the deltas sum to the last reading less the
first. -/
theorem ticks_telescope (r₀ : Int) (rs : List Int) (hnear : Near (r₀ :: rs)) :
    let out := (Clock.mk r₀).ticks rs
    out.length = rs.length ∧
    (∀ p ∈ out, 0 ≤ p.1) ∧
    (∀ i (hi : i < out.length), out[i].2 = (rs.take (i + 1)).foldl max r₀) ∧
    (out.map Prod.fst).sum = rs.foldl max r₀ - r₀ ∧
    ((r₀ :: rs).IsChain (· ≤ ·) →
      out.map Prod.fst = List.zipWith (· - ·) rs (r₀ :: rs) ∧
      (out.map Prod.fst).sum = (r₀ :: rs).getLast (List.cons_ne_nil r₀ rs) - r₀) := by
  refine ⟨length_ticks _ rs, delta_nonneg_of_mem_ticks _ rs, last_getElem_ticks _ rs,
    sum_deltas_ticks _ rs hnear, fun hchain => ⟨deltas_of_isChain r₀ rs hchain hnear, ?_⟩⟩
  rw [sum_deltas_ticks _ rs hnear, foldl_max_of_isChain r₀ rs hchain]

/-- Readings that go back and forth: the clock starts at 10, reads 15, goes back to 12, then
reads 20. -/
theorem back_and_forth_readings_telescope :
    Near [10, 15, 12, 20] ∧
      let out := (Clock.mk 10).ticks [15, 12, 20]
      out.length = [15, 12, 20].length ∧
      (∀ p ∈ out, 0 ≤ p.1) ∧
      (∀ i (hi : i < out.length), out[i].2 = ([15, 12, 20].take (i + 1)).foldl max 10) ∧
      (out.map Prod.fst).sum = [15, 12, 20].foldl max 10 - 10 ∧
      (([10, 15, 12, 20] : List Int).IsChain (· ≤ ·) →
        out.map Prod.fst = List.zipWith (· - ·) [15, 12, 20] [10, 15, 12, 20] ∧
        (out.map Prod.fst).sum = [10, 15, 12, 20].getLast (List.cons_ne_nil 10 [15, 12, 20]) - 10) :=
  have h : Near [10, 15, 12, 20] := by unfold Near maxDelta; decide
  ⟨h, ticks_telescope 10 [15, 12, 20] h⟩

example : (Clock.mk 10).ticks [15, 12, 20] = [(5, 15), (0, 15), (5, 20)] := by decide

end Windowing.Clock
