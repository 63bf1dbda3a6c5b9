import Mathlib
import Windowing.Journal.Retry

set_option autoImplicit false

/-! # The retry loop of journal writes

`retryOp` calls the write until a call settles (it goes through, or fails with an error not worth
retrying) or the retries run out. With `k` the number of leading calls that fail transiently, it
makes `min k maxRetries + 1` calls, returns the last call's result, and between calls `i` and
`i + 1` sleeps `backoffDelay cfg i` with the jitter drawn for it (`retryOp_runs`).

The pause is the base delay doubled per attempt and capped, plus the jitter, exactly while the
doubled delay fits a 64-bit duration and the cap leaves room for the jitter
(`backoffDelay_toInt_of_fits`); this always holds for the journal's own settings
(`default_pauses_exact`). Past that the doubling wraps: with a base and a cap of 2^62 ns the second
pause is the most negative duration plus the jitter, not the cap (`doubled_pause_wraps_negative`). -/

namespace Windowing.Retry

/-! ## Calls and results -/

/-- The loop from an attempt on: when the first `k` calls fail transiently and the next one, if
still allowed, settles, the loop makes `min k left + 1` calls, returns the last one's result and
pauses after each call but the last. -/
theorem retryFrom_eq (cfg : RetryConfig) (write : Nat → Option WriteError)
    (jitter : Nat → Duration) :
    ∀ (left attempt k : Nat), (∀ i < k, isTransient (write (attempt + i)) = true) →
      (k ≤ left → isTransient (write (attempt + k)) = false) →
      retryFrom cfg write jitter attempt left =
        ⟨write (attempt + min k left), attempt + min k left + 1,
          (List.range (min k left)).map fun i => backoffDelay cfg (attempt + i) (jitter (attempt + i))⟩
  | 0, attempt, k, _, _ => by simp [retryFrom]
  | left + 1, attempt, 0, _, hsettle => by
    -- the first call settles
    have h := hsettle (Nat.zero_le _)
    simp only [Nat.add_zero] at h
    simp [retryFrom, h]
  | left + 1, attempt, k + 1, htrans, hsettle => by
    -- the first call fails transiently: a pause, then the loop from the next attempt
    have h0 : isTransient (write attempt) = true := by simpa using htrans 0 (Nat.succ_pos k)
    have ih := retryFrom_eq cfg write jitter left (attempt + 1) k
      (fun i hi => by simpa [Nat.add_assoc, Nat.add_comm 1 i] using htrans (i + 1) (by omega))
      (fun hk => by simpa [Nat.add_assoc, Nat.add_comm 1 k] using hsettle (by omega))
    rw [retryFrom, if_neg (by simp [h0]), ih]
    simp only [Nat.succ_min_succ, List.range_succ_eq_map, List.map_cons, List.map_map,
      Nat.add_zero, RetryRun.mk.injEq]
    refine ⟨by rw [Nat.add_assoc, Nat.add_comm 1], by omega, congrArg _ ?_⟩
    exact List.map_congr_left fun i _ => by simp [Nat.add_assoc, Nat.add_comm 1 i]

/-- The retry loop: when the first `k` calls fail transiently and the next one, if still allowed,
settles, the loop calls the write `min k maxRetries + 1` times, returns the last call's result (no
error when it went through, its error when it failed for good, else the last transient error), and
between calls `i` and `i + 1` sleeps `backoffDelay cfg i` with the jitter drawn for it. -/
theorem retryOp_runs (cfg : RetryConfig) (hcfg : 0 ≤ cfg.maxRetries)
    (write : Nat → Option WriteError) (jitter : Nat → Duration) (k : Nat)
    (htrans : ∀ i < k, isTransient (write i) = true)
    (hsettle : k ≤ cfg.maxRetries.toInt.toNat → isTransient (write k) = false) :
    let n := min k cfg.maxRetries.toInt.toNat
    retryOp cfg write jitter =
      ⟨write n, n + 1, (List.range n).map fun i => backoffDelay cfg i (jitter i)⟩ := by
  dsimp only
  rw [retryOp, if_neg (Int64.not_lt.2 hcfg)]
  simpa using retryFrom_eq cfg write jitter cfg.maxRetries.toInt.toNat 0 k
    (by simpa using htrans) (by simpa using hsettle)

-- two busy calls and a third that goes through: three calls, and pauses of 50 ms and 100 ms
example :
    retryOp defaultRetryConfig (fun i => if i < 2 then some (.driver 261) else none) (fun _ => 0) =
      ⟨none, 3, [50000000, 100000000]⟩ := by
  decide

/-! ## Pauses -/

/-- The shift amount of a shift by less than 64 reads back as itself. -/
theorem shiftAmount_of_lt : ∀ n : Fin 64, ((Int64.ofNat n).toBitVec.smod 64).toNat = n := by
  decide

/-- A non-negative duration doubled `n` times, while the result fits a duration, is exact. -/
theorem toInt_shiftDuration {d : Duration} {n : Nat} (h0 : 0 ≤ d.toInt)
    (hfit : d.toInt * 2 ^ n < 2 ^ 63) (hn : n < 64) :
    (shiftDuration d n).toInt = d.toInt * 2 ^ n := by
  rw [shiftDuration, if_pos hn, ← Int64.toInt_toBitVec, Int64.toBitVec_shiftLeft,
    BitVec.shiftLeft_eq', shiftAmount_of_lt ⟨n, hn⟩, BitVec.toInt_shiftLeft]
  have hnat : ((d.toBitVec.toNat : Nat) : Int) = d.toInt := by
    have hc := BitVec.toInt_eq_toNat_cond d.toBitVec
    rw [Int64.toInt_toBitVec] at hc
    have := d.toBitVec.isLt
    split at hc <;> omega
  simp only [Nat.shiftLeft_eq, Nat.cast_mul, Nat.cast_pow, Nat.cast_ofNat, hnat]
  have hpos : 0 ≤ d.toInt * 2 ^ n := by positivity
  norm_num at hfit ⊢
  exact Int.bmod_eq_of_le (by omega) (by omega)

/-- The pause after attempt `i` is the base delay doubled `i` times and capped, plus the jitter,
exactly while the doubled delay fits a duration and the cap leaves room for a jitter below the
base delay. -/
theorem backoffDelay_toInt_of_fits (cfg : RetryConfig) (i : Nat) (j : Duration)
    (hbase : 0 < cfg.baseDelay.toInt) (hcap : cfg.baseDelay.toInt ≤ cfg.maxDelay.toInt)
    (hroom : cfg.maxDelay.toInt + cfg.baseDelay.toInt ≤ 2 ^ 63)
    (hfit : cfg.baseDelay.toInt * 2 ^ i < 2 ^ 63)
    (hj : 0 ≤ j.toInt ∧ j.toInt < cfg.baseDelay.toInt) :
    (backoffDelay cfg i j).toInt = min (cfg.baseDelay.toInt * 2 ^ i) cfg.maxDelay.toInt + j.toInt := by
  -- a doubling that fits is by fewer than 64 places
  have hi : i < 64 := by
    by_contra hge
    have hpow : (2 : Int) ^ 64 ≤ 2 ^ i := pow_le_pow_right₀ (by norm_num) (by omega)
    have : (2 : Int) ^ 64 ≤ cfg.baseDelay.toInt * 2 ^ i := by nlinarith
    norm_num at this hfit
    omega
  have hshift := toInt_shiftDuration hbase.le hfit hi
  have hcapped : (if shiftDuration cfg.baseDelay i > cfg.maxDelay then cfg.maxDelay
      else shiftDuration cfg.baseDelay i).toInt = min (cfg.baseDelay.toInt * 2 ^ i) cfg.maxDelay.toInt := by
    split
    case isTrue hgt =>
      rw [gt_iff_lt, Int64.lt_iff_toInt_lt, hshift] at hgt
      omega
    case isFalse hle =>
      rw [gt_iff_lt, Int64.lt_iff_toInt_lt, hshift] at hle
      rw [hshift]
      omega
  have hpos : 0 ≤ cfg.baseDelay.toInt * 2 ^ i := by positivity
  unfold backoffDelay
  dsimp only
  rw [Int64.toInt_add, hcapped]
  norm_num at hroom ⊢
  exact Int.bmod_eq_of_le (by omega) (by omega)

/-- With the journal's settings every pause is exact: 50 ms doubled per attempt up to 500 ms,
plus a jitter below 50 ms. -/
theorem default_pauses_exact (i : Nat) (hi : i < 3) (j : Duration)
    (hj : 0 ≤ j.toInt ∧ j.toInt < 50000000) :
    (backoffDelay defaultRetryConfig i j).toInt = min (50000000 * 2 ^ i) 500000000 + j.toInt := by
  have hpow : (2 : Int) ^ i ≤ 2 ^ 2 := pow_le_pow_right₀ (by norm_num) (by omega)
  exact backoffDelay_toInt_of_fits defaultRetryConfig i j (by decide) (by decide) (by decide)
    (by change (50000000 : Int) * 2 ^ i < 2 ^ 63; norm_num; omega) hj

-- the pause after the third attempt, with a jitter of 7 ns
example : (backoffDelay defaultRetryConfig 2 7).toInt = 200000007 := by
  decide

/-- Past 2^63 ns the doubling wraps: with a base delay and a cap of 2^62 ns and every call busy,
the loop pauses 2^62 ns after the first call, and after the second the most negative duration
(a pause that returns at once), not the cap. -/
theorem doubled_pause_wraps_negative :
    retryOp ⟨2, 4611686018427387904, 4611686018427387904⟩ (fun _ => some (.driver sqliteBusy))
        (fun _ => 0) =
      ⟨some (.driver sqliteBusy), 3, [4611686018427387904, -9223372036854775808]⟩ := by
  decide

end Windowing.Retry
