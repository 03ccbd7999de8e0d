import Rvpn.Config.Server

/-!
# Retry intervals

Model of `jittered_retry_interval` in `crates/rvpn-config/src/util.rs`. The arithmetic is that of a build
with overflow checks; a conversion with `as` never fails and keeps the 64 bits.
-/

namespace Rvpn

/-- A result that has to fit in `u64`. -/
def Checked.u64 (n : Nat) : Checked Nat :=
  if n ≤ u64Max then .ok n else .error .overflow

/-- A result that has to fit in `i64`. -/
def Checked.i64 (n : Int) : Checked Int :=
  if -9223372036854775808 ≤ n ∧ n ≤ 9223372036854775807 then .ok n else .error .overflow

/-- `n as i64` for a `u64`. -/
def asI64 (n : Nat) : Int :=
  if n < 9223372036854775808 then n else n - 18446744073709551616

/-- `jittered_retry_interval` at the clock's nanoseconds (none before the epoch). -/
def jitteredRetryInterval (baseMs jitterMs : UInt64) (subsecNanos : Option UInt32) : Checked Nat :=
  if jitterMs = 0 then .ok (fromMillis (max baseMs.toNat 1))
  else do
    let nanos := (subsecNanos.getD 0).toNat
    let doubled ← Checked.u64 (2 * jitterMs.toNat)
    let span ← Checked.u64 (doubled + 1)
    let offset ← Checked.i64 (asI64 (nanos % span) - asI64 jitterMs.toNat)
    let millis ← Checked.i64 (asI64 baseMs.toNat + offset)
    .ok (fromMillis (max millis 1).toNat)

lemma Checked.u64_ok {n m : Nat} (h : Checked.u64 n = .ok m) : m = n ∧ n ≤ u64Max := by
  unfold Checked.u64 at h
  split at h
  · next fits =>
    cases h
    exact ⟨rfl, fits⟩
  · cases h

lemma Checked.i64_ok {n m : Int} (h : Checked.i64 n = .ok m) : m = n := by
  unfold Checked.i64 at h
  split at h
  · cases h
    rfl
  · cases h

lemma Checked.i64_fits {n m : Int} (h : Checked.i64 n = .ok m) : n ≤ 9223372036854775807 := by
  unfold Checked.i64 at h
  split at h
  · next fits => exact fits.2
  · cases h

lemma asI64_of_lt {n : Nat} (small : n < 9223372036854775808) : asI64 n = n :=
  if_pos small

lemma fromMillis_le {n m : Nat} (h : n ≤ m) : fromMillis n ≤ fromMillis m :=
  Nat.mul_le_mul_right _ h

variable {baseMs jitterMs : UInt64} {subsecNanos : Option UInt32}

/-- The interval is shortened by at most the jitter. -/
lemma le_jitteredRetryInterval {duration : Nat} (small : baseMs.toNat < 9223372036854775808)
    (ok : jitteredRetryInterval baseMs jitterMs subsecNanos = .ok duration) :
    fromMillis (max 1 (baseMs.toNat - jitterMs.toNat)) ≤ duration := by
  unfold jitteredRetryInterval at ok
  split at ok
  · cases ok
    exact fromMillis_le (by omega)
  · obtain ⟨doubled, first, ok⟩ := except_bind_ok.1 ok
    obtain ⟨span, second, ok⟩ := except_bind_ok.1 ok
    obtain ⟨offset, third, ok⟩ := except_bind_ok.1 ok
    obtain ⟨millis, fourth, ok⟩ := except_bind_ok.1 ok
    cases ok
    obtain ⟨rfl, _⟩ := Checked.u64_ok first
    obtain ⟨rfl, fits⟩ := Checked.u64_ok second
    -- twice the jitter fits in `u64`, so the jitter itself is a positive `i64`
    have jitter : jitterMs.toNat < 9223372036854775808 := by
      unfold u64Max at fits
      omega
    have nanos : (subsecNanos.getD 0).toNat % (2 * jitterMs.toNat + 1) < 9223372036854775808 :=
      (Nat.mod_le _ _).trans_lt ((subsecNanos.getD 0).toNat_lt.trans (by decide))
    have offset := Checked.i64_ok third
    have millis := Checked.i64_ok fourth
    rw [asI64_of_lt nanos, asI64_of_lt jitter] at offset
    rw [asI64_of_lt small] at millis
    exact fromMillis_le (by omega)

/-! ### The band of the interval -/

/-- The nanoseconds that the clock can read; none before the epoch. -/
def ClockReading (subsecNanos : Option UInt32) : Prop :=
  ∀ nanos ∈ subsecNanos, nanos.toNat < 1000000000

/-- Within the jitter of the base, at least 1 ms, and nothing wraps. -/
structure InBand (baseMs jitterMs : UInt64) (subsecNanos : Option UInt32) (duration : Nat) :
    Prop where
  lower : fromMillis (max 1 (baseMs.toNat - jitterMs.toNat)) ≤ duration
  upper : duration ≤ fromMillis (baseMs.toNat + jitterMs.toNat)
  lossless : jitterMs ≠ 0 → ∀ n ∈ [baseMs.toNat, jitterMs.toNat,
    (subsecNanos.getD 0).toNat % (2 * jitterMs.toNat + 1)], asI64 n = n

/-- The doubled jitter fits `u64`, base and longest interval fit `i64`. -/
structure JitterFits (baseMs jitterMs : UInt64) : Prop where
  span : 2 * jitterMs.toNat + 1 ≤ u64Max
  base : baseMs.toNat < 9223372036854775808
  longest : baseMs.toNat + min (2 * jitterMs.toNat) 999999999 < 9223372036854775808 + jitterMs.toNat

lemma Checked.u64_of_le {n : Nat} (h : n ≤ u64Max) : Checked.u64 n = .ok n :=
  if_pos h

lemma asI64_eq_iff {n : Nat} : asI64 n = n ↔ n < 9223372036854775808 := by
  unfold asI64
  split
  · next small => simp [small]
  · next large =>
    refine ⟨?_, fun small => absurd small large⟩
    intro eq
    omega

/-- A jitter that does not overflow when it is doubled is a positive `i64`. -/
lemma jitter_lt {jitterMs : UInt64} (span : 2 * jitterMs.toNat + 1 ≤ u64Max) :
    jitterMs.toNat < 9223372036854775808 := by
  unfold u64Max at span
  omega

lemma nanos_mod_lt (subsecNanos : Option UInt32) (span : Nat) :
    (subsecNanos.getD 0).toNat % span < 9223372036854775808 :=
  (Nat.mod_le _ _).trans_lt ((subsecNanos.getD 0).toNat_lt.trans (by decide))

/-- What is left to compute when the span and the conversions are exact. -/
lemma jitteredRetryInterval_eq (jittered : jitterMs ≠ 0) (span : 2 * jitterMs.toNat + 1 ≤ u64Max)
    (base : baseMs.toNat < 9223372036854775808) :
    jitteredRetryInterval baseMs jitterMs subsecNanos =
      Checked.i64 (baseMs.toNat + ((subsecNanos.getD 0).toNat % (2 * jitterMs.toNat + 1) : Nat) -
        jitterMs.toNat) >>= fun millis => .ok (fromMillis (max millis 1).toNat) := by
  have offset : Checked.i64 (((subsecNanos.getD 0).toNat % (2 * jitterMs.toNat + 1) : Nat) -
      (jitterMs.toNat : Int)) = .ok (((subsecNanos.getD 0).toNat % (2 * jitterMs.toNat + 1) : Nat) -
      (jitterMs.toNat : Int)) := by
    have nanos := nanos_mod_lt subsecNanos (2 * jitterMs.toNat + 1)
    have jitter := jitter_lt span
    exact if_pos ⟨by omega, by omega⟩
  simp only [jitteredRetryInterval, if_neg jittered,
    Checked.u64_of_le (show 2 * jitterMs.toNat ≤ u64Max by omega), Checked.bind_ok,
    Checked.u64_of_le span, asI64_of_lt (nanos_mod_lt _ _), asI64_of_lt (jitter_lt span), offset,
    asI64_of_lt base, ← add_sub_assoc]

/-- Numbers that fit keep the interval in the band. -/
lemma band_of_jitterFits (jittered : jitterMs ≠ 0) (positive : 0 < baseMs.toNat)
    (fits : JitterFits baseMs jitterMs) (reading : ClockReading subsecNanos) :
    ∃ duration, jitteredRetryInterval baseMs jitterMs subsecNanos = .ok duration ∧
      InBand baseMs jitterMs subsecNanos duration := by
  obtain ⟨span, base, longest⟩ := fits
  have jitter := jitter_lt span
  have small := nanos_mod_lt subsecNanos (2 * jitterMs.toNat + 1)
  -- the remainder is at most the doubled jitter, and at most what the clock reads
  have below : (subsecNanos.getD 0).toNat % (2 * jitterMs.toNat + 1) < 2 * jitterMs.toNat + 1 :=
    Nat.mod_lt _ (Nat.succ_pos _)
  have read : (subsecNanos.getD 0).toNat % (2 * jitterMs.toNat + 1) ≤ 999999999 := by
    refine (Nat.mod_le _ _).trans ?_
    cases subsecNanos with
    | none => decide
    | some nanos => exact Nat.le_of_lt_succ (reading nanos rfl)
  rw [jitteredRetryInterval_eq jittered span base]
  generalize (subsecNanos.getD 0).toNat % (2 * jitterMs.toNat + 1) = rest at below read small ⊢
  refine ⟨fromMillis (max (baseMs.toNat + (rest : Int) - jitterMs.toNat) 1).toNat, ?_, ?_, ?_, ?_⟩
  · rw [Checked.i64, if_pos ⟨by omega, by omega⟩, Checked.bind_ok]
  · exact fromMillis_le (by omega)
  · exact fromMillis_le (by omega)
  · intro _ n listed
    rw [asI64_eq_iff]
    simp only [List.mem_cons, List.not_mem_nil, or_false] at listed
    rcases listed with rfl | rfl | rfl
    · exact base
    · exact jitter
    · exact nanos_mod_lt _ _

/-- A reading before the epoch bounds the base, the largest remainder the interval. -/
lemma jitterFits_of_band (jittered : jitterMs ≠ 0)
    (band : ∀ subsecNanos, ClockReading subsecNanos → ∃ duration,
      jitteredRetryInterval baseMs jitterMs subsecNanos = .ok duration ∧
        InBand baseMs jitterMs subsecNanos duration) : JitterFits baseMs jitterMs := by
  have span : 2 * jitterMs.toNat + 1 ≤ u64Max := by
    obtain ⟨_, ok, _⟩ := band none (by simp [ClockReading])
    rw [jitteredRetryInterval, if_neg jittered] at ok
    obtain ⟨_, doubled, ok⟩ := except_bind_ok.1 ok
    obtain ⟨_, span, _⟩ := except_bind_ok.1 ok
    obtain ⟨rfl, _⟩ := Checked.u64_ok doubled
    exact (Checked.u64_ok span).2
  have base : baseMs.toNat < 9223372036854775808 := by
    obtain ⟨_, _, inBand⟩ := band none (by simp [ClockReading])
    exact asI64_eq_iff.1 (inBand.lossless jittered _ (List.mem_cons_self))
  refine ⟨span, base, ?_⟩
  obtain ⟨most, eq⟩ : ∃ most, most = min (2 * jitterMs.toNat) 999999999 := ⟨_, rfl⟩
  have word : (UInt32.ofNat most).toNat = most := UInt32.toNat_ofNat_of_lt' (by
    show most < 4294967296
    omega)
  obtain ⟨_, ok, _⟩ := band (some (UInt32.ofNat most)) (by
    intro nanos is
    cases is
    rw [word]
    omega)
  rw [jitteredRetryInterval_eq jittered span base] at ok
  obtain ⟨_, longest, _⟩ := except_bind_ok.1 ok
  have longest := Checked.i64_fits longest
  rw [Option.getD_some, word, Nat.mod_eq_of_lt (by omega)] at longest
  omega

lemma retryInterval_pos {c : Config.HandshakeConfig} (accepted : c.validate = .ok ()) :
    0 < c.retryIntervalMs.toNat := by
  have nonzero : c.retryIntervalMs ≠ 0 := by
    intro zero
    simp [Config.HandshakeConfig.validate, Config.ensure, zero] at accepted
  exact UInt64.pos_iff_ne_zero.2 nonzero

/-- The band is kept at every reading iff there is no jitter or all numbers fit. -/
theorem jitteredRetryInterval_band_iff (c : Config.HandshakeConfig)
    (accepted : c.validate = .ok ()) : (∀ subsecNanos, ClockReading subsecNanos → ∃ duration,
      jitteredRetryInterval c.retryIntervalMs c.retryJitterMs subsecNanos = .ok duration ∧
        InBand c.retryIntervalMs c.retryJitterMs subsecNanos duration) ↔
      (c.retryJitterMs = 0 ∨ JitterFits c.retryIntervalMs c.retryJitterMs) := by
  have positive := retryInterval_pos accepted
  by_cases zero : c.retryJitterMs = 0
  · refine ⟨fun _ => .inl zero, ?_⟩
    intro _ subsecNanos _
    refine ⟨fromMillis (max c.retryIntervalMs.toNat 1), if_pos zero, ?_, ?_, ?_⟩
    · exact fromMillis_le (by omega)
    · exact fromMillis_le (by omega)
    · exact fun jittered => absurd zero jittered
  · rw [or_iff_right zero]
    refine ⟨jitterFits_of_band zero, fun fits subsecNanos reading => ?_⟩
    exact band_of_jitterFits zero positive fits reading

/-- The defaults are in the band at every reading. -/
theorem jitteredRetryInterval_default : (⟨500, 5, 150⟩ : Config.HandshakeConfig).validate = .ok () ∧
      ∀ subsecNanos, ClockReading subsecNanos → ∃ duration,
        jitteredRetryInterval 500 150 subsecNanos = .ok duration ∧
          InBand 500 150 subsecNanos duration :=
  ⟨rfl, (jitteredRetryInterval_band_iff ⟨500, 5, 150⟩ rfl).2
    (.inr ⟨by decide, by decide, by decide⟩)⟩

/-- A jitter of `2 ^ 63` overflows when doubled; such an interval turns negative. -/
theorem jitteredRetryInterval_leaves_band :
    (⟨500, 5, 9223372036854775808⟩ : Config.HandshakeConfig).validate = .ok () ∧ ClockReading none ∧
      jitteredRetryInterval 500 9223372036854775808 none = .error .overflow ∧
    (⟨9223372036854775808, 5, 1⟩ : Config.HandshakeConfig).validate = .ok () ∧
      ClockReading (some 7) ∧
      jitteredRetryInterval 9223372036854775808 1 (some 7) = .ok (fromMillis 1) ∧
      fromMillis 1 < fromMillis (9223372036854775808 - 1) := by
  refine ⟨rfl, ?_, by decide, rfl, ?_, by decide, by decide⟩
  · simp [ClockReading]
  · simp [ClockReading]

end Rvpn
