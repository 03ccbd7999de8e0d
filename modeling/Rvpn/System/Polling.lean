import Rvpn.Lib.TokenBucket
import Rvpn.Server.State
import Rvpn.Transport.Congestion

/-!
# Polling a token bucket

`RateBucket` of the outbound queue and `PeerRateLimiter` of the server are refilled by every call, also
by one that is refused. A refill adds whole bytes and sets the time of the bucket to that of the call,
so what it rounds away is lost (`polling_starves`).
-/

namespace Rvpn
open TokenBucket

/-- The saturation of a refill does not matter for a `u64` capacity. -/
lemma saturating_refill {capacity tokens : Nat} (small : capacity ≤ u64Max) (product : Nat) :
    min capacity (saturatingAdd tokens (min (min product (2 ^ 128 - 1) / 1000000000) u64Max)) =
      min capacity (tokens + product / 1000000000) := by
  have max : u64Max = 2 ^ 64 - 1 := rfl
  unfold saturatingAdd
  omega

namespace Transport.RateBucket

/-- The rate is a `u64`, the capacity follows, and holds the tokens. -/
structure Valid (bucket : RateBucket) : Prop where
  rate : bucket.rateBytesPerSec ≤ u64Max
  capacity : bucket.capacity = max bucket.rateBytesPerSec 65535
  tokens : bucket.tokens ≤ bucket.capacity

lemma valid_new {rate : Nat} (small : rate ≤ u64Max) (now : Nat) : (new rate now).Valid :=
  ⟨small, rfl, Nat.le_refl _⟩

variable {bucket : RateBucket}

lemma Valid.capacity_le (h : bucket.Valid) : bucket.capacity ≤ u64Max := by
  rw [h.capacity]
  exact Nat.max_le.2 ⟨h.rate, by decide⟩

lemma Valid.refill (h : bucket.Valid) (now : Nat) : (bucket.refill now).Valid :=
  ⟨h.rate, h.capacity, Nat.min_le_left _ _⟩

lemma Valid.refill_tokens (h : bucket.Valid) (now : Nat) : (bucket.refill now).tokens =
      level 1000000000 bucket.rateBytesPerSec bucket.capacity bucket.tokens bucket.updated now :=
  saturating_refill h.capacity_le _

def poll (bucket : RateBucket) (call : Nat × Nat) : RateBucket :=
  (bucket.consumeOrDelay call.2 call.1).2

def Refuses (bucket : RateBucket) (call : Nat × Nat) : Prop :=
  ∃ delay, (bucket.consumeOrDelay call.2 call.1).1 = .error delay

lemma consumeOrDelay_ok_iff (h : bucket.Valid) {bytes : Nat} (small : bytes ≤ bucket.capacity)
    (now : Nat) :
    (bucket.consumeOrDelay bytes now).1 = .ok () ↔ bytes ≤ (bucket.refill now).tokens := by
  have clamped : min bytes u64Max = bytes := Nat.min_eq_left (small.trans h.capacity_le)
  unfold consumeOrDelay
  simp only [clamped]
  split
  · next enough => exact iff_of_true rfl enough
  · next short => exact iff_of_false nofun short

lemma poll_of_refuses {call : Nat × Nat} (refused : bucket.Refuses call) :
    bucket.poll call = bucket.refill call.1 := by
  obtain ⟨delay, refused⟩ := refused
  unfold consumeOrDelay at refused
  unfold poll consumeOrDelay
  simp only at refused ⊢
  split at refused
  · cases refused
  · next short => rw [if_neg short]

lemma Valid.poll (h : bucket.Valid) (call : Nat × Nat) : (bucket.poll call).Valid := by
  unfold RateBucket.poll consumeOrDelay
  simp only
  split
  · exact ⟨h.rate, h.capacity, (Nat.sub_le _ _).trans (h.refill call.1).tokens⟩
  · exact h.refill call.1

/-- The bucket after refused calls and the refill of one more. -/
lemma refill_polls (h : bucket.Valid) {calls : List (Nat × Nat)}
    (refused : EachStep RateBucket.poll Refuses bucket calls) (now : Nat) :
    (run RateBucket.poll bucket calls).Valid ∧
      (run RateBucket.poll bucket calls).capacity = bucket.capacity ∧
      ((run RateBucket.poll bucket calls).refill now).tokens = min bucket.capacity (bucket.tokens +
          credited 1000000000 bucket.rateBytesPerSec bucket.updated (calls.map Prod.fst ++ [now])) := by
  rw [← polled_eq h.tokens]
  induction calls generalizing bucket with
  | nil => exact ⟨h, rfl, h.refill_tokens now⟩
  | cons call calls ih =>
    obtain ⟨first, rest⟩ := eachStep_cons.1 refused
    rw [poll_of_refuses first] at rest
    obtain ⟨valid, capacity, tokens⟩ := ih (h.refill call.1) rest
    rw [run_cons, poll_of_refuses first]
    refine ⟨valid, capacity, tokens.trans ?_⟩
    rw [h.refill_tokens]
    rfl

lemma ok_after_polls (h : bucket.Valid) {calls : List (Nat × Nat)}
    (refused : EachStep RateBucket.poll Refuses bucket calls) {bytes : Nat}
    (small : bytes ≤ bucket.capacity) (now : Nat) :
    ((run RateBucket.poll bucket calls).consumeOrDelay bytes now).1 = .ok () ↔
      bytes ≤ bucket.tokens +
        credited 1000000000 bucket.rateBytesPerSec bucket.updated (calls.map Prod.fst ++ [now]) := by
  obtain ⟨valid, capacity, tokens⟩ := refill_polls h refused now
  rw [consumeOrDelay_ok_iff valid (by rw [capacity]; exact small), tokens, Nat.le_min]
  exact and_iff_right small

def delayFor (missing rate : Nat) : Nat :=
  (min (missing * 1000000000) (2 ^ 128 - 1) + rate - 1) / rate

lemma delayFor_bounds {missing rate : Nat} (positive : 1 ≤ rate) (small : rate ≤ u64Max)
    (few : missing ≤ max rate 65535) :
    delayFor missing rate ≤ u64Max ∧ missing * 1000000000 ≤ delayFor missing rate * rate := by
  have max : u64Max = 2 ^ 64 - 1 := rfl
  have fits : min (missing * 1000000000) (2 ^ 128 - 1) = missing * 1000000000 := by omega
  unfold delayFor
  rw [fits]
  refine ⟨?_, ?_⟩
  · apply Nat.div_le_of_le_mul
    by_cases slow : rate ≤ 65535
    · -- the capacity is that of one payload, which takes 65535 seconds at the lowest rate
      have whole : 1 * (u64Max - 1) ≤ rate * (u64Max - 1) := Nat.mul_le_mul_right _ positive
      have split : rate * u64Max = rate * (u64Max - 1) + rate := by
        rw [← Nat.mul_succ]
        rfl
      omega
    · -- the capacity is what comes in one second
      have second : rate * 1000000001 ≤ rate * u64Max := Nat.mul_le_mul_left _ (by decide)
      omega
  · have ceil := Nat.div_add_mod (missing * 1000000000 + rate - 1) rate
    have rest := Nat.mod_lt (missing * 1000000000 + rate - 1) positive
    rw [Nat.mul_comm] at ceil
    omega

/-- The delay a refused call reports is worth the missing bytes. -/
lemma delay_suffices (h : bucket.Valid) (positive : 1 ≤ bucket.rateBytesPerSec)
    {bytes now delay later : Nat} {bucket' : RateBucket} (small : bytes ≤ bucket.capacity)
    (refused : bucket.consumeOrDelay bytes now = (.error delay, bucket'))
    (waited : now + delay ≤ later) : bucket' = bucket.refill now ∧
      bytes ≤ bucket'.tokens + (later - now) * bucket.rateBytesPerSec / 1000000000 := by
  have clamped : min bytes u64Max = bytes := Nat.min_eq_left (small.trans h.capacity_le)
  unfold consumeOrDelay at refused
  simp only [clamped] at refused
  split at refused
  · cases refused
  · next short =>
    cases refused
    refine ⟨rfl, ?_⟩
    have few : bytes - (bucket.refill now).tokens ≤ max bucket.rateBytesPerSec 65535 := by
      rw [← h.capacity]
      exact (Nat.sub_le _ _).trans small
    obtain ⟨short, enough⟩ := delayFor_bounds positive h.rate few
    have waited : now + min (delayFor (bytes - (bucket.refill now).tokens) bucket.rateBytesPerSec)
        u64Max ≤ later := waited
    rw [Nat.min_eq_left short] at waited
    have worth : (bytes - (bucket.refill now).tokens) * 1000000000 ≤
        (later - now) * bucket.rateBytesPerSec :=
      enough.trans (Nat.mul_le_mul_right _ (Nat.le_sub_of_add_le' waited))
    have bytesDue := (Nat.le_div_iff_mul_le (by decide)).2 worth
    omega

end Transport.RateBucket

namespace Server.PeerRateLimiter

structure Valid (limiter : PeerRateLimiter) : Prop where
  rate : limiter.rateBytesPerSec ≤ u64Max
  burst : limiter.burstBytes = max limiter.rateBytesPerSec 65535
  tokens : limiter.tokens ≤ limiter.burstBytes

lemma valid_new {rate : Nat} (small : rate ≤ u64Max) (now : Nat) : (new rate now).Valid :=
  ⟨small, rfl, Nat.le_refl _⟩

def poll (limiter : PeerRateLimiter) (call : Nat × Nat) : PeerRateLimiter :=
  (limiter.allow call.2 call.1).2

def Refuses (limiter : PeerRateLimiter) (call : Nat × Nat) : Prop :=
  (limiter.allow call.2 call.1).1 = false

def refill (limiter : PeerRateLimiter) (now : Nat) : PeerRateLimiter :=
  { limiter with
    tokens := level 1000000000 limiter.rateBytesPerSec limiter.burstBytes limiter.tokens
      limiter.updated now
    updated := now }

variable {limiter : PeerRateLimiter}

lemma Valid.burst_le (h : limiter.Valid) : limiter.burstBytes ≤ u64Max := by
  rw [h.burst]
  exact Nat.max_le.2 ⟨h.rate, by decide⟩

lemma Valid.refill (h : limiter.Valid) (now : Nat) : (limiter.refill now).Valid :=
  ⟨h.rate, h.burst, Nat.min_le_left _ _⟩

lemma Valid.allow_eq (h : limiter.Valid) (limited : limiter.rateBytesPerSec ≠ 0) (bytes now : Nat) :
    limiter.allow bytes now =
      if (limiter.refill now).tokens < min bytes u64Max then (false, limiter.refill now)
      else (true, { limiter.refill now with
        tokens := (limiter.refill now).tokens - min bytes u64Max }) := by
  unfold allow
  rw [if_neg limited]
  simp only [saturating_refill h.burst_le]
  rfl

lemma Valid.poll (h : limiter.Valid) (call : Nat × Nat) : (limiter.poll call).Valid := by
  by_cases limited : limiter.rateBytesPerSec = 0
  · unfold PeerRateLimiter.poll allow
    rw [if_pos limited]
    exact h
  · unfold PeerRateLimiter.poll
    rw [h.allow_eq limited]
    split
    · exact h.refill call.1
    · exact ⟨h.rate, h.burst, (Nat.sub_le _ _).trans (h.refill call.1).tokens⟩

lemma refill_polls (h : limiter.Valid) (limited : limiter.rateBytesPerSec ≠ 0)
    {calls : List (Nat × Nat)}
    (refused : EachStep PeerRateLimiter.poll Refuses limiter calls) (now : Nat) :
    (run PeerRateLimiter.poll limiter calls).Valid ∧
      (run PeerRateLimiter.poll limiter calls).rateBytesPerSec = limiter.rateBytesPerSec ∧
      ((run PeerRateLimiter.poll limiter calls).refill now).tokens =
        min limiter.burstBytes (limiter.tokens +
          credited 1000000000 limiter.rateBytesPerSec limiter.updated (calls.map Prod.fst ++ [now])) := by
  rw [← polled_eq h.tokens]
  induction calls generalizing limiter with
  | nil => exact ⟨h, rfl, rfl⟩
  | cons call calls ih =>
    obtain ⟨first, rest⟩ := eachStep_cons.1 refused
    have polled : limiter.poll call = limiter.refill call.1 := by
      unfold Refuses at first
      unfold PeerRateLimiter.poll
      rw [h.allow_eq limited] at first ⊢
      split at first
      · next short => rw [if_pos short]
      · cases first
    rw [polled] at rest
    rw [run_cons, polled]
    exact ih (h.refill call.1) limited rest

lemma allow_after_polls (h : limiter.Valid) (limited : limiter.rateBytesPerSec ≠ 0)
    {calls : List (Nat × Nat)}
    (refused : EachStep PeerRateLimiter.poll Refuses limiter calls) {bytes : Nat}
    (small : bytes ≤ limiter.burstBytes) (now : Nat) :
    ((run PeerRateLimiter.poll limiter calls).allow bytes now).1 = true ↔ bytes ≤ limiter.tokens +
        credited 1000000000 limiter.rateBytesPerSec limiter.updated (calls.map Prod.fst ++ [now]) := by
  obtain ⟨valid, rate, tokens⟩ := refill_polls h limited refused now
  rw [valid.allow_eq (by rw [rate]; exact limited), tokens,
    Nat.min_eq_left (small.trans h.burst_le)]
  split
  · next short => exact iff_of_false Bool.false_ne_true fun enough => by omega
  · next enough => exact iff_of_true rfl (by omega)

end Server.PeerRateLimiter

namespace System
open Server Transport

/-- After refused calls, a call succeeds exactly if what the refills added, each rounded down to whole bytes,
covers it. That is so after the reported delay, and whenever it would be so without them, if none of them
rounds anything away. -/
theorem polling_iff (bucket : RateBucket) (limiter : PeerRateLimiter) (valid : bucket.Valid)
    (positive : 1 ≤ bucket.rateBytesPerSec) (valid' : limiter.Valid)
    (limited : limiter.rateBytesPerSec ≠ 0) (calls : List (Nat × Nat)) (t' : Nat) :
    (∀ n t delay bucket', n ≤ bucket.capacity →
      bucket.consumeOrDelay n t = (.error delay, bucket') →
      EachStep RateBucket.poll RateBucket.Refuses bucket' calls →
      (t :: (calls.map Prod.fst ++ [t'])).Pairwise (· ≤ ·) → t + delay ≤ t' →
      (((run RateBucket.poll bucket' calls).consumeOrDelay n t').1 = .ok () ↔
        n ≤ bucket'.tokens + credited 1000000000 bucket.rateBytesPerSec t
          (calls.map Prod.fst ++ [t'])) ∧
      (Exact 1000000000 bucket.rateBytesPerSec t (calls.map Prod.fst) →
        ((run RateBucket.poll bucket' calls).consumeOrDelay n t').1 = .ok ())) ∧
    (∀ n, n ≤ limiter.burstBytes →
      EachStep PeerRateLimiter.poll PeerRateLimiter.Refuses limiter calls →
      (limiter.updated :: (calls.map Prod.fst ++ [t'])).Pairwise (· ≤ ·) →
      (limiter.allow n t').1 = true →
      (((run PeerRateLimiter.poll limiter calls).allow n t').1 = true ↔
        n ≤ limiter.tokens + credited 1000000000 limiter.rateBytesPerSec limiter.updated
          (calls.map Prod.fst ++ [t'])) ∧
      (Exact 1000000000 limiter.rateBytesPerSec limiter.updated (calls.map Prod.fst) →
        ((run PeerRateLimiter.poll limiter calls).allow n t').1 = true)) := by
  refine ⟨?_, ?_⟩
  · intro n t delay bucket' small first refused ordered waited
    obtain ⟨rfl, due⟩ := RateBucket.delay_suffices valid positive small first waited
    have succeeds := RateBucket.ok_after_polls (valid.refill t) refused small t'
    refine ⟨succeeds, fun exact' => succeeds.2 ?_⟩
    show n ≤ (bucket.refill t).tokens + credited 1000000000 bucket.rateBytesPerSec t _
    rw [credited_of_exact exact' ordered]
    exact due
  · intro n small refused ordered alone
    have succeeds := PeerRateLimiter.allow_after_polls valid' limited refused small t'
    have once := PeerRateLimiter.allow_after_polls valid' limited eachStep_nil small t'
    refine ⟨succeeds, fun exact' => succeeds.2 ?_⟩
    rw [credited_of_exact exact' ordered]
    exact once.1 alone

def emptyBucket : RateBucket :=
  (RateBucket.new 1 0).poll (0, 65535)

def emptyLimiter : PeerRateLimiter :=
  (PeerRateLimiter.new 1 0).poll (0, 65535)

/-- Polled at whole seconds, two bytes come after two seconds. -/
theorem polling_iff_whole_seconds :
    emptyBucket.consumeOrDelay 2 0 = (.error 2000000000, emptyBucket) ∧
      ((run RateBucket.poll emptyBucket [(1000000000, 2)]).consumeOrDelay 2 2000000000).1 = .ok () := by
  refine ⟨by decide +kernel, ?_⟩
  have valid : emptyBucket.Valid := (RateBucket.valid_new (by decide) 0).poll _
  have valid' : emptyLimiter.Valid := (PeerRateLimiter.valid_new (by decide) 0).poll _
  have refused : EachStep RateBucket.poll RateBucket.Refuses emptyBucket [(1000000000, 2)] :=
    eachStep_cons.2 ⟨⟨1000000000, by decide +kernel⟩, eachStep_nil⟩
  have both := polling_iff emptyBucket emptyLimiter valid (by decide +kernel) valid'
    (by decide +kernel) [(1000000000, 2)] 2000000000
  have succeeds := both.1 2 0 2000000000 emptyBucket (by decide +kernel) (by decide +kernel) refused
    (by decide) (by decide)
  exact succeeds.2 ⟨by decide +kernel, trivial⟩

/-- Polled after half a second, a byte due after one has not come. -/
theorem polling_starves : (emptyBucket.consumeOrDelay 1 0 = (.error 1000000000, emptyBucket) ∧
      EachStep RateBucket.poll RateBucket.Refuses emptyBucket [(500000000, 1)] ∧
      ((run RateBucket.poll emptyBucket [(500000000, 1)]).consumeOrDelay 1 1000000000).1 =
        .error 1000000000) ∧
    (emptyLimiter.allow 1 1000000000).1 = true ∧
      EachStep PeerRateLimiter.poll PeerRateLimiter.Refuses emptyLimiter [(500000000, 1)] ∧
      ((run PeerRateLimiter.poll emptyLimiter [(500000000, 1)]).allow 1 1000000000).1 = false := by
  refine ⟨⟨by decide +kernel, ?_, by decide +kernel⟩, by decide +kernel, ?_, by decide +kernel⟩
  · exact eachStep_cons.2 ⟨⟨1000000000, by decide +kernel⟩, eachStep_nil⟩
  · have refused : (emptyLimiter.allow 1 500000000).1 = false := by decide +kernel
    exact eachStep_cons.2 ⟨refused, eachStep_nil⟩

end System
end Rvpn
