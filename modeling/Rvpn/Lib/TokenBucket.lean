import Mathlib.Algebra.Order.Ring.Nat
import Mathlib.Algebra.BigOperators.Group.List.Basic
import Mathlib.Data.Nat.ModEq
import Mathlib.Tactic.Ring

/-!
# Token buckets

A log of payments is paid from a bucket that holds at most `capacity` tokens and gets `rate` tokens in
`unit` steps of the clock. `Covered` is the invariant of a bucket: since any time `t` no more was paid
than the capacity and what the bucket got since `t`, less what it still holds. `Recovered` is what has to
hold when a bucket is thrown away and a full one may take its place.

A bucket of whole tokens loses the fraction that a refill rounds away: `credited` is what a sequence of
refills adds.
-/

namespace Rvpn.TokenBucket

/-- What was paid from time `t` on. -/
def since (log : List (Nat × Nat)) (t : Nat) : Nat :=
  ((log.filter fun e => decide (t ≤ e.1)).map Prod.snd).sum

def within (log : List (Nat × Nat)) (t₁ t₂ : Nat) : Nat :=
  ((log.filter fun e => decide (t₁ ≤ e.1 ∧ e.1 ≤ t₂)).map Prod.snd).sum

/-- Every window is within the capacity and the refill in it. -/
def Envelope (unit rate capacity : Nat) (log : List (Nat × Nat)) : Prop :=
  ∀ t₁ t₂, within log t₁ t₂ * unit ≤ capacity * unit + rate * (t₂ - t₁)

/-- The invariant of a bucket. -/
structure Covered (unit rate capacity : Nat) (log : List (Nat × Nat)) (tokens updated : Nat) : Prop where
  past : ∀ e ∈ log, e.1 ≤ updated
  covered : ∀ t, (since log t + tokens) * unit ≤ capacity * unit + rate * (updated - t)
  envelope : Envelope unit rate capacity log

/-- What has to hold before a new bucket is made. -/
structure Recovered (unit rate capacity : Nat) (log : List (Nat × Nat)) (now : Nat) : Prop where
  past : ∀ e ∈ log, e.1 ≤ now
  covered : ∀ t, since log t * unit ≤ rate * (now - t)
  envelope : Envelope unit rate capacity log

variable {unit rate capacity tokens updated now size : Nat} {log : List (Nat × Nat)}

lemma since_append (l r : List (Nat × Nat)) (t : Nat) : since (l ++ r) t = since l t + since r t := by
  rw [since, List.filter_append, List.map_append, List.sum_append]
  rfl

lemma within_append (l r : List (Nat × Nat)) (t₁ t₂ : Nat) :
    within (l ++ r) t₁ t₂ = within l t₁ t₂ + within r t₁ t₂ := by
  rw [within, List.filter_append, List.map_append, List.sum_append]
  rfl

lemma since_singleton (time size t : Nat) : since [(time, size)] t = if t ≤ time then size else 0 := by
  by_cases counted : t ≤ time
  · simp [since, counted]
  · simp [since, counted]

lemma within_singleton (time size t₁ t₂ : Nat) :
    within [(time, size)] t₁ t₂ = if t₁ ≤ time ∧ time ≤ t₂ then size else 0 := by
  by_cases counted : t₁ ≤ time ∧ time ≤ t₂
  · simp [within, counted]
  · simp only [within, List.filter_singleton, decide_eq_false counted, if_neg counted]
    rfl

lemma since_eq_zero {t : Nat} (past : ∀ e ∈ log, e.1 < t) : since log t = 0 := by
  have none : log.filter (fun e => decide (t ≤ e.1)) = [] := by
    rw [List.filter_eq_nil_iff]
    intro e mem late
    exact Nat.not_le_of_lt (past e mem) (of_decide_eq_true late)
  rw [since, none]
  rfl

lemma within_le_since (t₁ t₂ : Nat) : within log t₁ t₂ ≤ since log t₁ := by
  induction log with
  | nil => exact Nat.le_refl 0
  | cons e log ih =>
    have split : e :: log = [e] ++ log := rfl
    rw [split, within_append, since_append, within_singleton, since_singleton]
    split
    · next counted =>
      rw [if_pos counted.1]
      omega
    · omega

lemma Recovered.nil (now : Nat) : Recovered unit rate capacity [] now :=
  ⟨fun _ mem => absurd mem List.not_mem_nil, fun t => by simp [since], fun t₁ t₂ => by simp [within]⟩

lemma Recovered.later (h : Recovered unit rate capacity log now) {later : Nat} (le : now ≤ later) :
    Recovered unit rate capacity log later := by
  refine ⟨fun e mem => (h.past e mem).trans le, ?_, h.envelope⟩
  intro t
  calc since log t * unit
      ≤ rate * (now - t) := h.covered t
    _ ≤ rate * (later - t) := Nat.mul_le_mul_left _ (by omega)

lemma Recovered.covered_new (h : Recovered unit rate capacity log now) :
    Covered unit rate capacity log capacity now := by
  refine ⟨h.past, ?_, h.envelope⟩
  intro t
  have before := h.covered t
  rw [Nat.add_mul]
  omega

namespace Covered

/-- A refill that stays within the capacity and does not round up. -/
lemma refill {tokens' : Nat} (h : Covered unit rate capacity log tokens updated)
    (later : updated ≤ now) (full : tokens' ≤ capacity)
    (gain : tokens' * unit ≤ tokens * unit + (now - updated) * rate) :
    Covered unit rate capacity log tokens' now := by
  refine ⟨fun e mem => (h.past e mem).trans later, ?_, h.envelope⟩
  intro t
  rw [Nat.add_mul]
  by_cases old : t ≤ updated
  · have before := h.covered t
    have elapsed : rate * (now - t) = rate * (updated - t) + (now - updated) * rate := by
      rw [Nat.mul_comm (now - updated), ← Nat.mul_add]
      congr 1
      omega
    rw [Nat.add_mul] at before
    omega
  · -- nothing was paid since `t`
    have none : since log t = 0 := since_eq_zero fun e mem => by
      have past := h.past e mem
      omega
    have full' := Nat.mul_le_mul_right unit full
    rw [none]
    omega

lemma spend (h : Covered unit rate capacity log tokens updated) (enough : size ≤ tokens) :
    Covered unit rate capacity (log ++ [(updated, size)]) (tokens - size) updated := by
  have covered : ∀ t, (since (log ++ [(updated, size)]) t + (tokens - size)) * unit ≤
      capacity * unit + rate * (updated - t) := by
    intro t
    refine Nat.le_trans (Nat.mul_le_mul_right unit ?_) (h.covered t)
    rw [since_append, since_singleton]
    split
    · omega
    · omega
  refine ⟨?_, covered, ?_⟩
  · intro e mem
    rcases List.mem_append.1 mem with mem | mem
    · exact h.past e mem
    · rw [List.mem_singleton.1 mem]
  · intro t₁ t₂
    by_cases last : updated ≤ t₂
    · calc within (log ++ [(updated, size)]) t₁ t₂ * unit
          ≤ (since (log ++ [(updated, size)]) t₁ + (tokens - size)) * unit :=
            Nat.mul_le_mul_right unit ((within_le_since t₁ t₂).trans (Nat.le_add_right _ _))
        _ ≤ capacity * unit + rate * (updated - t₁) := covered t₁
        _ ≤ capacity * unit + rate * (t₂ - t₁) :=
            Nat.add_le_add_left (Nat.mul_le_mul_left _ (by omega)) _
    · rw [within_append, within_singleton, if_neg fun counted => last counted.2]
      exact h.envelope t₁ t₂

/-- A bucket idle for the time to fill up may be thrown away. -/
lemma recovered (h : Covered unit rate capacity log tokens updated) (later : updated ≤ now)
    (idle : capacity * unit ≤ rate * (now - updated)) : Recovered unit rate capacity log now := by
  refine ⟨fun e mem => (h.past e mem).trans later, ?_, h.envelope⟩
  intro t
  by_cases old : t ≤ updated
  · have before := h.covered t
    have elapsed : rate * (now - t) = rate * (updated - t) + rate * (now - updated) := by
      rw [← Nat.mul_add]
      congr 1
      omega
    rw [Nat.add_mul] at before
    omega
  · have none : since log t = 0 := since_eq_zero fun e mem => by
      have past := h.past e mem
      omega
    rw [none, Nat.zero_mul]
    exact Nat.zero_le _

end Covered

/-! ### Polling -/

/-- The tokens after a refill, which adds whole tokens only. -/
def level (unit rate capacity tokens updated now : Nat) : Nat :=
  min capacity (tokens + (now - updated) * rate / unit)

def polled (unit rate capacity : Nat) : Nat → Nat → List Nat → Nat
  | tokens, _, [] => tokens
  | tokens, updated, now :: times =>
    polled unit rate capacity (level unit rate capacity tokens updated now) now times

/-- What refills at the given times add, one after another. -/
def credited (unit rate : Nat) : Nat → List Nat → Nat
  | _, [] => 0
  | updated, now :: times => (now - updated) * rate / unit + credited unit rate now times

/-- No refill at the given times rounds anything away. -/
def Exact (unit rate : Nat) : Nat → List Nat → Prop
  | _, [] => True
  | updated, now :: times => unit ∣ (now - updated) * rate ∧ Exact unit rate now times

/-- The capacity can be applied once, at the end. -/
lemma polled_eq (full : tokens ≤ capacity) (times : List Nat) :
    polled unit rate capacity tokens updated times =
      min capacity (tokens + credited unit rate updated times) := by
  induction times generalizing tokens updated with
  | nil => exact (Nat.min_eq_right full).symm
  | cons now times ih =>
    have capped : level unit rate capacity tokens updated now ≤ capacity := Nat.min_le_left _ _
    rw [polled, ih capped, level, credited]
    omega

section
variable {last : Nat}

/-- Elapsed time splits at the first refill. -/
lemma elapsed_split {times : List Nat}
    (ordered : (updated :: now :: (times ++ [last])).Pairwise (· ≤ ·)) :
    (last - updated) * rate = (now - updated) * rate + (last - now) * rate := by
  have earlier : updated ≤ now := List.rel_of_pairwise_cons ordered List.mem_cons_self
  have later : now ≤ last := List.rel_of_pairwise_cons ordered.of_cons
    (List.mem_append_right _ (List.mem_singleton_self last))
  rw [← Nat.add_mul]
  congr 1
  omega

/-- Refills that round nothing away add what one at the end adds. -/
lemma credited_of_exact {times : List Nat} (exact' : Exact unit rate updated times)
    (ordered : (updated :: (times ++ [last])).Pairwise (· ≤ ·)) :
    credited unit rate updated (times ++ [last]) = (last - updated) * rate / unit := by
  induction times generalizing updated with
  | nil => rfl
  | cons now times ih =>
    rw [elapsed_split ordered, Nat.add_div_of_dvd_right exact'.1, List.cons_append, credited,
      ih exact'.2 ordered.of_cons]

end

end Rvpn.TokenBucket
