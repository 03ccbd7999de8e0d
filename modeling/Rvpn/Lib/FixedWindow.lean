import Mathlib.Algebra.Order.Ring.Nat
import Mathlib.Data.List.Count
import Mathlib.Tactic.Common

/-!
# Fixed-window counters

A counter admits at most `limit` events in a window of `length` steps of the clock; a window begins
with the first event after the last one has ended. An interval of the same length can meet two windows,
but not three. `Counted` is the invariant of a counter with the times of the admitted events; `Covers`
adds the case of a counter that was thrown away after its window.
-/

namespace Rvpn.FixedWindow

def within (length : Nat) (history : List Nat) (t : Nat) : Nat :=
  history.countP fun h => decide (t ≤ h ∧ h < t + length)

/-- The events since `start` are counted; later intervals have room. -/
structure Counted (limit length : Nat) (history : List Nat) (start count : Nat) : Prop where
  capped : count ≤ limit
  current : history.countP (fun h => decide (start ≤ h)) ≤ count
  previous : history.countP (fun h => decide (start < h + length ∧ h < start)) ≤ limit
  past : ∀ h ∈ history, h < start + length
  bound : ∀ t, within length history t ≤ 2 * limit

/-- The event was admitted, or not. -/
def Grown (now : Nat) (history history' : List Nat) : Prop :=
  history' = history ∨ history' = now :: history

/-- A counter may be missing: no event, or its window is over. -/
def Covers (limit length : Nat) (history : List Nat) (clock : Nat) : Option (Nat × Nat) → Prop
  | some (start, count) => start ≤ clock ∧ Counted limit length history start count
  | none => history = [] ∨
      ∃ start count, start + length ≤ clock ∧ Counted limit length history start count

variable {limit length start count now clock : Nat} {history history' : List Nat}

/-- An interval into the window has its events and those just before. -/
lemma within_le (history : List Nat) {t : Nat} (reaches : start < t + length) :
    within length history t ≤ history.countP (fun h => decide (start ≤ h)) +
      history.countP (fun h => decide (start < h + length ∧ h < start)) := by
  induction history with
  | nil => exact Nat.zero_le _
  | cons h history ih =>
    unfold within at ih ⊢
    simp only [List.countP_cons, decide_eq_true_eq]
    split <;> split <;> split <;> omega

lemma counted_nil (now : Nat) : Counted limit length [] now 0 :=
  ⟨Nat.zero_le _, le_rfl, Nat.zero_le _, nofun, fun _ => Nat.zero_le _⟩

lemma Counted.renew (counted : Counted limit length history start count)
    (ended : start + length ≤ now) : Counted limit length history now 0 := by
  constructor
  case capped => exact Nat.zero_le _
  case current =>
    rw [Nat.le_zero, List.countP_eq_zero]
    intro h mem
    have := counted.past h mem
    simp only [decide_eq_true_eq]
    omega
  case previous =>
    -- what is less than a window away belongs to the last window
    have less : history.countP (fun h => decide (now < h + length ∧ h < now)) ≤
        history.countP (fun h => decide (start ≤ h)) := by
      apply List.countP_mono_left
      intro h mem
      simp only [decide_eq_true_eq]
      omega
    exact less.trans (counted.current.trans counted.capped)
  case past =>
    intro h mem
    have := counted.past h mem
    omega
  case bound => exact counted.bound

lemma Counted.charge (counted : Counted limit length history start count) (begun : start ≤ now)
    (inside : now < start + length) (room : count < limit) (grown : Grown now history history') :
    Counted limit length history' start (count + 1) := by
  rcases grown with rfl | rfl
  · exact ⟨room, counted.current.trans (Nat.le_succ _), counted.previous, counted.past, counted.bound⟩
  · have current : (now :: history).countP (fun h => decide (start ≤ h)) ≤ count + 1 := by
      rw [List.countP_cons_of_pos (by simpa using begun)]
      exact Nat.succ_le_succ counted.current
    have previous : (now :: history).countP (fun h => decide (start < h + length ∧ h < start)) ≤
        limit := by
      rw [List.countP_cons_of_neg (by simp only [decide_eq_true_eq]; omega)]
      exact counted.previous
    refine ⟨room, current, previous, List.forall_mem_cons.2 ⟨inside, counted.past⟩, ?_⟩
    intro t
    by_cases reaches : start < t + length
    · have split := within_le (now :: history) reaches
      omega
    · -- the interval ends before the window begins
      unfold within
      rw [List.countP_cons_of_neg (by simp only [decide_eq_true_eq]; omega)]
      exact counted.bound t

namespace Covers

variable {entry : Option (Nat × Nat)}

lemma later (covers : Covers limit length history clock entry) (ordered : clock ≤ now) :
    Covers limit length history now entry := by
  cases entry with
  | some window => exact ⟨covers.1.trans ordered, covers.2⟩
  | none =>
    rcases covers with fresh | ⟨start, count, ended, counted⟩
    · exact .inl fresh
    · exact .inr ⟨start, count, ended.trans ordered, counted⟩

/-- A new window, for a counter that is missing or whose window is over. -/
lemma renewed (covers : Covers limit length history now entry)
    (ended : ∀ start count, entry = some (start, count) → start + length ≤ now) (allows : 0 < limit)
    (positive : 0 < length) (grown : Grown now history history') :
    Covers limit length history' now (some (now, 1)) := by
  have renewed : Counted limit length history now 0 := by
    cases entry with
    | some window => exact covers.2.renew (ended window.1 window.2 rfl)
    | none =>
      rcases covers with fresh | ⟨start, count, ended, counted⟩
      · rw [fresh]
        exact counted_nil now
      · exact counted.renew ended
  exact ⟨le_rfl, renewed.charge le_rfl (Nat.lt_add_of_pos_right positive) allows grown⟩

lemma charged (covers : Covers limit length history now (some (start, count)))
    (inside : now < start + length) (room : count < limit) (grown : Grown now history history') :
    Covers limit length history' now (some (start, count + 1)) :=
  ⟨covers.1, covers.2.charge covers.1 inside room grown⟩

/-- A counter can be thrown away once its window is over. -/
lemma forgotten (covers : Covers limit length history now (some (start, count)))
    (ended : start + length ≤ now) : Covers limit length history now none :=
  .inr ⟨start, count, ended, covers.2⟩

/-- Every interval of the length of a window has at most twice the limit. -/
lemma within_le (covers : Covers limit length history clock entry) (t : Nat) :
    within length history t ≤ 2 * limit := by
  cases entry with
  | some window => exact covers.2.bound t
  | none =>
    rcases covers with rfl | ⟨start, count, _, counted⟩
    · exact Nat.zero_le _
    · exact counted.bound t

end Covers
end Rvpn.FixedWindow
