import Mathlib.Algebra.Order.Group.Nat
import Mathlib.Data.Nat.ModEq

/-!
# One's-complement sums

Numbers up to `m` that are added with end-around carry. A sum keeps its value modulo `m`, and zero has
the two representations `0` and `m`. `Folds m sum f` says that `f` is what is left of a sum when no
carry is left; a positive sum never becomes `0`.
-/

namespace Rvpn.OnesComplement
variable {m sum f g : Nat}

/-- One round of end-around carry. -/
def carry (m s : Nat) : Nat :=
  s % (m + 1) + s / (m + 1)

/-- `f` represents the sum, without carry. -/
structure Folds (m sum f : Nat) : Prop where
  small : f ≤ m
  same : f ≡ sum [MOD m]
  positive : 0 < sum → 0 < f

lemma carry_modEq (m s : Nat) : carry m s ≡ s [MOD m] := by
  have base : m + 1 ≡ 1 [MOD m] := Nat.ModEq.symm ((Nat.modEq_iff_dvd' (by omega)).2 ⟨1, by omega⟩)
  calc carry m s ≡ s % (m + 1) + 1 * (s / (m + 1)) [MOD m] := by rw [Nat.one_mul]; rfl
    _ ≡ s % (m + 1) + (m + 1) * (s / (m + 1)) [MOD m] :=
      Nat.ModEq.add_left _ (base.symm.mul_right _)
    _ = s := Nat.mod_add_div s (m + 1)

lemma carry_pos {s : Nat} (pos : 0 < s) : 0 < carry m s := by
  by_contra zero
  obtain ⟨rest, quotient⟩ := Nat.add_eq_zero_iff.1 (Nat.eq_zero_of_not_pos zero)
  have whole := Nat.mod_add_div s (m + 1)
  rw [rest, quotient] at whole
  omega

/-- A representation of zero other than `0` is `m`. -/
lemma Folds.eq_of_modEq_zero (h : Folds m sum f) (pos : 0 < sum) (zero : sum ≡ 0 [MOD m]) :
    f = m := by
  obtain ⟨k, rfl⟩ := (Nat.modEq_zero_iff_dvd).1 (h.same.trans zero)
  have small := h.small
  have positive := h.positive pos
  have one : k = 1 := by
    rcases Nat.lt_trichotomy k 1 with less | one | more
    · rw [Nat.lt_one_iff.1 less, Nat.mul_zero] at positive
      omega
    · exact one
    · have double : m * 2 ≤ m * k := Nat.mul_le_mul_left m more
      have some : 0 < m := Nat.pos_of_mul_pos_right positive
      omega
  rw [one, Nat.mul_one]

/-- A positive sum and the complement of what it folds to add up to `m`. -/
lemma Folds.complement (h : Folds m sum f) (pos : 0 < sum) (h' : Folds m (sum + (m - f)) g) :
    g = m := by
  refine h'.eq_of_modEq_zero (by omega) ?_
  have small := h.small
  calc sum + (m - f) ≡ f + (m - f) [MOD m] := h.same.symm.add_right _
    _ = m := by omega
    _ ≡ 0 [MOD m] := (Nat.modEq_zero_iff_dvd).2 (Nat.dvd_refl m)

end Rvpn.OnesComplement
