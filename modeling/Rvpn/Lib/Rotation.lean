import Mathlib.Algebra.Order.Ring.Int
import Mathlib.Data.List.Basic
import Mathlib.Logic.Function.Basic

/-!
# Credit in a rotation

A rotation is a list whose front element is taken off, worked on, and put back at the front or at
the end. Each element pays from its credit while it is at the front, and gets a quantum when it goes to
the end. For two elements the

balance = credit a - credit b - (one quantum if b is ahead of a)

changes by nothing but what the two pay.
-/

namespace Rvpn
variable {α : Type*} [DecidableEq α] {l : List α} {a b k : α}

/-- `a` comes before `b`. -/
def Ahead (l : List α) (a b : α) : Prop :=
  l.idxOf a < l.idxOf b

instance (l : List α) (a b : α) : Decidable (Ahead l a b) :=
  inferInstanceAs (Decidable (_ < _))

lemma Ahead.asymm (h : Ahead l a b) : ¬ Ahead l b a :=
  Nat.not_lt.2 (Nat.le_of_lt h)

lemma ahead_cons_self (l : List α) (ne : a ≠ b) : Ahead (a :: l) a b := by
  rw [Ahead, List.idxOf_cons_self, List.idxOf_cons_ne l ne]
  exact Nat.succ_pos _

lemma ahead_cons (l : List α) (neA : k ≠ a) (neB : k ≠ b) : Ahead (k :: l) a b ↔ Ahead l a b := by
  rw [Ahead, List.idxOf_cons_ne l neA, List.idxOf_cons_ne l neB, Nat.succ_lt_succ_iff]
  rfl

lemma ahead_append (memA : a ∈ l) (memB : b ∈ l) (r : List α) : Ahead (l ++ r) a b ↔ Ahead l a b := by
  rw [Ahead, List.idxOf_append_of_mem memA, List.idxOf_append_of_mem memB]
  rfl

lemma ahead_append_singleton (memA : a ∈ l) (absent : b ∉ l) : Ahead (l ++ [b]) a b := by
  rw [Ahead, List.idxOf_append_of_mem memA, List.idxOf_append_of_notMem absent, List.idxOf_cons_self]
  exact Nat.lt_of_lt_of_le (List.idxOf_lt_length_iff.2 memA) (Nat.le_add_right _ _)

def balance (quantum : Int) (credit : α → Int) (l : List α) (a b : α) : Int :=
  credit a - credit b - if Ahead l b a then quantum else 0

section
variable {quantum low high : Int} {credit credit' : α → Int}

lemma balance_congr {l' : List α} (sameA : credit' a = credit a) (sameB : credit' b = credit b)
    (order : Ahead l' b a ↔ Ahead l b a) :
    balance quantum credit' l' a b = balance quantum credit l a b := by
  simp only [balance, sameA, sameB, order]

lemma balance_pay (l : List α) (ne : a ≠ b) (price : Int) :
    balance quantum (Function.update credit k (credit k - price)) l a b =
      balance quantum credit l a b - (if k = a then price else 0) + if k = b then price else 0 := by
  unfold balance
  by_cases isA : k = a
  · subst isA
    rw [Function.update_self, Function.update_of_ne (Ne.symm ne), if_pos rfl, if_neg ne]
    omega
  · rw [Function.update_of_ne (Ne.symm isA), if_neg isA]
    by_cases isB : k = b
    · subst isB
      rw [Function.update_self, if_pos rfl]
      omega
    · rw [Function.update_of_ne (Ne.symm isB), if_neg isB]
      omega

/-- The front element goes to the end and gets a quantum. -/
lemma balance_turn {rest : List α} (nodup : (k :: rest).Nodup) (memA : a ∈ k :: rest)
    (memB : b ∈ k :: rest) (ne : a ≠ b) :
    balance quantum (Function.update credit k (credit k + quantum)) (rest ++ [k]) a b =
      balance quantum credit (k :: rest) a b := by
  have absent : k ∉ rest := (List.nodup_cons.1 nodup).1
  have inRest : ∀ c ∈ k :: rest, c ≠ k → c ∈ rest :=
    fun c mem other => (List.mem_cons.1 mem).resolve_left other
  unfold balance
  by_cases isA : k = a
  · -- `a` had the front, now it is behind `b`
    subst isA
    have after := ahead_append_singleton (inRest b memB (Ne.symm ne)) absent
    have before := (ahead_cons_self rest ne).asymm
    rw [Function.update_self, Function.update_of_ne (Ne.symm ne), if_pos after, if_neg before]
    omega
  · by_cases isB : k = b
    · subst isB
      have after := (ahead_append_singleton (inRest a memA ne) absent).asymm
      have before := ahead_cons_self rest (Ne.symm ne)
      rw [Function.update_self, Function.update_of_ne ne, if_neg after, if_pos before]
      omega
    · have order : Ahead (rest ++ [k]) b a ↔ Ahead (k :: rest) b a := by
        rw [ahead_append (inRest b memB (Ne.symm isB)) (inRest a memA (Ne.symm isA)),
          ahead_cons rest isB isA]
      simp only [Function.update_of_ne (Ne.symm isA), Function.update_of_ne (Ne.symm isB), order]

lemma balance_bounds (l : List α) (hA : low ≤ credit a ∧ credit a ≤ high)
    (hB : low ≤ credit b ∧ credit b ≤ high) (pos : 0 ≤ quantum) :
    low - high - quantum ≤ balance quantum credit l a b ∧
      balance quantum credit l a b ≤ high - low := by
  unfold balance
  split
  · omega
  · omega

end

end Rvpn
