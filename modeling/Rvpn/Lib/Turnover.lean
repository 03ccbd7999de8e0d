import Mathlib.Algebra.BigOperators.Group.Finset.Piecewise
import Mathlib.Algebra.Order.BigOperators.Group.List
import Mathlib.Algebra.Order.Ring.Nat
import Rvpn.Lib.HashMap

/-!
# Turnover of a table

The weight of a table is the sum of the weights of its entries. When one table takes the place of
another, entries leave and entries come. If those that stay keep their weight and those that come have
none, then what the table lost is the weight of those that left (`weigh_turnover`).
-/

namespace Rvpn
namespace HashMap
variable {κ ν ν' : Type*}

def weigh (f : κ → ν → Nat) (m : HashMap κ ν) : Nat :=
  ((toPairs m).map fun e => f e.1 e.2).sum

lemma weigh_add {f g : κ → ν → Nat} {m : HashMap κ ν} :
    weigh (fun k v => f k v + g k v) m = weigh f m + weigh g m := by
  rw [weigh, weigh, weigh]
  exact List.sum_map_add

variable [DecidableEq κ]

/-- The entries of a table that are not in the other one. -/
def departed (m : HashMap κ ν) (m' : HashMap κ ν') : HashMap κ ν :=
  retain (fun k _ => decide (k ∉ m')) m

variable {f g : κ → ν → Nat} {m : HashMap κ ν} {m' : HashMap κ ν'}

lemma weigh_congr (same : ∀ k v, m.lookup k = some v → f k v = g k v) : weigh f m = weigh g m := by
  rw [weigh, weigh]
  congr 1
  apply List.map_congr_left
  intro e mem
  exact same e.1 e.2 (mem_toPairs.1 mem)

/-- The weight of a key that may be in the table. -/
lemma weigh_eq_sum : weigh f m = ∑ k ∈ m.keys.toFinset, (m.lookup k).elim 0 (f k) := by
  rw [List.sum_toFinset _ m.keys_nodup, weigh, toPairs, List.map_map, AList.keys, List.keys,
    List.map_map]
  congr 1
  apply List.map_congr_left
  intro e mem
  have found : m.lookup e.1 = some e.2 := mem_lookup_entries.2 mem
  rw [Function.comp_apply, Function.comp_apply, found]
  rfl

lemma lookup_departed {k : κ} {v : ν} :
    (departed m m').lookup k = some v ↔ m.lookup k = some v ∧ k ∉ m' := by
  rw [departed, lookup_retain, Option.filter_eq_some_iff, decide_eq_true_eq]

lemma toFinset_keys_departed :
    (departed m m').keys.toFinset = m.keys.toFinset \ m'.keys.toFinset := by
  ext k
  simp only [Finset.mem_sdiff, List.mem_toFinset, ← AList.mem_keys, mem_iff_lookup, lookup_departed,
    exists_and_right]

/-- What stays has its weight, what comes none: the rest has left. -/
lemma weigh_turnover {f' : κ → ν' → Nat}
    (stays : ∀ k v', m'.lookup k = some v' → f' k v' = (m.lookup k).elim 0 (f k)) :
    weigh f' m' + weigh f (departed m m') = weigh f m := by
  have after : weigh f' m' =
      ∑ k ∈ m.keys.toFinset ∩ m'.keys.toFinset, (m.lookup k).elim 0 (f k) := by
    rw [weigh_eq_sum]
    refine Eq.trans (Finset.sum_congr rfl ?_) (Finset.sum_subset Finset.inter_subset_right ?_).symm
    · intro k mem
      obtain ⟨v', found⟩ := mem_iff_lookup.1 (AList.mem_keys.2 (List.mem_toFinset.1 mem))
      rw [found]
      exact stays k v' found
    · intro k mem outside
      have absent : m.lookup k = none := by
        rw [AList.lookup_eq_none, AList.mem_keys]
        intro listed
        exact outside (Finset.mem_inter.2 ⟨List.mem_toFinset.2 listed, mem⟩)
      rw [absent]
      rfl
  have left : weigh f (departed m m') =
      ∑ k ∈ m.keys.toFinset \ m'.keys.toFinset, (m.lookup k).elim 0 (f k) := by
    rw [weigh_eq_sum, toFinset_keys_departed]
    apply Finset.sum_congr rfl
    intro k mem
    rw [← toFinset_keys_departed] at mem
    obtain ⟨v, found⟩ := mem_iff_lookup.1 (AList.mem_keys.2 (List.mem_toFinset.1 mem))
    rw [found, (lookup_departed.1 found).1]
  rw [after, left, weigh_eq_sum]
  exact Finset.sum_inter_add_sum_sdiff _ _ _

end HashMap

/-- Sums bounded term by term are equal iff their terms are. -/
lemma sum_map_eq_iff {α : Type*} {f g : α → Nat} {l : List α} (le : ∀ a ∈ l, f a ≤ g a) :
    (l.map f).sum = (l.map g).sum ↔ ∀ a ∈ l, f a = g a := by
  induction l with
  | nil => simp
  | cons a rest ih =>
    have first := le a List.mem_cons_self
    have others := List.sum_le_sum fun b mem => le b (List.mem_cons_of_mem a mem)
    rw [List.map_cons, List.map_cons, List.sum_cons, List.sum_cons, List.forall_mem_cons,
      ← ih fun b mem => le b (List.mem_cons_of_mem a mem)]
    omega

end Rvpn
