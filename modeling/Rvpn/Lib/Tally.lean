import Rvpn.Lib.HashMap

/-!
# Counts kept beside a table

A map of counts that is kept by single steps up and down, without entries for zero. `Exact counts f`
says that the map counts `f`; a step up or down keeps it exact if `f` changes by one at the same key,
and so does a pass over a list that steps down for every element it drops.
-/

namespace Rvpn.Tally
variable {κ ν : Type*} [DecidableEq κ]

/-- The map has every count but those of zero. -/
def Exact (counts : HashMap κ Nat) (f : κ → Nat) : Prop :=
  ∀ k, counts.lookup k = if f k = 0 then none else some (f k)

def increment (counts : HashMap κ Nat) (k : κ) : HashMap κ Nat :=
  AList.insert k ((counts.lookup k).getD 0 + 1) counts

/-- One less for a key; a count that reaches zero is removed. -/
def decrement (counts : HashMap κ Nat) (k : κ) : HashMap κ Nat :=
  match counts.lookup k with
  | none => counts
  | some count =>
    if count - 1 = 0 then counts.erase k else HashMap.modify k (fun count => count - 1) counts

def occurrences (label : ν → κ) (vs : List ν) (k : κ) : Nat :=
  vs.countP fun v => decide (label v = k)

variable {counts : HashMap κ Nat} {f g : κ → Nat} {k : κ}

lemma exact_empty : Exact (∅ : HashMap κ Nat) fun _ => 0 :=
  fun _ => rfl

lemma Exact.getD (exact : Exact counts f) (k : κ) : (counts.lookup k).getD 0 = f k := by
  rw [exact k]
  split
  · next zero => exact zero.symm
  · rfl

lemma Exact.increment (exact : Exact counts f) (more : ∀ k', g k' = f k' + if k' = k then 1 else 0) :
    Exact (increment counts k) g := by
  intro k'
  rw [Tally.increment, exact.getD, HashMap.lookup_insert_eq, more k']
  split
  · next same => rw [same, if_neg (Nat.succ_ne_zero _)]
  · exact exact k'

lemma Exact.decrement (exact : Exact counts f) (less : ∀ k', f k' = g k' + if k' = k then 1 else 0) :
    Exact (decrement counts k) g := by
  have here : f k = g k + 1 := by rw [less k, if_pos rfl]
  have found : counts.lookup k = some (g k + 1) := by
    rw [exact k, here, if_neg (Nat.succ_ne_zero _)]
  have other : ∀ k' ≠ k, f k' = g k' := fun k' ne => by rw [less k', if_neg ne, Nat.add_zero]
  intro k'
  simp only [Tally.decrement, found, Nat.add_sub_cancel]
  split
  · next zero =>
    rw [HashMap.lookup_erase_eq]
    split
    · next same => rw [same, if_pos zero]
    · next ne => rw [exact k', other k' ne]
  · next pos =>
    rw [HashMap.lookup_modify_found found]
    split
    · next same => rw [same, if_neg pos, Nat.add_sub_cancel]
    · next ne => rw [exact k', other k' ne]

section
variable (label : ν → κ)

lemma occurrences_cons (v : ν) (vs : List ν) (k : κ) :
    occurrences label (v :: vs) k = occurrences label vs k + if k = label v then 1 else 0 := by
  simp only [occurrences, List.countP_cons, decide_eq_true_eq, eq_comm (a := k)]

/-- Stepping down for each dropped element counts those kept. -/
lemma Exact.filter {vs : List ν} (exact : Exact counts fun k => f k + occurrences label vs k)
    (keep : ν → Bool) :
    Exact (vs.foldl (fun counts v => if keep v then counts else Tally.decrement counts (label v))
      counts) fun k => f k + occurrences label (vs.filter keep) k := by
  -- `f` counts the elements that the pass has kept so far
  induction vs generalizing counts f with
  | nil => exact exact
  | cons v vs ih =>
    rw [List.foldl_cons, List.filter_cons]
    simp only [occurrences_cons] at exact
    split
    · simp only [occurrences_cons, Nat.add_comm _ (ite _ _ _), ← Nat.add_assoc] at exact ⊢
      exact ih exact
    · exact ih (exact.decrement fun k => (Nat.add_assoc _ _ _).symm)

end
end Rvpn.Tally
