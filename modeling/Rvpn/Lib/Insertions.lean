import Mathlib.Data.List.Basic
import Mathlib.Data.List.Count
import Mathlib.Data.List.Lattice
import Mathlib.Logic.Function.Basic

/-!
# Insertions and their removal

A table gives a list for every key. `insertAt` puts an entry at the front of its list unless it is
there already, `eraseAt` removes its first occurrence. `eraseAll_insertAll_iff` says when a sequence of
insertions is undone by removing the same entries, last one first: exactly if none of them was there
before.
-/

namespace Rvpn

namespace Insertions
section lists
variable {α : Type*} [BEq α] [LawfulBEq α]

variable {c l : List α}

/-- Entries that are not in a list are united with it and taken out again. -/
lemma union_diff_of_fresh (fresh : ∀ a ∈ l, a ∉ c) : (l ∪ c).diff l = c := by
  induction l with
  | nil => rfl
  | cons a l ih =>
    obtain ⟨new, fresh⟩ := List.forall_mem_cons.1 fresh
    rw [List.cons_union, List.diff_cons]
    by_cases again : a ∈ l ∪ c
    · -- the entry comes again in `l`, where it is taken out a second time
      rw [List.insert_of_mem again, ← List.diff_erase, ih fresh, List.erase_of_not_mem new]
    · rw [List.insert_of_not_mem again, List.erase_cons_head, ih fresh]

lemma count_union_of_mem {a : α} (old : a ∈ c) : (l ∪ c).count a = c.count a := by
  induction l with
  | nil => rfl
  | cons b l ih =>
    have counted := List.count_pos_iff.2 old
    rw [List.cons_union, List.count_insert, ih]
    split
    · omega
    · omega

lemma union_diff_eq_iff : (l ∪ c).diff l = c ↔ ∀ a ∈ l, a ∉ c := by
  refine ⟨?_, union_diff_of_fresh⟩
  intro restored a listed old
  -- the entry was counted in `c` only, and is taken out at least once
  have count := congrArg (List.count a) restored
  rw [List.count_diff, count_union_of_mem old] at count
  have := List.count_pos_iff.2 listed
  have := List.count_pos_iff.2 old
  omega

end lists

section tables
variable {κ α : Type*} [DecidableEq κ]

def entriesAt (key : κ) (entries : List (κ × α)) : List α :=
  (entries.filter fun entry => entry.1 = key).map Prod.snd

variable {entries : List (κ × α)} {table : κ → List α}

variable {key : κ} {entry : κ × α}

lemma mem_entriesAt {a : α} : a ∈ entriesAt key entries ↔ (key, a) ∈ entries := by
  simp [entriesAt]

lemma entriesAt_cons_self (entry : κ × α) (entries : List (κ × α)) :
    entriesAt entry.1 (entry :: entries) = entry.2 :: entriesAt entry.1 entries := by
  simp [entriesAt]

lemma entriesAt_cons_of_ne (ne : entry.1 ≠ key) (entries : List (κ × α)) :
    entriesAt key (entry :: entries) = entriesAt key entries := by
  simp [entriesAt, ne]

variable [BEq α]

/-- The entry is put at the front of its list, unless it is there. -/
def insertAt (table : κ → List α) (entry : κ × α) : κ → List α :=
  Function.update table entry.1 ((table entry.1).insert entry.2)

/-- The first occurrence of the entry is removed. -/
def eraseAt (table : κ → List α) (entry : κ × α) : κ → List α :=
  Function.update table entry.1 ((table entry.1).erase entry.2)

def insertAll (table : κ → List α) (entries : List (κ × α)) : κ → List α :=
  entries.foldr (fun entry table => insertAt table entry) table

def eraseAll (table : κ → List α) (entries : List (κ × α)) : κ → List α :=
  entries.foldl eraseAt table

@[simp] lemma insertAll_cons (table : κ → List α) (entry : κ × α) (entries : List (κ × α)) :
    insertAll table (entry :: entries) = insertAt (insertAll table entries) entry :=
  rfl

@[simp] lemma eraseAll_cons (table : κ → List α) (entry : κ × α) (entries : List (κ × α)) :
    eraseAll table (entry :: entries) = eraseAll (eraseAt table entry) entries :=
  rfl

lemma insertAll_apply (table : κ → List α) (entries : List (κ × α)) (key : κ) :
    insertAll table entries key = entriesAt key entries ∪ table key := by
  induction entries with
  | nil => rfl
  | cons entry entries ih =>
    rw [insertAll_cons, insertAt]
    by_cases same : entry.1 = key
    · subst same
      rw [Function.update_self, ih, entriesAt_cons_self, List.cons_union]
    · rw [Function.update_of_ne (Ne.symm same), ih, entriesAt_cons_of_ne same]

variable [LawfulBEq α]

lemma insertAt_of_mem (there : entry.2 ∈ table entry.1) : insertAt table entry = table := by
  rw [insertAt, List.insert_of_mem there, Function.update_eq_self]

lemma eraseAt_of_notMem (absent : entry.2 ∉ table entry.1) : eraseAt table entry = table := by
  rw [eraseAt, List.erase_of_not_mem absent, Function.update_eq_self]

lemma eraseAll_apply (table : κ → List α) (entries : List (κ × α)) (key : κ) :
    eraseAll table entries key = (table key).diff (entriesAt key entries) := by
  induction entries generalizing table with
  | nil => rfl
  | cons entry entries ih =>
    rw [eraseAll_cons, ih, eraseAt]
    by_cases same : entry.1 = key
    · subst same
      rw [Function.update_self, entriesAt_cons_self, List.diff_cons]
    · rw [Function.update_of_ne (Ne.symm same), entriesAt_cons_of_ne same]

lemma mem_insertAll {a : α} :
    a ∈ insertAll table entries key ↔ (key, a) ∈ entries ∨ a ∈ table key := by
  rw [insertAll_apply, List.mem_union_iff, mem_entriesAt]

/-- Removal restores the table iff nothing inserted was there before. -/
theorem eraseAll_insertAll_iff : eraseAll (insertAll table entries) entries = table ↔
      ∀ entry ∈ entries, entry.2 ∉ table entry.1 := by
  have lists (key : κ) : eraseAll (insertAll table entries) entries key = table key ↔
      ∀ a, (key, a) ∈ entries → a ∉ table key := by
    rw [eraseAll_apply, insertAll_apply, union_diff_eq_iff]
    exact forall_congr' fun a => by rw [mem_entriesAt]
  rw [funext_iff]
  refine ⟨?_, ?_⟩
  · intro restored entry listed
    exact (lists entry.1).1 (restored entry.1) entry.2 listed
  · intro fresh key
    exact (lists key).2 fun a listed => fresh (key, a) listed

end tables
end Insertions
end Rvpn
