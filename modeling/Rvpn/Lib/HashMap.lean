import Mathlib.Algebra.GroupWithZero.Nat
import Mathlib.Data.List.AList

/-!
# Hash maps

A hash map is an association list without duplicate keys (Mathlib's `AList`); the order of its
entries is the order in which the map is iterated. This file adds the bulk operations that `AList` does
not have and says what each of them does to a lookup, and to the sum of a measure of the values
(`total`). `Evolves` is a change of one entry.
-/

namespace Rvpn

/-- A hash map from `κ` to `ν`, with its iteration order. -/
abbrev HashMap (κ ν : Type*) := AList (fun _ : κ => ν)

namespace HashMap
variable {κ ν ν' : Type*}

/-- Maps are compared with their order, in a form the kernel evaluates. -/
instance [DecidableEq κ] [DecidableEq ν] : DecidableEq (HashMap κ ν) :=
  fun _ _ => decidable_of_iff _ AList.ext_iff.symm

/-- Apply `f` to every value, as `values_mut` and `iter_mut` do. -/
def mapVal (f : κ → ν → ν') (m : HashMap κ ν) : HashMap κ ν' where
  entries := m.entries.map fun e => ⟨e.1, f e.1 e.2⟩
  nodupKeys := by
    have h := m.nodupKeys
    simpa [List.NodupKeys, List.keys, List.map_map, Function.comp_def] using h

/-- Keep the entries that satisfy `p`. -/
def retain (p : κ → ν → Bool) (m : HashMap κ ν) : HashMap κ ν where
  entries := m.entries.filter fun e => p e.1 e.2
  nodupKeys := m.nodupKeys.sublist List.filter_sublist

def values (m : HashMap κ ν) : List ν :=
  m.entries.map fun e => e.2

def toPairs (m : HashMap κ ν) : List (κ × ν) :=
  m.entries.map fun e => (e.1, e.2)

@[simp] lemma keys_mapVal (f : κ → ν → ν') (m : HashMap κ ν) : (mapVal f m).keys = m.keys := by
  simp [mapVal, AList.keys, List.keys, List.map_map, Function.comp_def]

variable {m : HashMap κ ν} {k : κ}

@[simp] lemma mem_mapVal {f : κ → ν → ν'} : k ∈ mapVal f m ↔ k ∈ m := by
  rw [AList.mem_keys, keys_mapVal, ← AList.mem_keys]

@[simp] lemma mapVal_empty (f : κ → ν → ν') : mapVal f (∅ : HashMap κ ν) = ∅ :=
  rfl

@[simp] lemma retain_empty (p : κ → ν → Bool) : retain p (∅ : HashMap κ ν) = ∅ :=
  rfl

lemma mapVal_mapVal {ν'' : Type*} (g : κ → ν' → ν'') (f : κ → ν → ν') (m : HashMap κ ν) :
    mapVal g (mapVal f m) = mapVal (fun k v => g k (f k v)) m := by
  apply AList.ext
  simp [mapVal, List.map_map, Function.comp_def]

variable [DecidableEq κ]

/-- Update one key's value in place, as `get_mut` does. -/
def modify (k : κ) (f : ν → ν) (m : HashMap κ ν) : HashMap κ ν :=
  mapVal (fun k' v => if k' = k then f v else v) m

lemma mem_lookup_entries {v : ν} :
    m.lookup k = some v ↔ (⟨k, v⟩ : Sigma fun _ : κ => ν) ∈ m.entries := by
  rw [← AList.mem_lookup_iff, Option.mem_def]

@[simp] lemma lookup_mapVal (f : κ → ν → ν') (m : HashMap κ ν) (k : κ) :
    (mapVal f m).lookup k = (m.lookup k).map (f k) := by
  ext v
  simp only [mem_lookup_entries, mapVal, List.mem_map, Option.map_eq_some_iff]
  refine ⟨fun h => ?_, fun h => ?_⟩
  · obtain ⟨⟨k', w⟩, mem, e⟩ := h
    obtain ⟨rfl, hw⟩ := Sigma.mk.inj_iff.1 e
    exact ⟨w, mem, eq_of_heq hw⟩
  · obtain ⟨w, mem, rfl⟩ := h
    exact ⟨⟨k, w⟩, mem, rfl⟩

@[simp] lemma lookup_retain (p : κ → ν → Bool) (m : HashMap κ ν) (k : κ) :
    (retain p m).lookup k = (m.lookup k).filter (p k) := by
  ext v
  simp only [mem_lookup_entries, retain, List.mem_filter, Option.filter_eq_some_iff]

lemma mem_iff_lookup : k ∈ m ↔ ∃ v, m.lookup k = some v := by
  rw [← AList.lookup_isSome, Option.isSome_iff_exists]

lemma lookup_modify (k k' : κ) (f : ν → ν) (m : HashMap κ ν) :
    (modify k f m).lookup k' = if k' = k then (m.lookup k').map f else m.lookup k' := by
  rw [modify, lookup_mapVal]
  split
  · rfl
  · simp

@[simp] lemma lookup_modify_self (k : κ) (f : ν → ν) (m : HashMap κ ν) :
    (modify k f m).lookup k = (m.lookup k).map f := by
  rw [lookup_modify, if_pos rfl]

lemma lookup_modify_found {v : ν} (found : m.lookup k = some v) (f : ν → ν) (k' : κ) :
    (modify k f m).lookup k' = if k' = k then some (f v) else m.lookup k' := by
  rw [lookup_modify]
  split
  · next same => rw [same, found, Option.map_some]
  · rfl

@[simp] lemma mem_modify {k k' : κ} {f : ν → ν} : k' ∈ modify k f m ↔ k' ∈ m :=
  mem_mapVal

lemma lookup_insert_eq (k k' : κ) (v : ν) (m : HashMap κ ν) :
    (AList.insert k v m).lookup k' = if k' = k then some v else m.lookup k' := by
  split
  · next e => rw [e, AList.lookup_insert]
  · next ne => rw [AList.lookup_insert_ne ne]

lemma lookup_erase_eq (k k' : κ) (m : HashMap κ ν) :
    (AList.erase k m).lookup k' = if k' = k then none else m.lookup k' := by
  split
  · next e => rw [e, AList.lookup_erase]
  · next ne => rw [AList.lookup_erase_ne ne]

lemma modify_modify (k : κ) (f g : ν → ν) (m : HashMap κ ν) :
    modify k f (modify k g m) = modify k (fun v => f (g v)) m := by
  rw [modify, modify, mapVal_mapVal, modify]
  congr 1
  funext k' v
  split
  · rfl
  · rfl

lemma mapVal_congr {f g : κ → ν → ν'} (h : ∀ k v, m.lookup k = some v → f k v = g k v) :
    mapVal f m = mapVal g m := by
  apply AList.ext
  simp only [mapVal]
  apply List.map_congr_left
  intro ⟨k, v⟩ mem
  rw [h k v (mem_lookup_entries.2 mem)]

lemma mapVal_eq_self {f : κ → ν → ν} (h : ∀ k v, m.lookup k = some v → f k v = v) :
    mapVal f m = m := by
  rw [mapVal_congr (g := fun _ v => v) h]
  apply AList.ext
  simp [mapVal]

lemma modify_eq_self {f : ν → ν} (h : ∀ v, m.lookup k = some v → f v = v) : modify k f m = m := by
  refine mapVal_eq_self fun k' v found => ?_
  split
  · next same =>
    subst same
    exact h v found
  · rfl

lemma mem_values {v : ν} : v ∈ values m ↔ ∃ k, m.lookup k = some v := by
  simp only [values, List.mem_map, mem_lookup_entries]
  refine ⟨fun h => ?_, fun h => ?_⟩
  · obtain ⟨⟨k, w⟩, mem, rfl⟩ := h
    exact ⟨k, mem⟩
  · obtain ⟨k, mem⟩ := h
    exact ⟨⟨k, v⟩, mem, rfl⟩

/-- The entries from the order of keys and what the map says of each. -/
lemma entries_eq (m : HashMap κ ν) :
    m.entries = m.keys.filterMap fun k => (m.lookup k).map fun v => ⟨k, v⟩ := by
  have each : ∀ e ∈ m.entries, some e =
      (m.lookup e.1).map fun v => (⟨e.1, v⟩ : Sigma fun _ : κ => ν) := by
    intro e mem
    have found : m.lookup e.1 = some e.2 := mem_lookup_entries.2 mem
    rw [found, Option.map_some]
  rw [AList.keys, List.keys, List.filterMap_map]
  exact List.filterMap_some.symm.trans (List.filterMap_congr each)

lemma ext_lookup {m m' : HashMap κ ν} (keys : m.keys = m'.keys)
    (lookups : ∀ k, m.lookup k = m'.lookup k) : m = m' := by
  apply AList.ext
  rw [entries_eq m, entries_eq m', keys]
  simp only [lookups]

lemma mem_toPairs {v : ν} : (k, v) ∈ toPairs m ↔ m.lookup k = some v := by
  simp only [toPairs, List.mem_map, mem_lookup_entries, Prod.mk.injEq]
  refine ⟨fun h => ?_, fun mem => ⟨⟨k, v⟩, mem, rfl, rfl⟩⟩
  obtain ⟨⟨k', w⟩, mem, rfl, rfl⟩ := h
  exact mem

def total (f : ν → Nat) (m : HashMap κ ν) : Nat :=
  ((values m).map f).sum

section
variable {f : ν → Nat} {m : HashMap κ ν} {k : κ} {v : ν}

/-- An entry can be pulled to the front of the entries, up to their order. -/
lemma perm_erase (found : m.lookup k = some v) :
    m.entries.Perm (⟨k, v⟩ :: (m.erase k).entries) := by
  have listed := List.mem_keys_of_mem (mem_lookup_entries.1 found)
  obtain ⟨v', l₁, l₂, _, split, erased⟩ := List.exists_of_kerase listed
  have same : v' = v := by
    have mem : (⟨k, v'⟩ : Sigma fun _ : κ => ν) ∈ m.entries := by
      rw [split]
      simp
    rw [mem_lookup_entries.2 mem] at found
    exact Option.some.inj found
  subst same
  have erased : (m.erase k).entries = l₁ ++ l₂ := erased
  rw [erased, split]
  exact List.perm_middle

lemma total_erase (found : m.lookup k = some v) : total f (m.erase k) + f v = total f m := by
  have sums := ((perm_erase found).map fun e => f e.2).sum_nat
  simp only [List.map_cons, List.sum_cons] at sums
  simp only [total, values, List.map_map, Function.comp_def]
  omega

lemma total_insert_new (absent : k ∉ m) (v : ν) : total f (AList.insert k v m) = total f m + f v := by
  simp only [total, values, AList.entries_insert_of_notMem absent, List.map_cons, List.sum_cons]
  omega

lemma total_insert (v : ν) :
    total f (AList.insert k v m) + (m.lookup k).elim 0 f = total f m + f v := by
  cases found : m.lookup k with
  | none => exact total_insert_new (AList.lookup_eq_none.1 found) v
  | some old =>
    have inserted : total f (AList.insert k v m) = f v + total f (m.erase k) := by
      rw [total, values, AList.entries_insert]
      rfl
    rw [inserted, ← total_erase found, Option.elim_some]
    omega

lemma total_mapVal {g : κ → ν → ν} (same : ∀ k v, m.lookup k = some v → f (g k v) = f v) :
    total f (mapVal g m) = total f m := by
  simp only [total, values, mapVal, List.map_map]
  congr 1
  apply List.map_congr_left
  intro e mem
  exact same e.1 e.2 (mem_lookup_entries.2 mem)

lemma total_modify (found : m.lookup k = some v) (g : ν → ν) :
    total f (modify k g m) + f v = total f m + f (g v) := by
  have sums := ((perm_erase found).map fun e => f (if e.1 = k then g e.2 else e.2)).sum_nat
  have others : (m.erase k).entries.map (fun e => f (if e.1 = k then g e.2 else e.2)) =
      (m.erase k).entries.map fun e => f e.2 := by
    apply List.map_congr_left
    intro e mem
    have other : e.1 ≠ k := (AList.mem_erase.1 (List.mem_keys_of_mem mem)).1
    rw [if_neg other]
  have old := total_erase (f := f) found
  rw [List.map_cons, others] at sums
  simp only [if_true, List.sum_cons] at sums
  simp only [total, values, modify, mapVal, List.map_map, Function.comp_def] at old ⊢
  omega

lemma total_retain {p : κ → ν → Bool} (zero : ∀ k v, m.lookup k = some v → p k v = false → f v = 0) :
    total f (retain p m) = total f m := by
  have listed : ∀ e ∈ m.entries, p e.1 e.2 = false → f e.2 = 0 :=
    fun e mem => zero e.1 e.2 (mem_lookup_entries.2 mem)
  simp only [total, values, retain]
  generalize m.entries = entries at listed
  induction entries with
  | nil => rfl
  | cons e rest ih =>
    have ih := ih fun e mem => listed e (List.mem_cons_of_mem _ mem)
    rw [List.filter_cons]
    split
    · simp only [List.map_cons, List.sum_cons, ih]
    · next dropped =>
      have none := listed e List.mem_cons_self (Bool.eq_false_iff.2 dropped)
      simp only [List.map_cons, List.sum_cons, ih, none, Nat.zero_add]

end

/-- `m'` is `m` with one value updated, or with one entry added. -/
def Evolves (update : κ → ν → ν → Prop) (added : κ → ν → Prop) (m m' : HashMap κ ν) : Prop :=
  (∃ k f, m' = modify k f m ∧ ∀ v, update k v (f v)) ∨
    ∃ k v, k ∉ m ∧ m' = AList.insert k v m ∧ added k v

section
variable {update : κ → ν → ν → Prop} {added : κ → ν → Prop} {m m' : HashMap κ ν}

lemma Evolves.refl (k : κ) (refl : ∀ v, update k v v) : Evolves update added m m :=
  .inl ⟨k, id, (modify_eq_self fun _ _ => rfl).symm, refl⟩

lemma Evolves.of_lookup (h : Evolves update added m m') (refl : ∀ k v, update k v v) {k : κ} {v' : ν}
    (found : m'.lookup k = some v') :
    (∃ v, m.lookup k = some v ∧ update k v v') ∨ m.lookup k = none ∧ added k v' := by
  cases h with
  | inl changed =>
    obtain ⟨k', f, rfl, updated⟩ := changed
    rw [lookup_modify] at found
    split at found
    · next same =>
      subst same
      obtain ⟨v, before', rfl⟩ := Option.map_eq_some_iff.1 found
      exact .inl ⟨v, before', updated v⟩
    · exact .inl ⟨v', found, refl k v'⟩
  | inr inserted =>
    obtain ⟨k', v, unused, rfl, new⟩ := inserted
    rw [lookup_insert_eq] at found
    split at found
    · next same =>
      subst same
      cases found
      exact .inr ⟨AList.lookup_eq_none.2 unused, new⟩
    · exact .inl ⟨v', found, refl k v'⟩

lemma Evolves.kept (h : Evolves update added m m') (refl : ∀ k v, update k v v) {k : κ} {v : ν}
    (found : m.lookup k = some v) : ∃ v', m'.lookup k = some v' ∧ update k v v' := by
  cases h with
  | inl changed =>
    obtain ⟨k', f, rfl, updated⟩ := changed
    rw [lookup_modify, found]
    split
    · next same =>
      subst same
      exact ⟨f v, rfl, updated v⟩
    · exact ⟨v, rfl, refl k v⟩
  | inr inserted =>
    obtain ⟨k', v', unused, rfl, _⟩ := inserted
    have ne : k ≠ k' := by
      intro same
      rw [same, AList.lookup_eq_none.2 unused] at found
      cases found
    rw [AList.lookup_insert_ne ne]
    exact ⟨v, found, refl k v⟩

/-- Labels stay unique if updates keep them and added ones are new. -/
lemma Evolves.unique {α : Type*} {label : ν → α} (h : Evolves update added m m')
    (refl : ∀ k v, update k v v) (keeps : ∀ {k v v'}, update k v v' → label v' = label v)
    (new : ∀ {k k' v v'}, added k v → m.lookup k' = some v' → label v' ≠ label v)
    (one : ∀ {k k' v v'}, added k v → added k' v' → k = k')
    (unique : ∀ {k k' v v'}, m.lookup k = some v → m.lookup k' = some v' → label v = label v' →
      k = k') {k k' : κ} {v v' : ν} (found : m'.lookup k = some v) (found' : m'.lookup k' = some v')
    (eq : label v = label v') : k = k' := by
  cases h.of_lookup refl found with
  | inl old =>
    obtain ⟨u, before', kept⟩ := old
    cases h.of_lookup refl found' with
    | inl old' =>
      obtain ⟨u', before'', kept'⟩ := old'
      exact unique before' before'' (by rw [← keeps kept, ← keeps kept', eq])
    | inr added' => exact absurd ((keeps kept).symm.trans eq) (new added'.2 before')
  | inr added =>
    cases h.of_lookup refl found' with
    | inl old' =>
      obtain ⟨u', before'', kept'⟩ := old'
      exact absurd ((keeps kept').symm.trans eq.symm) (new added.2 before'')
    | inr added' => exact one added.2 added'.2

end

end HashMap
end Rvpn
