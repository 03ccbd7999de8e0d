import Mathlib.Algebra.Group.Nat.Defs
import Mathlib.Data.Nat.Basic
import Mathlib.Tactic.Common

/-!
# Checked execution

Code that may panic is embedded in `Checked`: an index out of bounds, an arithmetic overflow, a
failed assertion and a loop that runs out of its fuel are errors of their own. A total function is
got back from checked code with `Checked.get`, given a proof that the code never panics. The lemmas
for `Except` at the start serve all fallible code.
-/

namespace Rvpn

variable {α β ε : Type} {xs : List α}

lemma except_bind_ok {x : Except ε α} {f : α → Except ε β} {b : β} :
    (x >>= f) = .ok b ↔ ∃ a, x = .ok a ∧ f a = .ok b := by
  cases x with
  | error e =>
    refine ⟨?_, ?_⟩
    · intro h
      cases h
    · intro h
      obtain ⟨_, h, _⟩ := h
      cases h
  | ok a =>
    refine ⟨fun h => ⟨a, rfl, h⟩, ?_⟩
    intro h
    obtain ⟨_, eq, h⟩ := h
    cases eq
    exact h

/-- Inversion of a success whose error was mapped. -/
lemma except_mapError_ok {ε' : Type} {x : Except ε α} {f : ε → ε'} {a : α} :
    x.mapError f = .ok a ↔ x = .ok a := by
  cases x with
  | error e => simp [Except.mapError]
  | ok a' => simp [Except.mapError]

lemma except_forM_ok {f : α → Except ε PUnit} (h : xs.forM f = .ok ()) :
    ∀ x ∈ xs, f x = .ok () := by
  induction xs with
  | nil => simp
  | cons x xs ih =>
    obtain ⟨_, here, rest⟩ := except_bind_ok.1 h
    exact List.forall_mem_cons.2 ⟨here, ih rest⟩

lemma except_mapM_ok {f : α → Except ε β} (h : ∀ x ∈ xs, ∃ y, f x = .ok y) :
    ∃ ys, xs.mapM f = .ok ys := by
  induction xs with
  | nil => exact ⟨[], rfl⟩
  | cons x xs ih =>
    obtain ⟨here, rest⟩ := List.forall_mem_cons.1 h
    obtain ⟨y, here⟩ := here
    obtain ⟨ys, rest⟩ := ih rest
    refine ⟨y :: ys, ?_⟩
    rw [List.mapM_cons, except_bind_ok]
    refine ⟨y, here, ?_⟩
    rw [except_bind_ok]
    exact ⟨ys, rest, rfl⟩

/-- Each element has one of the values, and each value has an element. -/
lemma except_mapM_values {f : α → Except ε β} {ys : List β} (h : xs.mapM f = .ok ys) :
    (∀ x ∈ xs, ∃ y ∈ ys, f x = .ok y) ∧ ∀ y ∈ ys, ∃ x ∈ xs, f x = .ok y := by
  induction xs generalizing ys with
  | nil =>
    cases h
    simp
  | cons x xs ih =>
    rw [List.mapM_cons, except_bind_ok] at h
    obtain ⟨y, here, h⟩ := h
    rw [except_bind_ok] at h
    obtain ⟨rest, later, h⟩ := h
    cases h
    obtain ⟨each, origin⟩ := ih later
    refine ⟨List.forall_mem_cons.2 ⟨⟨y, List.mem_cons_self, here⟩, ?_⟩, List.forall_mem_cons.2 ⟨?_, ?_⟩⟩
    · intro source listed
      obtain ⟨value, mem, own⟩ := each source listed
      exact ⟨value, List.mem_cons_of_mem y mem, own⟩
    · exact ⟨x, List.mem_cons_self, here⟩
    · intro value mem
      obtain ⟨source, listed, own⟩ := origin value mem
      exact ⟨source, List.mem_cons_of_mem x listed, own⟩

inductive Panic where
  | overflow
  | outOfBounds
  | diverged
  | assertion
  deriving DecidableEq, Repr

abbrev Checked (α : Type) := Except Panic α

namespace Checked
variable {α β σ : Type}

/-- `xs[i]`, which panics out of bounds. -/
def index (xs : List α) (i : Nat) : Checked α :=
  match xs[i]? with
  | some x => .ok x
  | none => .error .outOfBounds

/-- `&xs[a..b]`, which panics out of bounds. -/
def slice (xs : List α) (a b : Nat) : Checked (List α) :=
  if a ≤ b ∧ b ≤ xs.length then .ok ((xs.drop a).take (b - a)) else .error .outOfBounds

/-- `xs[i] = x`, which panics out of bounds. -/
def set (xs : List α) (i : Nat) (x : α) : Checked (List α) :=
  if i < xs.length then .ok (xs.set i x) else .error .outOfBounds

def vget {n : Nat} (xs : Vector α n) (i : Nat) : Checked α :=
  if h : i < n then .ok xs[i] else .error .outOfBounds

def vset {n : Nat} (xs : Vector α n) (i : Nat) (x : α) : Checked (Vector α n) :=
  if h : i < n then .ok (xs.set i x) else .error .outOfBounds

def shl {w : Nat} (x : BitVec w) (k : Nat) : Checked (BitVec w) :=
  if k < w then .ok (x <<< k) else .error .overflow

/-- `debug_assert!(c)`. -/
def require (c : Prop) [Decidable c] : Checked Unit :=
  if c then .ok () else .error .assertion

def add (w a b : Nat) : Checked Nat :=
  if a + b < 2 ^ w then .ok (a + b) else .error .overflow

def sub (a b : Nat) : Checked Nat :=
  if b ≤ a then .ok (a - b) else .error .overflow

def loop (cond : σ → Bool) (body : σ → Checked σ) : Nat → σ → Checked σ
  | 0, s => if cond s then .error .diverged else .ok s
  | fuel + 1, s => if cond s then body s >>= loop cond body fuel else .ok s

def Returns (x : Checked α) : Prop :=
  ∃ a, x = .ok a

/-- The value of checked code that does not panic. -/
def get : (x : Checked α) → Returns x → α
  | .ok a, _ => a
  | .error _, h => absurd h (by rintro ⟨_, e⟩; cases e)

lemma get_eq {x : Checked α} (h : Returns x) : x = .ok (get x h) := by
  obtain ⟨a, rfl⟩ := h
  rfl

@[simp] lemma get_ok (a : α) (h : Returns (.ok a : Checked α)) : get (.ok a) h = a :=
  rfl

lemma get_eq_of {x : Checked α} {a : α} (h : Returns x) (e : x = .ok a) : get x h = a := by
  subst e
  rfl

variable {i b : Nat}

@[simp] lemma index_of_lt {xs : List α} (h : i < xs.length) : index xs i = .ok xs[i] := by
  simp [index, h]

@[simp] lemma slice_of_le {xs : List α} {a : Nat} (h : a ≤ b) (h' : b ≤ xs.length) :
    slice xs a b = .ok ((xs.drop a).take (b - a)) := by
  simp [slice, h, h']

@[simp] lemma set_of_lt {xs : List α} {x : α} (h : i < xs.length) : set xs i x = .ok (xs.set i x) :=
  if_pos h

@[simp] lemma vget_of_lt {n : Nat} {xs : Vector α n} (h : i < n) : vget xs i = .ok xs[i] :=
  dif_pos h

@[simp] lemma vset_of_lt {n : Nat} {xs : Vector α n} {x : α} (h : i < n) :
    vset xs i x = .ok (xs.set i x) :=
  dif_pos h

@[simp] lemma shl_of_lt {w : Nat} {x : BitVec w} {k : Nat} (h : k < w) : shl x k = .ok (x <<< k) :=
  if_pos h

@[simp] lemma require_of {c : Prop} [Decidable c] (h : c) : require c = .ok () :=
  if_pos h

@[simp] lemma add_of_lt {w a : Nat} (h : a + b < 2 ^ w) : add w a b = .ok (a + b) :=
  if_pos h

@[simp] lemma sub_of_le {a : Nat} (h : b ≤ a) : sub a b = .ok (a - b) :=
  if_pos h

@[simp] lemma bind_ok (a : α) (f : α → Checked β) : ((.ok a : Checked α) >>= f) = f a :=
  rfl

@[simp] lemma pure_eq (a : α) : (pure a : Checked α) = .ok a :=
  rfl

lemma returns_ok (a : α) : Returns (.ok a) :=
  ⟨a, rfl⟩

lemma returns_ite {c : Prop} [Decidable c] {x y : Checked α} (hx : c → Returns x)
    (hy : ¬c → Returns y) : Returns (if c then x else y) := by
  split
  · next h => exact hx h
  · next h => exact hy h

lemma returns_bind {x : Checked α} {f : α → Checked β} (hx : Returns x)
    (hf : ∀ a, x = .ok a → Returns (f a)) : Returns (x >>= f) := by
  obtain ⟨a, rfl⟩ := hx
  exact hf a rfl

/-- The loop rule with invariant `I`: `μ s` rounds of fuel are enough. -/
theorem loop_returns {cond : σ → Bool} {body : σ → Checked σ} (I : σ → Prop) (μ : σ → Nat)
    (round : ∀ s, I s → cond s = true → ∃ s', body s = .ok s' ∧ I s' ∧ μ s' < μ s)
    {fuel : Nat} {s : σ} (inv : I s) (enough : μ s ≤ fuel) :
    ∃ s', loop cond body fuel s = .ok s' ∧ I s' ∧ cond s' = false := by
  induction fuel generalizing s with
  | zero =>
    rw [loop]
    cases h : cond s with
    | false => exact ⟨s, rfl, inv, h⟩
    | true =>
      obtain ⟨s', _, _, lt⟩ := round s inv h
      omega
  | succ fuel ih =>
    rw [loop]
    cases h : cond s with
    | false => exact ⟨s, rfl, inv, h⟩
    | true =>
      obtain ⟨s', eq, inv', lt⟩ := round s inv h
      rw [if_pos rfl, eq]
      exact ih inv' (by omega)

end Checked
end Rvpn
