import Mathlib.Data.List.Induction
import Mathlib.Tactic.Common

/-!
# Runs of a state machine

A state machine is a step function `step : σ → ε → σ`; a run is a list of events. `Always P` says
that `P` holds in every state a run reaches, `EachStep ok` that every event is taken in a state where
`ok` allows it. `run_invariant` is the invariant rule, `run_history` the one with the events so far, and
`always_iff_eachStep` the rule for an exact condition.
-/

namespace Rvpn
variable {σ ε : Type*}

/-- The state reached from `s` by the events `es`. -/
def run (step : σ → ε → σ) (s : σ) (es : List ε) : σ :=
  es.foldl step s

/-- `P` holds in every state that the run `es` from `s` reaches. -/
def Always (step : σ → ε → σ) (P : σ → Prop) (s : σ) (es : List ε) : Prop :=
  ∀ pre post, es = pre ++ post → P (run step s pre)

/-- Every event of the run `es` from `s` is allowed where it is taken. -/
def EachStep (step : σ → ε → σ) (ok : σ → ε → Prop) (s : σ) (es : List ε) : Prop :=
  ∀ pre e post, es = pre ++ e :: post → ok (run step s pre) e

variable {step : σ → ε → σ} {P I : σ → Prop} {ok : σ → ε → Prop}

@[simp] lemma run_nil (s : σ) : run step s [] = s :=
  rfl

@[simp] lemma run_cons (s : σ) (e : ε) (es : List ε) :
    run step s (e :: es) = run step (step s e) es :=
  rfl

@[simp] lemma run_append (s : σ) (es es' : List ε) :
    run step s (es ++ es') = run step (run step s es) es' :=
  List.foldl_append

variable {s : σ} {es : List ε}

@[simp] lemma always_nil : Always step P s [] ↔ P s := by
  refine ⟨fun h => h [] [] rfl, ?_⟩
  intro h pre post e
  obtain ⟨rfl, rfl⟩ := List.append_eq_nil_iff.1 e.symm
  exact h

@[simp] lemma always_cons {e : ε} :
    Always step P s (e :: es) ↔ P s ∧ Always step P (step s e) es := by
  refine ⟨?_, ?_⟩
  · intro h
    refine ⟨h [] (e :: es) rfl, ?_⟩
    intro pre post eq
    exact h (e :: pre) post (by rw [eq]; rfl)
  · intro h pre post eq
    cases pre with
    | nil => exact h.1
    | cons a pre =>
      obtain ⟨rfl, rfl⟩ := List.cons.inj eq
      exact h.2 pre post rfl

@[simp] lemma eachStep_nil : EachStep step ok s [] := by
  intro pre e post eq
  exact absurd eq (by simp)

@[simp] lemma eachStep_cons {e : ε} :
    EachStep step ok s (e :: es) ↔ ok s e ∧ EachStep step ok (step s e) es := by
  refine ⟨?_, ?_⟩
  · intro h
    refine ⟨h [] e es rfl, ?_⟩
    intro pre a post eq
    exact h (e :: pre) a post (by rw [eq]; rfl)
  · intro h pre a post eq
    cases pre with
    | nil =>
      obtain ⟨rfl, rfl⟩ := List.cons.inj eq
      exact h.1
    | cons b pre =>
      obtain ⟨rfl, rfl⟩ := List.cons.inj eq
      exact h.2 pre a post rfl

instance EachStep.decidable [∀ s e, Decidable (ok s e)] :
    ∀ (s : σ) (es : List ε), Decidable (EachStep step ok s es)
  | _, [] => isTrue eachStep_nil
  | s, e :: es =>
    have : Decidable (EachStep step ok (step s e) es) := EachStep.decidable (step s e) es
    decidable_of_iff (ok s e ∧ EachStep step ok (step s e) es) eachStep_cons.symm

lemma Always.last {s : σ} {es : List ε} (h : Always step P s es) : P (run step s es) :=
  h es [] (by simp)

lemma EachStep.of_append {pre post : List ε} (h : EachStep step ok s (pre ++ post)) :
    EachStep step ok s pre := by
  intro pre' e post' eq
  exact h pre' e (post' ++ post) (by simp [eq])

lemma eachStep_append {es es' : List ε} : EachStep step ok s (es ++ es') ↔
      EachStep step ok s es ∧ EachStep step ok (run step s es) es' := by
  induction es generalizing s with
  | nil => simp
  | cons e es ih => simp [ih, and_assoc]

lemma EachStep.and {ok' : σ → ε → Prop} {s : σ} {es : List ε} (h : EachStep step ok s es)
    (h' : EachStep step ok' s es) : EachStep step (fun s e => ok s e ∧ ok' s e) s es :=
  fun pre e post eq => ⟨h pre e post eq, h' pre e post eq⟩

lemma Always.mono {Q : σ → Prop} (h : Always step P s es) (imp : ∀ s, P s → Q s) :
    Always step Q s es :=
  fun pre post eq => imp _ (h pre post eq)

lemma EachStep.mono {ok' : σ → ε → Prop} (h : EachStep step ok s es)
    (imp : ∀ s e, ok s e → ok' s e) : EachStep step ok' s es :=
  fun pre e post eq => imp _ _ (h pre e post eq)

/-- A run that is given by the states it goes through. -/
lemma run_range {states : Nat → σ} {events : Nat → ε}
    (next : ∀ n, states (n + 1) = step (states n) (events n)) (n : Nat) :
    run step (states 0) ((List.range n).map events) = states n := by
  induction n with
  | zero => rfl
  | succ n ih =>
    rw [List.range_succ, List.map_append, run_append, ih, next]
    rfl

lemma eachStep_range {states : Nat → σ} {events : Nat → ε}
    (next : ∀ n, states (n + 1) = step (states n) (events n)) {n : Nat}
    (allowed : ∀ k < n, ok (states k) (events k)) :
    EachStep step ok (states 0) ((List.range n).map events) := by
  induction n with
  | zero => exact eachStep_nil
  | succ n ih =>
    rw [List.range_succ, List.map_append, eachStep_append, run_range next]
    refine ⟨ih fun k lt => allowed k (Nat.lt_succ_of_lt lt), ?_⟩
    exact eachStep_cons.2 ⟨allowed n (Nat.lt_succ_self n), eachStep_nil⟩

/-- The invariant rule: what every allowed step keeps holds at the end. -/
theorem run_invariant (init : I s) (keep : ∀ s e, I s → ok s e → I (step s e))
    (all : EachStep step ok s es) : I (run step s es) := by
  induction es generalizing s with
  | nil => exact init
  | cons e es ih =>
    obtain ⟨h, hs⟩ := eachStep_cons.1 all
    exact ih (keep s e init h) hs

/-- The invariant rule for a machine whose every step keeps the invariant. -/
theorem run_invariant' (init : I s) (keep : ∀ s e, I s → I (step s e)) : I (run step s es) := by
  have all : EachStep step (fun _ _ => True) s es := fun _ _ _ _ => trivial
  exact run_invariant init (fun s e h _ => keep s e h) all

/-- The invariant rule, for every state of the run. -/
theorem always_of_eachStep (init : I s) (keep : ∀ s e, I s → ok s e → I (step s e))
    (all : EachStep step ok s es) : Always step I s es := by
  intro pre post eq
  subst eq
  exact run_invariant init keep all.of_append

/-- The history rule: an invariant on the state and its events. -/
theorem run_history {I : List ε → σ → Prop} (init : I [] s)
    (keep : ∀ pre e, I pre (run step s pre) → ok (run step s pre) e →
      I (pre ++ [e]) (step (run step s pre) e)) (all : EachStep step ok s es) :
    I es (run step s es) := by
  induction es using List.reverseRecOn with
  | nil => exact init
  | append_singleton pre e ih =>
    rw [run_append]
    exact keep pre e (ih all.of_append) (all pre e [] rfl)

lemma history_cases {pre before after : List ε} {e a : ε} (eq : pre ++ [e] = before ++ a :: after) :
    (before = pre ∧ a = e) ∨ ∃ after', pre = before ++ a :: after' := by
  rcases List.eq_nil_or_concat after with rfl | ⟨after', last, rfl⟩
  · obtain ⟨rfl, same⟩ := List.append_inj' eq rfl
    exact .inl ⟨rfl, (List.cons.inj same).1.symm⟩
  · right
    refine ⟨after', ?_⟩
    have eq : pre ++ [e] = (before ++ a :: after') ++ [last] := by rw [eq]; simp
    exact (List.append_inj' eq rfl).1

/-- The origin rule: a run reaches `Q` only by an event that `ok` describes. -/
theorem run_origin {Q : σ → Prop} (inv : I s) (init : ¬ Q s) (keep : ∀ s e, I s → I (step s e))
    (origin : ∀ s e, I s → Q (step s e) → Q s ∨ ok s e) (reached : Q (run step s es)) :
    ∃ pre e post, es = pre ++ e :: post ∧ ok (run step s pre) e := by
  induction es generalizing s with
  | nil => exact absurd reached init
  | cons e es ih =>
    by_cases now : Q (step s e)
    · exact ⟨[], e, es, rfl, (origin s e inv now).resolve_left init⟩
    · obtain ⟨pre, e', post, eq, h⟩ := ih (keep s e inv) now reached
      exact ⟨e :: pre, e', post, by rw [eq]; rfl, h⟩

/-- The rule for exact conditions: under `I`, `P` holds along a run iff `ok` allows each step. -/
theorem always_iff_eachStep (inv : I s) (init : P s) (keep : ∀ s e, I s → I (step s e))
    (exact' : ∀ s e, I s → P s → (P (step s e) ↔ ok s e)) :
    Always step P s es ↔ EachStep step ok s es := by
  induction es generalizing s with
  | nil => simp [init]
  | cons e es ih =>
    rw [always_cons, eachStep_cons]
    refine ⟨fun h => ?_, fun h => ?_⟩
    · have hP : P (step s e) := h.2 [] es rfl
      exact ⟨(exact' s e inv init).1 hP, (ih (keep s e inv) hP).1 h.2⟩
    · have hP : P (step s e) := (exact' s e inv init).2 h.1
      exact ⟨init, (ih (keep s e inv) hP).2 h.2⟩

end Rvpn
