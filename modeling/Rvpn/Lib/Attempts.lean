import Mathlib.Algebra.Order.Ring.Nat
import Rvpn.Lib.Run

/-!
# Attempts with a deadline

A call sends something and waits for an answer until a deadline; then it sends again, up to a number of
attempts. `Loop` is such a call, and `Timed` runs it with a clock. The deadline of an attempt is a window
after its transmission, and the attempt does not end before it (`Allowed`). `Patient` says that every
attempt lasts for some least time.
-/

namespace Rvpn
variable {σ ε : Type*}

structure Loop (σ ε : Type*) where
  step : σ → ε → σ
  /-- The attempt that the call waits in. -/
  attempt : σ → Option Nat
  /-- The event is the deadline of the attempt. -/
  expires : ε → Bool
  limit : Nat
  attempt_limit : ∀ s e, attempt s = some limit → expires e = true → attempt (step s e) = none
  attempt_none : ∀ s e, attempt s = none → attempt (step s e) = none

/-- The clock when an event is noticed, and after what is sent for it. -/
structure Reading where
  now : Nat
  sent : Nat
  now_le : now ≤ sent

/-- A call with its last transmission, the clock, and whether it gave up. -/
structure Timed (σ : Type*) where
  stage : σ
  sentAt : Nat
  clock : Nat
  gaveUp : Bool

namespace Loop
variable (L : Loop σ ε)

/-- One event. A new attempt begins with its transmission. -/
def tick (w : Timed σ) (event : ε × Reading) : Timed σ :=
  let stage := L.step w.stage event.1
  { stage := stage
    sentAt :=
      if L.attempt stage = none ∨ L.attempt stage = L.attempt w.stage then w.sentAt else event.2.sent
    clock := event.2.sent
    gaveUp := w.gaveUp || (L.expires event.1 && decide (L.attempt w.stage = some L.limit)) }

/-- The clock goes forward, and attempts end at their deadlines. -/
def Allowed (window : Nat → Nat) (w : Timed σ) (event : ε × Reading) : Prop :=
  w.clock ≤ event.2.now ∧ ∀ attempt, L.attempt w.stage = some attempt →
    (L.expires event.1 = true → w.sentAt + window attempt ≤ event.2.now) ∧
    (L.expires event.1 = false → w.clock < w.sentAt + window attempt)

/-- What ends an attempt comes some time after the last transmission. -/
def Waited (least : Nat) (w : Timed σ) (event : ε × Reading) : Prop :=
  ((L.attempt w.stage).isSome → L.expires event.1 = true → w.sentAt + least ≤ event.2.now) ∧
    (w.gaveUp = true → w.sentAt + least ≤ event.2.now)

/-- In every run all attempts last for some least time. -/
def Patient (window : Nat → Nat) (least : Nat) (w : Timed σ) : Prop :=
  ∀ events, EachStep L.tick (L.Allowed window) w events → EachStep L.tick (L.Waited least) w events

/-- A call that has just made an attempt. -/
def begun (stage : σ) (now : Nat) : Timed σ where
  stage := stage
  sentAt := now
  clock := now
  gaveUp := false

variable {L} {window : Nat → Nat} {least : Nat}

/-- A call that has given up makes no more attempts, and it has waited. -/
def Rested (L : Loop σ ε) (least : Nat) (w : Timed σ) : Prop :=
  w.gaveUp = true → L.attempt w.stage = none ∧ w.sentAt + least ≤ w.clock

lemma Rested.tick (long : ∀ attempt, least ≤ window attempt) {w : Timed σ} {event : ε × Reading}
    (rested : L.Rested least w) (allowed : L.Allowed window w event) :
    L.Rested least (L.tick w event) := by
  intro gave
  have later := event.2.now_le
  have ended : L.attempt (L.step w.stage event.1) = none ∧ w.sentAt + least ≤ event.2.now := by
    rcases Bool.or_eq_true_iff.1 gave with before | now
    · obtain ⟨none, waited⟩ := rested before
      exact ⟨L.attempt_none _ _ none, waited.trans allowed.1⟩
    · obtain ⟨expires, last⟩ := Bool.and_eq_true_iff.1 now
      have last := of_decide_eq_true last
      refine ⟨L.attempt_limit _ _ last expires, ?_⟩
      exact (Nat.add_le_add_left (long _) _).trans ((allowed.2 _ last).1 expires)
  refine ⟨ended.1, ?_⟩
  have same : (L.tick w event).sentAt = w.sentAt := if_pos (.inl ended.1)
  rw [same]
  exact ended.2.trans later

lemma patient_of_le (long : ∀ attempt, least ≤ window attempt) (stage : σ) (now : Nat) :
    L.Patient window least (begun stage now) := by
  intro events allowed pre event post eq
  have before := (eq ▸ allowed).of_append
  have here := allowed pre event post eq
  have rested : L.Rested least (run L.tick (begun stage now) pre) :=
    run_invariant (fun gave => absurd gave (by simp [begun])) (fun _ _ h ok => h.tick long ok) before
  refine ⟨?_, fun gave => (rested gave).2.trans here.1⟩
  intro waits expires
  obtain ⟨attempt, found⟩ := Option.isSome_iff_exists.1 waits
  exact (Nat.add_le_add_left (long attempt) _).trans ((here.2 attempt found).1 expires)

lemma sentAt_le_tick {w : Timed σ} {event : ε × Reading} (ordered : w.sentAt ≤ w.clock)
    (allowed : L.Allowed window w event) : (L.tick w event).sentAt ≤ (L.tick w event).clock := by
  show (if _ then w.sentAt else event.2.sent) ≤ event.2.sent
  split
  · exact (ordered.trans allowed.1).trans event.2.now_le
  · exact le_rfl

/-- With an empty window an attempt notices nothing but its deadline. -/
theorem expires_of_empty (stage : σ) (now : Nat) {events : List (ε × Reading)}
    (allowed : EachStep L.tick (L.Allowed fun _ => 0) (begun stage now) events) :
    EachStep L.tick (fun w event => (L.attempt w.stage).isSome → L.expires event.1 = true)
      (begun stage now) events := by
  intro pre event post eq waits
  have here := allowed pre event post eq
  have ordered : (run L.tick (begun stage now) pre).sentAt ≤ (run L.tick (begun stage now) pre).clock :=
    run_invariant (I := fun w => w.sentAt ≤ w.clock) le_rfl
      (fun _ _ ordered ok => sentAt_le_tick ordered ok) (eq ▸ allowed).of_append
  obtain ⟨attempt, found⟩ := Option.isSome_iff_exists.1 waits
  by_contra other
  exact absurd ((here.2 attempt found).2 (Bool.eq_false_iff.2 other)) (Nat.not_lt.2 ordered)

/-- A window that is the same for all attempts. -/
theorem patient_iff (L : Loop σ ε) (least width : Nat) (stage : σ) {attempt : Nat}
    (waits : L.attempt stage = some attempt) (deadline : ε) (expires : L.expires deadline = true)
    (now : Nat) : L.Patient (fun _ => width) least (begun stage now) ↔ least ≤ width := by
  refine ⟨?_, fun long => patient_of_le (fun _ => long) stage now⟩
  intro patient
  -- the attempt can end at its deadline
  have allowed : EachStep L.tick (L.Allowed fun _ => width) (begun stage now)
      [(deadline, ⟨now + width, now + width, le_rfl⟩)] :=
    eachStep_cons.2 ⟨⟨Nat.le_add_right _ _, fun _ _ =>
      ⟨fun _ => le_rfl, fun other => absurd (expires.symm.trans other) (by decide)⟩⟩, eachStep_nil⟩
  have waited := (eachStep_cons.1 (patient _ allowed)).1.1 (by simp [begun, waits]) expires
  exact Nat.le_of_add_le_add_left waited

end Loop
end Rvpn
