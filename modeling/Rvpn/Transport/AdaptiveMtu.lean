import Rvpn.Core
import Rvpn.Lib.Run

/-!
# The adaptive MTU of the transport

Model of `AdaptiveMtu` in `crates/rvpn-transport/src/mtu.rs`. A call holds the lock of the state from
its first to its last line, so calls are steps; the readings of the clock in a call are an argument.
`Effect` says what a call can do; `Tracked` relates the state to the calls made so far.
-/

namespace Rvpn.Transport

/-- Why the size changes. -/
inductive MtuChangeReason where
  | pathMtuExceeded
  | sustainedInstability
  | probeUp
  | probeReverted
  deriving DecidableEq

/-- The state behind the mutex. -/
structure MtuState where
  consecutiveFailures : UInt32
  consecutiveSuccesses : UInt32
  lastChange : Nat
  probeCandidate : Option Nat
  probeStarted : Option Nat

/-- `AdaptiveMtu`: the effective size and its probe. -/
structure AdaptiveMtu where
  targetMtu : Nat
  minimumMtu : Nat
  maximumMtu : Nat
  effectiveMtu : Nat
  state : MtuState

/-- The clock in one call: for a new probe, of `elapsed`, and stored. -/
structure MtuClock where
  opened : Nat
  checked : Nat
  stamped : Nat
  opened_le : opened ≤ checked
  checked_le : checked ≤ stamped

namespace AdaptiveMtu

def failureThreshold : UInt32 := 5

def successThreshold : UInt32 := 64

def minChangeInterval : Nat := fromSecs 5

def probeEvaluationWindow : Nat := fromSecs 3

def probeSuccessThreshold : UInt32 := 16

def stepDown (current : Nat) : Nat :=
  current * 9 / 10

/-- `STEP_UP_NUMERATOR` and `STEP_UP_DENOMINATOR`. -/
def stepUp (gap : Nat) : Nat :=
  gap * 1 / 8

/-- `AdaptiveMtu::new`. -/
def new (targetMtu minimumMtu now : Nat) : AdaptiveMtu :=
  let targetMtu := max targetMtu 1
  { targetMtu := targetMtu
    minimumMtu := max (min minimumMtu targetMtu) 1
    maximumMtu := targetMtu
    effectiveMtu := targetMtu
    state :=
      { consecutiveFailures := 0
        consecutiveSuccesses := 0
        lastChange := now
        probeCandidate := none
        probeStarted := none } }

/-- `AdaptiveMtu::record_success`. -/
def recordSuccess (mtu : AdaptiveMtu) (clock : MtuClock) : Option MtuChangeReason × AdaptiveMtu :=
  let state :=
    { mtu.state with
      consecutiveFailures := 0
      consecutiveSuccesses := mtu.state.consecutiveSuccesses + 1 }
  match mtu.state.probeCandidate with
  | some candidate =>
    let started := state.probeStarted.getD clock.opened
    if probeSuccessThreshold ≤ state.consecutiveSuccesses ∧
        probeEvaluationWindow ≤ clock.checked - started then
      (some .probeUp,
        { mtu with
          effectiveMtu := candidate
          state :=
            { state with
              probeCandidate := none
              probeStarted := none
              consecutiveSuccesses := 0
              lastChange := clock.stamped } })
    else (none, { mtu with state := state })
  | none =>
    if successThreshold ≤ state.consecutiveSuccesses ∧
        minChangeInterval ≤ clock.checked - state.lastChange then
      let current := mtu.effectiveMtu
      if current < mtu.targetMtu then
        let step := max (stepUp (mtu.targetMtu - current)) 1
        let candidate := min (current + step) mtu.targetMtu
        (none,
          { mtu with
            state :=
              { state with
                probeCandidate := some candidate
                probeStarted := some clock.stamped
                consecutiveSuccesses := 0 } })
      else (none, { mtu with state := state })
    else (none, { mtu with state := state })

/-- `AdaptiveMtu::record_path_failure`. -/
def recordPathFailure (mtu : AdaptiveMtu) (clock : MtuClock) :
    Option MtuChangeReason × AdaptiveMtu :=
  let state := { mtu.state with consecutiveSuccesses := 0 }
  if state.probeCandidate.isSome then
    -- the effective size was never raised, so there is nothing to undo, but the interval starts anew
    (some .probeReverted,
      { mtu with
        state :=
          { state with
            probeCandidate := none
            probeStarted := none
            consecutiveFailures := 0
            lastChange := clock.stamped } })
  else
    let state := { state with consecutiveFailures := state.consecutiveFailures + 1 }
    if failureThreshold ≤ state.consecutiveFailures ∧
        minChangeInterval ≤ clock.checked - state.lastChange then
      let current := mtu.effectiveMtu
      let reduced := max (stepDown current) mtu.minimumMtu
      -- at the minimum nothing changes, but the interval starts anew
      let state := { state with consecutiveFailures := 0, lastChange := clock.stamped }
      if reduced < current then
        (some .sustainedInstability, { mtu with effectiveMtu := reduced, state := state })
      else (none, { mtu with state := state })
    else (none, { mtu with state := state })

/-- `AdaptiveMtu::record_oversized`. -/
def recordOversized (mtu : AdaptiveMtu) (attempted : Nat) (clock : MtuClock) :
    Option MtuChangeReason × AdaptiveMtu :=
  let state :=
    { mtu.state with
      consecutiveFailures := 0
      consecutiveSuccesses := 0
      probeCandidate := none
      probeStarted := none }
  -- a probe ends even when it is too early for a change
  if clock.checked - state.lastChange < minChangeInterval then (none, { mtu with state := state })
  else
    let current := mtu.effectiveMtu
    let ceiling := max (attempted - 1) mtu.minimumMtu
    let stepped := max (stepDown current) mtu.minimumMtu
    let reduced := max (min stepped ceiling) mtu.minimumMtu
    let state := { state with lastChange := clock.stamped }
    if reduced < current then
      (some .pathMtuExceeded, { mtu with effectiveMtu := reduced, state := state })
    else (none, { mtu with state := state })

end AdaptiveMtu

/-- What is reported to the adaptive MTU. -/
inductive MtuReport where
  | success
  | pathFailure
  | oversized (attempted : Nat)

structure MtuCall where
  report : MtuReport
  clock : MtuClock

/-- The call that a report stands for. -/
def MtuCall.record (call : MtuCall) (mtu : AdaptiveMtu) : Option MtuChangeReason × AdaptiveMtu :=
  match call.report with
  | .success => mtu.recordSuccess call.clock
  | .pathFailure => mtu.recordPathFailure call.clock
  | .oversized attempted => mtu.recordOversized attempted call.clock

namespace AdaptiveMtu

/-- Only `grow` and `shrink` change the effective size, in their time. -/
inductive Effect (mtu : AdaptiveMtu) (clock : MtuClock) :
    MtuReport → Option MtuChangeReason → AdaptiveMtu → Prop
  | wait (candidate : Nat) (probing : mtu.state.probeCandidate = some candidate) :
      Effect mtu clock .success none
        { mtu with
          state :=
            { mtu.state with
              consecutiveFailures := 0
              consecutiveSuccesses := mtu.state.consecutiveSuccesses + 1 } }
  | grow (candidate : Nat) (state : MtuState) (probing : mtu.state.probeCandidate = some candidate)
      (enough : 16 ≤ (mtu.state.consecutiveSuccesses + 1).toNat)
      (window : mtu.state.probeStarted.getD clock.opened + fromSecs 3 ≤ clock.checked)
      (idle : state.probeCandidate = none) (stamped : state.lastChange = clock.stamped) :
      Effect mtu clock .success (some .probeUp) { mtu with effectiveMtu := candidate, state := state }
  | start (candidate : Nat) (idle : mtu.state.probeCandidate = none)
      (rested : mtu.state.lastChange + fromSecs 5 ≤ clock.checked)
      (above : mtu.effectiveMtu < candidate) (capped : candidate ≤ mtu.targetMtu) :
      Effect mtu clock .success none
        { mtu with
          state :=
            { mtu.state with
              consecutiveFailures := 0
              consecutiveSuccesses := 0
              probeCandidate := some candidate
              probeStarted := some clock.stamped } }
  | quiet (report : MtuReport) (result : Option MtuChangeReason) (state : MtuState)
      (idle : state.probeCandidate = none)
      (last : state.lastChange = mtu.state.lastChange ∨ state.lastChange = clock.stamped) :
      Effect mtu clock report result { mtu with state := state }
  | shrink (report : MtuReport) (reason : MtuChangeReason) (reduced : Nat) (state : MtuState)
      (why : reason = .sustainedInstability ∨ reason = .pathMtuExceeded)
      (rested : mtu.state.lastChange + fromSecs 5 ≤ clock.checked)
      (kept : mtu.minimumMtu ≤ reduced) (below : reduced < mtu.effectiveMtu)
      (idle : state.probeCandidate = none) (stamped : state.lastChange = clock.stamped) :
      Effect mtu clock report (some reason) { mtu with effectiveMtu := reduced, state := state }

lemma elapsed {seconds now past : Nat} (positive : 0 < seconds)
    (h : fromSecs seconds ≤ now - past) : past + fromSecs seconds ≤ now := by
  have some : 0 < fromSecs seconds := Nat.mul_pos positive (by decide)
  omega

section
variable (mtu : AdaptiveMtu) (clock : MtuClock)

lemma recordSuccess_effect :
    Effect mtu clock .success (mtu.recordSuccess clock).1 (mtu.recordSuccess clock).2 := by
  unfold recordSuccess
  split
  · next candidate probing =>
    dsimp only
    split
    · next passed =>
      obtain ⟨enough, window⟩ := passed
      exact .grow candidate _ probing (UInt32.le_iff_toNat_le.1 enough)
        (elapsed (by decide) window) rfl rfl
    · exact .wait candidate probing
  · next idle =>
    dsimp only
    split
    · next passed =>
      split
      · next below =>
        have above : mtu.effectiveMtu <
            min (mtu.effectiveMtu + max (stepUp (mtu.targetMtu - mtu.effectiveMtu)) 1)
              mtu.targetMtu := by
          omega
        exact .start _ idle (elapsed (by decide) passed.2) above (min_le_right _ _)
      · exact .quiet _ _ _ idle (.inl rfl)
    · exact .quiet _ _ _ idle (.inl rfl)

lemma recordPathFailure_effect : Effect mtu clock .pathFailure (mtu.recordPathFailure clock).1
      (mtu.recordPathFailure clock).2 := by
  unfold recordPathFailure
  simp only
  split
  · exact .quiet _ _ _ rfl (.inr rfl)
  · next idle =>
    have idle := Option.not_isSome_iff_eq_none.1 idle
    split
    · next passed =>
      split
      · next below =>
        exact .shrink _ _ _ _ (.inl rfl) (elapsed (by decide) passed.2) (le_max_right _ _) below idle
          rfl
      · exact .quiet _ _ _ idle (.inr rfl)
    · exact .quiet _ _ _ idle (.inl rfl)

lemma recordOversized_effect (attempted : Nat) :
    Effect mtu clock (.oversized attempted) (mtu.recordOversized attempted clock).1
      (mtu.recordOversized attempted clock).2 := by
  unfold recordOversized
  simp only
  split
  · exact .quiet _ _ _ rfl (.inl rfl)
  · next passed =>
    split
    · next below =>
      exact .shrink _ _ _ _ (.inr rfl) (elapsed (by decide) (Nat.le_of_not_lt passed))
        (le_max_right _ _) below rfl rfl
    · exact .quiet _ _ _ rfl (.inr rfl)

end

lemma record_effect (mtu : AdaptiveMtu) (call : MtuCall) :
    Effect mtu call.clock call.report (call.record mtu).1 (call.record mtu).2 := by
  obtain ⟨report, clock⟩ := call
  cases report with
  | success => exact mtu.recordSuccess_effect clock
  | pathFailure => exact mtu.recordPathFailure_effect clock
  | oversized attempted => exact mtu.recordOversized_effect clock attempted

namespace Effect
variable {mtu mtu' : AdaptiveMtu} {clock : MtuClock} {report : MtuReport}
  {result : Option MtuChangeReason}

lemma frame (h : Effect mtu clock report result mtu') :
    mtu'.targetMtu = mtu.targetMtu ∧ mtu'.minimumMtu = mtu.minimumMtu := by
  cases h with
  | wait => exact ⟨rfl, rfl⟩
  | grow => exact ⟨rfl, rfl⟩
  | start => exact ⟨rfl, rfl⟩
  | quiet => exact ⟨rfl, rfl⟩
  | shrink => exact ⟨rfl, rfl⟩

/-- The last change moves forward, to a call that changes the size. -/
lemma lastChange (h : Effect mtu clock report result mtu')
    (past : mtu.state.lastChange ≤ clock.stamped) :
    mtu.state.lastChange ≤ mtu'.state.lastChange ∧ mtu'.state.lastChange ≤ clock.stamped ∧
      (mtu'.effectiveMtu ≠ mtu.effectiveMtu → mtu'.state.lastChange = clock.stamped) := by
  cases h with
  | wait => exact ⟨le_rfl, past, fun changed => absurd rfl changed⟩
  | grow _ _ _ _ _ _ stamped => exact ⟨stamped ▸ past, stamped.le, fun _ => stamped⟩
  | start => exact ⟨le_rfl, past, fun changed => absurd rfl changed⟩
  | quiet _ _ _ _ last =>
    cases last with
    | inl same => exact ⟨same.ge, same.trans_le past, fun changed => absurd rfl changed⟩
    | inr stamped => exact ⟨stamped ▸ past, stamped.le, fun changed => absurd rfl changed⟩
  | shrink _ _ _ _ _ _ _ _ _ stamped => exact ⟨stamped ▸ past, stamped.le, fun _ => stamped⟩

/-- A probe in flight begins with the call, or was so at a success. -/
lemma probe (h : Effect mtu clock report result mtu') {candidate : Nat}
    (found : mtu'.state.probeCandidate = some candidate) :
    (report = .success ∧ mtu.state.probeCandidate = some candidate ∧
        mtu'.state.probeStarted = mtu.state.probeStarted ∧
        mtu'.state.consecutiveSuccesses = mtu.state.consecutiveSuccesses + 1 ∧
        mtu'.state.lastChange = mtu.state.lastChange) ∨
      (mtu.state.probeCandidate = none ∧ mtu'.state.probeStarted = some clock.stamped ∧
        mtu'.state.consecutiveSuccesses = 0 ∧
        mtu'.state.lastChange + fromSecs 5 ≤ clock.stamped) := by
  cases h with
  | wait => exact .inl ⟨rfl, found, rfl, rfl, rfl⟩
  | grow _ _ _ _ _ idle => cases idle.symm.trans found
  | start _ idle rested => exact .inr ⟨idle, rfl, rfl, rested.trans clock.checked_le⟩
  | quiet _ _ _ idle => cases idle.symm.trans found
  | shrink _ _ _ _ _ _ _ _ idle => cases idle.symm.trans found

/-- A call that leaves a probe in flight does not change the effective size. -/
lemma steady (h : Effect mtu clock report result mtu') (found : mtu'.state.probeCandidate.isSome) :
    mtu'.effectiveMtu = mtu.effectiveMtu := by
  cases h with
  | wait => rfl
  | grow _ _ _ _ _ idle => exact absurd found (by simp [idle])
  | start => rfl
  | quiet => rfl
  | shrink _ _ _ _ _ _ _ _ idle => exact absurd found (by simp [idle])

end Effect

/-- The sizes are in bounds, and those of a probe in flight too. -/
structure InBounds (target minimum : Nat) (mtu : AdaptiveMtu) : Prop where
  low : minimum ≤ mtu.effectiveMtu
  high : mtu.effectiveMtu ≤ target
  probe : ∀ candidate, mtu.state.probeCandidate = some candidate →
    mtu.effectiveMtu < candidate ∧ candidate ≤ target

section
variable {mtu mtu' : AdaptiveMtu} {clock : MtuClock} {report : MtuReport}
  {result : Option MtuChangeReason} {target minimum : Nat}

lemma InBounds.effect (bounds : mtu.InBounds target minimum)
    (h : Effect mtu clock report result mtu') (targetMtu : mtu.targetMtu = target)
    (minimumMtu : mtu.minimumMtu = minimum) : mtu'.InBounds target minimum := by
  cases h with
  | wait => exact ⟨bounds.low, bounds.high, bounds.probe⟩
  | grow candidate _ probing _ _ idle =>
    obtain ⟨above, capped⟩ := bounds.probe candidate probing
    refine ⟨bounds.low.trans above.le, capped, ?_⟩
    intro other found
    cases idle.symm.trans found
  | start candidate _ _ above capped =>
    refine ⟨bounds.low, bounds.high, ?_⟩
    intro other found
    cases found
    exact ⟨above, capped.trans targetMtu.le⟩
  | quiet _ _ _ idle =>
    refine ⟨bounds.low, bounds.high, ?_⟩
    intro other found
    cases idle.symm.trans found
  | shrink _ _ _ _ _ _ kept below idle =>
    refine ⟨minimumMtu ▸ kept, below.le.trans bounds.high, ?_⟩
    intro other found
    cases idle.symm.trans found

/-- Only a probe with its successes and its time makes the size grow. -/
lemma Effect.grows (h : Effect mtu clock report result mtu')
    (more : mtu.effectiveMtu < mtu'.effectiveMtu) :
    report = .success ∧ result = some .probeUp ∧ mtu.state.probeCandidate = some mtu'.effectiveMtu ∧
      16 ≤ (mtu.state.consecutiveSuccesses + 1).toNat ∧
      mtu.state.probeStarted.getD clock.opened + fromSecs 3 ≤ clock.checked := by
  cases h with
  | wait => exact absurd more (Nat.lt_irrefl _)
  | grow candidate _ probing enough window => exact ⟨rfl, rfl, probing, enough, window⟩
  | start => exact absurd more (Nat.lt_irrefl _)
  | quiet => exact absurd more (Nat.lt_irrefl _)
  | shrink _ _ _ _ _ _ _ below => exact absurd more (Nat.lt_asymm below)

lemma Effect.shrinks (h : Effect mtu clock report result mtu') (bounds : mtu.InBounds target minimum)
    (less : mtu'.effectiveMtu < mtu.effectiveMtu) :
    (result = some .sustainedInstability ∨ result = some .pathMtuExceeded) ∧
      mtu.state.lastChange + fromSecs 5 ≤ clock.checked := by
  cases h with
  | wait => exact absurd less (Nat.lt_irrefl _)
  | grow candidate _ probing => exact absurd less (Nat.lt_asymm (bounds.probe candidate probing).1)
  | start => exact absurd less (Nat.lt_irrefl _)
  | quiet => exact absurd less (Nat.lt_irrefl _)
  | shrink _ _ _ _ why rested =>
    refine ⟨?_, rested⟩
    cases why with
    | inl eq => exact .inl (congrArg some eq)
    | inr eq => exact .inr (congrArg some eq)

end
end AdaptiveMtu

structure WatchedMtu where
  mtu : AdaptiveMtu
  clock : Nat

namespace WatchedMtu
open AdaptiveMtu

def start (target minimum now : Nat) : WatchedMtu where
  mtu := .new target minimum now
  clock := now

def step (w : WatchedMtu) (call : MtuCall) : WatchedMtu where
  mtu := (call.record w.mtu).2
  clock := call.clock.stamped

/-- The clock does not go back between calls. -/
def Ordered (w : WatchedMtu) (call : MtuCall) : Prop :=
  w.clock ≤ call.clock.opened

/-- The call changes the effective size. -/
def Changes (w : WatchedMtu) (call : MtuCall) : Prop :=
  (w.step call).mtu.effectiveMtu ≠ w.mtu.effectiveMtu

/-- A probe in a history from `s`: only successes since its call. -/
structure Probe (s : WatchedMtu) (pre : List MtuCall) (candidate : Nat) (before : List MtuCall)
    (began : MtuCall) (during : List MtuCall) : Prop where
  split : pre = before ++ began :: during
  idle : (run step s before).mtu.state.probeCandidate = none
  begins : ((run step s before).step began).mtu.state.probeCandidate = some candidate
  successes : ∀ call ∈ during, call.report = .success

/-- What the state says about the calls that led to it. -/
structure Tracked (target minimum : Nat) (s : WatchedMtu) (pre : List MtuCall) (w : WatchedMtu) :
    Prop where
  targetMtu : w.mtu.targetMtu = target
  minimumMtu : w.mtu.minimumMtu = minimum
  bounds : w.mtu.InBounds target minimum
  past : w.mtu.state.lastChange ≤ w.clock
  changes : ∀ before call after, pre = before ++ call :: after →
    Changes (run step s before) call → call.clock.stamped ≤ w.mtu.state.lastChange
  probe : ∀ candidate, w.mtu.state.probeCandidate = some candidate →
    ∃ before began during, Probe s pre candidate before began during ∧
      w.mtu.state.probeStarted = some began.clock.stamped ∧
      w.mtu.state.consecutiveSuccesses = UInt32.ofNat during.length ∧
      w.mtu.state.lastChange + fromSecs 5 ≤ began.clock.stamped

section
variable {target minimum : Nat}

lemma Tracked.start (positive : 1 ≤ minimum) (le : minimum ≤ target) (now : Nat) :
    Tracked target minimum (start target minimum now) [] (WatchedMtu.start target minimum now) := by
  have same : max target 1 = target := max_eq_left (positive.trans le)
  constructor
  case targetMtu => exact same
  case minimumMtu =>
    show max (min minimum (max target 1)) 1 = minimum
    rw [same, min_eq_left le, max_eq_left positive]
  case bounds => exact ⟨le.trans same.ge, same.le, nofun⟩
  case past => exact le_rfl
  case changes =>
    intro before call after eq
    exact absurd eq (by simp)
  case probe => exact nofun

variable {call : MtuCall} {pre : List MtuCall} {s : WatchedMtu}

lemma Tracked.step (h : Tracked target minimum s pre (run step s pre))
    (ordered : Ordered (run step s pre) call) :
    Tracked target minimum s (pre ++ [call]) ((run WatchedMtu.step s pre).step call) := by
  have effect := (run WatchedMtu.step s pre).mtu.record_effect call
  have past : (run WatchedMtu.step s pre).mtu.state.lastChange ≤ call.clock.stamped :=
    h.past.trans (ordered.trans (call.clock.opened_le.trans call.clock.checked_le))
  obtain ⟨later, stamped, changed⟩ := effect.lastChange past
  constructor
  case targetMtu => exact effect.frame.1.trans h.targetMtu
  case minimumMtu => exact effect.frame.2.trans h.minimumMtu
  case bounds => exact h.bounds.effect effect h.targetMtu h.minimumMtu
  case past => exact stamped
  case changes =>
    intro before other after eq changes
    -- the call itself, which is stamped now, or an earlier one
    obtain ⟨rfl, rfl⟩ | ⟨after', eq⟩ := history_cases eq
    · exact (changed changes).ge
    · exact (h.changes before other after' eq changes).trans later
  case probe =>
    intro candidate found
    obtain ⟨success, probing, started, counted, last⟩ | ⟨idle, started, counted, rested⟩ :=
      effect.probe found
    · -- the call is one more success of the probe
      obtain ⟨before, began, during, probe, started', counted', rested⟩ := h.probe candidate probing
      refine ⟨before, began, during ++ [call], ⟨?_, probe.idle, probe.begins, ?_⟩,
        started.trans started', ?_, last ▸ rested⟩
      · rw [probe.split, List.append_assoc, List.cons_append]
      · intro other mem
        rcases List.mem_append.1 mem with mem | mem
        · exact probe.successes other mem
        · rw [List.mem_singleton.1 mem]
          exact success
      · rw [List.length_append, List.length_singleton, UInt32.ofNat_add, ← counted']
        exact counted
    · exact ⟨pre, call, [], ⟨rfl, idle, found, nofun⟩, started, counted, rested⟩

lemma tracked_run (positive : 1 ≤ minimum) (le : minimum ≤ target) {now : Nat} {calls : List MtuCall}
    (ordered : EachStep WatchedMtu.step Ordered (WatchedMtu.start target minimum now) calls) :
    Tracked target minimum (WatchedMtu.start target minimum now) calls
      (run WatchedMtu.step (WatchedMtu.start target minimum now) calls) :=
  run_history (.start positive le now) (fun _ _ h ok => h.step ok) ordered

/-- A counter that wraps around is at most the number of its increments. -/
lemma le_succ_of_counted {limit n : Nat} (h : limit ≤ (UInt32.ofNat n + 1).toNat) : limit ≤ n + 1 := by
  have wrapped : (UInt32.ofNat n + 1).toNat = (n % 2 ^ 32 + 1) % 2 ^ 32 := by
    rw [UInt32.toNat_add, UInt32.toNat_ofNat]
    rfl
  have rest := Nat.mod_le n (2 ^ 32)
  have sum := Nat.mod_le (n % 2 ^ 32 + 1) (2 ^ 32)
  omega

/-- The size grows by a probe with 16 successes, 3 s and no other report. -/
lemma Tracked.grows (h : Tracked target minimum s pre (run WatchedMtu.step s pre))
    (more : (run WatchedMtu.step s pre).mtu.effectiveMtu <
      ((run WatchedMtu.step s pre).step call).mtu.effectiveMtu) :
    call.report = .success ∧ (call.record (run WatchedMtu.step s pre).mtu).1 = some .probeUp ∧
      (run WatchedMtu.step s pre).mtu.state.probeCandidate =
        some ((run WatchedMtu.step s pre).step call).mtu.effectiveMtu ∧
      ∃ before began during,
        Probe s pre ((run WatchedMtu.step s pre).step call).mtu.effectiveMtu before began during ∧
        16 ≤ during.length + 1 ∧ began.clock.stamped + fromSecs 3 ≤ call.clock.checked := by
  obtain ⟨success, result, probing, enough, window⟩ :=
    ((run WatchedMtu.step s pre).mtu.record_effect call).grows more
  obtain ⟨before, began, during, probe, started, counted, _⟩ := h.probe _ probing
  rw [counted] at enough
  rw [started] at window
  exact ⟨success, result, probing, before, began, during, probe, le_succ_of_counted enough, window⟩

/-- A change comes at least five seconds after the last one. -/
lemma Tracked.rested (h : Tracked target minimum s pre (run WatchedMtu.step s pre))
    (changes : Changes (run WatchedMtu.step s pre) call) :
    (run WatchedMtu.step s pre).mtu.state.lastChange + fromSecs 5 ≤ call.clock.checked := by
  have effect := (run WatchedMtu.step s pre).mtu.record_effect call
  rcases Nat.lt_or_gt_of_ne changes with less | more
  · exact (effect.shrinks h.bounds less).2
  · -- the probe began five seconds after the last change
    obtain ⟨_, _, probing, _, window⟩ := effect.grows more
    obtain ⟨_, _, _, _, started, _, rested⟩ := h.probe _ probing
    rw [started] at window
    exact rested.trans ((Nat.le_add_right _ _).trans window)

/-- For every clock that does not go back: the effective size stays between minimum and target, and below the
candidate of a probe in flight; it grows only to the candidate of a probe with sixteen successes, three seconds
and no other report; it shrinks only with one of the two reasons; and changes are five seconds apart. -/
theorem adaptiveMtu_bounded_and_slow {target minimum now : Nat} (positive : 1 ≤ minimum)
    (le : minimum ≤ target) (calls : List MtuCall)
    (ordered : EachStep WatchedMtu.step Ordered (WatchedMtu.start target minimum now) calls) :
    Always WatchedMtu.step (fun w => w.mtu.InBounds target minimum)
        (WatchedMtu.start target minimum now) calls ∧
      (∀ pre call post, calls = pre ++ call :: post →
        let w := run WatchedMtu.step (WatchedMtu.start target minimum now) pre
        (w.mtu.effectiveMtu < (w.step call).mtu.effectiveMtu →
          call.report = .success ∧ (call.record w.mtu).1 = some .probeUp ∧
          w.mtu.state.probeCandidate = some (w.step call).mtu.effectiveMtu ∧
          ∃ before began during,
            Probe (WatchedMtu.start target minimum now) pre (w.step call).mtu.effectiveMtu before began
              during ∧
            16 ≤ during.length + 1 ∧ began.clock.stamped + fromSecs 3 ≤ call.clock.checked) ∧
        ((w.step call).mtu.effectiveMtu < w.mtu.effectiveMtu →
          (call.record w.mtu).1 = some .sustainedInstability ∨
            (call.record w.mtu).1 = some .pathMtuExceeded)) ∧
      ∀ pre call mid call' post, calls = pre ++ call :: (mid ++ call' :: post) →
        Changes (run WatchedMtu.step (WatchedMtu.start target minimum now) pre) call →
        Changes (run WatchedMtu.step (WatchedMtu.start target minimum now) (pre ++ call :: mid))
          call' →
        call.clock.stamped + fromSecs 5 ≤ call'.clock.checked := by
  have tracked : ∀ pre post, calls = pre ++ post →
      Tracked target minimum (WatchedMtu.start target minimum now) pre
        (run WatchedMtu.step (WatchedMtu.start target minimum now) pre) := by
    intro pre post eq
    subst eq
    exact tracked_run positive le ordered.of_append
  refine ⟨fun pre post eq => (tracked pre post eq).bounds, ?_, ?_⟩
  · intro pre call post eq
    have now := tracked pre _ eq
    refine ⟨now.grows, ?_⟩
    intro less
    exact ((AdaptiveMtu.record_effect _ call).shrinks now.bounds less).1
  · intro pre call mid call' post eq changes changes'
    have now := tracked (pre ++ call :: mid) (call' :: post) (by simp [eq])
    exact (Nat.add_le_add_right (now.changes pre call mid rfl changes) _).trans (now.rested changes')

def orderedFrom (now : Nat) : List MtuCall → Bool
  | [] => true
  | call :: calls => decide (now ≤ call.clock.opened) && orderedFrom call.clock.stamped calls

lemma eachStep_of_orderedFrom {w : WatchedMtu} {calls : List MtuCall}
    (h : orderedFrom w.clock calls = true) : EachStep WatchedMtu.step Ordered w calls := by
  induction calls generalizing w with
  | nil => exact eachStep_nil
  | cons call calls ih =>
    obtain ⟨here, rest⟩ := Bool.and_eq_true_iff.1 h
    have ordered : w.clock ≤ call.clock.opened := of_decide_eq_true here
    exact eachStep_cons.2 ⟨ordered, ih rest⟩

end

def reportAt (report : MtuReport) (second : Nat) : MtuCall where
  report := report
  clock := ⟨fromSecs second, fromSecs second, fromSecs second, le_rfl, le_rfl⟩

def probeCalls : List MtuCall :=
  List.replicate 5 (reportAt .pathFailure 5) ++ List.replicate 64 (reportAt .success 10) ++
    List.replicate 16 (reportAt .success 13)

/-- The size falls from 1400 to 1260 and grows to 1277, which is in bounds. -/
theorem adaptiveMtu_bounded_and_slow_probe :
    (run step (start 1400 576 0) (probeCalls.take 5)).mtu.effectiveMtu = 1260 ∧
      (run step (start 1400 576 0) probeCalls).mtu.effectiveMtu = 1277 ∧
      (run step (start 1400 576 0) probeCalls).mtu.InBounds 1400 576 := by
  refine ⟨by decide +kernel, by decide +kernel, ?_⟩
  have ordered : EachStep step Ordered (start 1400 576 0) probeCalls :=
    eachStep_of_orderedFrom (by decide +kernel)
  exact (adaptiveMtu_bounded_and_slow (by decide) (by decide) probeCalls ordered).1.last

end WatchedMtu
end Rvpn.Transport
