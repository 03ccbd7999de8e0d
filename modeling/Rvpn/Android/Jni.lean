import Mathlib.Logic.Function.Basic
import Rvpn.Lib.Run

/-!
# Starting and stopping the Android tunnel

Model of `startTunnel` and `stopTunnel` in `apps/rvpn-android/src/jni.rs` and of the thread that
`startTunnel` spawns. They share static variables: every atomic store or swap and every assignment
under a mutex is one step, and any number of calls and threads interleave.

The exiting thread gives `TUNNEL_RUNNING` back before it clears `SHUTDOWN_TX`, so it can drop the sender
of the next call, and `run_tunnel` takes the error of its receiver for a shutdown.
-/

namespace Rvpn.Android

/-- The end of a part of `startTunnel`: a value, `fail!` or `?`. -/
inductive Outcome where
  | ok
  | failed (message : String)
  | raised

/-- Where a call of `startTunnel` is, by what it does next. -/
inductive Call where
  | swapRunning
  | clearConnected
  | clearServer
  | clearError
  | storeSender
  | storeStats
  | spawn
  | failConnected (message : String)
  | failError (message : String)
  | failRunning (message : String)
  | reply (message : String)
  | returned (message : String)
  | raised
  deriving DecidableEq

/-- What a thread does next can depend on its runtime and `run_tunnel`. -/
inductive Progress where
  | ok
  | failed (message : String)
  | connected
  | resolved (server : String)

/-- What a tunnel thread does next. After `clearSender` it holds `SHUTDOWN_TX`. -/
inductive Thread where
  | absent
  | buildRuntime
  | runTunnel
  | failConnected (message : String)
  | failError (message : String)
  | clearConnected
  | clearRunning
  | clearSender
  | clearStats
  | unbuiltRunning
  | unbuiltStats
  | ended
  deriving DecidableEq

structure Tunnel where
  call : Call
  thread : Thread
  deriving DecidableEq

/-- `run_tunnel` has not returned. -/
def Thread.runs : Thread → Bool
  | .buildRuntime | .runTunnel => true
  | _ => false

/-- The statics, the senders signalled, and the tunnels by their calls. -/
structure State where
  running : Bool
  connected : Bool
  error : Option String
  resolvedServer : Option String
  shutdownTx : Option Nat
  shutdownTxGuard : Option Nat
  stats : Option Nat
  signalled : Nat → Bool
  tunnels : Nat → Tunnel

namespace State

def start : State where
  running := false
  connected := false
  error := none
  resolvedServer := none
  shutdownTx := none
  shutdownTxGuard := none
  stats := none
  signalled := fun _ => false
  tunnels := fun _ => ⟨.swapRunning, .absent⟩

def setCall (s : State) (id : Nat) (call : Call) : State :=
  { s with tunnels := Function.update s.tunnels id { s.tunnels id with call := call } }

def setThread (s : State) (id : Nat) (thread : Thread) : State :=
  { s with tunnels := Function.update s.tunnels id { s.tunnels id with thread := thread } }

/-- The next step of the call `id`; one on `SHUTDOWN_TX` waits for its guard. -/
def callStep (s : State) (id : Nat) (outcome : Outcome) : State :=
  match (s.tunnels id).call with
  | .swapRunning =>
    if s.running then s.setCall id (.reply "tunnel is already running")
    else { s with running := true }.setCall id .clearConnected
  | .clearConnected => { s with connected := false }.setCall id .clearServer
  | .clearServer => { s with resolvedServer := none }.setCall id .clearError
  | .clearError => { s with error := none }.setCall id .storeSender
  | .storeSender =>
    -- the arguments are read before
    match outcome with
    | .ok =>
      if s.shutdownTxGuard = none then { s with shutdownTx := some id }.setCall id .storeStats else s
    | .failed message => s.setCall id (.failConnected message)
    | .raised => s.setCall id .raised
  | .storeStats => { s with stats := some id }.setCall id .spawn
  | .spawn =>
    -- the obfuscation key is decoded before, and the system can refuse the thread
    match outcome with
    | .ok => (s.setThread id .buildRuntime).setCall id (.reply "")
    | .failed message => s.setCall id (.failConnected message)
    | .raised => s.setCall id .raised
  | .failConnected message => { s with connected := false }.setCall id (.failError message)
  | .failError message => { s with error := some message }.setCall id (.failRunning message)
  | .failRunning message => { s with running := false }.setCall id (.reply message)
  | .reply message =>
    match outcome with
    | .ok => s.setCall id (.returned message)
    | _ => s.setCall id .raised
  | .returned _ => s
  | .raised => s

def threadStep (s : State) (id : Nat) (progress : Progress) : State :=
  match (s.tunnels id).thread with
  | .absent => s
  | .buildRuntime =>
    match progress with
    | .failed _ => s.setThread id .unbuiltRunning
    | _ => s.setThread id .runTunnel
  | .runTunnel =>
    match progress with
    | .ok => s.setThread id .clearConnected
    | .failed message => s.setThread id (.failConnected message)
    | .connected => { s with connected := true }
    | .resolved server => { s with resolvedServer := some server }
  | .failConnected message => { s with connected := false }.setThread id (.failError message)
  | .failError message => { s with error := some message }.setThread id .clearConnected
  | .clearConnected => { s with connected := false }.setThread id .clearRunning
  | .clearRunning => { s with running := false }.setThread id .clearSender
  | .clearSender =>
    if s.shutdownTxGuard = none then
      { s with shutdownTx := none, shutdownTxGuard := some id }.setThread id .clearStats
    else s
  | .clearStats => { s with stats := none, shutdownTxGuard := none }.setThread id .ended
  | .unbuiltRunning => { s with running := false }.setThread id .unbuiltStats
  | .unbuiltStats => { s with stats := none }.setThread id .ended
  | .ended => s

/-- A call of `stopTunnel`: the sender is taken and used under the guard. -/
def stopTunnel (s : State) : State :=
  if s.shutdownTxGuard = none then
    match s.shutdownTx with
    | some id => { s with shutdownTx := none, signalled := Function.update s.signalled id true }
    | none => s
  else s

end State

inductive Event where
  | call (id : Nat) (outcome : Outcome)
  | thread (id : Nat) (progress : Progress)
  | stop

namespace State

def step (s : State) : Event → State
  | .call id outcome => s.callStep id outcome
  | .thread id progress => s.threadStep id progress
  | .stop => s.stopTunnel

/-- Every reported tunnel that runs unsignalled can be stopped. -/
def Stoppable (s : State) : Prop :=
  ∀ id, (s.tunnels id).call = .returned "" → (s.tunnels id).thread.runs = true →
    s.signalled id = false → s.shutdownTx = some id

/-- An exiting thread clears no sender but its own. -/
def ClearsOwn (s : State) (event : Event) : Prop :=
  ∀ id progress other, event = .thread id progress → (s.tunnels id).thread = .clearSender →
    s.shutdownTx = some other → other = id

/-- No call stores its sender between the two stores of an exiting thread. -/
def Settled (s : State) (event : Event) : Prop :=
  ∀ id other, event = .call id .ok → (s.tunnels id).call = .storeSender →
    (s.tunnels other).thread ≠ .clearSender

end State

/-! ### Who holds what -/

/-- The call has set `TUNNEL_RUNNING` and not handed it on. -/
def Call.owning : Call → Bool
  | .swapRunning | .reply _ | .returned _ | .raised => false
  | _ => true

/-- The call has stored its sender as well, and has not failed. -/
def Call.registered : Call → Bool
  | .storeStats | .spawn => true
  | _ => false

def Call.done : Call → Bool
  | .reply _ | .returned _ | .raised => true
  | _ => false

/-- The thread has not given `TUNNEL_RUNNING` back. -/
def Thread.owning : Thread → Bool
  | .absent | .clearSender | .clearStats | .unbuiltStats | .ended => false
  | _ => true

/-- The thread has not given it back, and its runtime was not refused. -/
def Thread.registered : Thread → Bool
  | .unbuiltRunning => false
  | thread => thread.owning

def Call.yields (call next : Call) : Bool :=
  (!next.owning || call.owning) && (!next.registered || call.registered) &&
    (!call.done || next.done)

/-- The thread moves on, takes nothing, and does not come to `clearSender`. -/
def Thread.yields (thread next : Thread) : Bool :=
  (!next.owning || thread.owning) && (!next.registered || thread.registered) &&
    decide (thread ≠ .absent) && decide (next ≠ .clearSender)

lemma Call.owning_of_done {call : Call} (done : call.done = true) : call.owning = false := by
  cases call with
  | reply message => rfl
  | returned message => rfl
  | raised => rfl
  | _ => cases done

namespace Tunnel

def Owns (t : Tunnel) : Prop :=
  t.call.owning = true ∨ t.thread.owning = true

def Registered (t : Tunnel) : Prop :=
  t.call.registered = true ∨ t.thread.registered = true

def Formed (t : Tunnel) : Prop :=
  t.thread = .absent ∨ t.call.done = true

lemma Registered.owns {t : Tunnel} (h : t.Registered) : t.Owns := by
  obtain ⟨call, thread⟩ := t
  cases h with
  | inl calling =>
    left
    cases call with
    | storeStats => rfl
    | spawn => rfl
    | _ => cases calling
  | inr threading =>
    right
    cases thread with
    | unbuiltRunning => rfl
    | _ => exact threading

end Tunnel

namespace State
variable {s s' : State} {id : Nat} {t : Tunnel}

/-- One owner at a time; the slot holds its sender, unless signalled. -/
structure Orderly (s : State) : Prop where
  formed : ∀ i, (s.tunnels i).Formed
  running : ∀ i, (s.tunnels i).Owns → s.running = true
  unique : ∀ i j, (s.tunnels i).Owns → (s.tunnels j).Owns → i = j
  settled : ∀ i j, (s.tunnels i).Registered → (s.tunnels j).thread ≠ .clearSender
  slot : ∀ i, (s.tunnels i).Registered ∨ (s.tunnels i).thread = .clearSender →
    s.shutdownTx = some i ∨ s.shutdownTx = none ∧ s.signalled i = true

/-! ### Every step keeps the order -/

lemma tunnels_of_ne (tunnels : s'.tunnels = Function.update s.tunnels id t) {i : Nat} (ne : i ≠ id) :
    s'.tunnels i = s.tunnels i := by
  rw [tunnels, Function.update_of_ne ne]

lemma tunnels_self (tunnels : s'.tunnels = Function.update s.tunnels id t) : s'.tunnels id = t := by
  rw [tunnels, Function.update_self]

lemma before {P : Tunnel → Prop} (tunnels : s'.tunnels = Function.update s.tunnels id t)
    (self : P t → P (s.tunnels id)) (i : Nat) (hi : P (s'.tunnels i)) : P (s.tunnels i) := by
  by_cases e : i = id
  · subst e
    rw [tunnels_self tunnels] at hi
    exact self hi
  · rwa [tunnels_of_ne tunnels e] at hi

lemma Orderly.formed_of (h : s.Orderly) (tunnels : s'.tunnels = Function.update s.tunnels id t)
    (formed : t.Formed) (i : Nat) : (s'.tunnels i).Formed := by
  by_cases e : i = id
  · rwa [e, tunnels_self tunnels]
  · rw [tunnels_of_ne tunnels e]
    exact h.formed i

/-- A tunnel moves on and takes nothing. -/
lemma Orderly.move (h : s.Orderly) (tunnels : s'.tunnels = Function.update s.tunnels id t)
    (running : s'.running = s.running) (slot : s'.shutdownTx = s.shutdownTx)
    (signalled : s'.signalled = s.signalled) (formed : t.Formed)
    (owns : t.Owns → (s.tunnels id).Owns) (registered : t.Registered → (s.tunnels id).Registered)
    (clearing : t.thread = .clearSender → (s.tunnels id).thread = .clearSender) : s'.Orderly := by
  have owns' := before tunnels owns
  have registered' := before tunnels registered
  have clearing' := before (P := fun t => t.thread = .clearSender) tunnels clearing
  refine ⟨h.formed_of tunnels formed, ?_, ?_, ?_, ?_⟩
  · intro i hi
    rw [running]
    exact h.running i (owns' i hi)
  · intro i j hi hj
    exact h.unique i j (owns' i hi) (owns' j hj)
  · intro i j hi hj
    exact h.settled i j (registered' i hi) (clearing' j hj)
  · intro i hi
    rw [slot, signalled]
    exact h.slot i (hi.imp (registered' i) (clearing' i))

/-- A call finds `TUNNEL_RUNNING` unset and sets it. -/
lemma Orderly.acquire (h : s.Orderly) (tunnels : s'.tunnels = Function.update s.tunnels id t)
    (free : s.running = false) (running : s'.running = true) (slot : s'.shutdownTx = s.shutdownTx)
    (signalled : s'.signalled = s.signalled) (formed : t.Formed) (registered : ¬ t.Registered)
    (clearing : t.thread ≠ .clearSender) : s'.Orderly := by
  have nobody : ∀ i, ¬ (s.tunnels i).Owns := by
    intro i hi
    have := h.running i hi
    rw [free] at this
    cases this
  have owner : ∀ i, (s'.tunnels i).Owns → i = id := by
    intro i hi
    by_contra e
    rw [tunnels_of_ne tunnels e] at hi
    exact nobody i hi
  have unregistered : ∀ i, ¬ (s'.tunnels i).Registered := by
    intro i hi
    have e := owner i hi.owns
    rw [e, tunnels_self tunnels] at hi
    exact registered hi
  refine ⟨h.formed_of tunnels formed, fun _ _ => running, ?_, ?_, ?_⟩
  · intro i j hi hj
    rw [owner i hi, owner j hj]
  · intro i j hi
    exact absurd hi (unregistered i)
  · intro i hi
    rw [slot, signalled]
    have hi := hi.resolve_left (unregistered i)
    by_cases e : i = id
    · rw [e, tunnels_self tunnels] at hi
      exact absurd hi clearing
    · rw [tunnels_of_ne tunnels e] at hi
      exact h.slot i (.inr hi)

/-- The owner stores its sender while no thread is about to clear the slot. -/
lemma Orderly.register (h : s.Orderly) (tunnels : s'.tunnels = Function.update s.tunnels id t)
    (quiet : ∀ i, (s.tunnels i).thread ≠ .clearSender) (owner : (s.tunnels id).Owns)
    (running : s'.running = s.running) (slot : s'.shutdownTx = some id) (formed : t.Formed)
    (clearing : t.thread ≠ .clearSender) : s'.Orderly := by
  have only : ∀ i, (s'.tunnels i).Owns → i = id := by
    intro i hi
    by_contra e
    rw [tunnels_of_ne tunnels e] at hi
    exact e (h.unique i id hi owner)
  have quiet' : ∀ i, (s'.tunnels i).thread ≠ .clearSender := by
    intro i
    by_cases e : i = id
    · rwa [e, tunnels_self tunnels]
    · rw [tunnels_of_ne tunnels e]
      exact quiet i
  refine ⟨h.formed_of tunnels formed, ?_, ?_, fun _ j _ => quiet' j, ?_⟩
  · intro i _
    rw [running]
    exact h.running id owner
  · intro i j hi hj
    rw [only i hi, only j hj]
  · intro i hi
    have hi := hi.resolve_right (quiet' i)
    rw [only i hi.owns]
    exact .inl slot

/-- The owner gives `TUNNEL_RUNNING` back. -/
lemma Orderly.release (h : s.Orderly) (tunnels : s'.tunnels = Function.update s.tunnels id t)
    (owner : (s.tunnels id).Owns) (slot : s'.shutdownTx = s.shutdownTx)
    (signalled : s'.signalled = s.signalled) (formed : t.Formed) (owns : ¬ t.Owns)
    (clearing : t.thread = .clearSender → (s.tunnels id).Registered) : s'.Orderly := by
  have nobody : ∀ i, ¬ (s'.tunnels i).Owns := by
    intro i hi
    by_cases e : i = id
    · rw [e, tunnels_self tunnels] at hi
      exact owns hi
    · rw [tunnels_of_ne tunnels e] at hi
      exact e (h.unique i id hi owner)
  refine ⟨h.formed_of tunnels formed, ?_, ?_, ?_, ?_⟩
  · intro i hi
    exact absurd hi (nobody i)
  · intro i j hi
    exact absurd hi (nobody i)
  · intro i j hi
    exact absurd hi.owns (nobody i)
  · intro i hi
    rw [slot, signalled]
    have hi := hi.resolve_left fun hi => nobody i hi.owns
    by_cases e : i = id
    · subst e
      rw [tunnels_self tunnels] at hi
      exact h.slot i (.inl (clearing hi))
    · rw [tunnels_of_ne tunnels e] at hi
      exact h.slot i (.inr hi)

/-- An exiting thread clears its own sender, or one that was taken. -/
lemma Orderly.clear (h : s.Orderly) (tunnels : s'.tunnels = Function.update s.tunnels id t)
    (exiting : (s.tunnels id).thread = .clearSender) (running : s'.running = s.running)
    (slot : s'.shutdownTx = none) (signalled : s'.signalled = s.signalled) (formed : t.Formed)
    (owns : ¬ t.Owns) (clearing : t.thread ≠ .clearSender) : s'.Orderly := by
  have old := before (P := Tunnel.Owns) tunnels fun hi => absurd hi owns
  have unregistered : ∀ i, ¬ (s'.tunnels i).Registered := by
    intro i hi
    by_cases e : i = id
    · rw [e, tunnels_self tunnels] at hi
      exact owns hi.owns
    · rw [tunnels_of_ne tunnels e] at hi
      exact h.settled i id hi exiting
  refine ⟨h.formed_of tunnels formed, ?_, ?_, ?_, ?_⟩
  · intro i hi
    rw [running]
    exact h.running i (old i hi)
  · intro i j hi hj
    exact h.unique i j (old i hi) (old j hj)
  · intro i j hi
    exact absurd hi (unregistered i)
  · intro i hi
    have hi := hi.resolve_left (unregistered i)
    by_cases e : i = id
    · rw [e, tunnels_self tunnels] at hi
      exact absurd hi clearing
    · -- the slot cannot hold two senders
      rw [tunnels_of_ne tunnels e] at hi
      have mine := h.slot id (.inr exiting)
      have other := h.slot i (.inr hi)
      rw [slot, signalled]
      grind

lemma Orderly.stopTunnel (h : s.Orderly) : s.stopTunnel.Orderly := by
  unfold State.stopTunnel
  split
  · split
    · rename_i holder held
      refine ⟨h.formed, h.running, h.unique, h.settled, ?_⟩
      intro i hi
      have old := h.slot i hi
      rw [held] at old
      have e : holder = i := by simpa using old
      subst e
      exact .inr ⟨rfl, Function.update_self ..⟩
    · exact h
  · exact h

lemma Orderly.absent (h : s.Orderly) {call : Call} (stage : (s.tunnels id).call = call)
    (calling : call.done = false) : (s.tunnels id).thread = .absent := by
  refine (h.formed id).resolve_right ?_
  rw [stage, calling]
  exact Bool.false_ne_true

lemma Orderly.done (h : s.Orderly) (present : (s.tunnels id).thread ≠ .absent) :
    (s.tunnels id).call.done = true :=
  (h.formed id).resolve_left present

lemma Orderly.moveCall (h : s.Orderly) {stage call : Call} (now : (s.tunnels id).call = stage)
    (tunnels : s'.tunnels = Function.update s.tunnels id { s.tunnels id with call := call })
    (running : s'.running = s.running) (slot : s'.shutdownTx = s.shutdownTx)
    (signalled : s'.signalled = s.signalled) (yields : stage.yields call = true) : s'.Orderly := by
  subst now
  unfold Call.yields at yields
  simp only [Bool.and_eq_true, Bool.or_eq_true, Bool.not_eq_true'] at yields
  obtain ⟨⟨owning, registered⟩, done⟩ := yields
  refine h.move tunnels running slot signalled ?_ ?_ ?_ fun clearing => clearing
  · refine (h.formed id).imp_right fun ended => ?_
    simpa [ended] using done
  · refine Or.imp_left fun owns => ?_
    simpa [owns] using owning
  · refine Or.imp_left fun owns => ?_
    simpa [owns] using registered

lemma Orderly.moveThread (h : s.Orderly) {stage thread : Thread} (now : (s.tunnels id).thread = stage)
    (tunnels : s'.tunnels = Function.update s.tunnels id { s.tunnels id with thread := thread })
    (running : s'.running = s.running) (slot : s'.shutdownTx = s.shutdownTx)
    (signalled : s'.signalled = s.signalled) (yields : stage.yields thread = true) : s'.Orderly := by
  subst now
  unfold Thread.yields at yields
  simp only [Bool.and_eq_true, Bool.or_eq_true, Bool.not_eq_true', decide_eq_true_eq] at yields
  obtain ⟨⟨⟨owning, registered⟩, present⟩, clearing⟩ := yields
  refine h.move tunnels running slot signalled (.inr (h.done present)) ?_ ?_ ?_
  · refine Or.imp_right fun owns => ?_
    simpa [owns] using owning
  · refine Or.imp_right fun owns => ?_
    simpa [owns] using registered
  · intro e
    exact absurd e clearing

lemma owns_of_call {call : Call} (now : (s.tunnels id).call = call) (owning : call.owning = true) :
    (s.tunnels id).Owns :=
  .inl (now ▸ owning)

/-! A call without a thread holds what its own stage holds. -/

lemma not_owns_of_absent (absent : (s.tunnels id).thread = .absent) {call : Call}
    (free : call.owning = false) : ¬ Tunnel.Owns { s.tunnels id with call := call } := by
  rintro (owning | owning)
  · cases free.symm.trans owning
  · rw [absent] at owning
    cases owning

lemma not_registered_of_absent (absent : (s.tunnels id).thread = .absent) {call : Call}
    (free : call.registered = false) : ¬ Tunnel.Registered { s.tunnels id with call := call } := by
  rintro (registered | registered)
  · cases free.symm.trans registered
  · rw [absent] at registered
    cases registered

lemma ne_clearSender_of_absent (absent : (s.tunnels id).thread = .absent) :
    (s.tunnels id).thread ≠ .clearSender := by
  rw [absent]
  exact Thread.noConfusion

lemma Orderly.callStep (h : s.Orderly) {outcome : Outcome}
    (settled : s.Settled (.call id outcome)) : (s.callStep id outcome).Orderly := by
  unfold State.callStep
  cases stage : (s.tunnels id).call with
  | swapRunning =>
    dsimp only
    split
    · exact h.moveCall stage rfl rfl rfl rfl rfl
    · rename_i free
      have absent := h.absent stage rfl
      exact h.acquire rfl (by simpa using free) rfl rfl rfl (.inl absent)
        (not_registered_of_absent absent rfl) (ne_clearSender_of_absent absent)
  | clearConnected => exact h.moveCall stage rfl rfl rfl rfl rfl
  | clearServer => exact h.moveCall stage rfl rfl rfl rfl rfl
  | clearError => exact h.moveCall stage rfl rfl rfl rfl rfl
  | storeSender =>
    cases outcome with
    | ok =>
      dsimp only
      split
      · have absent := h.absent stage rfl
        exact h.register rfl (fun i => settled id i rfl stage) (owns_of_call stage rfl) rfl rfl
          (.inl absent) (ne_clearSender_of_absent absent)
      · exact h
    | failed message => exact h.moveCall stage rfl rfl rfl rfl rfl
    | raised => exact h.moveCall stage rfl rfl rfl rfl rfl
  | storeStats => exact h.moveCall stage rfl rfl rfl rfl rfl
  | spawn =>
    cases outcome with
    | ok =>
      -- the thread takes over from its call
      have tunnels : ((s.setThread id .buildRuntime).setCall id (.reply "")).tunnels =
          Function.update s.tunnels id ⟨.reply "", .buildRuntime⟩ := by
        simp [State.setThread, State.setCall]
      have registered : (s.tunnels id).Registered := .inl (by rw [stage]; rfl)
      exact h.move tunnels rfl rfl rfl (.inr rfl) (fun _ => registered.owns) (fun _ => registered)
        Thread.noConfusion
    | failed message => exact h.moveCall stage rfl rfl rfl rfl rfl
    | raised => exact h.moveCall stage rfl rfl rfl rfl rfl
  | failConnected message => exact h.moveCall stage rfl rfl rfl rfl rfl
  | failError message => exact h.moveCall stage rfl rfl rfl rfl rfl
  | failRunning message =>
    have absent := h.absent stage rfl
    exact h.release rfl (owns_of_call stage rfl) rfl rfl (.inl absent)
      (not_owns_of_absent absent rfl) fun clearing =>
        absurd clearing (ne_clearSender_of_absent absent)
  | reply message =>
    cases outcome with
    | ok => exact h.moveCall stage rfl rfl rfl rfl rfl
    | failed message => exact h.moveCall stage rfl rfl rfl rfl rfl
    | raised => exact h.moveCall stage rfl rfl rfl rfl rfl
  | returned message => exact h
  | raised => exact h

/-- A thread that has given `TUNNEL_RUNNING` back owns nothing. -/
lemma Orderly.not_owns (h : s.Orderly) (present : (s.tunnels id).thread ≠ .absent) {thread : Thread}
    (quit : thread.owning = false) : ¬ Tunnel.Owns { s.tunnels id with thread := thread } := by
  rintro (owning | owning)
  · rw [Call.owning_of_done (h.done present)] at owning
    cases owning
  · rw [quit] at owning
    cases owning

lemma Orderly.threadStep (h : s.Orderly) {progress : Progress} :
    (s.threadStep id progress).Orderly := by
  unfold State.threadStep
  cases stage : (s.tunnels id).thread with
  | absent => exact h
  | buildRuntime =>
    cases progress with
    | failed message => exact h.moveThread stage rfl rfl rfl rfl rfl
    | _ => exact h.moveThread stage rfl rfl rfl rfl rfl
  | runTunnel =>
    cases progress with
    | ok => exact h.moveThread stage rfl rfl rfl rfl rfl
    | failed message => exact h.moveThread stage rfl rfl rfl rfl rfl
    | connected => exact ⟨h.formed, h.running, h.unique, h.settled, h.slot⟩
    | resolved server => exact ⟨h.formed, h.running, h.unique, h.settled, h.slot⟩
  | failConnected message => exact h.moveThread stage rfl rfl rfl rfl rfl
  | failError message => exact h.moveThread stage rfl rfl rfl rfl rfl
  | clearConnected => exact h.moveThread stage rfl rfl rfl rfl rfl
  | clearRunning =>
    have present : (s.tunnels id).thread ≠ .absent := by simp [stage]
    have registered : (s.tunnels id).Registered := .inr (by rw [stage]; rfl)
    exact h.release rfl registered.owns rfl rfl (.inr (h.done present)) (h.not_owns present rfl)
      fun _ => registered
  | clearSender =>
    have present : (s.tunnels id).thread ≠ .absent := by simp [stage]
    dsimp only
    split
    · exact h.clear rfl stage rfl rfl rfl (.inr (h.done present)) (h.not_owns present rfl)
        Thread.noConfusion
    · exact h
  | clearStats => exact h.moveThread stage rfl rfl rfl rfl rfl
  | unbuiltRunning =>
    have present : (s.tunnels id).thread ≠ .absent := by simp [stage]
    have owner : (s.tunnels id).Owns := .inr (by rw [stage]; rfl)
    exact h.release rfl owner rfl rfl (.inr (h.done present)) (h.not_owns present rfl)
      Thread.noConfusion
  | unbuiltStats => exact h.moveThread stage rfl rfl rfl rfl rfl
  | ended => exact h

lemma Orderly.step (h : s.Orderly) {event : Event} (settled : s.Settled event) :
    (s.step event).Orderly := by
  cases event with
  | call id outcome => exact h.callStep settled
  | thread id progress => exact h.threadStep
  | stop => exact h.stopTunnel

lemma orderly_start : start.Orderly := by
  have owns : ∀ i, ¬ (start.tunnels i).Owns := by
    rintro i (owning | owning) <;> cases owning
  refine ⟨fun i => .inl rfl, ?_, ?_, ?_, ?_⟩
  · intro i hi
    exact absurd hi (owns i)
  · intro i j hi
    exact absurd hi (owns i)
  · intro i j hi
    exact absurd hi.owns (owns i)
  · rintro i (hi | hi)
    · exact absurd hi.owns (owns i)
    · cases hi

/-! ### What the order gives -/

lemma Orderly.stoppable (h : s.Orderly) : s.Stoppable := by
  intro i _ runs quiet
  have registered : (s.tunnels i).Registered := by
    right
    cases stage : (s.tunnels i).thread with
    | buildRuntime => rfl
    | runTunnel => rfl
    | _ =>
      rw [stage] at runs
      cases runs
  obtain held | ⟨_, signalled⟩ := h.slot i (.inl registered)
  · exact held
  · rw [quiet] at signalled
    cases signalled

lemma Orderly.clearsOwn (h : s.Orderly) (event : Event) : s.ClearsOwn event := by
  intro i progress other _ exiting held
  obtain mine | ⟨empty, _⟩ := h.slot i (.inr exiting)
  · rw [held] at mine
    exact Option.some.inj mine
  · rw [held] at empty
    cases empty

/-- The steps of a call that succeeds, up to the runtime of its thread. -/
def starting (id : Nat) : List Event :=
  List.replicate 8 (.call id .ok) ++ [.thread id .ok]

/-- If no call stores its sender between the two stores of an exit, every running tunnel can be stopped. -/
theorem stoppable_of_settled (events : List Event)
    (settled : EachStep State.step Settled start events) :
    Always State.step Stoppable start events ∧ EachStep State.step ClearsOwn start events := by
  have orderly : Always State.step Orderly start events :=
    always_of_eachStep orderly_start (fun _ _ h ok => h.step ok) settled
  refine ⟨?_, ?_⟩
  · intro pre post e
    exact (orderly pre post e).stoppable
  · intro pre event post e
    exact (orderly pre (event :: post) e).clearsOwn event

/-- A tunnel is started, stopped and ended, and the next one is started. -/
def restarting : List Event :=
  starting 0 ++ .stop :: List.replicate 5 (.thread 0 .ok) ++ starting 1

theorem stoppable_of_settled_started :
    (run State.step start restarting).tunnels 0 = ⟨.returned "", .ended⟩ ∧
      (run State.step start restarting).tunnels 1 = ⟨.returned "", .runTunnel⟩ ∧
      (run State.step start restarting).signalled 1 = false ∧
      (run State.step start restarting).shutdownTx = some 1 := by
  have settled : EachStep State.step Settled start restarting := by
    simp [restarting, starting, List.replicate, Settled, State.step, State.callStep, State.threadStep,
      State.stopTunnel, State.setCall, State.setThread, start]
    constructorm* _ ∧ _
    all_goals grind [Function.update_apply]
  obtain ⟨stoppable, _⟩ := stoppable_of_settled _ settled
  exact ⟨by decide, by decide, by decide, stoppable.last 1 (by decide) (by decide) (by decide)⟩

/-- Tunnel `0` exits, tunnel `1` starts, and the old thread clears its sender. -/
theorem exit_clears_other_sender :
    let s := run State.step start (starting 0 ++ List.replicate 3 (.thread 0 .ok) ++ starting 1)
    let s' := s.step (.thread 0 .ok)
    ¬ s.ClearsOwn (.thread 0 .ok) ∧ s.shutdownTx = some 1 ∧
      s'.tunnels 1 = ⟨.returned "", .runTunnel⟩ ∧ s'.signalled 1 = false ∧ s'.shutdownTx = none ∧
      ¬ s'.Stoppable := by
  refine ⟨?_, by decide, by decide, by decide, by decide, ?_⟩
  · intro own
    exact absurd (own 0 .ok 1 rfl (by decide) (by decide)) (by decide)
  · intro stoppable
    exact absurd (stoppable 1 (by decide) (by decide) (by decide)) (by decide)

end State
end Rvpn.Android
