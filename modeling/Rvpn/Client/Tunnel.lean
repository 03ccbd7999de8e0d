import Rvpn.Client.Handshake
import Rvpn.Interface
import Rvpn.Protocol.Delivery

/-!
# The client's data plane

Model of `run_data_plane` in `apps/rvpn-client/src/tunnel.rs` with `maybe_rekey` of `handshake.rs`. A
step is one branch of the `select!` up to the next wait, or one event of a call of `establish` for a
rekey. Telemetry and the outbound queue leave the session and the result alone and are left out.
`DataPlane.step_keeps` is the rule for invariants of the session.
-/

namespace Rvpn.Client
open Config Crypto Interface Primitives Protocol

variable (P : Primitives)

/-- `DataPlaneExit`. -/
inductive DataPlaneExit where
  | shutdown
  | serverClosed
  | linkLost
  deriving DecidableEq

/-- Why `run_data_plane` returns an error. -/
inductive TunnelError where
  | signal
  | transport
  | device
  | interface (e : InterfaceError)
  | session (e : SessionError)
  | crypto (e : CryptoError)
  deriving DecidableEq

structure DataPlane where
  server : SocketAddr
  auth : AuthConfig
  obfuscation : Option ObfuscationKey
  handshake : HandshakeConfig := {}
  rekey : RekeyConfig := {}
  liveness : LivenessConfig := {}
  tun : Option VirtualInterface
  tap : Option VirtualInterface

/-- What a branch goes on with after its rekey. -/
inductive Branch where
  | nothing
  | packet (kind : PacketKind) (payload : List UInt8)

/-- Where the loop is: at its `select!`, in a rekey, or at its end. -/
inductive PlaneState where
  | running (session : ProtectedSession P) (lastRx : Nat)
  | rekeying (session : ProtectedSession P) (lastRx : Nat) (stage : Stage P) (branch : Branch)
  | returned (result : Except TunnelError DataPlaneExit)

inductive PlaneEvent where
  | shutdown (ok : Bool)
  | livenessCheck
  | rekeyCheck
  | keepaliveDue
  | tunPacket (packet : Option (List UInt8))
  | tapFrame (frame : Option (List UInt8))
  | transport (event : Event)

/-- What the system answers during an event, with random values. -/
structure PlaneEnv extends Env where
  ephemeral : Option (Bytes 32)
  random : Option (Bytes 32)
  accepts : Bool
  writes : Bool

inductive PlaneOutput where
  | send (packet : Packet)
  | queued (packet : Packet)
  | write (device : VirtualInterface) (packet : List UInt8)
  | sealed (record : Sealed P)
  | opened (packet : Packet)

variable {P}

def PlaneState.session : PlaneState P → Option (ProtectedSession P)
  | .running session _ => some session
  | .rekeying session _ _ _ => some session
  | .returned _ => none

namespace DataPlane
variable (d : DataPlane)

def sealedBy (session : ProtectedSession P) (kind : PacketKind) (plaintext : List UInt8)
    (packet : Packet) : PlaneOutput P :=
  .sealed { kind := kind, plaintext := plaintext, key := session.keys.send, packet := packet }

/-- The rest of a branch: a packet from a device is sealed and queued. -/
def resume (env : PlaneEnv) (session : ProtectedSession P) (lastRx : Nat) :
    Branch → PlaneState P × List (PlaneOutput P)
  | .nothing => (.running session lastRx, [])
  | .packet kind payload =>
    match session.sealPacket kind payload with
    | (.error e, _) => (.returned (.error (.session e)), [])
    | (.ok packet, next) =>
      match wrap P d.obfuscation env.wrap packet.encode with
      | .error e => (.returned (.error (.crypto e)), [sealedBy session kind payload packet])
      | .ok _ =>
        (.running next lastRx,
          sealedBy session kind payload packet :: if env.accepts then [.queued packet] else [])

def call (session : ProtectedSession P) : Establish P where
  server := d.server
  obfuscation := d.obfuscation
  retryLimit := d.handshake.retryLimit.toNat
  old := some session

/-- What a stage means for the loop; nothing reads `d.rekey.gracePeriod`. -/
def proceed (env : PlaneEnv) (session : ProtectedSession P) (lastRx : Nat) (branch : Branch)
    (stage : Stage P) : PlaneState P × List (PlaneOutput P) :=
  match stage with
  | .established new acknowledgment =>
    let (state, out) := d.resume env new env.clock.instant branch
    (state, .opened acknowledgment :: out)
  | .failed => (.returned (.ok .linkLost), [])
  | stage => (.rekeying session lastRx stage branch, [])

def beginRekey (env : PlaneEnv) (session : ProtectedSession P) (lastRx : Nat) (branch : Branch) :
    PlaneState P × List (PlaneOutput P) :=
  let (stage, sent) := (d.call session).start d.auth env.ephemeral env.random env.toEnv
  let (state, out) := d.proceed env session lastRx branch stage
  (state, sent.map .send ++ out)

/-- `maybe_rekey`. -/
def maybeRekey (env : PlaneEnv) (session : ProtectedSession P) (lastRx : Nat) (branch : Branch) :
    PlaneState P × List (PlaneOutput P) :=
  if session.shouldRekeyWithPolicy d.rekey.packetLimit d.rekey.timeLimit env.clock.instant then
    d.beginRekey env session lastRx branch
  else d.resume env session lastRx branch

/-- The branch of the shutdown signal. -/
def close (env : PlaneEnv) (session : ProtectedSession P) : PlaneState P × List (PlaneOutput P) :=
  match session.sealPacket .close [] with
  | (.error e, _) => (.returned (.error (.session e)), [])
  | (.ok packet, _) =>
    match wrap P d.obfuscation env.wrap packet.encode with
    | .error e => (.returned (.error (.crypto e)), [sealedBy session .close [] packet])
    | .ok _ =>
      (.returned (.ok .shutdown),
        sealedBy session .close [] packet :: if env.sends then [.send packet] else [])

/-- The branch of the keepalive timer; its failures are logged only. -/
def keepAlive (env : PlaneEnv) (session : ProtectedSession P) (lastRx : Nat) :
    PlaneState P × List (PlaneOutput P) :=
  match session.sealPacket .keepalive [] with
  | (.error _, next) => (.running next lastRx, [])
  | (.ok packet, next) =>
    match wrap P d.obfuscation env.wrap packet.encode with
    | .error _ => (.running next lastRx, [sealedBy session .keepalive [] packet])
    | .ok _ =>
      (.running next lastRx,
        sealedBy session .keepalive [] packet :: if env.sends then [.send packet] else [])

def target (kind : PacketKind) : Option VirtualInterface :=
  if kind = .dataTap then d.tap.or d.tun else d.tun.or d.tap

/-- A plaintext goes to its device; an error of `send` ends the loop. -/
def deliver (env : PlaneEnv) (session : ProtectedSession P) (kind : PacketKind)
    (plaintext : List UInt8) : PlaneState P × List (PlaneOutput P) :=
  if plaintext = [] then (.running session env.clock.instant, [])
  else
    match d.target kind with
    | none => (.running session env.clock.instant, [])
    | some device =>
      match validatePacket plaintext device.mtu device.mode with
      | .error e => (.returned (.error (.interface e)), [])
      | .ok () =>
        if env.writes then (.running session env.clock.instant, [.write device plaintext])
        else (.returned (.error .device), [])

def onOpened (env : PlaneEnv) (session : ProtectedSession P) (lastRx : Nat) (kind : PacketKind)
    (plaintext : List UInt8) : PlaneState P × List (PlaneOutput P) :=
  match kind with
  | .keepalive => (.running session env.clock.instant, [])
  | .close => (.returned (.ok .serverClosed), [])
  | .rekey => d.beginRekey env session lastRx .nothing
  | kind => d.deliver env session kind plaintext

def onDatagram (env : PlaneEnv) (session : ProtectedSession P) (lastRx : Nat) (peer : SocketAddr)
    (payload : List UInt8) : PlaneState P × List (PlaneOutput P) :=
  if peer ≠ d.server then (.running session lastRx, [])
  else
    match decodeDatagram P d.obfuscation payload with
    | none => (.running session lastRx, [])
    | some packet =>
      if packet.header.kind = .handshake then (.running session lastRx, [])
      else
        match session.openPacket packet env.clock.instant with
        | (.error _, session) => (.running session lastRx, [])
        | (.ok plaintext, session) =>
          let (state, out) := d.onOpened env session lastRx packet.header.kind plaintext
          (state, .opened packet :: out)

/-- One branch of the `select!`. A branch without its device never runs. -/
def onEvent (env : PlaneEnv) (session : ProtectedSession P) (lastRx : Nat) :
    PlaneEvent → PlaneState P × List (PlaneOutput P)
  | .shutdown ok => if ok then d.close env session else (.returned (.error .signal), [])
  | .livenessCheck =>
    if d.liveness.timeout.any fun limit => decide (limit < env.clock.instant - lastRx) then
      (.returned (.ok .linkLost), [])
    else (.running session lastRx, [])
  | .rekeyCheck => d.maybeRekey env session lastRx .nothing
  | .keepaliveDue => d.keepAlive env session lastRx
  | .tunPacket packet =>
    if d.tun.isNone then (.running session lastRx, [])
    else
      match packet with
      | none => (.returned (.error .device), [])
      | some packet => d.maybeRekey env session lastRx (.packet .data packet)
  | .tapFrame frame =>
    if d.tap.isNone then (.running session lastRx, [])
    else
      match frame with
      | none => (.returned (.error .device), [])
      | some frame => d.maybeRekey env session lastRx (.packet .dataTap frame)
  | .transport (.datagram peer payload) => d.onDatagram env session lastRx peer payload
  | .transport .receiveFailed => (.returned (.error .transport), [])
  | .transport .deadline => (.running session lastRx, [])

/-- `run_data_plane`: one event of the loop. -/
def step (state : PlaneState P) (event : PlaneEvent × PlaneEnv) :
    PlaneState P × List (PlaneOutput P) :=
  match state with
  | .running session lastRx => d.onEvent event.2 session lastRx event.1
  | .rekeying session lastRx stage branch =>
    match event.1 with
    | .transport e =>
      let (stage, sent) := (d.call session).step stage (e, event.2.toEnv)
      let (state, out) := d.proceed event.2 session lastRx branch stage
      (state, sent.map .send ++ out)
    | _ => (state, [])
  | .returned _ => (state, [])

/-- A predicate on the session, and one with the stage of a rekey. -/
def Holds (I : ProtectedSession P → Prop) (J : ProtectedSession P → Stage P → Prop) :
    PlaneState P → Prop
  | .running session _ => I session
  | .rekeying session _ stage _ => I session ∧ J session stage
  | .returned _ => True

/-- The state afterwards; every `seal` on the way is of a session with `I`. -/
structure Kept (I : ProtectedSession P → Prop) (J : ProtectedSession P → Stage P → Prop)
    (result : PlaneState P × List (PlaneOutput P)) : Prop where
  state : Holds I J result.1
  sealed : ∀ record, .sealed record ∈ result.2 → ∃ session session',
    I session ∧ record.key = session.keys.send ∧
      session.sealPacket record.kind record.plaintext = (.ok record.packet, session')

section
variable {I : ProtectedSession P → Prop} {J : ProtectedSession P → Stage P → Prop}

variable {state : PlaneState P} {session : ProtectedSession P}

variable {out : List (PlaneOutput P)}

lemma Kept.of_silent (h : Holds I J state) (silent : ∀ record, PlaneOutput.sealed record ∉ out) :
    Kept I J (state, out) :=
  ⟨h, fun record mem => absurd mem (silent record)⟩

lemma Kept.quiet (h : Holds I J state) : Kept I J (state, []) :=
  .of_silent h fun _ => List.not_mem_nil

lemma Kept.after {state : PlaneState P} {first : List (PlaneOutput P)} (h : Kept I J (state, out))
    (silent : ∀ record, PlaneOutput.sealed record ∉ first) : Kept I J (state, first ++ out) := by
  refine ⟨h.state, ?_⟩
  intro record mem
  rcases List.mem_append.1 mem with mem | mem
  · exact absurd mem (silent record)
  · exact h.sealed record mem

lemma Kept.opened {state : PlaneState P} (h : Kept I J (state, out)) (packet : Packet) :
    Kept I J (state, .opened packet :: out) := by
  have silent : ∀ record, PlaneOutput.sealed record ∉ [(.opened packet : PlaneOutput P)] := by
    intro record mem
    cases List.mem_singleton.1 mem
  exact h.after silent

lemma Kept.of_seal {session session' : ProtectedSession P} {kind : PacketKind}
    {plaintext : List UInt8} {packet : Packet} (h : Holds I J state) (own : I session)
    (sealed : session.sealPacket kind plaintext = (.ok packet, session'))
    (silent : ∀ record, PlaneOutput.sealed record ∉ out) :
    Kept I J (state, sealedBy session kind plaintext packet :: out) := by
  refine ⟨h, ?_⟩
  intro record mem
  rcases List.mem_cons.1 mem with eq | mem
  · cases eq
    exact ⟨session, session', own, rfl, sealed⟩
  · exact absurd mem (silent record)

variable (continues : ∀ s s', I s → s.Continues s' → I s')
include continues

lemma resume_kept (env : PlaneEnv) (lastRx : Nat) (branch : Branch) (own : I session) :
    Kept I J (d.resume env session lastRx branch) := by
  cases branch with
  | nothing => exact .quiet own
  | packet kind payload =>
    cases sealing : session.sealPacket kind payload with
    | mk result next =>
      cases result with
      | error e =>
        simp only [resume, sealing]
        exact .quiet trivial
      | ok packet =>
        simp only [resume, sealing]
        split
        · exact .of_seal trivial own sealing fun _ => List.not_mem_nil
        · refine .of_seal (continues _ _ own (ProtectedSession.continues_sealPacket sealing)) own
            sealing fun record mem => ?_
          split at mem
          · cases List.mem_singleton.1 mem
          · cases mem

lemma proceed_kept (env : PlaneEnv) (lastRx : Nat) (branch : Branch) {stage : Stage P}
    (own : I session) (waits : J session stage)
    (established : ∀ new acknowledgment, J session (.established new acknowledgment) → I new) :
    Kept I J (d.proceed env session lastRx branch stage) := by
  cases stage with
  | response attempt handshake => exact .quiet ⟨own, waits⟩
  | acknowledgment attempt finish new => exact .quiet ⟨own, waits⟩
  | established new acknowledgment =>
    have rest := d.resume_kept (J := J) continues env env.clock.instant branch
      (established new acknowledgment waits)
    exact rest.opened acknowledgment
  | failed => exact .quiet trivial

omit continues in
lemma sends_silent (sent : List Packet) (record : Sealed P) :
    PlaneOutput.sealed record ∉ sent.map PlaneOutput.send := by
  intro mem
  obtain ⟨packet, _, eq⟩ := List.mem_map.1 mem
  cases eq

lemma beginRekey_kept (env : PlaneEnv) (lastRx : Nat) (branch : Branch) (own : I session)
    (starts : ∀ s, I s → J s ((d.call s).start d.auth env.ephemeral env.random env.toEnv).1)
    (established : ∀ s new acknowledgment, J s (.established new acknowledgment) → I new) :
    Kept I J (d.beginRekey env session lastRx branch) :=
  (d.proceed_kept continues env lastRx branch own (starts session own)
    (established session)).after (sends_silent _)

lemma maybeRekey_kept (env : PlaneEnv) (lastRx : Nat) (branch : Branch) (own : I session)
    (starts : ∀ s, I s → J s ((d.call s).start d.auth env.ephemeral env.random env.toEnv).1)
    (established : ∀ s new acknowledgment, J s (.established new acknowledgment) → I new) :
    Kept I J (d.maybeRekey env session lastRx branch) := by
  unfold maybeRekey
  split
  · exact d.beginRekey_kept continues env lastRx branch own starts established
  · exact d.resume_kept continues env lastRx branch own

omit continues in
lemma close_kept (env : PlaneEnv) (own : I session) : Kept I J (d.close env session) := by
  unfold close
  cases sealing : session.sealPacket .close [] with
  | mk result next =>
    cases result with
    | error e => exact .quiet trivial
    | ok packet =>
      simp only
      split
      · exact .of_seal trivial own sealing fun _ => List.not_mem_nil
      · refine .of_seal trivial own sealing fun record mem => ?_
        split at mem
        · cases List.mem_singleton.1 mem
        · cases mem

lemma keepAlive_kept (env : PlaneEnv) (lastRx : Nat) (own : I session) :
    Kept I J (d.keepAlive env session lastRx) := by
  unfold keepAlive
  cases sealing : session.sealPacket .keepalive [] with
  | mk result next =>
    have own' := continues _ _ own (ProtectedSession.continues_sealPacket sealing)
    cases result with
    | error e => exact .quiet own'
    | ok packet =>
      simp only
      split
      · exact .of_seal own' own sealing fun _ => List.not_mem_nil
      · refine .of_seal own' own sealing fun record mem => ?_
        split at mem
        · cases List.mem_singleton.1 mem
        · cases mem

omit continues in
lemma deliver_kept (env : PlaneEnv) (kind : PacketKind) (plaintext : List UInt8) (own : I session) :
    Kept I J (d.deliver env session kind plaintext) := by
  unfold deliver
  split
  · exact .quiet own
  · split
    · exact .quiet own
    · split
      · exact .quiet trivial
      · split
        · refine .of_silent own fun record mem => ?_
          cases List.mem_singleton.1 mem
        · exact .quiet trivial

lemma onDatagram_kept (env : PlaneEnv) (lastRx : Nat) (peer : SocketAddr) (payload : List UInt8)
    (own : I session)
    (starts : ∀ s, I s → J s ((d.call s).start d.auth env.ephemeral env.random env.toEnv).1)
    (established : ∀ s new acknowledgment, J s (.established new acknowledgment) → I new) :
    Kept I J (d.onDatagram env session lastRx peer payload) := by
  unfold onDatagram
  split
  · exact .quiet own
  · split
    · exact .quiet own
    · next packet _ =>
      split
      · exact .quiet own
      · cases opened : session.openPacket packet env.clock.instant with
        | mk result next =>
          have own' := continues _ _ own (ProtectedSession.continues_openPacket opened)
          cases result with
          | error e => exact .quiet own'
          | ok plaintext =>
            have rest : Kept I J (d.onOpened env next lastRx packet.header.kind plaintext) := by
              unfold onOpened
              split
              · exact .quiet own'
              · exact .quiet trivial
              · exact d.beginRekey_kept continues env lastRx .nothing own' starts established
              · exact d.deliver_kept env _ plaintext own'
            exact rest.opened packet

lemma onEvent_kept (env : PlaneEnv) (lastRx : Nat) (event : PlaneEvent) (own : I session)
    (starts : ∀ s, I s → J s ((d.call s).start d.auth env.ephemeral env.random env.toEnv).1)
    (established : ∀ s new acknowledgment, J s (.established new acknowledgment) → I new) :
    Kept I J (d.onEvent env session lastRx event) := by
  cases event with
  | shutdown ok =>
    cases ok with
    | true => exact d.close_kept env own
    | false => exact .quiet trivial
  | livenessCheck =>
    simp only [onEvent]
    split
    · exact .quiet trivial
    · exact .quiet own
  | rekeyCheck => exact d.maybeRekey_kept continues env lastRx .nothing own starts established
  | keepaliveDue => exact d.keepAlive_kept continues env lastRx own
  | tunPacket packet =>
    simp only [onEvent]
    split
    · exact .quiet own
    · split
      · exact .quiet trivial
      · exact d.maybeRekey_kept continues env lastRx _ own starts established
  | tapFrame frame =>
    simp only [onEvent]
    split
    · exact .quiet own
    · split
      · exact .quiet trivial
      · exact d.maybeRekey_kept continues env lastRx _ own starts established
  | transport event =>
    cases event with
    | datagram peer payload =>
      exact d.onDatagram_kept continues env lastRx peer payload own starts established
    | deadline => exact .quiet own
    | receiveFailed => exact .quiet trivial

/-- The invariant rule: `I` of the session, `J₀` of a rekey before and `J` after. -/
theorem step_keeps {J₀ : ProtectedSession P → Stage P → Prop} {event : PlaneEvent × PlaneEnv}
    (h : Holds I J₀ state) (stays : ∀ s stage, J₀ s stage → J s stage) (starts : ∀ s, I s →
      J s ((d.call s).start d.auth event.2.ephemeral event.2.random event.2.toEnv).1)
    (goes : ∀ s lastRx stage branch e, state = .rekeying s lastRx stage branch →
      event.1 = .transport e → I s → J₀ s stage → J s ((d.call s).step stage (e, event.2.toEnv)).1)
    (established : ∀ s new acknowledgment, J s (.established new acknowledgment) → I new) :
    Kept I J (d.step state event) := by
  cases state with
  | running session lastRx => exact d.onEvent_kept continues event.2 lastRx event.1 h starts established
  | rekeying session lastRx stage branch =>
    obtain ⟨own, waits⟩ := h
    unfold step
    simp only
    split
    · next e eq =>
      have next := goes session lastRx stage branch e rfl eq own waits
      exact (d.proceed_kept continues event.2 lastRx branch own next (established session)).after
        (sends_silent _)
    · exact .quiet ⟨own, stays session stage waits⟩
  | returned result => exact .quiet trivial

end

/-!
The loop ends when a device refuses a plaintext: `deliver` passes the error of `send` on, where the
server's `inject` drops the packet. Nothing else in the loop leads to such an error.
-/

def refusal : PlaneState P → Option InterfaceError
  | .returned (.error (.interface e)) => some e
  | _ => none

/-- The device of a plaintext that the session opens takes it. -/
def Deliverable (state : PlaneState P) (event : PlaneEvent × PlaneEnv) : Prop :=
  ∀ session lastRx payload packet plaintext session' device,
    state = .running session lastRx → event.1 = .transport (.datagram d.server payload) →
    decodeDatagram P d.obfuscation payload = some packet →
    (packet.header.kind = .data ∨ packet.header.kind = .dataTap) →
    session.openPacket packet event.2.clock.instant = (.ok plaintext, session') →
    plaintext ≠ [] → d.target packet.header.kind = some device →
    validatePacket plaintext device.mtu device.mode = .ok ()

section
variable (env : PlaneEnv) (session : ProtectedSession P) (lastRx : Nat)

lemma refusal_resume (branch : Branch) : refusal (d.resume env session lastRx branch).1 = none := by
  cases branch with
  | nothing => rfl
  | packet kind payload =>
    simp only [resume]
    split
    · rfl
    · split
      · rfl
      · rfl

lemma refusal_proceed (branch : Branch) (stage : Stage P) :
    refusal (d.proceed env session lastRx branch stage).1 = none := by
  cases stage with
  | response attempt handshake => rfl
  | acknowledgment attempt finish new => rfl
  | established new acknowledgment => exact d.refusal_resume env new env.clock.instant branch
  | failed => rfl

lemma refusal_beginRekey (branch : Branch) :
    refusal (d.beginRekey env session lastRx branch).1 = none :=
  d.refusal_proceed env session lastRx branch _

lemma refusal_maybeRekey (branch : Branch) :
    refusal (d.maybeRekey env session lastRx branch).1 = none := by
  unfold maybeRekey
  split
  · exact d.refusal_beginRekey env session lastRx branch
  · exact d.refusal_resume env session lastRx branch

lemma refusal_deliver (kind : PacketKind) (plaintext : List UInt8) :
    refusal (d.deliver env session kind plaintext).1 = none ↔
      (plaintext ≠ [] → ∀ device, d.target kind = some device →
        validatePacket plaintext device.mtu device.mode = .ok ()) := by
  unfold deliver
  split
  · next empty => exact ⟨fun _ some => absurd empty some, fun _ => rfl⟩
  · next some =>
    split
    · next missing =>
      refine ⟨?_, fun _ => rfl⟩
      intro _ _ device found
      rw [missing] at found
      cases found
    · next device found =>
      cases valid : validatePacket plaintext device.mtu device.mode with
      | error e =>
        refine ⟨?_, ?_⟩
        · intro refused
          cases refused
        · intro takes
          rw [takes some device found] at valid
          cases valid
      | ok u =>
        refine ⟨?_, ?_⟩
        · intro _ _ device' found'
          rw [found] at found'
          cases found'
          exact valid
        · intro _
          simp only
          split
          · rfl
          · rfl

lemma refusal_onOpened (kind : PacketKind) (plaintext : List UInt8) (protected' : kind ≠ .handshake) :
    refusal (d.onOpened env session lastRx kind plaintext).1 = none ↔
      (kind = .data ∨ kind = .dataTap → plaintext ≠ [] → ∀ device, d.target kind = some device →
        validatePacket plaintext device.mtu device.mode = .ok ()) := by
  cases kind with
  | handshake => exact absurd rfl protected'
  | data => exact (d.refusal_deliver env session .data plaintext).trans (by simp)
  | dataTap => exact (d.refusal_deliver env session .dataTap plaintext).trans (by simp)
  | rekey =>
    refine ⟨fun _ data => (by simp at data), fun _ => ?_⟩
    exact d.refusal_beginRekey env session lastRx .nothing
  | close => exact ⟨fun _ data => (by simp at data), fun _ => rfl⟩
  | keepalive => exact ⟨fun _ data => (by simp at data), fun _ => rfl⟩

lemma deliverable_datagram (peer : SocketAddr) (payload : List UInt8) :
    d.Deliverable (.running session lastRx) (.transport (.datagram peer payload), env) ↔
      (peer = d.server → ∀ packet plaintext session' device,
        decodeDatagram P d.obfuscation payload = some packet →
        (packet.header.kind = .data ∨ packet.header.kind = .dataTap) →
        session.openPacket packet env.clock.instant = (.ok plaintext, session') →
        plaintext ≠ [] → d.target packet.header.kind = some device →
        validatePacket plaintext device.mtu device.mode = .ok ()) := by
  refine ⟨?_, ?_⟩
  · intro h same packet plaintext session' device
    subst same
    exact h session lastRx payload packet plaintext session' device rfl rfl
  · intro h _ _ payload' packet plaintext session' device running datagram
    cases running
    cases datagram
    exact h rfl packet plaintext session' device

lemma refusal_onDatagram (peer : SocketAddr) (payload : List UInt8) :
    refusal (d.onDatagram env session lastRx peer payload).1 = none ↔
      d.Deliverable (.running session lastRx) (.transport (.datagram peer payload), env) := by
  rw [deliverable_datagram]
  unfold onDatagram
  split
  · next other => exact iff_of_true rfl fun same => absurd same other
  · next same =>
    cases decoded : decodeDatagram P d.obfuscation payload with
    | none =>
      refine iff_of_true rfl ?_
      intro _ packet _ _ _ found
      cases found
    | some packet =>
      simp only
      split
      · next handshake =>
        refine iff_of_true rfl ?_
        intro _ packet' _ _ _ found data
        cases found
        rw [handshake] at data
        simp at data
      · next protected' =>
        cases opened : session.openPacket packet env.clock.instant with
        | mk result next =>
          cases result with
          | error e =>
            refine iff_of_true rfl ?_
            intro _ packet' _ _ _ found _ opened'
            cases found
            rw [opened] at opened'
            cases opened'
          | ok plaintext =>
            refine (d.refusal_onOpened env next lastRx _ plaintext protected').trans ⟨?_, ?_⟩
            · intro takes _ packet' _ _ device found data opened' some target
              cases found
              rw [opened] at opened'
              cases opened'
              exact takes data some device target
            · intro deliverable data some device target
              exact deliverable (not_not.1 same) packet plaintext next device rfl data opened some
                target

lemma refusal_close : refusal (d.close env session).1 = none := by
  unfold close
  split
  · rfl
  · split
    · rfl
    · rfl

lemma refusal_keepAlive : refusal (d.keepAlive env session lastRx).1 = none := by
  unfold keepAlive
  split
  · rfl
  · split
    · rfl
    · rfl

lemma refusal_onEvent {event : PlaneEvent}
    (other : ∀ peer payload, event ≠ .transport (.datagram peer payload)) :
    refusal (d.onEvent env session lastRx event).1 = none := by
  unfold onEvent
  split
  · split
    · exact d.refusal_close env session
    · rfl
  · split
    · rfl
    · rfl
  · exact d.refusal_maybeRekey env session lastRx .nothing
  · exact d.refusal_keepAlive env session lastRx
  · split
    · rfl
    · split
      · rfl
      · exact d.refusal_maybeRekey env session lastRx _
  · split
    · rfl
    · split
      · rfl
      · exact d.refusal_maybeRekey env session lastRx _
  · next peer payload => exact absurd rfl (other peer payload)
  · rfl
  · rfl

end

lemma refusal_step (state : PlaneState P) (event : PlaneEvent × PlaneEnv)
    (before : refusal state = none) :
    refusal (d.step state event).1 = none ↔ d.Deliverable state event := by
  obtain ⟨event, env⟩ := event
  cases state with
  | returned result =>
    refine iff_of_true before ?_
    intro _ _ _ _ _ _ _ running
    cases running
  | rekeying session lastRx stage branch =>
    refine iff_of_true ?_ ?_
    · unfold step
      simp only
      split
      · exact d.refusal_proceed env session lastRx branch _
      · rfl
    · intro _ _ _ _ _ _ _ running
      cases running
  | running session lastRx =>
    by_cases datagram : ∃ peer payload, event = .transport (.datagram peer payload)
    · obtain ⟨peer, payload, rfl⟩ := datagram
      exact d.refusal_onDatagram env session lastRx peer payload
    · refine iff_of_true ?_ ?_
      · exact d.refusal_onEvent env session lastRx fun peer payload eq => datagram ⟨peer, payload, eq⟩
      · intro _ _ payload _ _ _ _ _ eq
        exact absurd ⟨d.server, payload, eq⟩ datagram

/-- The data plane never fails in `validate_packet` iff every plaintext suits its device. -/
theorem never_refused_iff (session : ProtectedSession P) (lastRx : Nat)
    (events : List (PlaneEvent × PlaneEnv)) :
    Always (fun state event => (d.step state event).1) (fun state => refusal state = none)
        (.running session lastRx) events ↔
      EachStep (fun state event => (d.step state event).1) d.Deliverable (.running session lastRx)
        events :=
  always_iff_eachStep (I := fun _ => True) trivial rfl (fun _ _ _ => trivial)
    fun state event _ before => d.refusal_step state event before

def tunClient : DataPlane where
  server := { ip := .v4 (Bytes.ofList 4 [192, 0, 2, 1]), port := 51820 }
  auth := .pinnedKey (Bytes.zero 32) (Bytes.zero 32)
  obfuscation := none
  tun := some ⟨1280, .tun, by decide⟩
  tap := none

def sharedSession : ProtectedSession transparent :=
  .new transparent SessionId.zero 0 (Channel.sampleKeys [7]) 0

/-- A broadcast ARP frame, as `route_frame` relays it. -/
def broadcastFrame : List UInt8 :=
  [255, 255, 255, 255, 255, 255, 2, 0, 0, 0, 0, 1, 8, 6, 0, 1, 8, 0, 6, 4, 0, 1, 2, 0, 0, 0, 0, 1,
    10, 42, 0, 2, 0, 0, 0, 0, 0, 0, 10, 42, 0, 3]

def calmMoment : PlaneEnv where
  clock := ⟨0, 0⟩
  wrap := none
  sends := true
  ephemeral := none
  random := none
  accepts := true
  writes := true

def relayed : PlaneEvent :=
  .transport (.datagram tunClient.server
    (((sharedSession.sealPacket .dataTap broadcastFrame).1.toOption.map Packet.encode).getD []))

/-- A relayed broadcast frame ends the data plane of a client without TAP. -/
theorem relayed_frame_ends_data_plane :
    ((sharedSession.sealPacket .dataTap broadcastFrame).1.toOption.bind fun packet =>
        (sharedSession.openPacket packet 0).1.toOption) = some broadcastFrame ∧
      refusal (tunClient.step (.running sharedSession 0) (relayed, calmMoment)).1 =
        some .invalidIpPacket := by
  decide +kernel

end DataPlane
end Rvpn.Client
