import Rvpn.Client.Tunnel
import Rvpn.Server.Phases
import Rvpn.System.Establishment

/-!
# Rekeying a tunnel

One client runs its data plane with a session of the server, on the network of `System.Network`, and
from time to time rekeys. Both ends switch to a new phase at different moments, and packets of the old
phase are still on their way then. Within the grace period the server still opens those of the phase
before its current one, because `finish_pending` hands the old phase on to the new session; the client
opens none of them.
-/

namespace Rvpn
open Client Config Crypto Primitives Protocol Server

variable (P : Primitives)

inductive End where
  | client
  | server
  deriving DecidableEq

def End.other : End → End
  | .client => .server
  | .server => .client

/-- The network, one client's data plane, and what both ends opened. -/
structure Tunnel where
  network : Network P
  plane : Option (PlaneState P)
  sealed : List (Sealed P)
  clientReceived : List Packet
  serverReceived : List Packet

namespace Tunnel

/-- A step of network or data plane, or the client enters the latter. -/
inductive Event where
  | network (event : Network.Event P)
  | enter (call : Nat) (now : Nat)
  | plane (event : PlaneEvent) (env : PlaneEnv)

variable {P}

def start (server : ServerLoop P) (issued : Bytes 32 → Bytes 32 → UInt64 → UInt64 → Prop) :
    Tunnel P where
  network := .start server issued
  plane := none
  sealed := []
  clientReceived := []
  serverReceived := []

def openedByServer (setup : Setup) (w : Network P) : Network.Event P → List Packet
  | .server event env => (w.server.opened setup (event, env)).toList
  | _ => []

def sealedIn (out : List (PlaneOutput P)) : List (Sealed P) :=
  out.filterMap fun
    | .sealed record => some record
    | _ => none

def openedIn (out : List (PlaneOutput P)) : List Packet :=
  out.filterMap fun
    | .opened packet => some packet
    | _ => none

def step (setup : Setup) (d : DataPlane) (w : Tunnel P) : Event P → Tunnel P
  | .network event =>
    { w with
      network := w.network.step setup event
      serverReceived := openedByServer setup w.network event ++ w.serverReceived }
  | .enter call now =>
    match w.plane, w.network.clients.lookup call with
    | none, some ⟨⟨_, _, _, none⟩, .established session acknowledgment⟩ =>
      { w with
        plane := some (.running session now)
        clientReceived := acknowledgment :: w.clientReceived }
    | _, _ => w
  | .plane event env =>
    match w.plane with
    | none => w
    | some state =>
      let (next, out) := d.step state (event, env)
      { w with
        network := { w.network with drawn := env.ephemeral.toList ++ w.network.drawn }
        plane := some next
        sealed := sealedIn out ++ w.sealed
        clientReceived := openedIn out ++ w.clientReceived }

/-- The network's assumptions, and no session id is drawn twice. -/
def Allowed (honest : Bytes 32 → Prop) (d : DataPlane) (w : Tunnel P) : Event P → Prop
  | .network event => w.network.Allowed honest event ∧ ∀ round env, event = .server round env →
        ∀ id, DrawnIn w.network.rounds id → ¬ env.Draws id
  | .enter _ _ => True
  | .plane event _ => w.network.Trusted honest d.auth.verifier ∧
      ∀ session lastRx stage branch peer payload packet,
        w.plane = some (.rekeying session lastRx stage branch) →
        event = .transport (.datagram peer payload) →
        decodeDatagram P d.obfuscation payload = some packet →
        w.network.IdealPacket honest stage packet

/-- The session that an end has under an id. -/
def session (w : Tunnel P) : End → SessionId → Option (ProtectedSession P)
  | .client, id => (w.plane.bind PlaneState.session).filter fun s => s.sessionId = id
  | .server, id => (w.network.server.active.lookup id).map ActivePeer.session

/-- The end sealed the packet, with that plaintext. -/
def SealedBy (w : Tunnel P) : End → Packet → List UInt8 → Prop
  | .client, packet, m => ∃ e ∈ w.sealed, e.packet = packet ∧ e.plaintext = m
  | .server, packet, m => ∃ table id, Output.sealed table id packet m ∈ w.network.outputs

def received (w : Tunnel P) : End → List Packet
  | .client => w.clientReceived
  | .server => w.serverReceived

/-- New, and less than a window behind the highest of its phase. -/
def Timely (w : Tunnel P) (receiver : End) (packet : Packet) : Prop :=
  packet.header.sequence.toNat ∉
      receivedIn (w.received receiver) packet.header.sessionId packet.header.keyPhase ∧
    ∀ n ∈ receivedIn (w.received receiver) packet.header.sessionId packet.header.keyPhase,
      n < packet.header.sequence.toNat + 2048

def Event.instant : Event P → Nat
  | .network (.server _ env) => env.clock.instant
  | .network (.establish _ _ _ _ _ env) => env.clock.instant
  | .network (.client _ _ env) => env.clock.instant
  | .enter _ now => now
  | .plane _ env => env.clock.instant

/-- The end switches its session from phase `p` to the next one. -/
def Switches (setup : Setup) (d : DataPlane) (w : Tunnel P) (e : Event P) (at' : End) (id : SessionId)
    (p : UInt32) : Prop :=
  ∃ old new, w.session at' id = some old ∧ old.keyPhase = p ∧
    (w.step setup d e).session at' id = some new ∧ new.keyPhase.toNat = p.toNat + 1

/-- The data plane's session has no previous phase and was acknowledged. -/
def Own (w : Network P) (s : ProtectedSession P) : Prop :=
  s.previous = none ∧ ∃ acknowledgment, w.Acknowledged s acknowledgment

def Rekeys (honest : Bytes 32 → Prop) (d : DataPlane) (w : Network P) (s : ProtectedSession P)
    (stage : Stage P) : Prop :=
  Network.StageSound honest w stage ∧ (d.call s).Renews stage

structure Sound (honest : Bytes 32 → Prop) (d : DataPlane) (w : Tunnel P) : Prop where
  network : w.network.Sound honest
  calls : ∀ id c, w.network.clients.lookup id = some c → c.call.Renews c.stage
  plane : ∀ state, w.plane = some state →
    DataPlane.Holds (Own w.network) (Rekeys honest d w.network) state
  sealed : ∀ e ∈ w.sealed, ∃ s s', Own w.network s ∧ e.key = s.keys.send ∧
    s.sealPacket e.kind e.plaintext = (.ok e.packet, s')
  known : w.network.server.Known (DrawnIn w.network.rounds)
  phases : ∃ past : SessionId → UInt32 → SessionKeys P → Prop,
    w.network.server.Phases past (DrawnIn w.network.rounds) w.serverReceived ∧
    ∀ table id packet m peer, Output.sealed table id packet m ∈ w.network.outputs →
      table.lookup id = some peer → past id peer.session.keyPhase peer.session.keys

section
variable {honest : Bytes 32 → Prop} {d : DataPlane} {setup : Setup} {w w' : Tunnel P}
  {n n' : Network P}

variable {s : ProtectedSession P} {id : SessionId} {p : UInt32} {e : Event P}

lemma acknowledged_extends (h : n.Extends n') {acknowledgment : Packet}
    (before : n.Acknowledged s acknowledgment) : n'.Acknowledged s acknowledgment := by
  obtain ⟨table, m, peer, sealed, rest⟩ := before
  exact ⟨table, m, peer, h.outputs _ sealed, rest⟩

lemma Own.extends (own : Own n s) (h : n.Extends n') : Own n' s := by
  obtain ⟨previous, acknowledgment, before⟩ := own
  exact ⟨previous, acknowledgment, acknowledged_extends h before⟩

/-- The acknowledgment is about the id, the phase and the keys. -/
lemma Own.continues {s s' : ProtectedSession P} (own : Own n s) (same : s.Continues s') : Own n s' := by
  obtain ⟨previous, acknowledgment, table, m, peer, sealed, kind, found, mirrors⟩ := own
  refine ⟨same.previous previous, acknowledgment, table, m, peer, ?_, kind, ?_, ?_⟩
  · rw [same.sessionId]
    exact sealed
  · rw [same.sessionId]
    exact found
  · refine ⟨?_, ?_, ?_, ?_⟩
    · rw [same.sessionId]
      exact mirrors.sessionId
    · rw [same.keyPhase]
      exact mirrors.keyPhase
    · rw [same.keys]
      exact mirrors.send
    · rw [same.keys]
      exact mirrors.receive

lemma Rekeys.extends {stage : Stage P} (h : n.Extends n') (rekeys : Rekeys honest d n s stage) :
    Rekeys honest d n' s stage :=
  ⟨rekeys.1.extends h, rekeys.2⟩

lemma holds_extends (h : n.Extends n') {state : PlaneState P}
    (holds : DataPlane.Holds (Own n) (Rekeys honest d n) state) :
    DataPlane.Holds (Own n') (Rekeys honest d n') state := by
  cases state with
  | running session lastRx => exact Own.extends holds h
  | rekeying session lastRx stage branch => exact ⟨holds.1.extends h, holds.2.extends h⟩
  | returned result => trivial

lemma renews_network (calls : ∀ id c, n.clients.lookup id = some c → c.call.Renews c.stage)
    (event : Network.Event P) (id : Nat) (c : ClientCall P)
    (found : (n.step setup event).clients.lookup id = some c) : c.call.Renews c.stage := by
  cases event with
  | server event env => exact calls id c found
  | establish call e auth ephemeral random env =>
    simp only [Network.step] at found
    split at found
    · exact calls id c found
    · simp only [HashMap.lookup_insert_eq] at found
      split at found
      · cases found
        exact Establish.renews_start auth ephemeral random env
      · exact calls id c found
  | client call event env =>
    simp only [Network.step, HashMap.lookup_modify] at found
    split at found
    · obtain ⟨c, before, rfl⟩ := Option.map_eq_some_iff.1 found
      exact Establish.renews_step (calls id c before) (event, env)
    · exact calls id c found

variable (setup) in
lemma phases_network (sound : w.Sound honest d) {event : Network.Event P}
    (allowed : w.Allowed honest d (.network event)) :
    (w.network.step setup event).server.Known (DrawnIn (w.network.step setup event).rounds) ∧
      ∃ past : SessionId → UInt32 → SessionKeys P → Prop,
        (w.network.step setup event).server.Phases past
          (DrawnIn (w.network.step setup event).rounds)
          (openedByServer setup w.network event ++ w.serverReceived) ∧
        ∀ table id packet m peer,
          Output.sealed table id packet m ∈ (w.network.step setup event).outputs →
          table.lookup id = some peer → past id peer.session.keyPhase peer.session.keys := by
  cases event with
  | server event env =>
    have fresh := allowed.2 event env rfl
    obtain ⟨past, phases, before⟩ := sound.phases
    obtain ⟨past', longer, phases', now⟩ := phases.step setup (event, env) sound.known fresh
    have draws : ∀ id, DrawnIn w.network.rounds id ∨ env.Draws id →
        DrawnIn ((event, env) :: w.network.rounds) id := by
      intro id drawn
      rcases drawn with ⟨round, mem, drawn⟩ | drawn
      · exact ⟨round, List.mem_cons_of_mem _ mem, drawn⟩
      · exact ⟨_, List.mem_cons_self, drawn⟩
    refine ⟨(sound.known.step fresh).mono draws, past', ?_, ?_⟩
    · exact ⟨phases'.unique, fun id keyPhase keys past => draws id (phases'.used id keyPhase keys past),
        phases'.logged, phases'.active, phases'.pending⟩
    · intro table id packet m peer mem found
      rcases List.mem_append.1 mem with mem | mem
      · exact now table id packet m peer mem found
      · exact longer _ _ _ (before table id packet m peer mem found)
  | establish call e auth ephemeral random env =>
    simp only [Network.step]
    split
    · exact ⟨sound.known, sound.phases⟩
    · exact ⟨sound.known, sound.phases⟩
  | client call event env => exact ⟨sound.known, sound.phases⟩

lemma Sound.network_step (ideal : P.Ideal) (sound : w.Sound honest d) {event : Network.Event P}
    (allowed : w.Allowed honest d (.network event)) :
    (w.step setup d (.network event)).Sound honest d := by
  have grows := Network.extends_step setup w.network event
  obtain ⟨known, phases⟩ := phases_network setup sound allowed
  refine ⟨sound.network.step ideal setup allowed.1, ?_, ?_, ?_, known, phases⟩
  · exact renews_network sound.calls event
  · exact fun state found => holds_extends grows (sound.plane state found)
  · intro e mem
    obtain ⟨s, s', own, rest⟩ := sound.sealed e mem
    exact ⟨s, s', own.extends grows, rest⟩

lemma Sound.enter (sound : w.Sound honest d) (call now : Nat) :
    (w.step setup d (.enter call now)).Sound honest d := by
  simp only [step]
  split
  · next absent found =>
    refine ⟨sound.network, sound.calls, ?_, sound.sealed, sound.known, sound.phases⟩
    intro state eq
    cases eq
    have acknowledged := sound.network.clients call _ found
    have follows := sound.calls call _ found
    exact ⟨follows.1, _, acknowledged⟩
  · exact sound

lemma extends_drawn (n : Network P) (secrets : List (Bytes 32)) :
    n.Extends { n with drawn := secrets ++ n.drawn } :=
  ⟨fun _ mem => mem, fun _ mem => mem, fun _ mem => List.mem_append_right _ mem, rfl⟩

lemma sealed_of_mem_sealedIn {out : List (PlaneOutput P)} {record : Sealed P}
    (mem : record ∈ sealedIn out) : .sealed record ∈ out := by
  obtain ⟨o, there, eq⟩ := List.mem_filterMap.1 mem
  cases o with
  | sealed other =>
    cases eq
    exact there
  | _ => cases eq

lemma Sound.plane_kept (ideal : P.Ideal) (sound : w.Sound honest d) {event : PlaneEvent}
    {env : PlaneEnv} (allowed : w.Allowed honest d (.plane event env)) {state : PlaneState P}
    (found : w.plane = some state) (grows : w.network.Extends n)
    (drawn : ∀ secret, env.ephemeral = some secret → secret ∈ n.drawn) :
    DataPlane.Kept (Own n) (Rekeys honest d n) (d.step state (event, env)) := by
  obtain ⟨trusted, assumed⟩ := allowed
  have before : DataPlane.Holds (Own n) (Rekeys honest d w.network) state := by
    have holds := sound.plane state found
    cases state with
    | running session lastRx => exact Own.extends holds grows
    | rekeying session lastRx stage branch => exact ⟨holds.1.extends grows, holds.2⟩
    | returned result => trivial
  refine d.step_keeps (fun s s' own same => own.continues same) before
    (fun s stage rekeys => rekeys.extends grows) ?_ ?_ ?_
  · intro s own
    exact ⟨Network.started_sound _ _ _ _ _ drawn (grows.trusted trusted),
      Establish.renews_start _ _ _ _⟩
  · intro s lastRx stage branch e eq transport own rekeys
    refine ⟨Network.StageSound.extends grows ?_, Establish.renews_step rekeys.2 _⟩
    refine rekeys.1.step ideal sound.network (e, env.toEnv) ?_
    intro peer payload packet datagram decoded
    cases datagram
    cases transport
    rw [eq] at found
    exact assumed s lastRx stage branch peer payload packet found rfl decoded
  · intro s new acknowledgment rekeys
    exact ⟨rekeys.2.1, acknowledgment, rekeys.1⟩

lemma sound_drawn (sound : n.Sound honest) (secrets : List (Bytes 32)) :
    Network.Sound honest { n with drawn := secrets ++ n.drawn } :=
  ⟨fun id c found => (sound.clients id c found).extends (extends_drawn n secrets), sound.active,
    sound.outputs⟩

lemma Sound.plane_step (ideal : P.Ideal) (sound : w.Sound honest d) {event : PlaneEvent}
    {env : PlaneEnv} (allowed : w.Allowed honest d (.plane event env)) :
    (w.step setup d (.plane event env)).Sound honest d := by
  simp only [step]
  split
  · exact sound
  · next state found =>
    have grows := extends_drawn w.network env.ephemeral.toList
    have kept := sound.plane_kept ideal allowed found grows fun secret eq =>
      List.mem_append_left _ (Option.mem_toList.2 eq)
    refine ⟨sound_drawn sound.network _, sound.calls, ?_, ?_, sound.known, sound.phases⟩
    · intro next eq
      cases eq
      exact kept.state
    · intro e mem
      rcases List.mem_append.1 mem with mem | mem
      · obtain ⟨s, s', own, key, sealing⟩ := kept.sealed e (sealed_of_mem_sealedIn mem)
        exact ⟨s, s', own, key, sealing⟩
      · obtain ⟨s, s', own, rest⟩ := sound.sealed e mem
        exact ⟨s, s', own.extends grows, rest⟩

lemma Sound.step (ideal : P.Ideal) {e : Event P} (sound : w.Sound honest d)
    (allowed : w.Allowed honest d e) : (w.step setup d e).Sound honest d := by
  cases e with
  | network event => exact sound.network_step ideal allowed
  | enter call now => exact sound.enter call now
  | plane event env => exact sound.plane_step ideal allowed

/-- The server switched from phase `p`, and the id was drawn before. -/
def ServerSwitched (w : Tunnel P) (id : SessionId) (p expires : Nat) : Prop :=
  w.network.server.Switched id p expires ∧ DrawnIn w.network.rounds id

/-- The client switched from phase `p` and has later phases only. -/
def ClientSwitched (d : DataPlane) (w : Tunnel P) (p : Nat) : Prop :=
  ∀ state, w.plane = some state →
    DataPlane.Holds (fun s => s.previous = none ∧ p + 1 ≤ s.keyPhase.toNat)
      (fun s stage => (s.previous = none ∧ p + 1 ≤ s.keyPhase.toNat) ∧ (d.call s).Renews stage) state

lemma round_or_same (w : Tunnel P) (e : Event P) : (∃ event env, e = .network (.server event env)) ∨
      (w.step setup d e).network.server = w.network.server ∧
        (w.step setup d e).network.rounds = w.network.rounds := by
  cases e with
  | network event =>
    cases event with
    | server event env => exact .inl ⟨event, env, rfl⟩
    | establish call e auth ephemeral random env =>
      simp only [step, Network.step]
      split
      · exact .inr ⟨rfl, rfl⟩
      · exact .inr ⟨rfl, rfl⟩
    | client call event env => exact .inr ⟨rfl, rfl⟩
  | enter call now =>
    simp only [step]
    split
    · exact .inr ⟨rfl, rfl⟩
    · exact .inr ⟨rfl, rfl⟩
  | plane event env =>
    simp only [step]
    split
    · exact .inr ⟨rfl, rfl⟩
    · exact .inr ⟨rfl, rfl⟩

lemma serverSwitched_of_switches (grace : setup.rekeyGracePeriod ≠ 0) (sound : w.Sound honest d)
    (switches : Switches setup d w e .server id p) :
    (w.step setup d e).ServerSwitched id p.toNat (e.instant + setup.rekeyGracePeriod) := by
  obtain ⟨old, new, before, phase, after, phase'⟩ := switches
  rcases w.round_or_same e with ⟨event, env, rfl⟩ | ⟨same, _⟩
  · obtain ⟨peer, found, rfl⟩ := Option.map_eq_some_iff.1 before
    obtain ⟨peer', found', rfl⟩ := Option.map_eq_some_iff.1 after
    subst phase
    refine ⟨ServerLoop.switched_of_step sound.known grace found rfl found' phase', ?_⟩
    obtain ⟨round, mem, drawn⟩ := (sound.known.active id peer found).2
    exact ⟨round, List.mem_cons_of_mem _ mem, drawn⟩
  · -- the session would be the old one, which is in the old phase
    simp only [session] at before after
    rw [same, before] at after
    cases after
    rw [phase] at phase'
    omega

lemma ServerSwitched.step (sound : w.Sound honest d) {e : Event P} (allowed : w.Allowed honest d e)
    {id : SessionId} {p expires : Nat} (h : w.ServerSwitched id p expires) :
    (w.step setup d e).ServerSwitched id p expires := by
  rcases w.round_or_same e with ⟨event, env, rfl⟩ | ⟨same, sameRounds⟩
  · obtain ⟨switched, drawn⟩ := h
    refine ⟨switched.step sound.known (allowed.2 event env rfl id drawn), ?_⟩
    obtain ⟨round, mem, draws⟩ := drawn
    exact ⟨round, List.mem_cons_of_mem _ mem, draws⟩
  · rw [ServerSwitched, same, sameRounds]
    exact h

lemma clientSwitched_of_switches (sound : (w.step setup d e).Sound honest d)
    (switches : Switches setup d w e .client id p) :
    (w.step setup d e).ClientSwitched d p.toNat := by
  obtain ⟨_, new, _, _, after, phase⟩ := switches
  intro state found
  obtain ⟨is, _⟩ := Option.filter_eq_some_iff.1 after
  rw [found, Option.bind_some] at is
  have holds := sound.plane state found
  cases state with
  | running session lastRx =>
    cases is
    exact ⟨holds.1, Nat.le_of_eq phase.symm⟩
  | rekeying session lastRx stage branch =>
    cases is
    have later : new.previous = none ∧ p.toNat + 1 ≤ new.keyPhase.toNat :=
      ⟨holds.1.1, Nat.le_of_eq phase.symm⟩
    exact ⟨later, later, holds.2.2⟩
  | returned result => trivial

lemma ClientSwitched.step {e : Event P} {p : Nat} (h : w.ClientSwitched d p) (entered : w.plane.isSome) :
    (w.step setup d e).ClientSwitched d p := by
  cases e with
  | network event => exact h
  | enter call now =>
    simp only [Tunnel.step]
    split
    · next absent _ =>
      rw [absent] at entered
      cases entered
    · exact h
  | plane event env =>
    simp only [Tunnel.step]
    split
    · exact h
    · next state found =>
      intro next eq
      cases eq
      refine (d.step_keeps ?_ (h state found) (fun _ _ holds => holds) ?_ ?_ ?_).state
      · intro s s' later same
        rw [same.keyPhase]
        exact ⟨same.previous later.1, later.2⟩
      · intro s later
        exact ⟨later, Establish.renews_start _ _ _ _⟩
      · intro s lastRx stage branch e _ _ later holds
        exact ⟨later, Establish.renews_step holds.2 _⟩
      · intro s new acknowledgment holds
        obtain ⟨⟨_, later⟩, previous, follows⟩ := holds
        have := (follows s rfl).2
        exact ⟨previous, by omega⟩

lemma Switches.entered (switches : Switches setup d w e .client id p) :
    (w.step setup d e).plane.isSome := by
  obtain ⟨_, _, _, _, after, _⟩ := switches
  obtain ⟨is, _⟩ := Option.filter_eq_some_iff.1 after
  obtain ⟨state, found, _⟩ := Option.bind_eq_some_iff.1 is
  rw [found]
  rfl

lemma stays_entered (entered : w.plane.isSome) : (w.step setup d e).plane.isSome := by
  cases e with
  | network event => exact entered
  | enter call now =>
    simp only [Tunnel.step]
    split
    · rfl
    · exact entered
  | plane event env =>
    simp only [Tunnel.step]
    split
    · exact entered
    · rfl

/-- After its switch the client opens no packet of the old phase. -/
lemma client_refuses (switched : w.ClientSwitched d p.toNat) {session : ProtectedSession P}
    (current : w.session .client id = some session) {packet : Packet}
    (phase : packet.header.keyPhase = p) (now : Nat) (m : List UInt8) :
    (session.openPacket packet now).1 ≠ .ok m := by
  obtain ⟨is, _⟩ := Option.filter_eq_some_iff.1 current
  obtain ⟨state, found, is⟩ := Option.bind_eq_some_iff.1 is
  have holds := switched state found
  have later : session.previous = none ∧ p.toNat + 1 ≤ session.keyPhase.toNat := by
    cases state with
    | running s lastRx =>
      cases is
      exact holds
    | rekeying s lastRx stage branch =>
      cases is
      exact holds.1
    | returned result => cases is
  apply ProtectedSession.openPacket_of_other_phase
  · intro same
    rw [phase] at same
    rw [← same] at later
    omega
  · intro prev found
    rw [later.1] at found
    cases found

/-- The server's keys open what the client sealed in the phase. -/
lemma sealed_decrypts (correct : P.Correct) (sound : w.Sound honest d)
    {past : SessionId → UInt32 → SessionKeys P → Prop} {received : List Packet}
    (phases : w.network.server.Phases past (DrawnIn w.network.rounds) received)
    (acknowledged : ∀ table id packet m peer, Output.sealed table id packet m ∈ w.network.outputs →
      table.lookup id = some peer → past id peer.session.keyPhase peer.session.keys)
    {packet : Packet} {m : List UInt8} (sealed : w.SealedBy .client packet m) {keys : SessionKeys P}
    (before : past packet.header.sessionId packet.header.keyPhase keys) :
    packet.header.kind ≠ .handshake ∧
      P.aeadOpen keys.receive (packetNonce packet.header.keyPhase packet.header.sequence)
        packet.header.encode packet.payload = some m := by
  obtain ⟨e, mem, rfl, rfl⟩ := sealed
  obtain ⟨s, s', ⟨_, _, table, _, mirror, output, _, entry, mirrors⟩, key, sealing⟩ :=
    sound.sealed e mem
  obtain ⟨kind, _, header, seals, _⟩ := ProtectedSession.sealPacket_ok sealing
  have own := acknowledged table _ _ _ mirror output entry
  rw [mirrors.keyPhase] at own
  rw [header] at before
  rw [phases.unique _ _ _ _ before own, mirrors.receive]
  rw [header] at seals ⊢
  exact ⟨kind, correct.open_seal seals⟩

/-- After its switch the server opens timely packets until the next one. -/
lemma server_accepts_iff (correct : P.Correct) (sound : w.Sound honest d) {expires : Nat}
    (switched : w.ServerSwitched id p.toNat expires) {session : ProtectedSession P}
    (current : w.session .server id = some session) {packet : Packet} {m : List UInt8}
    (sealed : w.SealedBy .client packet m) (sameId : packet.header.sessionId = id)
    (phase : packet.header.keyPhase = p) {now : Nat} (inTime : now ≤ expires)
    (timely : w.Timely .server packet) :
    (session.openPacket packet now).1 = .ok m ↔ session.keyPhase.toNat = p.toNat + 1 := by
  obtain ⟨peer, found, rfl⟩ := Option.map_eq_some_iff.1 current
  obtain ⟨past, phases, acknowledged⟩ := sound.phases
  have inPhase := phases.active id peer found
  subst sameId
  rcases switched.1.active peer found with ⟨next, prev, hasPrev, prevPhase, expiresAt⟩ | later
  · refine ⟨fun _ => next, fun _ => ?_⟩
    have samePhase : prev.keyPhase = packet.header.keyPhase := by
      rw [phase]
      exact UInt32.toNat_inj.1 prevPhase
    obtain ⟨_, before, window⟩ := inPhase.previous prev hasPrev
    rw [samePhase] at before window
    obtain ⟨kind, decrypts⟩ := sealed_decrypts correct sound phases acknowledged sealed before
    obtain ⟨w', opened⟩ :=
      ProtectedSession.openPhase_of_represents window decrypts timely.1 timely.2
    refine ProtectedSession.openPacket_of_previous kind ?_ ?_ hasPrev samePhase ?_ opened
    · rw [(sound.known.active _ peer found).1]
    · intro same
      rw [phase] at same
      rw [← same] at next
      omega
    · rw [expiresAt]
      exact inTime
  · refine ⟨fun ok => ?_, fun now => ?_⟩
    · refine absurd ok (ProtectedSession.openPacket_of_other_phase ?_ ?_ now m)
      · intro same
        rw [phase] at same
        rw [← same] at later
        omega
      · intro prev hasPrev same
        have next := (inPhase.previous prev hasPrev).1
        rw [same, phase] at next
        omega
    · omega

end

lemma sound_start {honest : Bytes 32 → Prop} {d : DataPlane} (config : ServerConfig)
    (identities : List PeerIdentity) (certificateAuthority : Option CertificateAuthorityConfig)
    (issued : Bytes 32 → Bytes 32 → UInt64 → UInt64 → Prop) :
    (start (ServerLoop.start P config identities certificateAuthority) issued).Sound honest d := by
  refine ⟨Network.sound_start config identities certificateAuthority issued, ?_, ?_, ?_, ⟨?_, ?_⟩,
    fun _ _ _ => False, ⟨?_, ?_, ?_, ?_, ?_⟩, ?_⟩
  · intro id c found
    cases found
  · intro state found
    cases found
  · intro e mem
    cases mem
  · intro id peer found
    cases found
  · intro id state found
    cases found
  · intro id keyPhase keys keys' past
    exact past.elim
  · intro id keyPhase keys past
    exact past.elim
  · intro packet mem
    cases mem
  · intro id peer found
    cases found
  · intro id state found
    cases found
  · intro table id packet m peer mem
    cases mem

/-- Let an end switch its session from phase `p`, and let a packet that the other end sealed in phase `p` reach
it within the grace period, not replayed and within the replay window. It is opened exactly if the receiving
end is the server and has not switched again. -/
theorem rekey_accepts_iff (ideal : P.Ideal) (correct : P.Correct) (honest : Bytes 32 → Prop)
    (setup : Setup) (d : DataPlane) (config : ServerConfig) (identities : List PeerIdentity)
    (certificateAuthority : Option CertificateAuthorityConfig)
    (issued : Bytes 32 → Bytes 32 → UInt64 → UInt64 → Prop) (w₀ w : Tunnel P)
    (initial : w₀ = start (ServerLoop.start P config identities certificateAuthority) issued)
    (g : UInt64) (positive : 0 < g) (_clientGrace : d.rekey.gracePeriodSecs = g)
    (serverGrace : config.rekey.gracePeriodSecs = g)
    (fixed : setup.rekeyGracePeriod = config.rekey.gracePeriod)
    (before later : List (Event P)) (e : Event P)
    (allowed : EachStep (step setup d) (Allowed honest d) w₀ (before ++ e :: later))
    (reached : w = run (step setup d) w₀ (before ++ e :: later))
    (receiver : End) (id : SessionId) (p : UInt32)
    (switches : Switches setup d (run (step setup d) w₀ before) e receiver id p)
    (session : ProtectedSession P) (current : w.session receiver id = some session)
    (packet : Packet) (m : List UInt8) (sealed : w.SealedBy receiver.other packet m)
    (sameId : packet.header.sessionId = id) (phase : packet.header.keyPhase = p)
    (now : Nat) (inTime : now ≤ e.instant + fromSecs g.toNat) (timely : w.Timely receiver packet) :
    (session.openPacket packet now).1 = .ok m ↔
      receiver = .server ∧ session.keyPhase.toNat = p.toNat + 1 := by
  have grace : setup.rekeyGracePeriod = fromSecs g.toNat := by
    rw [fixed, RekeyConfig.gracePeriod, serverGrace]
  have some : setup.rekeyGracePeriod ≠ 0 := by
    have lt : 0 < g.toNat := UInt64.lt_iff_toNat_lt.1 positive
    rw [grace, fromSecs]
    omega
  have startSound : w₀.Sound honest d := by
    rw [initial]
    exact sound_start config identities certificateAuthority issued
  obtain ⟨allowedBefore, allowedRest⟩ := eachStep_append.1 allowed
  obtain ⟨allowedSwitch, allowedLater⟩ := eachStep_cons.1 allowedRest
  have soundBefore : (run (step setup d) w₀ before).Sound honest d :=
    run_invariant startSound (fun w e sound allowed => sound.step ideal allowed) allowedBefore
  have soundSwitch : (Tunnel.step setup d (run (step setup d) w₀ before) e).Sound honest d :=
    soundBefore.step ideal allowedSwitch
  rw [run_append, run_cons] at reached
  cases receiver with
  | client =>
    have switched : w.ClientSwitched d p.toNat ∧ w.plane.isSome := by
      have first := clientSwitched_of_switches soundSwitch switches
      have entered := switches.entered
      rw [reached]
      refine run_invariant (I := fun w => w.ClientSwitched d p.toNat ∧ w.plane.isSome)
        ⟨first, entered⟩ ?_ allowedLater
      intro w e inv _
      exact ⟨inv.1.step inv.2, stays_entered inv.2⟩
    refine ⟨fun ok => absurd ok (client_refuses switched.1 current phase now m), ?_⟩
    intro server
    cases server.1
  | server =>
    have switched : w.Sound honest d ∧
        w.ServerSwitched id p.toNat (e.instant + setup.rekeyGracePeriod) := by
      have first := serverSwitched_of_switches some soundBefore switches
      rw [reached]
      refine run_invariant (I := fun w => w.Sound honest d ∧
        w.ServerSwitched id p.toNat (e.instant + setup.rekeyGracePeriod)) ⟨soundSwitch, first⟩ ?_
        allowedLater
      intro w e inv allowed
      exact ⟨inv.1.step ideal allowed, inv.2.step inv.1 allowed⟩
    rw [← grace] at inTime
    refine (server_accepts_iff correct switched.1 switched.2 current sealed sameId phase inTime
      timely).trans ?_
    exact ⟨fun next => ⟨rfl, next⟩, fun both => both.2⟩

/-!
A run with one rekey: a client enters the data plane, each end seals a packet in phase 0, and the
rekey replaces the keys before these packets arrive.
-/

section Rekeyed
open Network

def laptop : PeerIdentity :=
  { sampleIdentity with allowedIps := [hostNet 2] }

def laptopServer : ServerConfig where
  bind := sampleServer

def laptopSetup : Setup :=
  { deviceSetup (none, none) with
    rekeyGracePeriod := laptopServer.rekey.gracePeriod
    rekeyPacketLimit := laptopServer.rekey.packetLimit
    rekeyTimeLimit := laptopServer.rekey.timeLimit }

def laptopPlane : DataPlane where
  server := sampleServer
  auth := .pinnedKey (keyOf 1) (keyOf 8)
  obfuscation := none
  tun := DataPlane.tunClient.tun
  tap := none

def sessionNine : SessionId :=
  ⟨Bytes.ofList 16 [9]⟩

def ipv4Between (source destination : UInt8) : List UInt8 :=
  [0x45, 0, 0, 20, 0, 0, 0, 0, 64, 17, 0x66, 0xD7, 10, 0, 0, source, 10, 0, 0, destination]

def planeMoment (seconds : Nat) (ephemeral random : Option (Bytes 32)) : PlaneEnv where
  clock := ⟨seconds, fromSecs seconds⟩
  wrap := none
  sends := true
  ephemeral := ephemeral
  random := random
  accepts := true
  writes := true

def serverRound (seconds : Nat) (draw : HandshakeDraw) : Server.Env :=
  { sampleEnv with clock := ⟨seconds, fromSecs seconds⟩, draw := fun _ => draw }

def rekeyWire (w : Tunnel transparent) : List UInt8 :=
  match w.plane with
  | some (.rekeying session _ (.response _ handshake) _) =>
    ((laptopPlane.call session).initiationPacket handshake).encode
  | some (.rekeying _ _ (.acknowledgment _ finish _) _) => finish.encode
  | _ => []

/-- The initial handshake (0 to 6), two packets (8, 9), and the rekey. -/
def nextEvent (n : Nat) (w : Tunnel transparent) : Event transparent :=
  match n with
  | 0 =>
    .network (.establish 0 sampleCall laptopPlane.auth (some (keyOf 3)) (some (keyOf 4)) sampleMoment)
  | 1 | 5 =>
    .network (.server (.datagram clientEndpoint (clientWire w.network))
      (serverRound 0 ⟨none, none, none⟩))
  | 3 =>
    .network (.server (.datagram clientEndpoint (clientWire w.network))
      (serverRound 0 ⟨some sessionNine.bytes, some (keyOf 10), some (keyOf 11)⟩))
  | 2 | 4 | 6 => .network (.client 0 (.datagram sampleServer (serverWire w.network)) sampleMoment)
  | 7 => .enter 0 0
  | 8 => .network (.server (.tunPacket (ipv4Between 1 2)) (serverRound 0 ⟨none, none, none⟩))
  | 9 => .plane (.tunPacket (some (ipv4Between 2 1))) (planeMoment 0 none none)
  | 10 => .plane .rekeyCheck (planeMoment 120 (some (keyOf 13)) (some (keyOf 14)))
  | 11 =>
    .network (.server (.datagram clientEndpoint (rekeyWire w))
      (serverRound 120 ⟨none, some (keyOf 15), some (keyOf 16)⟩))
  | 13 =>
    .network (.server (.datagram clientEndpoint (rekeyWire w)) (serverRound 120 ⟨none, none, none⟩))
  | _ =>
    .plane (.transport (.datagram sampleServer (serverWire w.network))) (planeMoment 120 none none)

def rekeyed : Nat → Tunnel transparent
  | 0 => start (ServerLoop.start transparent laptopServer [laptop] none) fun _ _ _ _ => False
  | n + 1 => (rekeyed n).step laptopSetup laptopPlane (nextEvent n (rekeyed n))

def rekeyedEvents (n : Nat) : List (Event transparent) :=
  (List.range n).map fun k => nextEvent k (rekeyed k)

def rekeyHandshake : InitiatorHandshake where
  identity := .pinnedKey (keyOf 1)
  verifier := .pinnedKey (keyOf 8)
  keyPair := ⟨keyOf 13⟩
  initiation := .initiation (keyOf 13) (keyOf 14) none (HandshakeMessage.computeMac1 transparent
    (AuthVerifier.mac1Key transparent (.pinnedKey (keyOf 8))) (keyOf 13) (keyOf 14) none)

def waitingCall (w : Tunnel transparent) : Option (ClientCall transparent) :=
  match w.plane with
  | some (.rekeying session _ stage _) => some ⟨laptopPlane.call session, stage⟩
  | _ => w.network.clients.lookup 0

def arrival (n : Nat) : Option (ClientCall transparent × Packet) :=
  (waitingCall (rekeyed n)).bind fun c =>
    (decodeDatagram transparent c.call.obfuscation (serverWire (rekeyed n).network)).map (c, ·)

lemma ideal_cookieReply (honest : Bytes 32 → Prop) (c : ClientCall transparent) (packet : Packet)
    (arrives : arrival 2 = some (c, packet)) :
    (rekeyed 2).network.IdealPacket honest c.stage packet := by
  have view : (arrival 2).map (fun x => ((waitingHandshake x.1).isSome,
      (HandshakeMessage.decode x.2.payload).toOption.map HandshakeMessage.isResponse)) =
        some (true, some false) := by decide +kernel
  rw [arrives] at view
  obtain ⟨waits, reply⟩ := Prod.mk.inj (Option.some.inj view)
  exact idealPacket_of_reply waits reply

variable {n : Nat}

lemma ideal_response (honest : Bytes 32 → Prop) (handshake : InitiatorHandshake) (keyPhase : UInt32)
    {secret random : Bytes 32} (view : (arrival n).map (fun x => (waitingHandshake x.1,
      (HandshakeMessage.decode x.2.payload).toOption)) =
        some (some handshake, (ResponderHandshake.acceptForSession transparent (.pinnedKey (keyOf 8))
          (.pinnedKey (keyOf 1)) handshake.initiation sessionNine keyPhase (some secret)
          (some random)).toOption.map Prod.snd))
    (shape : ∃ random cookie mac1, handshake.initiation =
      .initiation (transparent.dhPublic handshake.keyPair.secret) random cookie mac1)
    (drawn : ∃ round ∈ (rekeyed n).network.rounds, ∃ k, (round.2.draw k).ephemeral = some secret ∧
      (round.2.draw k).random = some random) (c : ClientCall transparent) (packet : Packet)
    (arrives : arrival n = some (c, packet)) :
    (rekeyed n).network.IdealPacket honest c.stage packet := by
  rw [arrives] at view
  obtain ⟨waits, reply⟩ := Prod.mk.inj (Option.some.inj view)
  exact idealPacket_of_exchange waits shape reply drawn

lemma ideal_acknowledgment (honest : Bytes 32 → Prop)
    (view : ((arrival n).bind fun x => receiveKey x.1).isSome = true ∧
      ((rekeyed n).network.outputs[1]?).bind sealRecord = (arrival n).bind fun x =>
        (receiveKey x.1).map fun key => (x.2, [], some (key, some x.2)))
    (c : ClientCall transparent) (packet : Packet) (arrives : arrival n = some (c, packet)) :
    (rekeyed n).network.IdealPacket honest c.stage packet := by
  rw [arrives, Option.bind_some, Option.bind_some] at view
  obtain ⟨waiting, sealed⟩ := view
  obtain ⟨key, waits⟩ := Option.isSome_iff_exists.1 waiting
  rw [waits, Option.map_some] at sealed
  obtain ⟨o, there, record⟩ := Option.bind_eq_some_iff.1 sealed
  exact idealPacket_of_record waits (List.mem_of_getElem? there) record

lemma allowed_client {honest : Bytes 32 → Prop} (outside : (rekeyed n).plane = none)
    (ideal : ∀ c packet, arrival n = some (c, packet) →
      (rekeyed n).network.IdealPacket honest c.stage packet) :
    (rekeyed n).Allowed honest laptopPlane
      (.network (.client 0 (.datagram sampleServer (serverWire (rekeyed n).network)) sampleMoment)) := by
  refine ⟨?_, fun _ _ eq => nomatch eq⟩
  intro c peer payload packet found datagram decoded
  cases datagram
  apply ideal
  rw [arrival, waitingCall, outside, found, Option.bind_some, decoded]
  rfl

lemma allowed_plane (ideal : ∀ c packet, arrival n = some (c, packet) →
      (rekeyed n).network.IdealPacket (· = keyOf 8) c.stage packet) :
    (rekeyed n).Allowed (· = keyOf 8) laptopPlane
      (.plane (.transport (.datagram sampleServer (serverWire (rekeyed n).network)))
        (planeMoment 120 none none)) := by
  refine ⟨(rfl : keyOf 8 = keyOf 8), ?_⟩
  intro session lastRx stage branch peer payload packet found transport decoded
  cases transport
  apply ideal ⟨laptopPlane.call session, stage⟩
  rw [arrival, waitingCall, found, Option.bind_some]
  exact congrArg (Option.map _) decoded

lemma allowed_round {honest : Bytes 32 → Prop} {w : Tunnel transparent} (event : Server.Event)
    (seconds : Nat) (ephemeral random : Option (Bytes 32)) : w.Allowed honest laptopPlane
      (.network (.server event (serverRound seconds ⟨none, ephemeral, random⟩))) := by
  refine ⟨trivial, ?_⟩
  intro event env eq id _ draws
  cases eq
  obtain ⟨_, drawn⟩ := draws
  cases drawn

/-- The first round drew no id, so the second may draw any. -/
lemma allowed_draw (honest : Bytes 32 → Prop) :
    (rekeyed 3).Allowed honest laptopPlane (nextEvent 3 (rekeyed 3)) := by
  refine ⟨trivial, ?_⟩
  intro event env eq id drawn _
  obtain ⟨round, mem, _, draws⟩ := drawn
  cases List.mem_singleton.1 mem
  cases draws

lemma allowed_rekeyed : ∀ k < 15,
    (rekeyed k).Allowed (· = keyOf 8) laptopPlane (nextEvent k (rekeyed k)) := by
  intro k lt
  have quiet : ∀ w : Tunnel transparent, ∀ event env, (∀ e, event ≠ .transport e) →
      w.Allowed (· = keyOf 8) laptopPlane (.plane event env) := by
    intro w event env other
    refine ⟨(rfl : keyOf 8 = keyOf 8), ?_⟩
    intro _ _ _ _ _ _ _ _ transport
    exact absurd transport (other _)
  match k, lt with
  | 0, _ => exact ⟨(rfl : keyOf 8 = keyOf 8), fun _ _ eq => nomatch eq⟩
  | 1, _ => exact allowed_round _ _ _ _
  | 2, _ => exact allowed_client rfl (ideal_cookieReply _)
  | 3, _ => exact allowed_draw _
  | 4, _ =>
    apply allowed_client rfl
    exact ideal_response _ sampleHandshake 0 (by decide +kernel) ⟨keyOf 4, _, _, rfl⟩
      ⟨_, List.mem_cons_self, 0, rfl, rfl⟩
  | 5, _ => exact allowed_round _ _ _ _
  | 6, _ => exact allowed_client rfl (ideal_acknowledgment _ (by decide +kernel))
  | 7, _ => trivial
  | 8, _ => exact allowed_round _ _ _ _
  | 9, _ => exact quiet _ _ _ fun _ eq => nomatch eq
  | 10, _ => exact quiet _ _ _ fun _ eq => nomatch eq
  | 11, _ => exact allowed_round _ _ _ _
  | 12, _ =>
    apply allowed_plane
    exact ideal_response _ rekeyHandshake 1 (by decide +kernel) ⟨keyOf 14, _, _, rfl⟩
      ⟨_, List.mem_cons_self, 0, rfl, rfl⟩
  | 13, _ => exact allowed_round _ _ _ _
  | 14, _ => exact allowed_plane (ideal_acknowledgment _ (by decide +kernel))

lemma rekeyedEvents_succ (n : Nat) :
    rekeyedEvents (n + 1) = rekeyedEvents n ++ [nextEvent n (rekeyed n)] := by
  rw [rekeyedEvents, List.range_succ, List.map_append]
  rfl

lemma run_rekeyed (n : Nat) :
    run (step laptopSetup laptopPlane) (rekeyed 0) (rekeyedEvents n) = rekeyed n :=
  run_range (fun _ => rfl) n

lemma eachStep_rekeyed (le : n ≤ 15) :
    EachStep (step laptopSetup laptopPlane) (Allowed (· = keyOf 8) laptopPlane) (rekeyed 0)
      (rekeyedEvents n) :=
  eachStep_range (fun _ => rfl) fun k lt => allowed_rekeyed k (Nat.lt_of_lt_of_le lt le)

lemma sealedBy_of_record {w : Tunnel transparent} {o : Output transparent} {packet : Packet}
    {m : List UInt8} {entry : Option (transparent.Key × Option Packet)} (there : o ∈ w.network.outputs)
    (record : sealRecord o = some (packet, m, entry)) : w.SealedBy .server packet m := by
  cases o with
  | sealed table id packet' m' =>
    cases record
    exact ⟨table, id, there⟩
  | _ => cases record

/-- The client's packet is opened at the end of the grace period. -/
theorem rekey_accepts_iff_rekeyed :
    ∃ session packet, (rekeyed 14).session .server sessionNine = some session ∧
      session.keyPhase = 1 ∧ (rekeyed 14).SealedBy .client packet (ipv4Between 2 1) ∧
      packet.header.keyPhase = 0 ∧
      (session.openPacket packet (fromSecs 135)).1 = .ok (ipv4Between 2 1) := by
  have view : ((rekeyed 13).session .server sessionNine).map ProtectedSession.keyPhase = some 0 ∧
      ((rekeyed 14).session .server sessionNine).map ProtectedSession.keyPhase = some 1 ∧
      (rekeyed 14).sealed.map (fun e => (e.packet.header.sessionId, e.packet.header.keyPhase,
        e.plaintext)) = [(sessionNine, 0, ipv4Between 2 1)] ∧
      (rekeyed 14).serverReceived = [] := by decide +kernel
  obtain ⟨before, after, sealed, received⟩ := view
  obtain ⟨old, before, oldPhase⟩ := Option.map_eq_some_iff.1 before
  obtain ⟨session, after, newPhase⟩ := Option.map_eq_some_iff.1 after
  obtain ⟨e, one, eq⟩ := List.map_eq_singleton_iff.1 sealed
  obtain ⟨sameId, rest⟩ := Prod.mk.inj eq
  obtain ⟨phase, plaintext⟩ := Prod.mk.inj rest
  have sealed : (rekeyed 14).SealedBy .client e.packet (ipv4Between 2 1) := by
    refine ⟨e, ?_, rfl, plaintext⟩
    rw [one]
    exact List.mem_singleton_self e
  have next : session.keyPhase.toNat = (0 : UInt32).toNat + 1 := by
    rw [newPhase]
    rfl
  have timely : (rekeyed 14).Timely .server e.packet := by
    rw [Timely, Tunnel.received, received]
    exact ⟨Finset.notMem_empty _, fun _ mem => absurd mem (Finset.notMem_empty _)⟩
  refine ⟨session, e.packet, after, newPhase, sealed, phase, ?_⟩
  refine (rekey_accepts_iff transparent_ideal transparent_correct (· = keyOf 8) laptopSetup laptopPlane
    laptopServer [laptop] none (fun _ _ _ _ => False) (rekeyed 0) (rekeyed 14) rfl 15 (by decide) rfl rfl
    rfl (rekeyedEvents 13) [] (nextEvent 13 (rekeyed 13)) ?_ ?_ .server sessionNine 0 ?_ session after
    e.packet (ipv4Between 2 1) sealed sameId phase (fromSecs 135) (by decide) timely).2 ⟨rfl, next⟩
  · rw [← rekeyedEvents_succ]
    exact eachStep_rekeyed (by decide)
  · rw [← rekeyedEvents_succ, run_rekeyed]
  · rw [run_rekeyed]
    exact ⟨old, session, before, oldPhase, after, next⟩

/-- The server's packet is refused one second after the switch. -/
theorem rekey_loses_packet :
    EachStep (step laptopSetup laptopPlane) (Allowed (· = keyOf 8) laptopPlane) (rekeyed 0)
      (rekeyedEvents 15) ∧
    Switches laptopSetup laptopPlane (rekeyed 14) (nextEvent 14 (rekeyed 14)) .client sessionNine 0 ∧
    laptopPlane.rekey.gracePeriodSecs = 15 ∧ laptopServer.rekey.gracePeriodSecs = 15 ∧
    (nextEvent 14 (rekeyed 14)).instant = fromSecs 120 ∧
    ∃ session packet, (rekeyed 15).session .client sessionNine = some session ∧
      (rekeyed 15).SealedBy .server packet (ipv4Between 1 2) ∧
      packet.header.sessionId = sessionNine ∧ packet.header.keyPhase = 0 ∧
      (rekeyed 15).Timely .client packet ∧
      (session.openPacket packet (fromSecs 121)).1 = .error (.unexpectedKeyPhase 0) := by
  have view : ((rekeyed 14).session .client sessionNine).map ProtectedSession.keyPhase = some 0 ∧
      ((rekeyed 15).session .client sessionNine).map ProtectedSession.keyPhase = some 1 ∧
      receivedIn (rekeyed 15).clientReceived sessionNine 0 = {0} := by decide +kernel
  have sealed : (((rekeyed 15).network.outputs[4]?).bind sealRecord).map (fun record =>
      (record.1.header.sessionId, record.1.header.keyPhase, record.1.header.sequence, record.2.1,
        ((rekeyed 15).session .client sessionNine).bind fun session =>
          match (session.openPacket record.1 (fromSecs 121)).1 with
          | .error e => some e
          | .ok _ => none)) =
      some (sessionNine, 0, 1, ipv4Between 1 2, some (.unexpectedKeyPhase 0)) := by
    decide +kernel
  obtain ⟨before, after, received⟩ := view
  obtain ⟨old, before, oldPhase⟩ := Option.map_eq_some_iff.1 before
  obtain ⟨session, after, newPhase⟩ := Option.map_eq_some_iff.1 after
  obtain ⟨⟨packet, plaintext, entry⟩, record, eq⟩ := Option.map_eq_some_iff.1 sealed
  obtain ⟨o, there, record⟩ := Option.bind_eq_some_iff.1 record
  rw [after] at eq
  simp only [Prod.mk.injEq, Option.bind_some] at eq
  obtain ⟨sameId, phase, sequence, rfl, refused⟩ := eq
  refine ⟨eachStep_rekeyed (by decide), ⟨old, session, before, oldPhase, after, ?_⟩, rfl, rfl, rfl,
    session, packet, after, sealedBy_of_record (List.mem_of_getElem? there) record, sameId, phase, ?_,
    ?_⟩
  · rw [newPhase]
    rfl
  · rw [Timely, sameId, phase, sequence]
    show _ ∉ receivedIn (rekeyed 15).clientReceived sessionNine 0 ∧
      ∀ n ∈ receivedIn (rekeyed 15).clientReceived sessionNine 0, _
    rw [received]
    decide
  · split at refused
    · next e error =>
      cases refused
      exact error
    · cases refused

end Rekeyed

end Tunnel
end Rvpn
