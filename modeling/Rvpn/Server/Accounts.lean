import Rvpn.Server.Reload

/-!
# The accounts of the sessions

What a round of the server does to the rate limiters and to the counters of its sessions. Everything
that is sent leaves the limiters alone, and no counter goes back (`Accrues`); `accountRound_step` has
the exceptions. `passes` is the payload that a round lets through.
-/

namespace Rvpn.Server
open Config Crypto Protocol Routing

variable {P : Primitives}

/-- The peer with another rate limiter. -/
def ActivePeer.limitedBy (limiter : PeerRateLimiter) (peer : ActivePeer P) : ActivePeer P :=
  { peer with rxLimiter := limiter }

section
variable {active : ActivePeers P} {id : SessionId} {peer : ActivePeer P}
  (setup : Setup) (env : Env) (router : Router) (kind : PacketKind) (payload : List UInt8)
  (wireBytes : Nat)

/-- A dropped packet is counted. -/
lemma accrued_routeInbound_drop {reason : DropReason}
    (verdict : inboundVerdict router id kind payload = .drop reason) :
    Accrued active (routeInbound setup env router active id kind payload wireBytes).2.1 := by
  have eq := (fst_eq_inboundVerdict router id kind payload).trans verdict
  unfold routeInbound
  generalize (if kind = .dataTap then router.routeFrame id payload
    else (router.routeIp id payload, router)) = routed at eq
  obtain ⟨verdict', router'⟩ := routed
  cases eq
  exact (Sending.stats active id fun _ => PeerStats.grows_recordDrop).accrued

/-- What is dropped or over the rate goes nowhere. -/
lemma routeInbound_silent (found : active.lookup id = some peer)
    (stopped : ∀ delivery, inboundVerdict router id kind payload = .forward delivery →
      (peer.rxLimiter.allow payload.length env.clock.instant).1 = false) :
    (routeInbound setup env router active id kind payload wireBytes).2.2 = [] := by
  have eq := fst_eq_inboundVerdict router id kind payload
  unfold routeInbound
  generalize (if kind = .dataTap then router.routeFrame id payload
    else (router.routeIp id payload, router)) = routed at eq
  obtain ⟨verdict, router'⟩ := routed
  cases verdict with
  | drop reason => rfl
  | forward delivery =>
    have refused := stopped delivery eq.symm
    simp only [policeInbound, found]
    generalize peer.rxLimiter.allow payload.length env.clock.instant = decision at refused
    obtain ⟨allowed, limiter⟩ := decision
    cases refused
    rfl

/-- A forwarded packet is charged to the limiter of its sender. -/
lemma accrued_routeInbound_forward {delivery : Delivery} (found : active.lookup id = some peer)
    (verdict : inboundVerdict router id kind payload = .forward delivery) :
    Accrued (HashMap.modify id (ActivePeer.limitedBy
        (peer.rxLimiter.allow payload.length env.clock.instant).2) active)
      (routeInbound setup env router active id kind payload wireBytes).2.1 := by
  have eq := (fst_eq_inboundVerdict router id kind payload).trans verdict
  unfold routeInbound
  generalize (if kind = .dataTap then router.routeFrame id payload
    else (router.routeIp id payload, router)) = routed at eq
  obtain ⟨verdict', router'⟩ := routed
  cases eq
  simp only [policeInbound, found]
  generalize peer.rxLimiter.allow payload.length env.clock.instant = decision
  obtain ⟨allowed, limiter⟩ := decision
  cases allowed with
  | false =>
    refine .modify_both id fun other _ => ?_
    exact ⟨rfl, rfl, PeerStats.grows_recordRxLimitedDrop⟩
  | true =>
    have recorded := (Sending.stats (HashMap.modify id (ActivePeer.limitedBy limiter) active) id
      fun _ => PeerStats.grows_recordRx payload.length wireBytes).accrued
    simp only
    split
    · exact recorded.trans (sendToAll_sends _ setup env _ _ _ 0).accrued
    · split
      · exact recorded.trans (sendToAll_sends _ setup env _ _ _ 0).accrued
      · exact recorded

end

namespace ServerLoop

/-- What `route_inbound` lets through: session and payload bytes. -/
def passesPacket (env : Env) (s : ServerLoop P) (packet : Packet) : Option (SessionId × Nat) :=
  let id := packet.header.sessionId
  if packet.header.kind = .data ∨ packet.header.kind = .dataTap then
    match s.active.lookup id with
    | none => none
    | some found =>
      match found.session.openPacket packet env.clock.instant with
      | (.error _, _) => none
      | (.ok plaintext, _) =>
        if packet.header.kind = .data ∧ plaintext = [] then none
        else
          match inboundVerdict s.router id packet.header.kind plaintext with
          | .drop _ => none
          | .forward _ =>
            if (found.rxLimiter.allow plaintext.length env.clock.instant).1 then
              some (id, plaintext.length)
            else none
  else none

/-- What a round lets through. -/
def passes (setup : Setup) (s : ServerLoop P) (event : Event × Env) : Option (SessionId × Nat) :=
  match event.1 with
  | .datagram _ payload =>
    if s.stopped then none
    else (decodeDatagram P setup.obfuscation payload).bind (s.passesPacket event.2)
  | _ => none

/-- What a round does to the accounts, from the table and limits before. -/
inductive AccountRound (setup : Setup) (active : ActivePeers P)
    (limits : PeerLimitsConfig) (now : Nat) (passed : Option (SessionId × Nat)) (s' : ServerLoop P) : Prop
  | accrued (silent : passed = none) (table : Accrued active s'.active)
  | policed (id : SessionId) (peer : ActivePeer P) (bytes : Nat) (found : active.lookup id = some peer)
      (charged : passed = if (peer.rxLimiter.allow bytes now).1 then some (id, bytes) else none)
      (table : Accrued (HashMap.modify id
        (ActivePeer.limitedBy (peer.rxLimiter.allow bytes now).2) active) s'.active)
  | renewed (rate : Nat) (silent : passed = none) (small : rate ≤ u64Max)
      (changed : s'.config.limits ≠ limits)
      (table : s'.active = HashMap.mapVal
        (fun _ => ActivePeer.limitedBy (PeerRateLimiter.new rate now)) active)
  | created (identity : PeerIdentity) (session : ProtectedSession P) (endpoint : SocketAddr)
      (silent : passed = none)
      (table : Accrued (install active identity session endpoint setup.rekeyGracePeriod
        setup.rxRateBytesPerSec now).1 s'.active)

section
variable (setup : Setup) (env : Env) (s : ServerLoop P) (peer : SocketAddr)

/-- A keepalive leaves the limiters alone. -/
lemma accrued_onKeepalive (packet : Packet) :
    Accrued s.active (s.onKeepalive env peer packet).1.active := by
  cases found : s.active.lookup packet.header.sessionId with
  | none =>
    simp only [onKeepalive, found]
    exact .refl _
  | some current => exact (withSession_accrued s.active _ _).trans (onKeepalive_sending env s found).accrued

/-- So does a packet that closes its session. -/
lemma accountRound_onClose (packet : Packet) (wireBytes : Nat) (close : packet.header.kind = .close) :
    AccountRound setup s.active s.config.limits env.clock.instant none
      (s.onData setup env peer packet wireBytes).1 := by
  refine .accrued rfl ?_
  unfold onData
  simp only [close, if_true]
  split
  · exact .refl _
  · split
    · exact .modify _ fun _ _ => .of_eq rfl rfl rfl
    · next session _ =>
      have touched : Accrued s.active (HashMap.modify packet.header.sessionId
          (fun p => { p with session := session, lastRx := env.clock.instant }) s.active) :=
        .modify _ fun _ _ => .of_eq rfl rfl rfl
      exact touched.trans (.erase _)

/-- A session moved to another endpoint keeps its limiter. -/
lemma lookup_moved {active : ActivePeers P} {id : SessionId} {entry : ActivePeer P}
    (found : active.lookup id = some entry) (session : ProtectedSession P) (now : Nat)
    (peer : SocketAddr) : (HashMap.modify id
      (fun p : ActivePeer P => { p with session := session, lastRx := now, endpoint := peer })
      active).lookup id = some { entry with session := session, lastRx := now, endpoint := peer } := by
  rw [HashMap.lookup_modify_self, found]
  rfl

/-- Data that does not pass puts nothing out. -/
lemma onData_silent {packet : Packet} (wireBytes : Nat)
    (kind : packet.header.kind = .data ∨ packet.header.kind = .dataTap)
    (silent : s.passesPacket env packet = none) :
    (s.onData setup env peer packet wireBytes).2 = [] := by
  unfold passesPacket at silent
  unfold onData
  simp only [if_pos kind] at silent
  cases found : s.active.lookup packet.header.sessionId with
  | none => simp only [found]
  | some entry =>
    simp only [found] at silent ⊢
    generalize entry.session.openPacket packet env.clock.instant = opened at silent
    obtain ⟨result, session⟩ := opened
    cases result with
    | error e => rfl
    | ok plaintext =>
      simp only at silent ⊢
      split
      · rfl
      · split
        · rfl
        · next carries =>
          rw [if_neg carries] at silent
          rw [HashMap.modify_modify]
          refine routeInbound_silent setup env s.router packet.header.kind plaintext wireBytes
            (lookup_moved found session env.clock.instant peer) ?_
          intro delivery verdict
          rw [verdict] at silent
          simp only at silent
          split at silent
          · cases silent
          · next refused => exact eq_false_of_ne_true refused

/-- A packet that carries data is policed, unless it gets nowhere. -/
lemma accountRound_onData (packet : Packet) (wireBytes : Nat)
    (kind : packet.header.kind = .data ∨ packet.header.kind = .dataTap) :
    AccountRound setup s.active s.config.limits env.clock.instant (s.passesPacket env packet)
      (s.onData setup env peer packet wireBytes).1 := by
  have remains : packet.header.kind ≠ .close := by
    rcases kind with data | tap
    · rw [data]
      decide
    · rw [tap]
      decide
  unfold passesPacket onData
  simp only [if_pos kind, if_neg remains]
  cases found : s.active.lookup packet.header.sessionId with
  | none => exact .accrued rfl (.refl _)
  | some entry =>
    simp only
    generalize entry.session.openPacket packet env.clock.instant = opened
    obtain ⟨result, session⟩ := opened
    cases result with
    | error e => exact .accrued rfl (.modify _ fun _ _ => .of_eq rfl rfl rfl)
    | ok plaintext =>
      simp only
      split
      · exact .accrued rfl (.modify _ fun _ _ => .of_eq rfl rfl rfl)
      · rw [HashMap.modify_modify]
        cases verdict : inboundVerdict s.router packet.header.sessionId packet.header.kind
            plaintext with
        | drop reason =>
          have touched : Accrued s.active (HashMap.modify packet.header.sessionId
              (fun p : ActivePeer P =>
                { p with session := session, lastRx := env.clock.instant, endpoint := peer })
              s.active) := .modify _ fun _ _ => .of_eq rfl rfl rfl
          exact .accrued rfl (touched.trans (accrued_routeInbound_drop setup env s.router
            packet.header.kind plaintext wireBytes verdict))
        | forward delivery =>
          have charged := accrued_routeInbound_forward setup env s.router packet.header.kind
            plaintext wireBytes (lookup_moved found session env.clock.instant peer) verdict
          rw [HashMap.modify_modify] at charged
          refine .policed packet.header.sessionId entry plaintext.length found rfl ?_
          refine DerivesBy.trans (.modify_both _ fun _ _ => ?_) charged
          exact .of_eq rfl rfl rfl

/-- A finish may create a session, at the rate of the start. -/
lemma accountRound_onFinish (packet : Packet) :
    AccountRound setup s.active s.config.limits env.clock.instant none
      (s.onFinish setup env peer packet).1 := by
  obtain ⟨pending, _, eq⟩ | ⟨state, session, remote, identity, _, eq⟩ :=
    onFinish_cases setup env s peer packet
  · rw [eq]
    exact .accrued rfl (acknowledgeFinish_sends setup env
      { s with pending := pending, router := registerNewPeers s.router s.active } peer _).accrued
  · rw [eq]
    exact .created identity session peer rfl (acknowledgeFinish_sends setup env
      (installed setup env s peer packet identity session) peer _).accrued

/-- Every kind of packet. -/
lemma accountRound_onPacket (packet : Packet) (wireBytes : Nat) :
    AccountRound setup s.active s.config.limits env.clock.instant (s.passesPacket env packet)
      (s.onPacket setup env peer packet wireBytes).1 := by
  have silent : ¬ (packet.header.kind = .data ∨ packet.header.kind = .dataTap) →
      s.passesPacket env packet = none := fun other => if_neg other
  unfold onPacket
  cases kind : packet.header.kind with
  | handshake =>
    rw [silent (by rw [kind]; decide)]
    simp only
    split
    · refine .accrued rfl ?_
      obtain ⟨_, _, eq⟩ := onInitiation_frame setup env s peer packet
      rw [eq]
      exact .refl _
    · split
      · exact accountRound_onFinish setup env s peer packet
      · exact .accrued rfl (.refl _)
  | rekey =>
    rw [silent (by rw [kind]; decide)]
    simp only
    split
    · exact accountRound_onFinish setup env s peer packet
    · refine .accrued rfl ?_
      obtain ⟨_, eq⟩ := onRekey_frame env s peer packet
      rw [eq]
      exact .refl _
  | keepalive =>
    rw [silent (by rw [kind]; decide)]
    exact .accrued rfl (accrued_onKeepalive env s peer packet)
  | data => exact accountRound_onData setup env s peer packet wireBytes (.inl kind)
  | dataTap => exact accountRound_onData setup env s peer packet wireBytes (.inr kind)
  | close =>
    rw [silent (by rw [kind]; decide)]
    exact accountRound_onClose setup env s peer packet wireBytes kind

/-- New limits give every session a new limiter. -/
lemma applyLimits_active (next : ServerConfig) (now : Nat) : (s.applyLimits next now).active =
      if s.config.limits ≠ next.limits then HashMap.mapVal (fun _ => ActivePeer.limitedBy
          (PeerRateLimiter.new (mibRate next.limits.rxMibPerSec) now)) s.active
      else s.active := by
  unfold applyLimits
  split
  · rfl
  · rfl

/-- A reload drops all sessions, or may renew the limiters. -/
lemma accountRound_applyConfig (next : ServerConfig) (identities : List PeerIdentity) (now : Nat) :
    AccountRound setup s.active s.config.limits now none (s.applyConfig next identities now).1 := by
  unfold applyConfig
  cases s.authChanged next with
  | true =>
    refine .accrued rfl ?_
    have none : (s.dropSessions.1.applyLinks next).active = ∅ := applyLinks_active _ next
    have dropped : ((s.dropSessions.1.applyLinks next).applyLimits next now).active = ∅ := by
      rw [applyLimits_active, none, HashMap.mapVal_empty]
      exact ite_self _
    show Accrued s.active ((s.dropSessions.1.applyLinks next).applyLimits next now).active
    rw [dropped]
    exact .empty
  | false =>
    have config : (s.applyLinks next).config = s.config := by
      unfold applyLinks
      split
      · rfl
      · rfl
    have table := applyLimits_active (s.applyLinks next) next now
    rw [config, applyLinks_active] at table
    by_cases same : s.config.limits = next.limits
    · rw [if_neg (not_not.2 same)] at table
      refine .accrued rfl ?_
      show Accrued s.active ((s.applyLinks next).applyLimits next now).active
      rw [table]
      exact .refl _
    · rw [if_pos same] at table
      exact .renewed (mibRate next.limits.rxMibPerSec) rfl (Nat.min_le_right _ _) (Ne.symm same) table

/-- Every round of the server. -/
theorem accountRound_step (event : Event × Env) :
    AccountRound setup s.active s.config.limits event.2.clock.instant (s.passes setup event)
      (step setup s event).1 := by
  obtain ⟨event, env⟩ := event
  unfold step passes
  cases stopped : s.stopped with
  | true =>
    refine .accrued ?_ (.refl _)
    cases event with
    | datagram => rfl
    | _ => rfl
  | false =>
    simp only [Bool.false_eq_true, if_false]
    cases event with
    | shutdown => exact .accrued rfl (sendEmpty_sends s.active .close _).accrued
    | reload candidate dnsReplaced =>
      obtain same | ⟨next, identities, _, _, _, applied⟩ :=
        reloadConfig_cases setup s candidate dnsReplaced env.clock.instant
      · simp only [same]
        exact .accrued rfl (.refl _)
      · simp only [applied]
        exact accountRound_applyConfig setup s next identities _
    | retry => exact .accrued rfl (.refl _)
    | sweep => exact .accrued rfl (sweepIdle_derivesBy setup s _)
    | keepaliveDue => exact .accrued rfl (sendEmpty_sends s.active .keepalive _).accrued
    | dequeued key delay =>
      simp only
      split
      · exact .accrued rfl (.refl _)
      · next entry _ =>
        exact .accrued rfl (Sending.stats s.active entry.1 fun _ => PeerStats.grows_recordQueueDelay delay).accrued
    | tunPacket packet =>
      simp only
      split
      · exact .accrued rfl (.refl _)
      · next target _ => exact .accrued rfl (sendTo_sends s.active setup env target .data packet 0).accrued
    | tapFrame frame => exact .accrued rfl (sendToAll_sends s.active setup env .dataTap frame _ 0).accrued
    | deviceFailed => exact .accrued rfl (sendEmpty_sends s.active .close _).accrued
    | receiveFailed =>
      simp only
      split
      · exact .accrued rfl (sendEmpty_sends s.active .close _).accrued
      · exact .accrued rfl (.refl _)
    | datagram peer payload =>
      simp only
      cases decodeDatagram P setup.obfuscation payload with
      | none => exact .accrued rfl (.refl _)
      | some packet =>
        exact accountRound_onPacket setup env { s with recvErrors := 0, stopped := false } peer packet
          payload.length

end

section PinnedPeer
open Primitives Trace

/-- The datagrams of a client that seals these payloads. -/
def sealing : ProtectedSession transparent → List (PacketKind × List UInt8) → List Event
  | _, [] => []
  | session, (kind, payload) :: rest =>
    match session.sealPacket kind payload with
    | (.ok packet, session) => .datagram clientEndpoint packet.encode :: sealing session rest
    | (.error _, session) => sealing session rest

/-- What the pinned peer sends after its handshake. -/
def speaking (client : InitiatorHandshake) (keyPhase : UInt32) (packets : List (PacketKind × List UInt8)) :
    List Event :=
  match pinnedOutcome client keyPhase with
  | some (_, session) => sealing session packets
  | none => []

/-- A packet from 10.0.0.2 to 192.0.2.9. -/
def peerPacket : List UInt8 :=
  [0x45, 0, 0, 20, 0, 0, 0, 0, 64, 17, 0xae, 0xce, 10, 0, 0, 2, 192, 0, 2, 9]

end PinnedPeer

end ServerLoop

end Rvpn.Server
