import Rvpn.Server.Registry

/-!
# What a round does to the sessions

Between two handshakes the sessions of the table change in two ways only: sealing moves the send
counter, and one `open` in a round may change a replay window. `CarriesOver` says that nothing but
the counters moved; `ServerLoop.served_step` is the inversion of a round.
-/

namespace Rvpn.Server
open Config Crypto Protocol Routing

variable {P : Primitives}

namespace ServerLoop
variable (setup : Setup) (env : Env) (s : ServerLoop P)

lemma stop_carries : CarriesOver s.active s.stop.1.active :=
  (sendEmpty_sends s.active .close s.active.keys).table.carries

lemma applyLimits_carries (next : ServerConfig) (now : Nat) :
    CarriesOver s.active (s.applyLimits next now).active := by
  unfold applyLimits
  split
  · exact .mapVal fun _ _ => .of_eq rfl rfl
  · exact .refl _

lemma reloadConfig_carries (candidate : Option ServerConfig) (dnsReplaced : Bool) (now : Nat) :
    CarriesOver s.active (s.reloadConfig setup candidate dnsReplaced now).1.active := by
  obtain same | ⟨next, identities, _, _, _, applied⟩ :=
    reloadConfig_cases setup s candidate dnsReplaced now
  · rw [same]
    exact .refl _
  · rw [applied]
    unfold applyConfig
    cases s.authChanged next with
    | false =>
      have limits := applyLimits_carries (s.applyLinks next) next now
      rw [applyLinks_active] at limits
      exact limits
    | true =>
      have limits := applyLimits_carries (s.dropSessions.1.applyLinks next) next now
      rw [applyLinks_active] at limits
      exact DerivesBy.empty.trans limits

variable {active : ActivePeers P} {current : ActivePeer P}

lemma lookup_withSession {id id' : SessionId} {session : ProtectedSession P}
    {current peer : ActivePeer P} (found : active.lookup id = some current)
    (found' : (withSession active id session).lookup id' = some peer) :
    (id' = id ∧ peer = { current with session := session }) ∨
      (id ≠ id' ∧ active.lookup id' = some peer) := by
  unfold withSession at found'
  rw [HashMap.lookup_modify] at found'
  split at found'
  · next same =>
    subst same
    rw [found] at found'
    cases found'
    exact .inl ⟨rfl, rfl⟩
  · next other => exact .inr ⟨fun eq => other eq.symm, found'⟩

lemma withSession_refused {id : SessionId} (found : active.lookup id = some current) :
    CarriesOver active (withSession active id current.session) := by
  refine .modify id fun other foundOther => ?_
  rw [found] at foundOther
  cases foundOther
  exact .of_eq rfl rfl

/-- The packet of a round that a session of the table opens, if any. -/
def opened (event : Event × Env) : Option Packet :=
  if s.stopped then none
  else
    match event.1 with
    | .datagram _ payload =>
      (decodeDatagram P setup.obfuscation payload).bind fun packet =>
        if packet.header.kind = .handshake ∨ packet.header.kind = .rekey then none
        else
          (s.active.lookup packet.header.sessionId).bind fun found =>
            match found.session.openPacket packet event.2.clock.instant with
            | (.ok _, _) => some packet
            | (.error _, _) => none
    | _ => none

/-- What a round does to the sessions, with what it puts out. -/
inductive Served (event : Event × Env) (result : ServerLoop P × List (Output P)) : Prop
  | carried (closed : s.opened setup event = none) (calm : s.CalmRound result)
      (carries : CarriesOver s.active result.1.active)
  | opens (packet : Packet) (current : ActivePeer P) (plaintext : List UInt8)
      (session : ProtectedSession P) (opened : s.opened setup event = some packet)
      (found : s.active.lookup packet.header.sessionId = some current)
      (accepted : current.session.openPacket packet event.2.clock.instant = (.ok plaintext, session))
      (calm : s.CalmRound result)
      (carries : CarriesOver (withSession s.active packet.header.sessionId session) result.1.active)
  | installs (peer : SocketAddr) (packet : Packet) (state : PendingHandshake P)
      (session : ProtectedSession P) (remote : Option (Bytes 32)) (identity : PeerIdentity)
      (record : Installed) (out : List (Output P)) (closed : s.opened setup event = none)
      (completes : Completes setup.parser s.pending peer packet event.2.clock state session remote
        identity)
      (pending : result.1.pending = s.pending.remove packet.header.sessionId)
      (outputs : result.2 = .installed record :: out)
      (calm : Calm (install s.active identity session peer setup.rekeyGracePeriod
        setup.rxRateBytesPerSec event.2.clock.instant).1 (result.1.active, out))
      (carries : CarriesOver (install s.active identity session peer setup.rekeyGracePeriod
        setup.rxRateBytesPerSec event.2.clock.instant).1 result.1.active)

variable {setup s} {event : Event × Env}

lemma served_open {packet : Packet} {result : ServerLoop P × List (Output P)}
    (found : s.active.lookup packet.header.sessionId = some current) (tries : s.opened setup event =
      match current.session.openPacket packet event.2.clock.instant with
      | (.ok _, _) => some packet
      | (.error _, _) => none) (calm : s.CalmRound result)
    (carries : CarriesOver (withSession s.active packet.header.sessionId
      (current.session.openPacket packet event.2.clock.instant).2) result.1.active) :
    Served setup s event result := by
  cases accepted : current.session.openPacket packet event.2.clock.instant with
  | mk outcome session =>
    rw [accepted] at tries carries
    cases outcome with
    | error e =>
      rw [ProtectedSession.openPacket_refused accepted] at carries
      exact .carried tries calm ((withSession_refused found).trans carries)
    | ok plaintext => exact .opens packet current plaintext session tries found accepted calm carries

lemma CalmRound.of_active {s' : ServerLoop P} {result : ServerLoop P × List (Output P)}
    (calm : s'.CalmRound result) (same : s'.active = s.active) : s.CalmRound result := by
  unfold CalmRound at calm ⊢
  rw [← same]
  exact calm

section Arrival
variable {peer : SocketAddr} {payload : List UInt8} {packet : Packet} (running : s.stopped = false)
  (decoded : decodeDatagram P setup.obfuscation payload = some packet)
include running decoded

lemma opened_eq_none (kind : packet.header.kind = .handshake ∨ packet.header.kind = .rekey) :
    s.opened setup (.datagram peer payload, env) = none := by
  simp [opened, running, decoded, kind]

lemma served_opens {result : ServerLoop P × List (Output P)}
    (handshake : packet.header.kind ≠ .handshake) (rekey : packet.header.kind ≠ .rekey)
    (calm : s.CalmRound result)
    (absent : s.active.lookup packet.header.sessionId = none → result.1.active = s.active)
    (carries : ∀ current, s.active.lookup packet.header.sessionId = some current →
      CarriesOver (withSession s.active packet.header.sessionId
        (current.session.openPacket packet env.clock.instant).2) result.1.active) :
    Served setup s (.datagram peer payload, env) result := by
  cases found : s.active.lookup packet.header.sessionId with
  | none =>
    refine .carried ?_ calm ?_
    · simp [opened, running, decoded, handshake, rekey, found]
    · rw [absent found]
      exact .refl _
  | some current =>
    refine served_open found ?_ calm (carries current found)
    simp [opened, running, decoded, handshake, rekey, found]

lemma served_onFinish (kind : packet.header.kind = .handshake ∨ packet.header.kind = .rekey) :
    Served setup s (.datagram peer payload, env)
      (onFinish setup env { s with recvErrors := 0 } peer packet) := by
  have closed : s.opened setup (.datagram peer payload, env) = none :=
    opened_eq_none env running decoded kind
  obtain ⟨_, _, eq⟩ | ⟨state, session, remote, identity, completes, eq⟩ :=
    onFinish_cases setup env { s with recvErrors := 0 } peer packet
  · rw [eq]
    exact .carried closed (CalmRound.of_active (calm_acknowledgeFinish setup env _ peer _) rfl)
      (acknowledgeFinish_sends setup env _ peer _).table.carries
  · rw [eq]
    have calm := calm_acknowledgeFinish setup env
      (installed setup env { s with recvErrors := 0 } peer packet identity session) peer
      packet.header.sessionId
    exact .installs peer packet state session remote identity _ _ closed completes
      (acknowledgeFinish_pending setup env _ peer _) rfl calm
      (acknowledgeFinish_sends setup env _ peer _).table.carries

lemma served_onKeepalive (kind : packet.header.kind = .keepalive) :
    Served setup s (.datagram peer payload, env)
      (onKeepalive env { s with recvErrors := 0 } peer packet) := by
  have calm := calm_onKeepalive env { s with recvErrors := 0 } peer packet
  refine served_opens env running decoded (by simp [kind]) (by simp [kind]) (calm.of_active rfl) ?_ ?_
  · intro absent
    simp only [onKeepalive, absent]
  · intro current found
    exact (onKeepalive_sending env { s with recvErrors := 0 } found).carries

lemma served_onData (handshake : packet.header.kind ≠ .handshake)
    (rekey : packet.header.kind ≠ .rekey) : Served setup s (.datagram peer payload, env)
      (onData setup env { s with recvErrors := 0 } peer packet payload.length) := by
  have calm := calm_onData setup env { s with recvErrors := 0 } peer packet payload.length
  refine served_opens env running decoded handshake rekey (calm.of_active rfl) ?_ ?_
  · intro absent
    simp only [onData, absent]
  · intro current found
    exact (onData_carries setup env { s with recvErrors := 0 } found).1

lemma served_onPacket : Served setup s (.datagram peer payload, env)
    (onPacket setup env { s with recvErrors := 0 } peer packet payload.length) := by
  have initiation := calm_onInitiation setup env { s with recvErrors := 0 } peer packet
  have rekey := calm_onRekey env { s with recvErrors := 0 } peer packet
  unfold onPacket
  split
  · next kind =>
    have closed : s.opened setup (.datagram peer payload, env) = none :=
      opened_eq_none env running decoded (.inl kind)
    split
    · refine .carried closed (initiation.of_active rfl) ?_
      obtain ⟨_, _, eq⟩ := onInitiation_frame setup env { s with recvErrors := 0 } peer packet
      rw [eq]
      exact .refl _
    · split
      · exact served_onFinish env running decoded (.inl kind)
      · exact .carried closed (.refl _) (.refl _)
  · next kind =>
    split
    · exact served_onFinish env running decoded (.inr kind)
    · refine .carried (opened_eq_none env running decoded (.inr kind)) (rekey.of_active rfl) ?_
      obtain ⟨_, eq⟩ := onRekey_frame env { s with recvErrors := 0 } peer packet
      rw [eq]
      exact .refl _
  · next kind => exact served_onKeepalive env running decoded kind
  · next handshake rekey _ => exact served_onData env running decoded handshake rekey

end Arrival

lemma step_carries {event : Event} (running : s.stopped = false)
    (other : ∀ peer payload, event ≠ .datagram peer payload) :
    CarriesOver s.active (step setup s (event, env)).1.active := by
  unfold step
  rw [if_neg (by simp [running])]
  cases event with
  | datagram peer payload => exact absurd rfl (other peer payload)
  | shutdown => exact stop_carries s
  | reload candidate dnsReplaced =>
    exact reloadConfig_carries setup s candidate dnsReplaced env.clock.instant
  | retry => exact .refl _
  | sweep => exact sweepIdle_derivesBy setup s env.clock.instant
  | keepaliveDue => exact (sendEmpty_sends s.active .keepalive s.active.keys).table.carries
  | dequeued key delay =>
    simp only
    split
    · exact .refl _
    · exact (Resumed.touch (f := fun peer => { peer with stats := peer.stats.recordQueueDelay delay })
        _ (fun _ => rfl) fun _ => rfl).carries
  | tunPacket packet =>
    simp only
    split
    · exact .refl _
    · exact (sendTo_sends s.active setup env _ .data packet 0).table.carries
  | tapFrame frame => exact (sendToAll_sends s.active setup env .dataTap frame _ 0).table.carries
  | deviceFailed => exact stop_carries s
  | receiveFailed =>
    simp only
    split
    · exact stop_carries { s with recvErrors := s.recvErrors + 1 }
    · exact .refl _

/-- Only a datagram can carry a packet to open, or complete a handshake. -/
lemma served_silent {event : Event} (running : s.stopped = false)
    (other : ∀ peer payload, event ≠ .datagram peer payload) :
    Served setup s (event, env) (step setup s (event, env)) := by
  refine .carried ?_ ?_ (step_carries env running other)
  · unfold opened
    split
    · rfl
    · split
      · next peer payload eq => exact absurd eq (other peer payload)
      · rfl
  · obtain calm | ⟨peer, packet, _, _, _, _, ⟨payload, eq, _⟩, _⟩ := s.step_active setup (event, env)
    · exact calm
    · exact absurd eq (other peer payload)

/-- The inversion of a round. -/
theorem served_step (setup : Setup) (s : ServerLoop P) (event : Event × Env) :
    Served setup s event (step setup s event) := by
  obtain ⟨event, env⟩ := event
  cases stopped : s.stopped with
  | true =>
    have same : step setup s (event, env) = (s, []) := by
      unfold step
      simp only [stopped, if_true]
    rw [same]
    exact .carried (by simp [opened, stopped]) (.refl _) (.refl _)
  | false =>
    by_cases arrival : ∃ peer payload, event = .datagram peer payload
    · obtain ⟨peer, payload, rfl⟩ := arrival
      cases decoded : decodeDatagram P setup.obfuscation payload with
      | none =>
        simp only [step, stopped, decoded, Bool.false_eq_true, if_false]
        exact .carried (by simp [opened, decoded]) (.refl _) (.refl _)
      | some packet =>
        have result : step setup s (.datagram peer payload, env) =
            onPacket setup env { s with recvErrors := 0 } peer packet payload.length := by
          unfold step
          rw [if_neg (by simp [stopped])]
          simp only [decoded]
        rw [result]
        exact served_onPacket env stopped decoded
    · exact served_silent env stopped fun peer payload eq => arrival ⟨peer, payload, eq⟩

end ServerLoop

end Rvpn.Server
