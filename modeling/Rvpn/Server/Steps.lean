import Rvpn.Server.Tables

/-!
# What one round of the loop does

The inversion of `ServerLoop.step` that the invariants are derived from. For the table of active
sessions a round is calm, or it completes a pending handshake, installs its session and acknowledges
it (`step_active`). An entry of the pending table was there before, or the round started it
(`step_pending`).
-/

namespace Rvpn.Server
open Config Crypto HashMap Interface Protocol Routing

def Event.Arrives (P : Primitives) (setup : Setup) (event : Event) (peer : SocketAddr)
    (packet : Packet) : Prop :=
  ∃ payload, event = .datagram peer payload ∧
    decodeDatagram P setup.obfuscation payload = some packet

variable {P : Primitives}

/-- A calm round: what a quiet part may put out, and device writes. -/
def Output.CalmFor (active : ActivePeers P) (o : Output P) : Prop :=
  o.QuietFor active ∨ (∃ packet, o = .tun packet) ∨ ∃ frame, o = .tap frame

/-- The table afterwards derives from `active`, and the outputs are calm. -/
structure Calm (active : ActivePeers P) (result : ActivePeers P × List (Output P)) : Prop where
  table : Derives active result.1
  outputs : ∀ o ∈ result.2, o.CalmFor active

namespace Calm
variable {active active' active'' : ActivePeers P} {out : List (Output P)}

lemma of_onlySends (h : OnlySends active (active', out)) : Calm active (active', out) :=
  ⟨h.table.derives, fun o mem => .inl (h.outputs o mem)⟩

lemma of_derives (h : Derives active active') : Calm active (active', []) :=
  ⟨h, fun _ mem => absurd mem List.not_mem_nil⟩

lemma refl (active : ActivePeers P) : Calm active (active, []) :=
  of_derives (.refl active)

lemma after (h : Derives active active') (h' : Calm active' (active'', out)) :
    Calm active (active'', out) := by
  refine ⟨h.trans h'.table, ?_⟩
  intro o mem
  cases h'.outputs o mem with
  | inl quiet => exact .inl (quiet.mono h)
  | inr device => exact .inr device

lemma andThen (h : Calm active (active', out)) (h' : Derives active' active'') :
    Calm active (active'', out) :=
  ⟨h.table.trans h', h.outputs⟩

lemma of_sends {sends : List (Output P)}
    (only : ∀ o ∈ sends, ∃ endpoint packet, o = Output.send endpoint packet) :
    Calm active (active, sends) := by
  refine ⟨.refl active, ?_⟩
  intro o mem
  obtain ⟨endpoint, packet, rfl⟩ := only o mem
  exact .inl trivial

end Calm

/-- What `finish_pending` reports of a completed handshake. -/
def PendingHandshake.record (state : PendingHandshake P) (session : ProtectedSession P)
    (remote : Option (Bytes 32)) (identity : PeerIdentity) : Installed where
  sessionId := session.sessionId
  kind := state.kind
  identity := identity
  source := state.source
  remote := remote

/-- What `finish_pending` checks: entry, endpoint, kind, finish, identity. -/
structure Completes (parser : AddressParser) (pending : PendingHandshakes P) (endpoint : SocketAddr)
    (packet : Packet) (clock : Clock) (state : PendingHandshake P) (session : ProtectedSession P)
    (remote : Option (Bytes 32)) (identity : PeerIdentity) : Prop where
  found : pending.entries.lookup packet.header.sessionId = some state
  endpoint : state.endpoint = endpoint
  kind : state.kind = packet.header.kind
  finish : ∃ message, HandshakeMessage.decode packet.payload = .ok message ∧
    state.handshake.finish message clock = .ok (session, remote)
  identity : finishedIdentity parser state.source remote = some identity

variable {pending : PendingHandshakes P} {endpoint : SocketAddr} {state : PendingHandshake P}
  {session : ProtectedSession P} {identity : PeerIdentity}
  {active : ActivePeers P}

lemma Completes.sessionId {parser : AddressParser} {packet : Packet} {clock : Clock}
    {remote : Option (Bytes 32)}
    (h : Completes parser pending endpoint packet clock state session remote identity) :
    session.sessionId = state.handshake.sessionId := by
  obtain ⟨message, _, finished⟩ := h.finish
  obtain ⟨_, _, _, _, _, _, _, _, _, _, _, rfl⟩ := ResponderHandshake.finish_ok finished
  rfl

lemma finishPending_cases (parser : AddressParser) (pending : PendingHandshakes P)
    (active : ActivePeers P) (endpoint : SocketAddr) (packet : Packet)
    (gracePeriod rxRate : Nat) (clock : Clock) :
    (∃ pending', (pending' = pending ∨ pending' = pending.remove packet.header.sessionId) ∧
      finishPending parser pending active endpoint packet gracePeriod rxRate clock =
        { pending := pending', active := active, evicted := [], installed := none }) ∨
      ∃ state session remote identity,
        Completes parser pending endpoint packet clock state session remote identity := by
  unfold finishPending
  cases found : pending.entries.lookup packet.header.sessionId with
  | none => exact .inl ⟨pending, .inl rfl, rfl⟩
  | some state =>
    simp only
    split
    · exact .inl ⟨pending, .inl rfl, rfl⟩
    · next matching =>
      rw [not_or, not_not, not_not] at matching
      split
      · exact .inl ⟨_, .inr rfl, rfl⟩
      · next message decoded =>
        split
        · exact .inl ⟨_, .inr rfl, rfl⟩
        · next session remote finished =>
          split
          · exact .inl ⟨_, .inr rfl, rfl⟩
          · next identity known =>
            exact .inr ⟨state, session, remote, identity,
              ⟨found, matching.1, matching.2, ⟨message, decoded, finished⟩, known⟩⟩

variable {gracePeriod rxRate : Nat} {id : SessionId} {draw : HandshakeDraw}
  {initiation : HandshakeMessage}

lemma finishPending_of_completes {parser : AddressParser} {packet : Packet} {clock : Clock}
    {remote : Option (Bytes 32)}
    (h : Completes parser pending endpoint packet clock state session remote identity) :
    finishPending parser pending active endpoint packet gracePeriod rxRate clock =
      { pending := pending.remove packet.header.sessionId
        active := (install active identity session endpoint gracePeriod rxRate clock.instant).1
        evicted := (install active identity session endpoint gracePeriod rxRate clock.instant).2
        installed := some (state.record session remote identity) } := by
  obtain ⟨found, rfl, kind, ⟨message, decoded, finished⟩, known⟩ := h
  simp only [finishPending, found, kind, ne_eq, not_true_eq_false, or_self, if_false, decoded,
    finished, known, PendingHandshake.record]

lemma lookup_install_self (active : ActivePeers P) (identity : PeerIdentity)
    (session : ProtectedSession P) (endpoint : SocketAddr) (gracePeriod rxRate now : Nat) :
    ∃ peer, (install active identity session endpoint gracePeriod rxRate now).1.lookup
      session.sessionId = some peer ∧ peer.identity = identity := by
  unfold install
  simp only
  split
  · rw [lookup_insert_eq, if_pos rfl]
    exact ⟨_, rfl, rfl⟩
  · rw [lookup_insert_eq, if_pos rfl]
    exact ⟨_, rfl, rfl⟩

lemma lookup_install {now : Nat} {peer : ActivePeer P}
    (found : (install active identity session endpoint gracePeriod rxRate now).1.lookup id =
      some peer) :
    (id = session.sessionId ∧ peer.identity = identity ∧
        peer.session.sessionId = session.sessionId ∧ peer.session.keyPhase = session.keyPhase ∧
        peer.session.keys = session.keys) ∨
      (id ≠ session.sessionId ∧ active.lookup id = some peer) := by
  -- inheriting the previous phase keeps the session id, the phase and the keys
  have inherited : ∀ old : ProtectedSession P,
      (session.inheritPrevious old gracePeriod now).sessionId = session.sessionId ∧
        (session.inheritPrevious old gracePeriod now).keyPhase = session.keyPhase ∧
        (session.inheritPrevious old gracePeriod now).keys = session.keys := by
    intro old
    obtain same | ⟨_, _, eq⟩ := session.inheritPrevious_cases old gracePeriod now
    · rw [same]
      exact ⟨rfl, rfl, rfl⟩
    · rw [eq]
      exact ⟨rfl, rfl, rfl⟩
  unfold install at found
  simp only at found
  split at found
  · next existing _ =>
    rw [lookup_insert_eq] at found
    split at found
    · next same =>
      cases found
      exact .inl ⟨same, rfl, inherited existing.session⟩
    · next other =>
      rw [lookup_retain] at found
      exact .inr ⟨other, (Option.filter_eq_some_iff.1 found).1⟩
  · rw [lookup_insert_eq] at found
    split at found
    · next same =>
      cases found
      exact .inl ⟨same, rfl, rfl, rfl, rfl⟩
    · next other =>
      rw [lookup_retain] at found
      exact .inr ⟨other, (Option.filter_eq_some_iff.1 found).1⟩

/-- A replaced session passes on its phase, counters and limiter. -/
lemma lookup_install_own {now : Nat} {peer : ActivePeer P}
    (found : (install active identity session endpoint gracePeriod rxRate now).1.lookup
      session.sessionId = some peer) :
    (active.lookup session.sessionId = none ∧
        peer = ActivePeer.new P identity session endpoint rxRate now) ∨
      ∃ existing, active.lookup session.sessionId = some existing ∧ peer =
          { ActivePeer.new P identity (session.inheritPrevious existing.session gracePeriod now)
              endpoint rxRate now with
            stats := existing.stats.recordRekey
            rxLimiter := existing.rxLimiter } := by
  -- the entry itself is never stale
  have kept : ∀ p : SessionId → ActivePeer P → Bool, (∀ entry, p session.sessionId entry = true) →
      (HashMap.retain p active).lookup session.sessionId = active.lookup session.sessionId := by
    intro p keep
    rw [lookup_retain]
    cases active.lookup session.sessionId with
    | none => rfl
    | some entry => exact if_pos (keep entry)
  unfold install at found
  simp only at found
  split at found
  · next existing before =>
    rw [lookup_insert_eq, if_pos rfl] at found
    cases found
    rw [kept _ (by simp)] at before
    exact .inr ⟨existing, before, rfl⟩
  · next before =>
    rw [lookup_insert_eq, if_pos rfl] at found
    cases found
    rw [kept _ (by simp)] at before
    exact .inl ⟨before, rfl⟩

/-- The entry a responder leaves: authentication, draw, id and phase. -/
structure Accepted (auth : AuthConfig) (draw : HandshakeDraw) (id : SessionId) (keyPhase : UInt32)
    (initiation response : HandshakeMessage) (state : PendingHandshake P) : Prop where
  accepted : ResponderHandshake.acceptForSession P auth.identity auth.verifier initiation id keyPhase
    draw.ephemeral draw.random = .ok (state.handshake, response)

lemma Accepted.handshake {auth : AuthConfig} {keyPhase : UInt32} {response : HandshakeMessage}
    {state : PendingHandshake P} (h : Accepted auth draw id keyPhase initiation response state) :
    state.handshake.sessionId = id ∧ state.handshake.verifier = auth.verifier := by
  obtain ⟨_, _, _, _, _, _, _, _, _, _, _, _, _, _, _, _, eq⟩ :=
    ResponderHandshake.acceptForSession_ok h.accepted
  rw [eq]
  exact ⟨rfl, rfl⟩

/-- A handshake for a configured peer, the authority, or a rekey. -/
inductive Started (s : ServerLoop P) (env : Env) (id : SessionId) (state : PendingHandshake P) : Prop
  | known (identity : PeerIdentity) (n : Nat) (initiation response : HandshakeMessage)
      (configured : identity ∈ s.identities) (kind : state.kind = .handshake)
      (source : state.source = .known identity) (drawn : (env.draw n).sessionId = some id.bytes)
      (accepted : Accepted identity.auth (env.draw n) id 0 initiation response state)
  | authority (ca : CertificateAuthorityConfig) (auth : AuthConfig) (n : Nat)
      (initiation response : HandshakeMessage) (configured : s.certificateAuthority = some ca)
      (kind : state.kind = .handshake) (source : state.source = .certificateAuthority ca)
      (usable : ca.toAuthConfig = .ok auth) (drawn : (env.draw n).sessionId = some id.bytes)
      (accepted : Accepted auth (env.draw n) id 0 initiation response state)
  | rekey (key : SessionId) (current : ActivePeer P) (initiation response : HandshakeMessage)
      (active : s.active.lookup key = some current) (same : current.session.sessionId = id)
      (kind : state.kind = .rekey) (source : state.source = .known current.identity)
      (room : current.session.keyPhase.toNat ≠ 2 ^ 32 - 1)
      (accepted : Accepted current.identity.auth (env.draw 0) id (current.session.keyPhase + 1)
        initiation response state)

/-- A pending entry from before, up to its count of attempts. -/
def PendingHandshake.Continues (old state : PendingHandshake P) : Prop :=
  ∃ attempts, state = { old with attempts := attempts }

lemma PendingHandshake.Continues.refl (state : PendingHandshake P) : state.Continues state :=
  ⟨state.attempts, rfl⟩

lemma lookup_pending_insert {id' : SessionId} {state entry : PendingHandshake P}
    (found : (pending.insert id' entry).entries.lookup id = some state) :
    (id ≠ id' ∧ pending.entries.lookup id = some state) ∨ (id = id' ∧ state = entry) := by
  simp only [PendingHandshakes.insert, lookup_insert_eq] at found
  split at found
  · next same => exact .inr ⟨same, (Option.some.inj found).symm⟩
  · next other => exact .inl ⟨other, found⟩

lemma lookup_pending_remove {id' : SessionId}
    (found : (pending.remove id').entries.lookup id = some state) :
    id ≠ id' ∧ pending.entries.lookup id = some state := by
  simp only [PendingHandshakes.remove, lookup_erase_eq] at found
  split at found
  · cases found
  · next other => exact ⟨other, found⟩

def respondedEntry (endpoint : SocketAddr) (source : PendingSource) (id : SessionId)
    (handshake : ResponderHandshake P) (response : HandshakeMessage) : PendingHandshake P where
  source := source
  handshake := handshake
  endpoint := endpoint
  packet := handshakePacket .handshake 0 id response
  kind := .handshake
  attempts := 1

lemma tryRespond_cases (pending : PendingHandshakes P) (endpoint : SocketAddr)
    (initiation : HandshakeMessage) (source : PendingSource) (auth : AuthConfig)
    (draw : HandshakeDraw) :
    tryRespond pending endpoint initiation source auth draw = (pending, []) ∨
      ∃ id handshake response, draw.sessionId = some id.bytes ∧
        ResponderHandshake.acceptForSession P auth.identity auth.verifier initiation id 0
          draw.ephemeral draw.random = .ok (handshake, response) ∧
        tryRespond pending endpoint initiation source auth draw =
          (pending.insert id (respondedEntry endpoint source id handshake response),
            [handshakePacket .handshake 0 id response]) := by
  unfold tryRespond
  cases responded : respondInitial pending endpoint initiation source auth draw with
  | error e => exact .inl rfl
  | ok result =>
    unfold respondInitial at responded
    obtain ⟨⟨handshake, response⟩, accepted, responded⟩ := except_bind_ok.1 responded
    obtain ⟨id, sessionId, accepted⟩ := except_bind_ok.1 accepted
    have shape := ResponderHandshake.acceptForSession_ok accepted
    obtain ⟨_, _, _, _, secret, random, _, _, sealed, _, _, _, _, _, _, rfl, _⟩ := shape
    cases responded
    exact .inr ⟨⟨id⟩, handshake, _, drawn_ok.1 sessionId, accepted, rfl⟩

lemma tryRespond_undrawn (pending : PendingHandshakes P) (endpoint : SocketAddr)
    (initiation : HandshakeMessage) (source : PendingSource) (auth : AuthConfig)
    (undrawn : draw.sessionId = none) :
    tryRespond pending endpoint initiation source auth draw = (pending, []) := by
  obtain same | ⟨_, _, _, drawn, _⟩ := tryRespond_cases pending endpoint initiation source auth draw
  · exact same
  · cases undrawn.symm.trans drawn

lemma lookup_tryRespond {source : PendingSource} {auth : AuthConfig}
    (found : (tryRespond pending endpoint initiation source auth draw).1.entries.lookup id =
      some state) :
    pending.entries.lookup id = some state ∨
      (state.kind = .handshake ∧ state.source = source ∧ draw.sessionId = some id.bytes ∧
        ∃ response, Accepted auth draw id 0 initiation response state) := by
  obtain same | ⟨id', handshake, response, drawn, accepted, eq⟩ :=
    tryRespond_cases pending endpoint initiation source auth draw
  · rw [same] at found
    exact .inl found
  · rw [eq] at found
    obtain ⟨_, kept⟩ | ⟨rfl, rfl⟩ := lookup_pending_insert found
    · exact .inl kept
    · exact .inr ⟨rfl, rfl, drawn, response, ⟨accepted⟩⟩

lemma lookup_tryIdentities {limit : Nat} {numbered : List (PeerIdentity × HandshakeDraw)}
    (found : (tryIdentities endpoint initiation limit numbered pending).1.entries.lookup id =
      some state) :
    pending.entries.lookup id = some state ∨
      ∃ entry ∈ numbered, state.kind = .handshake ∧ state.source = .known entry.1 ∧
        entry.2.sessionId = some id.bytes ∧
        ∃ response, Accepted entry.1.auth entry.2 id 0 initiation response state := by
  induction numbered generalizing pending with
  | nil => exact .inl found
  | cons entry rest ih =>
    obtain ⟨identity, draw⟩ := entry
    unfold tryIdentities at found
    split at found
    · exact .inl found
    · obtain before | ⟨entry, mem, started⟩ := ih found
      · obtain kept | started := lookup_tryRespond before
        · exact .inl kept
        · exact .inr ⟨(identity, draw), List.mem_cons_self, started⟩
      · exact .inr ⟨entry, List.mem_cons_of_mem _ mem, started⟩

/-- Identity `n` of `begin_initial` has draw `n`. -/
lemma mem_numbered {identities : List PeerIdentity} {draws : Nat → HandshakeDraw}
    {entry : PeerIdentity × HandshakeDraw}
    (mem : entry ∈ identities.zip ((List.range identities.length).map draws)) :
    ∃ n, identities[n]? = some entry.1 ∧ entry.2 = draws n := by
  obtain ⟨n, bound, rfl⟩ := List.mem_iff_getElem.1 mem
  refine ⟨n, ?_, ?_⟩
  · rw [List.getElem_zip, List.getElem?_eq_getElem]
  · rw [List.getElem_zip, List.getElem_map, List.getElem_range]

section
variable (pending : PendingHandshakes P) (endpoint : SocketAddr) (initiation : HandshakeMessage)
  (limit : Nat)

/-- `begin_initial` refuses, or answers for the identities or the authority too. -/
inductive InitialOutcome (identities : List PeerIdentity)
    (certificateAuthority : Option CertificateAuthorityConfig) (draws : Nat → HandshakeDraw) :
    PendingHandshakes P × List Packet → Prop
  | refused (full : maxPendingHandshakes ≤ pending.len ∨ limit ≤ pending.countFor endpoint) :
      InitialOutcome identities certificateAuthority draws (pending, [])
  | known (few : pending.len < maxPendingHandshakes) (room : pending.countFor endpoint < limit) :
      InitialOutcome identities certificateAuthority draws
        (tryIdentities endpoint initiation limit
          (identities.zip ((List.range identities.length).map draws)) pending)
  | authority (few : pending.len < maxPendingHandshakes) (room : pending.countFor endpoint < limit)
      (ca : CertificateAuthorityConfig) (auth : AuthConfig) (known : PendingHandshakes P × List Packet)
      (configured : certificateAuthority = some ca) (usable : ca.toAuthConfig = .ok auth)
      (eq : known = tryIdentities endpoint initiation limit
        (identities.zip ((List.range identities.length).map draws)) pending)
      (left : known.1.countFor endpoint < limit) :
      InitialOutcome identities certificateAuthority draws
        ((tryRespond known.1 endpoint initiation (.certificateAuthority ca) auth
            (draws identities.length)).1,
          known.2 ++ (tryRespond known.1 endpoint initiation (.certificateAuthority ca) auth
            (draws identities.length)).2)

lemma beginInitial_outcome (identities : List PeerIdentity)
    (certificateAuthority : Option CertificateAuthorityConfig) (draws : Nat → HandshakeDraw) :
    InitialOutcome pending endpoint initiation limit identities certificateAuthority draws
      (beginInitial identities certificateAuthority pending endpoint initiation limit draws) := by
  unfold beginInitial
  split
  · next full => exact .refused (.inl full)
  · next few =>
    have few := Nat.lt_of_not_le few
    split
    · next full => exact .refused (.inr full)
    · next room =>
      have room := Nat.lt_of_not_le room
      cases certificateAuthority with
      | none => exact .known few room
      | some ca =>
        simp only
        split
        · exact .known few room
        · next left =>
          split
          · exact .known few room
          · next auth usable =>
            exact .authority few room ca auth _ rfl usable rfl (Nat.lt_of_not_le left)

def rekeyEntry (current : ActivePeer P) (handshake : ResponderHandshake P)
    (response : HandshakeMessage) : PendingHandshake P where
  source := .known current.identity
  handshake := handshake
  endpoint := endpoint
  packet := handshakePacket .rekey current.session.keyPhase current.session.sessionId response
  kind := .rekey
  attempts := 1

/-- `begin_rekey` does nothing, or sends a response and keeps its entry. -/
inductive RekeyOutcome (current : ActivePeer P) (draw : HandshakeDraw) :
    PendingHandshakes P × List Packet → Prop
  | ignored : RekeyOutcome current draw (pending, [])
  | answered (handshake : ResponderHandshake P) (response : HandshakeMessage)
      (room : pending.countFor endpoint < limit)
      (phase : current.session.keyPhase.toNat ≠ 2 ^ 32 - 1)
      (accepted : ResponderHandshake.acceptForSession P current.identity.auth.identity
        current.identity.auth.verifier initiation current.session.sessionId
        (current.session.keyPhase + 1) draw.ephemeral draw.random = .ok (handshake, response)) :
      RekeyOutcome current draw
        (pending.insert current.session.sessionId (rekeyEntry endpoint current handshake response),
          [(rekeyEntry endpoint current handshake response).packet])

lemma beginRekey_outcome (current : ActivePeer P) (draw : HandshakeDraw) :
    RekeyOutcome pending endpoint initiation limit current draw
      (beginRekey pending endpoint current initiation limit draw) := by
  unfold beginRekey
  simp only
  split
  · exact .ignored
  · split
    · exact .ignored
    · next room =>
      split
      · exact .ignored
      · next phase =>
        split
        · exact .ignored
        · next handshake response accepted =>
          exact .answered handshake response (Nat.lt_of_not_le room) phase accepted

end

namespace ServerLoop
variable (setup : Setup) (env : Env) (s : ServerLoop P)

def CalmRound (s : ServerLoop P) (result : ServerLoop P × List (Output P)) : Prop :=
  Calm s.active (result.1.active, result.2)

lemma calm_stop : s.CalmRound s.stop :=
  .of_onlySends (sendEmpty_sends s.active .close s.active.keys).toOnlySends

lemma calm_dropSessions : s.CalmRound s.dropSessions :=
  ⟨.empty, (Calm.of_onlySends (sendEmpty_sends s.active .close s.active.keys).toOnlySends).outputs⟩

lemma calm_sends {s s' : ServerLoop P} {out : List (Output P)} (same : s'.active = s.active)
    (only : ∀ o ∈ out, ∃ endpoint packet, o = Output.send endpoint packet) :
    s.CalmRound (s', out) := by
  unfold CalmRound
  rw [same]
  exact .of_sends only

variable {peer : SocketAddr} {id : SessionId} {packet : Packet} {state : PendingHandshake P}

lemma mem_map_send {sent : List Packet} {o : Output P} (mem : o ∈ sent.map (Output.send peer)) :
    ∃ endpoint packet, o = Output.send endpoint packet := by
  obtain ⟨packet, _, rfl⟩ := List.mem_map.1 mem
  exact ⟨peer, packet, rfl⟩

section
variable (candidate : Option ServerConfig) (dnsReplaced : Bool) (now : Nat)

/-- A reload leaves the server alone, or it applies the candidate. -/
lemma reload_cases : ((s.reload setup candidate dnsReplaced now).1 ≠ .ok true ∧
        (s.reload setup candidate dnsReplaced now).2 = (s, [])) ∨
      ∃ next identities, candidate = some next ∧ next.validate setup.parser = .ok () ∧
        next.peerIdentities setup.parser = .ok identities ∧
        s.reload setup candidate dnsReplaced now = (.ok true, s.applyConfig next identities now) := by
  unfold reload
  split
  · exact .inl ⟨by simp, rfl⟩
  · next next =>
    simp only
    split
    · exact .inl ⟨by simp, rfl⟩
    · next valid =>
      split
      · exact .inl ⟨by simp, rfl⟩
      · split
        · exact .inl ⟨by simp, rfl⟩
        · split
          · exact .inl ⟨by simp, rfl⟩
          · next identities resolved =>
            split
            · exact .inl ⟨by simp, rfl⟩
            · exact .inr ⟨next, identities, rfl, valid, resolved, rfl⟩

lemma reloadConfig_cases : s.reloadConfig setup candidate dnsReplaced now = (s, []) ∨
      ∃ next identities, candidate = some next ∧ next.validate setup.parser = .ok () ∧
        next.peerIdentities setup.parser = .ok identities ∧
        s.reloadConfig setup candidate dnsReplaced now = s.applyConfig next identities now := by
  unfold reloadConfig
  obtain ⟨_, same⟩ | ⟨next, identities, read, valid, resolved, applied⟩ :=
    reload_cases setup s candidate dnsReplaced now
  · exact .inl same
  · exact .inr ⟨next, identities, read, valid, resolved, by rw [applied]⟩

end

@[simp] lemma applyLinks_active (next : ServerConfig) : (s.applyLinks next).active = s.active := by
  unfold applyLinks
  split
  · rfl
  · rfl

lemma applyLimits_derives (next : ServerConfig) (now : Nat) :
    Derives s.active (s.applyLimits next now).active := by
  unfold applyLimits
  split
  · exact .mapVal fun _ _ => ⟨rfl, rfl, rfl, rfl⟩
  · exact .refl _

lemma calm_applyConfig (next : ServerConfig) (identities : List PeerIdentity) (now : Nat) :
    s.CalmRound (s.applyConfig next identities now) := by
  unfold applyConfig
  cases s.authChanged next with
  | false =>
    have limits := applyLimits_derives (s.applyLinks next) next now
    rw [applyLinks_active] at limits
    exact .of_derives limits
  | true =>
    have limits := applyLimits_derives (s.dropSessions.1.applyLinks next) next now
    rw [applyLinks_active] at limits
    exact (calm_dropSessions s).andThen limits

lemma calm_reloadConfig (candidate : Option ServerConfig) (dnsReplaced : Bool) (now : Nat) :
    s.CalmRound (s.reloadConfig setup candidate dnsReplaced now) := by
  obtain same | ⟨next, identities, _, _, _, applied⟩ :=
    reloadConfig_cases setup s candidate dnsReplaced now
  · rw [same]
    exact .refl _
  · rw [applied]
    exact calm_applyConfig s next identities now

lemma sweepIdle_derivesBy {R : ActivePeer P → ActivePeer P → Prop} [Std.Refl R]
    [IsTrans (ActivePeer P) R] (now : Nat) : DerivesBy R s.active (s.sweepIdle setup now).active := by
  unfold sweepIdle
  split
  · exact .refl _
  · exact .eraseAll _

lemma routeInbound_links (active : ActivePeers P) (router : Router)
    (sender : SessionId) (kind : PacketKind) (payload : List UInt8) (wireBytes : Nat) :
    (routeInbound setup env router active sender kind payload wireBytes).1.links = router.links := by
  rw [routeInbound_router]
  split
  · exact Router.routeFrame_links ..
  · rfl

/-! What the branches of the loop leave alone. -/

lemma onInitiation_frame (peer : SocketAddr) (packet : Packet) : ∃ pending limiter,
    (s.onInitiation setup env peer packet).1 = { s with pending := pending, cookieLimiter := limiter } := by
  unfold onInitiation
  split
  · simp only
    split
    · exact ⟨_, _, rfl⟩
    · exact ⟨s.pending, _, rfl⟩
  · exact ⟨s.pending, s.cookieLimiter, rfl⟩

lemma onRekey_frame (peer : SocketAddr) (packet : Packet) :
    ∃ pending, (s.onRekey env peer packet).1 = { s with pending := pending } := by
  unfold onRekey
  split
  · exact ⟨s.pending, rfl⟩
  · split
    · exact ⟨s.pending, rfl⟩
    · split
      · exact ⟨s.pending, rfl⟩
      · split
        · exact ⟨_, rfl⟩
        · exact ⟨s.pending, rfl⟩

lemma acknowledgeFinish_frame (peer : SocketAddr) (id : SessionId) : ∃ active stopped,
    (s.acknowledgeFinish setup env peer id).1 = { s with active := active, stopped := stopped } := by
  unfold acknowledgeFinish
  split
  · exact ⟨s.active, s.stopped, rfl⟩
  · split
    · exact ⟨s.active, s.stopped, rfl⟩
    · split
      · exact ⟨s.active, s.stopped, rfl⟩
      · split
        · exact ⟨_, s.stopped, rfl⟩
        · exact ⟨_, _, rfl⟩

lemma onKeepalive_frame (peer : SocketAddr) (packet : Packet) :
    ∃ active, (s.onKeepalive env peer packet).1 = { s with active := active } := by
  unfold onKeepalive
  simp only
  split
  · exact ⟨s.active, rfl⟩
  · split
    · exact ⟨_, rfl⟩
    · split
      · exact ⟨_, rfl⟩
      · exact ⟨_, rfl⟩

lemma onData_frame (peer : SocketAddr) (packet : Packet) (wireBytes : Nat) :
    ∃ active router, router.links = s.router.links ∧
      (s.onData setup env peer packet wireBytes).1 = { s with active := active, router := router } := by
  unfold onData
  simp only
  split
  · exact ⟨s.active, s.router, rfl, rfl⟩
  · split
    · exact ⟨_, s.router, rfl, rfl⟩
    · split
      · exact ⟨_, _, Router.unregister_links .., rfl⟩
      · split
        · exact ⟨_, s.router, rfl, rfl⟩
        · exact ⟨_, _, routeInbound_links .., rfl⟩

lemma calm_onInitiation (peer : SocketAddr) (packet : Packet) :
    s.CalmRound (s.onInitiation setup env peer packet) := by
  unfold onInitiation
  split
  · simp only
    split
    · exact calm_sends rfl fun _ => mem_map_send
    · exact calm_sends rfl fun _ => mem_map_send
  · exact .refl _

lemma acknowledgeFinish_sends (peer : SocketAddr) (id : SessionId) :
    SteadySends s.active ((s.acknowledgeFinish setup env peer id).1.active,
      (s.acknowledgeFinish setup env peer id).2) := by
  unfold acknowledgeFinish
  split
  · exact .of_sending (.refl _)
  · split
    · exact .of_sending (.refl _)
    · have sealing := sealFor_sends s.active id .keepalive []
      cases out : sealFor s.active id .keepalive [] with
      | mk ack rest =>
        obtain ⟨active, record⟩ := rest
        rw [out] at sealing
        cases ack with
        | none => exact .of_sending (.refl _)
        | some ack =>
          simp only
          split
          · refine sealing.send fun o mem => ?_
            exact ⟨peer, ack, .inl (List.mem_singleton.1 mem)⟩
          · exact sealing.append (sendEmpty_sends active .close active.keys)

lemma calm_acknowledgeFinish (peer : SocketAddr) (id : SessionId) :
    s.CalmRound (s.acknowledgeFinish setup env peer id) :=
  .of_onlySends (acknowledgeFinish_sends setup env s peer id).toOnlySends

lemma calm_onRekey (peer : SocketAddr) (packet : Packet) :
    s.CalmRound (s.onRekey env peer packet) := by
  unfold onRekey
  split
  · exact .refl _
  · split
    · exact .refl _
    · split
      · exact .refl _
      · split
        · exact calm_sends rfl fun _ => mem_map_send
        · exact .refl _

variable {current : ActivePeer P} {limit : Nat}

/-- An opened session taken over, with the identity kept. -/
lemma derives_opened {active : ActivePeers P} {now : Nat}
    {result : Except SessionError (List UInt8)} {session : ProtectedSession P}
    (found : active.lookup id = some current)
    (opened : current.session.openPacket packet now = (result, session))
    {f : ActivePeer P → ActivePeer P} (identity : ∀ peer, (f peer).identity = peer.identity)
    (taken : ∀ peer, (f peer).session = session) : Derives active (HashMap.modify id f active) := by
  have keeps := keeps_openPacket opened
  refine .modify id fun other foundOther => ?_
  rw [found] at foundOther
  cases foundOther
  exact ⟨identity current, by rw [taken, keeps.sessionId], by rw [taken, keeps.keyPhase],
    by rw [taken, keeps.keys]⟩

/-- The table after an `open`. -/
def withSession (active : ActivePeers P) (id : SessionId)
    (session : ProtectedSession P) : ActivePeers P :=
  HashMap.modify id (fun peer => { peer with session := session }) active

lemma withSession_accrued (active : ActivePeers P) (id : SessionId)
    (session : ProtectedSession P) : Accrued active (withSession active id session) :=
  .modify id fun _ _ => .of_eq rfl rfl rfl

lemma withSession_sending {active : ActivePeers P} {session : ProtectedSession P}
    {f : ActivePeer P → ActivePeer P} (taken : ∀ peer, (f peer).session = session)
    (accrues : ∀ peer : ActivePeer P, peer.Accrues (f peer)) :
    Sending (withSession active id session) (HashMap.modify id f active) := by
  have related : ∀ peer : ActivePeer P, ActivePeer.Resumes { peer with session := session } (f peer) ∧
      ActivePeer.Accrues { peer with session := session } (f peer) :=
    fun peer => ⟨.of_eq (accrues peer).identity (taken peer), (accrues peer).identity,
      (accrues peer).limiter, (accrues peer).stats⟩
  refine ⟨⟨(keys_mapVal _ _).trans (keys_mapVal _ _).symm, ?_⟩, ?_⟩
  · exact .modify_both id fun peer _ => (related peer).1
  · exact .modify_both id fun peer _ => (related peer).2

/-- Up to its counters, a keepalive does what `open` does. -/
lemma onKeepalive_sending {peer : SocketAddr} {packet : Packet}
    (found : s.active.lookup packet.header.sessionId = some current) :
    Sending (withSession s.active packet.header.sessionId
      (current.session.openPacket packet env.clock.instant).2)
      (s.onKeepalive env peer packet).1.active := by
  cases opened : current.session.openPacket packet env.clock.instant with
  | mk result session =>
    cases result with
    | error e =>
      simp only [onKeepalive, found, opened]
      exact .refl _
    | ok plaintext =>
      simp only [onKeepalive, found, opened]
      generalize table : HashMap.modify packet.header.sessionId
        (fun p => { p with session := session, lastRx := env.clock.instant, endpoint := peer })
        s.active = updated
      have taken : Sending (withSession s.active packet.header.sessionId session) updated := by
        rw [← table]
        exact withSession_sending (fun _ => rfl) fun _ => .of_eq rfl rfl rfl
      have both := taken.trans (sealFor_sends updated packet.header.sessionId .keepalive []).sending
      cases out : sealFor updated packet.header.sessionId .keepalive [] with
      | mk reply rest =>
        rw [out] at both
        cases reply with
        | none => exact both
        | some reply => exact both

/-- Data may also end the session, and the limiter pays for it. -/
lemma onData_carries {peer : SocketAddr} {packet : Packet} {wireBytes : Nat}
    (found : s.active.lookup packet.header.sessionId = some current) :
    let opened := withSession s.active packet.header.sessionId
      (current.session.openPacket packet env.clock.instant).2
    CarriesOver opened (s.onData setup env peer packet wireBytes).1.active ∧
      DerivesBy ActivePeer.SameRate opened (s.onData setup env peer packet wireBytes).1.active := by
  cases opened : current.session.openPacket packet env.clock.instant with
  | mk result session =>
    cases result with
    | error e =>
      simp only [onData, found, opened]
      exact ⟨.refl _, .refl _⟩
    | ok plaintext =>
      simp only [onData, found, opened]
      generalize table : HashMap.modify packet.header.sessionId
        (fun p => { p with session := session, lastRx := env.clock.instant }) s.active = updated
      have taken : Steady (withSession s.active packet.header.sessionId session) updated := by
        rw [← table]
        exact Sending.steady (withSession_sending (fun _ => rfl) fun _ => .of_eq rfl rfl rfl)
      split
      · exact ⟨taken.carries.trans (.erase _), taken.rates.trans (.erase _)⟩
      · split
        · exact ⟨taken.carries, taken.rates⟩
        · have moved : Steady updated (HashMap.modify packet.header.sessionId
              (fun p => { p with endpoint := peer }) updated) :=
            .modify _ fun _ _ => ⟨.of_eq rfl rfl, rfl⟩
          have routed := (taken.trans moved).trans (routeInbound_spec _ setup env s.router
            packet.header.sessionId packet.header.kind plaintext wireBytes).1
          exact ⟨routed.carries, routed.rates⟩

lemma calm_onKeepalive (peer : SocketAddr) (packet : Packet) :
    s.CalmRound (s.onKeepalive env peer packet) := by
  unfold onKeepalive
  cases found : s.active.lookup packet.header.sessionId with
  | none =>
    simp only [found]
    exact .refl _
  | some current =>
    cases opened : current.session.openPacket packet env.clock.instant with
    | mk result session =>
      cases result with
      | error e =>
        simp only [found, opened]
        exact .of_derives (derives_opened found opened (fun _ => rfl) fun _ => rfl)
      | ok plaintext =>
        simp only [found, opened]
        generalize table : HashMap.modify packet.header.sessionId
          (fun p => { p with session := session, lastRx := env.clock.instant, endpoint := peer })
          s.active = updated
        have derives : Derives s.active updated := by
          rw [← table]
          exact derives_opened found opened (fun _ => rfl) fun _ => rfl
        have sealing := sealFor_sends updated packet.header.sessionId .keepalive []
        cases out : sealFor updated packet.header.sessionId .keepalive [] with
        | mk reply rest =>
          obtain ⟨active, record⟩ := rest
          rw [out] at sealing
          cases reply with
          | none => exact .of_derives (derives.trans sealing.table.derives)
          | some reply =>
            refine .after derives (.of_onlySends (sealing.toOnlySends.send fun o mem => ?_))
            exact ⟨peer, reply, .inl (List.mem_singleton.1 mem)⟩

lemma calm_routeInbound (router : Router) (active : ActivePeers P)
    (id : SessionId) (kind : PacketKind) (payload : List UInt8) (wireBytes : Nat) :
    Calm active (routeInbound setup env router active id kind payload wireBytes).2 := by
  obtain ⟨resumed, outputs⟩ := routeInbound_spec active setup env router id kind payload wireBytes
  refine ⟨resumed.derives, ?_⟩
  intro o mem
  obtain quiet | ⟨_, injected⟩ := outputs o mem
  · exact .inl quiet
  · right
    split at injected
    · unfold injectFrame at injected
      split at injected
      · obtain ⟨written, _, rfl⟩ := Option.map_eq_some_iff.1 (Option.mem_toList.1 injected)
        exact .inr ⟨written, rfl⟩
      · split at injected
        · obtain ⟨written, _, rfl⟩ := Option.map_eq_some_iff.1 (Option.mem_toList.1 injected)
          exact .inl ⟨written, rfl⟩
        · cases injected
    · unfold injectIp at injected
      split at injected
      · obtain ⟨written, _, rfl⟩ := Option.map_eq_some_iff.1 (Option.mem_toList.1 injected)
        exact .inl ⟨written, rfl⟩
      · cases injected

lemma calm_onData (peer : SocketAddr) (packet : Packet) (wireBytes : Nat) :
    s.CalmRound (s.onData setup env peer packet wireBytes) := by
  unfold onData
  cases found : s.active.lookup packet.header.sessionId with
  | none =>
    simp only [found]
    exact .refl _
  | some current =>
    cases opened : current.session.openPacket packet env.clock.instant with
    | mk result session =>
      cases result with
      | error e =>
        simp only [found, opened]
        exact .of_derives (derives_opened found opened (fun _ => rfl) fun _ => rfl)
      | ok plaintext =>
        simp only [found, opened]
        generalize table : HashMap.modify packet.header.sessionId
          (fun p => { p with session := session, lastRx := env.clock.instant }) s.active = updated
        have derives : Derives s.active updated := by
          rw [← table]
          exact derives_opened found opened (fun _ => rfl) fun _ => rfl
        split
        · exact .of_derives (derives.trans (.erase _))
        · split
          · exact .of_derives derives
          · have moved : Derives s.active (HashMap.modify packet.header.sessionId
                (fun p => { p with endpoint := peer }) updated) :=
              derives.trans (.modify _ fun _ _ => ⟨rfl, rfl, rfl, rfl⟩)
            exact .after moved (calm_routeInbound setup env s.router _ _ _ _ _)

/-- The server with a completed handshake, before it acknowledges. -/
def installed (s : ServerLoop P) (peer : SocketAddr) (packet : Packet)
    (identity : PeerIdentity) (session : ProtectedSession P) : ServerLoop P :=
  let (active, evicted) := install s.active identity session peer setup.rekeyGracePeriod
    setup.rxRateBytesPerSec env.clock.instant
  { s with
    pending := s.pending.remove packet.header.sessionId
    active := active
    router := registerNewPeers (evicted.foldl Router.unregister s.router) active }

/-- A finish completes a handshake, or at most its pending entry is gone. -/
lemma onFinish_cases (peer : SocketAddr) (packet : Packet) :
    (∃ pending, (pending = s.pending ∨ pending = s.pending.remove packet.header.sessionId) ∧
      s.onFinish setup env peer packet = acknowledgeFinish setup env
        { s with pending := pending, router := registerNewPeers s.router s.active } peer
        packet.header.sessionId) ∨
      ∃ state session remote identity,
        Completes setup.parser s.pending peer packet env.clock state session remote identity ∧
        s.onFinish setup env peer packet =
          ((acknowledgeFinish setup env (installed setup env s peer packet identity session) peer
            packet.header.sessionId).1,
          .installed (state.record session remote identity) ::
            (acknowledgeFinish setup env (installed setup env s peer packet identity session) peer
              packet.header.sessionId).2) := by
  unfold onFinish
  obtain ⟨pending, change, eq⟩ | ⟨state, session, remote, identity, completes⟩ :=
    finishPending_cases setup.parser s.pending s.active peer packet setup.rekeyGracePeriod
      setup.rxRateBytesPerSec env.clock
  · rw [eq]
    exact .inl ⟨pending, change, rfl⟩
  · rw [finishPending_of_completes completes]
    exact .inr ⟨state, session, remote, identity, completes, rfl⟩

/-- A completed session is in the table, even if the loop ends. -/
lemma lookup_onFinish {session : ProtectedSession P} {remote : Option (Bytes 32)}
    {identity : PeerIdentity}
    (completes : Completes setup.parser s.pending peer packet env.clock state session remote identity) :
    ∃ entry, (s.onFinish setup env peer packet).1.active.lookup session.sessionId = some entry ∧
      entry.session.sessionId = session.sessionId ∧ entry.session.keyPhase = session.keyPhase ∧
      entry.session.keys = session.keys := by
  obtain ⟨entry, found, _⟩ := lookup_install_self s.active identity session peer
    setup.rekeyGracePeriod setup.rxRateBytesPerSec env.clock.instant
  have sends := acknowledgeFinish_sends setup env (installed setup env s peer packet identity session)
    peer packet.header.sessionId
  obtain ⟨entry', found', keeps⟩ := sends.table.lookup found
  refine ⟨entry', ?_, ?_⟩
  · unfold onFinish
    rw [finishPending_of_completes completes]
    exact found'
  · obtain ⟨_, _, sessionId, keyPhase, keys⟩ | ⟨other, _⟩ := lookup_install found
    · rw [keeps.sessionId, keeps.keyPhase, keeps.keys]
      exact ⟨sessionId, keyPhase, keys⟩
    · exact absurd rfl other

lemma step_finish {event : Event} (running : s.stopped = false)
    (arrives : event.Arrives P setup peer packet) (first : packet.header.sequence = 1)
    (kind : packet.header.kind = .handshake ∨ packet.header.kind = .rekey) :
    step setup s (event, env) = onFinish setup env { s with recvErrors := 0 } peer packet := by
  obtain ⟨payload, rfl, decoded⟩ := arrives
  simp only [step, running, Bool.false_eq_true, if_false, decoded, onPacket]
  cases kind with
  | inl kind =>
    have later : ¬ (packet.header.sequence = 0 ∧ packet.header.sessionId = SessionId.zero) := by
      rw [first]
      exact fun zero => absurd zero.1 (by decide)
    simp only [kind, if_neg later, if_pos first]
  | inr kind => simp only [kind, if_pos first]

/-- The results of one round, by what it was about. -/
inductive Round (event : Event) : ServerLoop P × List (Output P) → Prop
  | idle (recvErrors : Nat) : Round event ({ s with recvErrors := recvErrors }, [])
  | stop (recvErrors : Nat) : Round event (stop { s with recvErrors := recvErrors })
  | reload (candidate : Option ServerConfig) (dnsReplaced : Bool) :
      Round event (s.reloadConfig setup candidate dnsReplaced env.clock.instant)
  | retry :
      Round event ({ s with
          pending := (retransmitPending s.pending s.config.handshake.retryLimit.toNat).1 },
        (retransmitPending s.pending s.config.handshake.retryLimit.toNat).2.map fun entry =>
          .send entry.1 entry.2)
  | sweep : Round event (s.sweepIdle setup env.clock.instant, [])
  | keepalives :
      Round event ({ s with active := (sendKeepalives s.active).1 }, (sendKeepalives s.active).2)
  | delay (id : SessionId) (delay : Nat) :
      Round event ({ s with
          active := HashMap.modify id
            (fun peer => { peer with stats := peer.stats.recordQueueDelay delay }) s.active }, [])
  | outbound (kind : PacketKind) (payload : List UInt8) (targets : List SessionId) :
      Round event ({ s with active := (sendToAll setup env kind payload targets 0 s.active).1 },
        (sendToAll setup env kind payload targets 0 s.active).2)
  | initiation (peer : SocketAddr) (packet : Packet) :
      Round event (onInitiation setup env { s with recvErrors := 0 } peer packet)
  | finish (peer : SocketAddr) (packet : Packet) (arrives : event.Arrives P setup peer packet)
      (first : packet.header.sequence = 1) :
      Round event (onFinish setup env { s with recvErrors := 0 } peer packet)
  | rekey (peer : SocketAddr) (packet : Packet) :
      Round event (onRekey env { s with recvErrors := 0 } peer packet)
  | keepalive (peer : SocketAddr) (packet : Packet) :
      Round event (onKeepalive env { s with recvErrors := 0 } peer packet)
  | data (peer : SocketAddr) (packet : Packet) (wireBytes : Nat) :
      Round event (onData setup env { s with recvErrors := 0 } peer packet wireBytes)

lemma round_onPacket {event : Event} (arrives : event.Arrives P setup peer packet)
    (wireBytes : Nat) :
    Round setup env s event (onPacket setup env { s with recvErrors := 0 } peer packet wireBytes) := by
  unfold onPacket
  split
  · split
    · exact .initiation peer packet
    · split
      · next first => exact .finish peer packet arrives first
      · exact .idle 0
  · split
    · next first => exact .finish peer packet arrives first
    · exact .rekey peer packet
  · exact .keepalive peer packet
  · exact .data peer packet wireBytes

lemma round_step (event : Event × Env) : Round setup event.2 s event.1 (step setup s event) := by
  obtain ⟨event, env⟩ := event
  unfold step
  simp only
  split
  · exact .idle s.recvErrors
  · cases event with
    | shutdown => exact .stop s.recvErrors
    | reload candidate dnsReplaced => exact .reload candidate dnsReplaced
    | retry => exact .retry
    | sweep => exact .sweep
    | keepaliveDue => exact .keepalives
    | dequeued key delay =>
      simp only
      split
      · exact .idle s.recvErrors
      · next entry _ => exact .delay entry.1 delay
    | tunPacket packet =>
      simp only
      split
      · exact .idle s.recvErrors
      · next target _ =>
        have one : Round setup env s (.tunPacket packet) _ := .outbound .data packet [target]
        simpa only [sendToAll, List.append_nil] using one
    | tapFrame frame => exact .outbound .dataTap frame _
    | deviceFailed => exact .stop s.recvErrors
    | receiveFailed =>
      simp only
      split
      · exact .stop (s.recvErrors + 1)
      · exact .idle (s.recvErrors + 1)
    | datagram peer payload =>
      simp only
      split
      · exact .idle 0
      · next packet decoded => exact round_onPacket setup env s ⟨payload, rfl, decoded⟩ _

def after (setup : Setup) (s : ServerLoop P) (events : List (Event × Env)) : ServerLoop P :=
  run (fun s event => (ServerLoop.step setup s event).1) s events

lemma acknowledgeFinish_pending (peer : SocketAddr) (id : SessionId) :
    (s.acknowledgeFinish setup env peer id).1.pending = s.pending := by
  obtain ⟨_, _, eq⟩ := acknowledgeFinish_frame setup env s peer id
  rw [eq]

/-- A round is calm, or completes a handshake and is calm from there on. -/
theorem step_active (event : Event × Env) : s.CalmRound (step setup s event) ∨
      ∃ peer packet state session remote identity,
        event.1.Arrives P setup peer packet ∧ packet.header.sequence = 1 ∧
        Completes setup.parser s.pending peer packet event.2.clock state session remote identity ∧
        (step setup s event).1.pending = s.pending.remove packet.header.sessionId ∧
        ∃ out, (step setup s event).2 = .installed (state.record session remote identity) :: out ∧
          Calm (install s.active identity session peer setup.rekeyGracePeriod setup.rxRateBytesPerSec
            event.2.clock.instant).1 ((step setup s event).1.active, out) := by
  have round := round_step setup s event
  generalize step setup s event = result at round
  cases round with
  | idle recvErrors => exact .inl (.refl _)
  | stop recvErrors => exact .inl (calm_stop _)
  | reload candidate dnsReplaced => exact .inl (calm_reloadConfig setup s _ _ _)
  | retry =>
    refine .inl (calm_sends rfl fun o mem => ?_)
    obtain ⟨entry, _, rfl⟩ := List.mem_map.1 mem
    exact ⟨_, _, rfl⟩
  | sweep => exact .inl (.of_derives (sweepIdle_derivesBy setup s _))
  | keepalives => exact .inl (.of_onlySends (sendEmpty_sends s.active .keepalive _).toOnlySends)
  | delay id delay => exact .inl (.of_derives (.modify id fun _ _ => ⟨rfl, rfl, rfl, rfl⟩))
  | outbound kind payload targets =>
    exact .inl (.of_onlySends
      (sendToAll_sends s.active setup event.2 kind payload targets 0).toOnlySends)
  | initiation peer packet =>
    exact .inl (calm_onInitiation setup event.2 { s with recvErrors := 0 } peer packet)
  | finish peer packet arrives first =>
    obtain ⟨pending, _, eq⟩ | ⟨state, session, remote, identity, completes, eq⟩ :=
      onFinish_cases setup event.2 { s with recvErrors := 0 } peer packet
    · rw [eq]
      exact .inl (calm_acknowledgeFinish setup event.2
        { s with
          recvErrors := 0
          pending := pending
          router := registerNewPeers s.router s.active } peer _)
    · rw [eq]
      have calm := calm_acknowledgeFinish setup event.2
        (installed setup event.2 { s with recvErrors := 0 } peer packet identity session) peer
        packet.header.sessionId
      exact .inr ⟨peer, packet, state, session, remote, identity, arrives, first, completes,
        acknowledgeFinish_pending setup event.2 _ peer _, _, rfl, calm⟩
  | rekey peer packet => exact .inl (calm_onRekey event.2 { s with recvErrors := 0 } peer packet)
  | keepalive peer packet =>
    exact .inl (calm_onKeepalive event.2 { s with recvErrors := 0 } peer packet)
  | data peer packet wireBytes =>
    exact .inl (calm_onData setup event.2 { s with recvErrors := 0 } peer packet wireBytes)

lemma started_beginInitial {initiation : HandshakeMessage}
    (found : (beginInitial s.identities s.certificateAuthority s.pending peer initiation limit
      env.draw).1.entries.lookup id = some state) :
    s.pending.entries.lookup id = some state ∨ Started s env id state := by
  -- the entries of the loop over the identities, then the one of the authority
  have loop : ∀ {state : PendingHandshake P}, (tryIdentities peer initiation limit
        (s.identities.zip ((List.range s.identities.length).map env.draw))
        s.pending).1.entries.lookup id = some state →
      s.pending.entries.lookup id = some state ∨ Started s env id state := by
    intro state found
    obtain kept | ⟨entry, mem, kind, source, drawn, response, accepted⟩ := lookup_tryIdentities found
    · exact .inl kept
    · obtain ⟨n, listed, eq⟩ := mem_numbered mem
      rw [eq] at drawn accepted
      exact .inr (.known entry.1 n initiation response (List.mem_of_getElem? listed) kind source
        drawn accepted)
  have outcome := beginInitial_outcome s.pending peer initiation limit s.identities
    s.certificateAuthority env.draw
  generalize beginInitial s.identities s.certificateAuthority s.pending peer initiation limit
    env.draw = result at outcome found
  cases outcome with
  | refused => exact .inl found
  | known => exact loop found
  | authority _ _ ca auth known configured usable eq =>
    subst eq
    obtain before | ⟨kind, source, drawn, response, accepted⟩ := lookup_tryRespond found
    · exact loop before
    · exact .inr (.authority ca auth _ initiation response configured kind source usable drawn
        accepted)

lemma started_beginRekey {key id : SessionId} {initiation : HandshakeMessage}
    (active : s.active.lookup key = some current)
    (found : (beginRekey s.pending peer current initiation limit (env.draw 0)).1.entries.lookup id =
      some state) : s.pending.entries.lookup id = some state ∨ Started s env id state := by
  have outcome := beginRekey_outcome s.pending peer initiation limit current (env.draw 0)
  generalize beginRekey s.pending peer current initiation limit (env.draw 0) = result
    at outcome found
  cases outcome with
  | ignored => exact .inl found
  | answered handshake response _ phase accepted =>
    obtain ⟨_, kept⟩ | ⟨rfl, rfl⟩ := lookup_pending_insert found
    · exact .inl kept
    · exact .inr (.rekey key current initiation response active rfl rfl rfl phase ⟨accepted⟩)

lemma lookup_retransmitPending {pending : PendingHandshakes P}
    (found : (retransmitPending pending limit).1.entries.lookup id = some state) :
    ∃ old, pending.entries.lookup id = some old ∧ old.Continues state := by
  simp only [retransmitPending, PendingHandshakes.retain, lookup_mapVal,
    lookup_retain] at found
  obtain ⟨old, kept, rfl⟩ := Option.map_eq_some_iff.1 found
  obtain ⟨before, _⟩ := Option.filter_eq_some_iff.1 kept
  exact ⟨old, before, old.attempts + 1, rfl⟩

lemma onInitiation_pending
    (found : (s.onInitiation setup env peer packet).1.pending.entries.lookup id = some state) :
    s.pending.entries.lookup id = some state ∨ Started s env id state := by
  unfold onInitiation at found
  split at found
  · simp only at found
    split at found
    · exact started_beginInitial env s found
    · exact .inl found
  · exact .inl found

lemma onFinish_pending
    (found : (s.onFinish setup env peer packet).1.pending.entries.lookup id = some state) :
    s.pending.entries.lookup id = some state := by
  obtain ⟨pending, same | removed, eq⟩ | ⟨_, session, _, identity, _, eq⟩ :=
    onFinish_cases setup env s peer packet
  · rw [eq, acknowledgeFinish_pending, same] at found
    exact found
  · rw [eq, acknowledgeFinish_pending, removed] at found
    exact (lookup_pending_remove found).2
  · rw [eq, acknowledgeFinish_pending] at found
    exact (lookup_pending_remove found).2

lemma onRekey_pending
    (found : (s.onRekey env peer packet).1.pending.entries.lookup id = some state) :
    s.pending.entries.lookup id = some state ∨ Started s env id state := by
  unfold onRekey at found
  split at found
  · exact .inl found
  · next current active =>
    split at found
    · exact .inl found
    · split at found
      · exact .inl found
      · split at found
        · exact started_beginRekey env s active found
        · exact .inl found

lemma applyConfig_pending {next : ServerConfig} {identities : List PeerIdentity} {now : Nat}
    (found : (s.applyConfig next identities now).1.pending.entries.lookup id = some state) :
    s.pending.entries.lookup id = some state := by
  have kept : ∀ s : ServerLoop P, ((s.applyLinks next).applyLimits next now).pending = s.pending := by
    intro s
    unfold applyLimits applyLinks
    split
    · split
      · rfl
      · rfl
    · split
      · rfl
      · rfl
  unfold applyConfig at found
  cases changed : s.authChanged next with
  | false =>
    simp only [changed, Bool.false_eq_true, if_false, kept] at found
    exact found
  | true =>
    simp only [changed, if_true, kept] at found
    cases found

/-- A pending entry after a round continues one, or the round started it. -/
theorem step_pending {event : Event × Env}
    (found : (step setup s event).1.pending.entries.lookup id = some state) :
    (∃ old, s.pending.entries.lookup id = some old ∧ old.Continues state) ∨
      Started s event.2 id state := by
  have kept : s.pending.entries.lookup id = some state →
      (∃ old, s.pending.entries.lookup id = some old ∧ old.Continues state) ∨
        Started s event.2 id state :=
    fun before => .inl ⟨state, before, .refl state⟩
  have round := round_step setup s event
  generalize step setup s event = result at round found
  have again : ∀ {state : PendingHandshake P}, Started { s with recvErrors := 0 } event.2 id state →
      Started s event.2 id state := by
    intro state started
    cases started with
    | known identity n initiation response configured kind source drawn accepted =>
      exact .known identity n initiation response configured kind source drawn accepted
    | authority ca auth n initiation response configured kind source usable drawn accepted =>
      exact .authority ca auth n initiation response configured kind source usable drawn accepted
    | rekey key current initiation response active same kind source room accepted =>
      exact .rekey key current initiation response active same kind source room accepted
  cases round with
  | idle recvErrors => exact kept found
  | stop recvErrors => exact kept found
  | reload candidate dnsReplaced =>
    obtain same | ⟨next, identities, _, _, _, applied⟩ :=
      reloadConfig_cases setup s candidate dnsReplaced event.2.clock.instant
    · rw [same] at found
      exact kept found
    · rw [applied] at found
      exact kept (applyConfig_pending s found)
  | retry => exact .inl (lookup_retransmitPending found)
  | sweep =>
    unfold sweepIdle at found
    split at found
    · exact kept found
    · exact kept found
  | keepalives => exact kept found
  | delay id delay => exact kept found
  | outbound kind payload targets => exact kept found
  | initiation peer packet =>
    exact (onInitiation_pending setup event.2 { s with recvErrors := 0 } found).elim kept
      fun started => .inr (again started)
  | finish peer packet arrives first =>
    exact kept (onFinish_pending setup event.2 { s with recvErrors := 0 } found)
  | rekey peer packet =>
    exact (onRekey_pending event.2 { s with recvErrors := 0 } found).elim kept
      fun started => .inr (again started)
  | keepalive peer packet =>
    obtain ⟨_, eq⟩ := onKeepalive_frame event.2 { s with recvErrors := 0 } peer packet
    rw [eq] at found
    exact kept found
  | data peer packet wireBytes =>
    obtain ⟨_, _, _, eq⟩ := onData_frame setup event.2 { s with recvErrors := 0 } peer packet wireBytes
    rw [eq] at found
    exact kept found

end ServerLoop
end Rvpn.Server
