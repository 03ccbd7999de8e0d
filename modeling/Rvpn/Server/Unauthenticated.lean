import Rvpn.Server.Registry

/-!
# Datagrams that do not authenticate

A datagram authenticates when a session opens its packet, or when its packet completes a pending
handshake. All other datagrams leave the router and the active sessions alone, except for the counters
of sealed packets: the server acknowledges every packet that looks like a finish of an active session
and comes from its endpoint. If that acknowledgment cannot be obfuscated, for want of random bytes, the
loop ends.
-/

namespace Rvpn.Server
open Config Crypto Interface Protocol Routing

variable {P : Primitives}

/-- The peer with another counter of sealed packets. -/
def ActivePeer.withSequence (peer : ActivePeer P) (next : UInt64) : ActivePeer P :=
  { peer with session := { peer.session with nextSendSequence := next } }

/-- The table with other send counters, and nothing else changed. -/
def reseal (next : SessionId → UInt64) (active : ActivePeers P) : ActivePeers P :=
  HashMap.mapVal (fun id peer => peer.withSequence (next id)) active

def sequences (active : ActivePeers P) (id : SessionId) : UInt64 :=
  (active.lookup id).elim 0 fun peer => peer.session.nextSendSequence

variable (active : ActivePeers P)

lemma sequences_of_lookup {active : ActivePeers P} {id : SessionId}
    {peer : ActivePeer P} (found : active.lookup id = some peer) :
    sequences active id = peer.session.nextSendSequence := by
  rw [sequences, found, Option.elim_some]

lemma reseal_sequences : reseal (sequences active) active = active := by
  refine HashMap.mapVal_eq_self fun id peer found => ?_
  rw [sequences_of_lookup found]
  rfl

lemma sealFor_reseal (id : SessionId) (kind : PacketKind) (plaintext : List UInt8) :
    ∃ n, (sealFor active id kind plaintext).2.1 =
      reseal (Function.update (sequences active) id n) active := by
  have kept : active = reseal (Function.update (sequences active) id (sequences active id)) active := by
    rw [Function.update_eq_self, reseal_sequences]
  unfold sealFor
  split
  · exact ⟨_, kept⟩
  · next peer found =>
    split
    · exact ⟨_, kept⟩
    · next packet session sealed =>
      obtain ⟨_, _, _, _, rfl⟩ := ProtectedSession.sealPacket_ok sealed
      refine ⟨peer.session.nextSendSequence + 1, ?_⟩
      simp only [HashMap.modify, reseal]
      apply HashMap.mapVal_congr
      intro id' peer' found'
      by_cases same : id' = id
      · subst same
        rw [found] at found'
        cases found'
        rw [if_pos rfl, Function.update_self]
        rfl
      · rw [if_neg same, Function.update_of_ne same, sequences_of_lookup found']
        rfl

/-- A router that knows all sessions of the table registers none. -/
lemma registerNewPeers_eq_self {router : Router}
    (registered : ∀ id, router.registration id = none → identification active id = none) :
    registerNewPeers router active = router := by
  have all : ∀ entry ∈ active.toPairs, router.contains entry.1 = true := by
    intro entry mem
    refine (router.contains_iff _).2 fun unknown => ?_
    have none := registered _ unknown
    rw [identification, HashMap.mem_toPairs.1 mem] at none
    cases none
  unfold registerNewPeers
  generalize active.toPairs = entries at all
  induction entries with
  | nil => rfl
  | cons entry rest ih =>
    rw [List.foldl_cons, if_pos (all entry List.mem_cons_self)]
    exact ih fun other mem => all other (List.mem_cons_of_mem _ mem)

namespace ServerLoop

/-- The router knows all active sessions. -/
def Registered (s : ServerLoop P) : Prop :=
  ∀ id, s.router.registration id = none → identification s.active id = none

variable (setup : Setup) (env : Env) {s s' : ServerLoop P}

variable {id : SessionId} {peer : SocketAddr}

lemma Registered.of_parallel (h : s.Registered) (parallel : s.Parallel s') : s'.Registered := by
  intro id unknown
  obtain ⟨active, router⟩ | ⟨gone, _⟩ := parallel id
  · rw [active]
    exact h id (router ▸ unknown)
  · exact gone

lemma registered_of_registerNewPeers {router : Router}
    (eq : s.router = registerNewPeers router s.active) : s.Registered := by
  intro id unknown
  rw [eq, registration_registerNewPeers] at unknown
  exact (Option.or_eq_none_iff.1 unknown).2

lemma Registered.step (h : s.Registered) (event : Event × Env) : (step setup s event).1.Registered := by
  cases rounds_step setup s event with
  | parallel parallel => exact h.of_parallel parallel
  | refused t parallel active router =>
    exact (registered_of_registerNewPeers (active ▸ router)).of_parallel parallel
  | completed peer packet state session remote identity completes parallel =>
    exact (registered_of_registerNewPeers (installed_router ..)).of_parallel parallel

lemma registered_run (config : ServerConfig) (identities : List PeerIdentity)
    (ca : Option CertificateAuthorityConfig) (events : List (Event × Env)) :
    ((start P config identities ca).after setup events).Registered := by
  exact run_invariant' (fun _ _ => rfl) fun s event h => h.step setup event

/-- A session opens the datagram's packet, or it completes a handshake. -/
def Authenticates (s : ServerLoop P) (peer : SocketAddr) (payload : List UInt8) : Prop :=
  ∃ packet, decodeDatagram P setup.obfuscation payload = some packet ∧
    if packet.header.kind = .handshake ∨ packet.header.kind = .rekey then
      packet.header.sequence = 1 ∧
        (finishPending setup.parser s.pending s.active peer packet setup.rekeyGracePeriod
          setup.rxRateBytesPerSec env.clock).installed.isSome = true
    else
      ∃ found plaintext, s.active.lookup packet.header.sessionId = some found ∧
        (found.session.openPacket packet env.clock.instant).1 = .ok plaintext

/-- Only pending handshakes, limiter, errors and acknowledged counters change. -/
def Undisturbed (s : ServerLoop P) (acknowledged : SessionId → ActivePeer P → Prop)
    (s' : ServerLoop P) : Prop :=
  ∃ pending cookieLimiter recvErrors next,
    s' = { s with
      pending := pending
      cookieLimiter := cookieLimiter
      recvErrors := recvErrors
      active := reseal next s.active } ∧
    ∀ id found, s.active.lookup id = some found → next id ≠ found.session.nextSendSequence →
      acknowledged id found

/-- Obfuscation is off, or the system has random bytes. -/
def Obfuscates : Prop :=
  setup.obfuscation = none ∨ (env.wrap 0).isSome = true

variable {acknowledged : SessionId → ActivePeer P → Prop} {packet : Packet}

lemma undisturbed_of_same (pending : PendingHandshakes P) (cookieLimiter : CookieChallengeLimiter)
    (recvErrors : Nat) : Undisturbed s acknowledged
      { s with pending := pending, cookieLimiter := cookieLimiter, recvErrors := recvErrors } := by
  refine ⟨pending, cookieLimiter, recvErrors, sequences s.active, ?_, ?_⟩
  · rw [reseal_sequences]
  · intro id found known moved
    exact absurd (sequences_of_lookup known) moved

lemma Undisturbed.stopped {s' : ServerLoop P} (h : Undisturbed s acknowledged s') :
    s'.stopped = s.stopped := by
  obtain ⟨_, _, _, _, rfl, _⟩ := h
  rfl

lemma undisturbed_acknowledgeFinish (s : ServerLoop P) (peer : SocketAddr) (id : SessionId)
    (obfuscates : ∀ found, s.active.lookup id = some found → found.endpoint = peer →
      found.session.nextSendSequence.toNat ≠ 2 ^ 64 - 1 → Obfuscates setup env) :
    Undisturbed s (fun id' found => id' = id ∧ found.endpoint = peer)
      (s.acknowledgeFinish setup env peer id).1 := by
  have kept : Undisturbed s (fun id' found => id' = id ∧ found.endpoint = peer) s :=
    undisturbed_of_same s.pending s.cookieLimiter s.recvErrors
  unfold acknowledgeFinish
  cases known : s.active.lookup id with
  | none => exact kept
  | some found =>
    simp only
    split
    · exact kept
    · next endpoint =>
      have endpoint : found.endpoint = peer := not_not.1 endpoint
      obtain ⟨n, resealed⟩ := sealFor_reseal s.active id .keepalive []
      cases out : sealFor s.active id .keepalive [] with
      | mk ack rest =>
        obtain ⟨active, record⟩ := rest
        rw [out] at resealed
        simp only at resealed
        subst resealed
        cases ack with
        | none => exact kept
        | some ack =>
          simp only
          cases wrapped : wrap P setup.obfuscation (env.wrap 0) ack.encode with
          | ok wire =>
            refine ⟨_, _, _, _, rfl, ?_⟩
            intro id' found' known' moved
            by_cases same : id' = id
            · subst same
              rw [known] at known'
              cases known'
              exact ⟨rfl, endpoint⟩
            · rw [Function.update_of_ne same] at moved
              exact absurd (sequences_of_lookup known') moved
          | error e =>
            -- the packet was sealed, so the counter was not exhausted
            obtain ⟨on, refused⟩ := wrap_error wrapped
            have left : found.session.nextSendSequence.toNat ≠ 2 ^ 64 - 1 := by
              simp only [sealFor, known] at out
              split at out
              · cases out
              · next packet session sealed => exact (ProtectedSession.sealPacket_ok sealed).2.1
            obtain off | drawn := obfuscates found known endpoint left
            · rw [off] at on
              cases on
            · rw [refused] at drawn
              cases drawn

/-- An acknowledgment that cannot be obfuscated ends the loop. -/
lemma acknowledgeFinish_stops (seals : ∀ k n a m, ∃ c, P.aeadSeal k n a m = some c)
    {found : ActivePeer P} (known : s.active.lookup id = some found) (endpoint : found.endpoint = peer)
    (left : found.session.nextSendSequence.toNat ≠ 2 ^ 64 - 1) (refused : ¬ Obfuscates setup env) :
    (s.acknowledgeFinish setup env peer id).1.stopped = true := by
  obtain ⟨on, none⟩ := not_or.1 refused
  obtain ⟨key, on⟩ := Option.ne_none_iff_exists'.1 on
  rw [Option.not_isSome_iff_eq_none] at none
  obtain ⟨payload, sealing⟩ := seals found.session.keys.send
    (packetNonce found.session.keyPhase found.session.nextSendSequence)
    (Header.encode ⟨.keepalive, found.session.keyPhase, found.session.nextSendSequence,
      found.session.sessionId⟩) []
  have sealed : ∃ packet session, found.session.sealPacket .keepalive [] = (.ok packet, session) := by
    unfold ProtectedSession.sealPacket
    rw [if_neg (by decide), if_neg left]
    simp only [cryptSeal_ok.2 sealing, SessionKeys.sealWith]
    exact ⟨_, _, rfl⟩
  obtain ⟨packet, session, sealed⟩ := sealed
  unfold acknowledgeFinish sealFor
  simp only [known, endpoint, ne_eq, not_true_eq_false, if_false, sealed, on, none]
  rfl

lemma onFinish_refused
    (none : (finishPending setup.parser s.pending s.active peer packet setup.rekeyGracePeriod
      setup.rxRateBytesPerSec env.clock).installed = none) :
    ∃ pending, s.onFinish setup env peer packet = acknowledgeFinish setup env
      { s with pending := pending, router := registerNewPeers s.router s.active } peer
      packet.header.sessionId := by
  unfold onFinish
  obtain ⟨pending, _, eq⟩ | ⟨_, _, _, _, completes⟩ :=
    finishPending_cases setup.parser s.pending s.active peer packet setup.rekeyGracePeriod
      setup.rxRateBytesPerSec env.clock
  · rw [eq]
    exact ⟨pending, rfl⟩
  · rw [finishPending_of_completes completes] at none
    cases none

lemma undisturbed_onInitiation (peer : SocketAddr) (packet : Packet) : Undisturbed s acknowledged
      (onInitiation setup env { s with recvErrors := 0 } peer packet).1 := by
  obtain ⟨pending, limiter, eq⟩ := onInitiation_frame setup env { s with recvErrors := 0 } peer packet
  rw [eq]
  exact undisturbed_of_same pending limiter 0

lemma undisturbed_onRekey (peer : SocketAddr) (packet : Packet) :
    Undisturbed s acknowledged (onRekey env { s with recvErrors := 0 } peer packet).1 := by
  obtain ⟨pending, eq⟩ := onRekey_frame env { s with recvErrors := 0 } peer packet
  rw [eq]
  exact undisturbed_of_same pending s.cookieLimiter 0

def Unopened (s : ServerLoop P) (packet : Packet) : Prop :=
  ¬ ∃ found plaintext, s.active.lookup packet.header.sessionId = some found ∧
    (found.session.openPacket packet env.clock.instant).1 = .ok plaintext

/-- A session that does not open the packet is left as it is. -/
lemma Unopened.refused {found : ActivePeer P} (unopened : s.Unopened env packet)
    (known : s.active.lookup packet.header.sessionId = some found) :
    ∃ e session, found.session.openPacket packet env.clock.instant = (.error e, session) ∧
      HashMap.modify packet.header.sessionId (fun p => { p with session := session }) s.active =
        s.active := by
  cases opened : found.session.openPacket packet env.clock.instant with
  | mk result session =>
    cases result with
    | ok plaintext => exact absurd ⟨found, plaintext, known, by rw [opened]⟩ unopened
    | error e =>
      refine ⟨e, session, rfl, HashMap.modify_eq_self fun other known' => ?_⟩
      rw [known] at known'
      cases known'
      rw [ProtectedSession.openPacket_refused opened]

lemma onKeepalive_unopened (peer : SocketAddr) (unopened : s.Unopened env packet) :
    (s.onKeepalive env peer packet).1 = s := by
  unfold onKeepalive
  cases known : s.active.lookup packet.header.sessionId with
  | none => simp only [known]
  | some found =>
    obtain ⟨e, session, opened, same⟩ := unopened.refused env known
    simp only [known, opened, same]

lemma onData_unopened (peer : SocketAddr) (wireBytes : Nat) (unopened : s.Unopened env packet) :
    (s.onData setup env peer packet wireBytes).1 = s := by
  unfold onData
  cases known : s.active.lookup packet.header.sessionId with
  | none => simp only [known]
  | some found =>
    obtain ⟨e, session, opened, same⟩ := unopened.refused env known
    simp only [known, opened, same]

/-- A packet that completes nothing, with all sessions registered. -/
lemma onFinish_acknowledges (registered : s.Registered)
    (refused : (finishPending setup.parser s.pending s.active peer packet setup.rekeyGracePeriod
      setup.rxRateBytesPerSec env.clock).installed = none) :
    ∃ pending, onFinish setup env { s with recvErrors := 0 } peer packet =
      acknowledgeFinish setup env { s with recvErrors := 0, pending := pending } peer
        packet.header.sessionId := by
  have refused' : (finishPending setup.parser { s with recvErrors := 0 }.pending
      { s with recvErrors := 0 }.active peer packet setup.rekeyGracePeriod
      setup.rxRateBytesPerSec env.clock).installed = none := refused
  obtain ⟨pending, eq⟩ := onFinish_refused setup env refused'
  refine ⟨pending, ?_⟩
  rw [eq, registerNewPeers_eq_self s.active registered]

/-- The sessions that a packet of the handshake acknowledges. -/
def AcknowledgedBy (peer : SocketAddr) (packet : Packet) (id : SessionId) (found : ActivePeer P) :
    Prop :=
  found.endpoint = peer ∧ (packet.header.kind = .handshake ∨ packet.header.kind = .rekey) ∧
    packet.header.sequence = 1 ∧ packet.header.sessionId = id

lemma undisturbed_onPacket (registered : s.Registered) (peer : SocketAddr) (packet : Packet)
    (wireBytes : Nat) (refused : packet.header.kind = .handshake ∨ packet.header.kind = .rekey →
      packet.header.sequence = 1 → (finishPending setup.parser s.pending s.active peer packet
        setup.rekeyGracePeriod setup.rxRateBytesPerSec env.clock).installed = none)
    (unopened : ¬ (packet.header.kind = .handshake ∨ packet.header.kind = .rekey) →
      ServerLoop.Unopened env { s with recvErrors := 0 } packet)
    (obfuscates : ∀ id found, s.active.lookup id = some found → AcknowledgedBy peer packet id found →
      found.session.nextSendSequence.toNat ≠ 2 ^ 64 - 1 → Obfuscates setup env) :
    Undisturbed s (AcknowledgedBy peer packet)
      (onPacket setup env { s with recvErrors := 0 } peer packet wireBytes).1 := by
  have finished : packet.header.kind = .handshake ∨ packet.header.kind = .rekey →
      packet.header.sequence = 1 → Undisturbed s (AcknowledgedBy peer packet)
        (onFinish setup env { s with recvErrors := 0 } peer packet).1 := by
    intro kind first
    obtain ⟨pending, eq⟩ := onFinish_acknowledges setup env registered (refused kind first)
    obtain ⟨pending, limiter, errors, next, same, counters⟩ := undisturbed_acknowledgeFinish setup env
      { s with recvErrors := 0, pending := pending } peer packet.header.sessionId
      fun found known endpoint => obfuscates _ found known ⟨endpoint, kind, first, rfl⟩
    rw [eq]
    refine ⟨pending, limiter, errors, next, same, ?_⟩
    intro id found known moved
    obtain ⟨own, endpoint⟩ := counters id found known moved
    exact ⟨endpoint, kind, first, own.symm⟩
  have kept : Undisturbed s (AcknowledgedBy peer packet) { s with recvErrors := 0 } :=
    undisturbed_of_same s.pending s.cookieLimiter 0
  unfold onPacket
  split
  · next kind =>
    split
    · exact undisturbed_onInitiation setup env peer packet
    · split
      · next first => exact finished (.inl kind) first
      · exact kept
  · next kind =>
    split
    · next first => exact finished (.inr kind) first
    · exact undisturbed_onRekey env peer packet
  · next kind =>
    rw [onKeepalive_unopened env peer (unopened (by simp [kind]))]
    exact kept
  · next handshake rekey _ =>
    rw [onData_unopened setup env peer wireBytes (unopened (not_or.2 ⟨handshake, rekey⟩))]
    exact kept

/-- In every reachable state, a datagram that does not authenticate leaves the router and the active
sessions as they are, up to the counter that an acknowledgment moves, exactly if that can be
obfuscated. -/
theorem unauthenticated_datagram (seals : ∀ k n a m, ∃ c, P.aeadSeal k n a m = some c)
    (config : ServerConfig) (identities : List PeerIdentity) (ca : Option CertificateAuthorityConfig)
    (events : List (Event × Env)) (s : ServerLoop P)
    (reached : s = (start P config identities ca).after setup events) (peer : SocketAddr)
    (payload : List UInt8) (rejected : ¬ s.Authenticates setup env peer payload) : Undisturbed s
        (fun id found => ∃ packet, decodeDatagram P setup.obfuscation payload = some packet ∧
          AcknowledgedBy peer packet id found)
        (step setup s (.datagram peer payload, env)).1 ↔
      ∀ packet id found, s.stopped = false → decodeDatagram P setup.obfuscation payload = some packet →
        s.active.lookup id = some found → AcknowledgedBy peer packet id found →
        found.session.nextSendSequence.toNat ≠ 2 ^ 64 - 1 → Obfuscates setup env := by
  have registered : s.Registered := reached ▸ registered_run setup config identities ca events
  have refused : ∀ packet, decodeDatagram P setup.obfuscation payload = some packet →
      packet.header.kind = .handshake ∨ packet.header.kind = .rekey → packet.header.sequence = 1 →
      (finishPending setup.parser s.pending s.active peer packet setup.rekeyGracePeriod
        setup.rxRateBytesPerSec env.clock).installed = none := by
    intro packet decoded kind first
    by_contra installed
    refine rejected ⟨packet, decoded, ?_⟩
    rw [if_pos kind]
    exact ⟨first, Option.isSome_iff_ne_none.2 installed⟩
  refine ⟨?_, ?_⟩
  · intro undisturbed packet id found running decoded known acknowledged left
    obtain ⟨endpoint, kind, first, rfl⟩ := acknowledged
    by_contra blocked
    obtain ⟨pending, eq⟩ := onFinish_acknowledges setup env registered (refused packet decoded kind first)
    have stops := acknowledgeFinish_stops (s := { s with recvErrors := 0, pending := pending }) setup env
      seals known endpoint left blocked
    rw [step_finish setup env s running ⟨payload, rfl, decoded⟩ first kind, eq] at undisturbed
    rw [undisturbed.stopped, running] at stops
    cases stops
  · intro obfuscates
    unfold step
    simp only
    split
    · exact undisturbed_of_same s.pending s.cookieLimiter s.recvErrors
    · next running =>
      cases decoded : decodeDatagram P setup.obfuscation payload with
      | none => exact undisturbed_of_same s.pending s.cookieLimiter 0
      | some packet =>
        have undisturbed := undisturbed_onPacket setup env registered peer packet payload.length
          (refused packet decoded) ?_ fun id found =>
            obfuscates packet id found (Bool.not_eq_true _ ▸ running) decoded
        · obtain ⟨pending, limiter, errors, next, eq, counters⟩ := undisturbed
          refine ⟨pending, limiter, errors, next, eq, ?_⟩
          exact fun id found known moved => ⟨packet, rfl, counters id found known moved⟩
        · intro kind opened
          refine rejected ⟨packet, decoded, ?_⟩
          rwa [if_neg kind]

section Established
open Primitives

def obfuscatedSetup : Setup :=
  { deviceSetup (none, none) with obfuscation := some ⟨keyOf 5⟩ }

def sampleDraw : WrapDraw :=
  ⟨Bytes.zero 12, 0, fun _ => 0⟩

/-- A packet of the initial handshake, as the client's datagram. -/
def disguised (sequence : UInt64) (id : SessionId) (payload : List UInt8) : List UInt8 :=
  (wrap transparent obfuscatedSetup.obfuscation (some sampleDraw) (Packet.encode
    ⟨{ kind := .handshake, keyPhase := 0, sequence := sequence, sessionId := id }, payload⟩)).toOption.getD []

/-- A moment at which the system has random bytes. -/
def drawing : Env :=
  { Trace.certifiedEnv with wrap := fun _ => some sampleDraw }

/-- The pinned peer has established a session. -/
def established : ServerLoop transparent :=
  (start transparent { bind := clientEndpoint } [Trace.pinnedPeer] none).after obfuscatedSetup
    [(.datagram clientEndpoint (disguised 0 SessionId.zero Trace.pinnedFirst.initiation.encode), drawing),
      (.datagram clientEndpoint (disguised 1 Trace.drawnId
        (Trace.pinnedFinish Trace.pinnedFirst 0).encode), drawing)]

/-- Anyone with the obfuscation key and the session id can send it. -/
def strayFinish : List UInt8 :=
  disguised 1 Trace.drawnId []

lemma strayFinish_rejected (env : Env)
    (none : (decodeDatagram transparent obfuscatedSetup.obfuscation strayFinish).all (fun packet =>
      packet.header.kind = .handshake && (finishPending obfuscatedSetup.parser established.pending
        established.active clientEndpoint packet obfuscatedSetup.rekeyGracePeriod
        obfuscatedSetup.rxRateBytesPerSec env.clock).installed.isNone) = true) :
    ¬ established.Authenticates obfuscatedSetup env clientEndpoint strayFinish := by
  intro authenticates
  obtain ⟨packet, decoded, authentic⟩ := authenticates
  rw [decoded, Option.all_some, Bool.and_eq_true, decide_eq_true_eq] at none
  rw [if_pos (.inl none.1), Option.isNone_iff_eq_none.1 none.2] at authentic
  cases authentic.2

/-- A finish that completes nothing moves only the session's counter. -/
theorem unauthenticated_strayFinish :
    (established.active.lookup Trace.drawnId).map (·.endpoint) = some clientEndpoint ∧
      ¬ established.Authenticates obfuscatedSetup drawing clientEndpoint strayFinish ∧
      Undisturbed established (fun id found => ∃ packet,
          decodeDatagram transparent obfuscatedSetup.obfuscation strayFinish = some packet ∧
            AcknowledgedBy clientEndpoint packet id found)
        (step obfuscatedSetup established (.datagram clientEndpoint strayFinish, drawing)).1 := by
  have rejected := strayFinish_rejected drawing (by decide +kernel)
  refine ⟨by decide +kernel, rejected, ?_⟩
  refine (unauthenticated_datagram obfuscatedSetup drawing transparent_correct.seal_total _ _ _ _
    established rfl clientEndpoint strayFinish rejected).2 ?_
  intro _ _ _ _ _ _ _ _
  exact .inr rfl

/-- Without random bytes the same datagram ends the loop. -/
theorem strayFinish_stops_loop :
    ¬ established.Authenticates obfuscatedSetup sampleEnv clientEndpoint strayFinish ∧
      established.stopped = false ∧
      (step obfuscatedSetup established (.datagram clientEndpoint strayFinish, sampleEnv)).1.stopped =
        true ∧
      (step obfuscatedSetup established (.datagram clientEndpoint strayFinish, sampleEnv)).2.any (fun
        | .send peer packet => peer = clientEndpoint && packet.header.kind = .close
        | _ => false) = true ∧
      ¬ Undisturbed established
        (fun id found => ∃ packet,
          decodeDatagram transparent obfuscatedSetup.obfuscation strayFinish = some packet ∧
            AcknowledgedBy clientEndpoint packet id found)
        (step obfuscatedSetup established (.datagram clientEndpoint strayFinish, sampleEnv)).1 := by
  have running : established.stopped = false := by decide +kernel
  have stops : (step obfuscatedSetup established
      (.datagram clientEndpoint strayFinish, sampleEnv)).1.stopped = true := by decide +kernel
  refine ⟨strayFinish_rejected sampleEnv (by decide +kernel), running, stops, by decide +kernel, ?_⟩
  intro undisturbed
  rw [undisturbed.stopped, running] at stops
  cases stops

end Established

end ServerLoop
end Rvpn.Server
