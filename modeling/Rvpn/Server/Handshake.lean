import Rvpn.Server.State

/-!
# The server's side of handshakes

Model of `apps/rvpn-server/src/handshake.rs`. A function returns the tables it changes and the
packets it hands to `send_wire`; errors of the responder are only logged. Random draws and the clock are
arguments. `finishPending` also returns a record of the session it installs, with the identity key that
the finish proved: the program does not keep that key, but the properties of rekeying are about it.
-/

namespace Rvpn.Server
open Config Crypto Protocol

/-- `MAX_PENDING_HANDSHAKES`. -/
def maxPendingHandshakes : Nat := 4096

/-- `REKEY_REQUEST_INTERVAL`. -/
def rekeyRequestInterval : Nat := fromSecs 5

/-- `MIN_PENDING_HANDSHAKES_PER_SOURCE`. -/
def minPendingHandshakesPerSource : Nat := 8

/-- `COOKIE_SOURCE_LIMIT`. -/
def cookieSourceLimit : Nat := 4

/-- `COOKIE_GLOBAL_LIMIT`. -/
def cookieGlobalLimit : Nat := 100

/-- `COOKIE_SOURCE_CAPACITY`. -/
def cookieSourceCapacity : Nat := 8192

/-- `CookieChallengeLimiter`: fixed windows, per source and in all. -/
structure CookieChallengeLimiter where
  sources : HashMap IpAddr (Nat × Nat)
  global : Option Nat × Nat
  lastPrune : Option Nat

namespace CookieChallengeLimiter

def default : CookieChallengeLimiter where
  sources := ∅
  global := (none, 0)
  lastPrune := none

/-- The pruning at the start of `allow`. -/
def prune (limiter : CookieChallengeLimiter) (now : Nat) : CookieChallengeLimiter :=
  if limiter.lastPrune.all fun last => decide (fromSecs 1 ≤ now - last) then
    { limiter with
      sources := HashMap.retain (fun _ entry => decide (now - entry.1 < fromSecs 1)) limiter.sources
      lastPrune := some now }
  else limiter

/-- The part of `allow` about the source. -/
def allowSource (limiter : CookieChallengeLimiter) (ip : IpAddr) (now : Nat) :
    Bool × CookieChallengeLimiter :=
  match limiter.sources.lookup ip with
  | some (start, count) =>
    if fromSecs 1 ≤ now - start then
      (true, { limiter with sources := HashMap.modify ip (fun _ => (now, 1)) limiter.sources })
    else if cookieSourceLimit ≤ count then (false, limiter)
    else
      (true,
        { limiter with sources := HashMap.modify ip (fun _ => (start, count + 1)) limiter.sources })
  | none =>
    if cookieSourceCapacity ≤ limiter.sources.keys.length then (false, limiter)
    else (true, { limiter with sources := limiter.sources.insert ip (now, 1) })

/-- The part of `allow` about all sources together. -/
def allowGlobal (limiter : CookieChallengeLimiter) (now : Nat) : Bool × CookieChallengeLimiter :=
  match limiter.global with
  | (some start, count) =>
    if now - start < fromSecs 1 then
      if cookieGlobalLimit ≤ count then (false, limiter)
      else (true, { limiter with global := (some start, count + 1) })
    else (true, { limiter with global := (some now, 1) })
  | (none, _) => (true, { limiter with global := (some now, 1) })

/-- `CookieChallengeLimiter::allow`. -/
def allow (limiter : CookieChallengeLimiter) (endpoint : SocketAddr) (now : Nat) :
    Bool × CookieChallengeLimiter :=
  match allowSource (prune limiter now) endpoint.ip now with
  | (false, limiter) => (false, limiter)
  | (true, limiter) => allowGlobal limiter now

end CookieChallengeLimiter

/-- `per_source_pending_limit`. -/
def perSourcePendingLimit (identities : List PeerIdentity)
    (certificateAuthority : Option CertificateAuthorityConfig) : Nat :=
  max ((identities.length + certificateAuthority.toList.length) * 2) minPendingHandshakesPerSource

structure HandshakeDraw where
  sessionId : Option (Bytes 16)
  ephemeral : Option (Bytes 32)
  random : Option (Bytes 32)

def handshakePacket (kind : PacketKind) (keyPhase : UInt32) (sessionId : SessionId)
    (message : HandshakeMessage) : Packet where
  header := { kind := kind, keyPhase := keyPhase, sequence := 0, sessionId := sessionId }
  payload := message.encode

variable {P : Primitives}

/-- `challenge_or_admit`: admitted or not, and the cookie reply. -/
def challengeOrAdmit (P : Primitives) (cookieKey : CookieKey) (endpoint : SocketAddr)
    (initiation : HandshakeMessage) (limiter : CookieChallengeLimiter) (clock : Clock) :
    Bool × CookieChallengeLimiter × List Packet :=
  match initiation with
  | .initiation publicKey random cookie _ =>
    if cookie.any fun cookie =>
        cookieKey.verify P endpoint publicKey random cookie clock.unix then (true, limiter, [])
    else
      match limiter.allow endpoint clock.instant with
      | (false, limiter) => (false, limiter, [])
      | (true, limiter) =>
        (false, limiter, [handshakePacket .handshake 0 SessionId.zero
            (.cookieReply (cookieKey.mint P endpoint publicKey random clock.unix))])
  | _ => (false, limiter, [])

/-- `respond_initial`. -/
def respondInitial (pending : PendingHandshakes P) (endpoint : SocketAddr)
    (initiation : HandshakeMessage) (source : PendingSource) (auth : AuthConfig)
    (draw : HandshakeDraw) : Except HandshakeError (PendingHandshakes P × Packet) := do
  let (handshake, response) ← ResponderHandshake.accept P auth.identity auth.verifier initiation
    draw.sessionId draw.ephemeral draw.random
  match response with
  | .response _ _ sessionId _ =>
    let packet := handshakePacket .handshake 0 sessionId response
    return (pending.insert sessionId
      { source := source
        handshake := handshake
        endpoint := endpoint
        packet := packet
        kind := .handshake
        attempts := 1 }, packet)
  | _ => throw .unexpectedMessage

/-- One attempt to respond; an error is logged. -/
def tryRespond (pending : PendingHandshakes P) (endpoint : SocketAddr)
    (initiation : HandshakeMessage) (source : PendingSource) (auth : AuthConfig)
    (draw : HandshakeDraw) : PendingHandshakes P × List Packet :=
  match respondInitial pending endpoint initiation source auth draw with
  | .ok (pending, packet) => (pending, [packet])
  | .error _ => (pending, [])

/-- The loop of `begin_initial`; it stops at the limit of the source. -/
def tryIdentities (endpoint : SocketAddr) (initiation : HandshakeMessage) (limit : Nat) :
    List (PeerIdentity × HandshakeDraw) → PendingHandshakes P → PendingHandshakes P × List Packet
  | [], pending => (pending, [])
  | (identity, draw) :: rest, pending =>
    if limit ≤ pending.countFor endpoint then (pending, [])
    else
      let (pending, sent) :=
        tryRespond pending endpoint initiation (.known identity) identity.auth draw
      let (pending, sent') := tryIdentities endpoint initiation limit rest pending
      (pending, sent ++ sent')

/-- `begin_initial`; draw `i` is identity `i`'s, the last the authority's. -/
def beginInitial (identities : List PeerIdentity)
    (certificateAuthority : Option CertificateAuthorityConfig) (pending : PendingHandshakes P)
    (endpoint : SocketAddr) (initiation : HandshakeMessage) (limit : Nat)
    (draws : Nat → HandshakeDraw) : PendingHandshakes P × List Packet :=
  if maxPendingHandshakes ≤ pending.len then (pending, [])
  else if limit ≤ pending.countFor endpoint then (pending, [])
  else
    let numbered := identities.zip ((List.range identities.length).map draws)
    let (pending, sent) := tryIdentities endpoint initiation limit numbered pending
    match certificateAuthority with
    | none => (pending, sent)
    | some ca =>
      if limit ≤ pending.countFor endpoint then (pending, sent)
      else
        match ca.toAuthConfig with
        | .error _ => (pending, sent)
        | .ok auth =>
          let (pending, sent') := tryRespond pending endpoint initiation (.certificateAuthority ca)
            auth (draws identities.length)
          (pending, sent ++ sent')

/-- `begin_rekey`. -/
def beginRekey (pending : PendingHandshakes P) (endpoint : SocketAddr) (current : ActivePeer P)
    (initiation : HandshakeMessage) (limit : Nat) (draw : HandshakeDraw) :
    PendingHandshakes P × List Packet :=
  let id := current.session.sessionId
  if id ∈ pending.entries then (pending, [])
  else if limit ≤ pending.countFor endpoint then (pending, [])
  else if current.session.keyPhase.toNat = 2 ^ 32 - 1 then (pending, [])
  else
    match ResponderHandshake.acceptForSession P current.identity.auth.identity
        current.identity.auth.verifier initiation id (current.session.keyPhase + 1) draw.ephemeral
        draw.random with
    | .error _ => (pending, [])
    | .ok (handshake, response) =>
      let packet := handshakePacket .rekey current.session.keyPhase id response
      (pending.insert id
        { source := .known current.identity
          handshake := handshake
          endpoint := endpoint
          packet := packet
          kind := .rekey
          attempts := 1 }, [packet])

/-- `maybe_send_rekey`. -/
def maybeSendRekey (peer : ActivePeer P) (packetLimit : UInt64) (timeLimit : Option Nat) (now : Nat) :
    ActivePeer P × List Packet :=
  if !peer.session.shouldRekeyWithPolicy packetLimit timeLimit now then (peer, [])
  else if peer.lastRekeyRequest.any fun sent => decide (now - sent < rekeyRequestInterval) then
    (peer, [])
  else
    match peer.session.sealPacket .rekey [] with
    | (.error _, session) => ({ peer with session := session }, [])
    | (.ok request, session) =>
      ({ peer with session := session, lastRekeyRequest := some now }, [request])

/-- What a finish installed: the start, the identity and the proved key. -/
structure Installed where
  sessionId : SessionId
  kind : PacketKind
  identity : PeerIdentity
  source : PendingSource
  remote : Option (Bytes 32)
  deriving DecidableEq

/-- A subject's identity, unless revoked or without addresses. -/
def finishedIdentity (parser : AddressParser) (source : PendingSource) (remote : Option (Bytes 32)) :
    Option PeerIdentity :=
  match source with
  | .known identity => some identity
  | .certificateAuthority ca =>
    match remote with
    | none => none
    | some subject =>
      let subjectHex := hexEncode subject.toList
      if ca.isRevoked subjectHex then none
      else
        match ca.resolveAllowedIps parser subjectHex with
        | .error _ => none
        | .ok [] => none
        | .ok allowedIps =>
          match ca.toAuthConfig with
          | .error _ => none
          | .ok auth =>
            some
              { name := "cert:" ++ String.ofList (subjectHex.toList.take 16)
                allowedIps := allowedIps
                auth := auth }

/-- The end of `finish_pending`: phase, counters and limiter are passed on. -/
def install (active : ActivePeers P) (identity : PeerIdentity)
    (session : ProtectedSession P) (endpoint : SocketAddr) (gracePeriod rxRate now : Nat) :
    ActivePeers P × List SessionId :=
  let id := session.sessionId
  let stale (existingId : SessionId) (existing : ActivePeer P) : Bool :=
    decide (existingId ≠ id) && samePeer existing.identity identity
  let evicted := (active.toPairs.filter fun entry => stale entry.1 entry.2).map Prod.fst
  let active := HashMap.retain (fun existingId existing => !stale existingId existing) active
  match active.lookup id with
  | some existing =>
    (active.insert id
      { ActivePeer.new P identity (session.inheritPrevious existing.session gracePeriod now) endpoint
          rxRate now with
        stats := existing.stats.recordRekey
        rxLimiter := existing.rxLimiter }, evicted)
  | none => (active.insert id (ActivePeer.new P identity session endpoint rxRate now), evicted)

/-- The result of `finish_pending`. -/
structure Finished (P : Primitives) where
  pending : PendingHandshakes P
  active : ActivePeers P
  evicted : List SessionId
  installed : Option Installed

/-- `finish_pending`. -/
def finishPending (parser : AddressParser) (pending : PendingHandshakes P)
    (active : ActivePeers P) (endpoint : SocketAddr) (packet : Packet)
    (gracePeriod rxRate : Nat) (clock : Clock) : Finished P :=
  match pending.entries.lookup packet.header.sessionId with
  | none => { pending := pending, active := active, evicted := [], installed := none }
  | some state =>
    if state.endpoint ≠ endpoint ∨ state.kind ≠ packet.header.kind then
      { pending := pending, active := active, evicted := [], installed := none }
    else
      -- The entry is consumed before the finish is checked.
      let pending := pending.remove packet.header.sessionId
      let nothing : Finished P :=
        { pending := pending, active := active, evicted := [], installed := none }
      match HandshakeMessage.decode packet.payload with
      | .error _ => nothing
      | .ok finish =>
        match state.handshake.finish finish clock with
        | .error _ => nothing
        | .ok (session, remote) =>
          match finishedIdentity parser state.source remote with
          | none => nothing
          | some identity =>
            let (active, evicted) :=
              install active identity session endpoint gracePeriod rxRate clock.instant
            { pending := pending
              active := active
              evicted := evicted
              installed := some
                { sessionId := session.sessionId
                  kind := state.kind
                  identity := identity
                  source := state.source
                  remote := remote } }

/-- `retransmit_pending`. -/
def retransmitPending (pending : PendingHandshakes P) (retryLimit : Nat) :
    PendingHandshakes P × List (SocketAddr × Packet) :=
  let pending := pending.retain fun state => decide (state.attempts < retryLimit)
  ({ pending with
      entries :=
        HashMap.mapVal (fun _ state => { state with attempts := state.attempts + 1 })
          pending.entries },
    pending.entries.values.map fun state => (state.endpoint, state.packet))

end Rvpn.Server
