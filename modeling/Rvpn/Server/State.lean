import Rvpn.Config.Server
import Rvpn.Protocol.AuthenticatedHandshake

/-!
# Server state

Model of `apps/rvpn-server/src/state.rs`: the active peers with their counters and rate limiters,
and the table of pending handshakes with its count for each source. Counters are `u64` and saturate;
instants and durations are in nanoseconds.
-/

namespace Rvpn.Server
open Config Protocol

/-- `PeerRateLimiter`: a token bucket of received bytes. -/
structure PeerRateLimiter where
  rateBytesPerSec : Nat
  burstBytes : Nat
  tokens : Nat
  updated : Nat
  deriving DecidableEq

namespace PeerRateLimiter

/-- `PeerRateLimiter::new`. -/
def new (rateBytesPerSec now : Nat) : PeerRateLimiter where
  rateBytesPerSec := rateBytesPerSec
  burstBytes := max rateBytesPerSec 65535
  tokens := max rateBytesPerSec 65535
  updated := now

/-- `PeerRateLimiter::allow`. -/
def allow (limiter : PeerRateLimiter) (bytes now : Nat) : Bool × PeerRateLimiter :=
  if limiter.rateBytesPerSec = 0 then (true, limiter)
  else
    let replenished :=
      min ((now - limiter.updated) * limiter.rateBytesPerSec) (2 ^ 128 - 1) / 1000000000
    let tokens := min limiter.burstBytes (saturatingAdd limiter.tokens (min replenished u64Max))
    let limiter := { limiter with tokens := tokens, updated := now }
    let bytes := min bytes u64Max
    if tokens < bytes then (false, limiter)
    else (true, { limiter with tokens := tokens - bytes })

end PeerRateLimiter

/-- `PeerStats`: the counters of a session. -/
structure PeerStats where
  rxPackets : Nat
  rxPayloadBytes : Nat
  rxWireBytes : Nat
  txPackets : Nat
  txPayloadBytes : Nat
  txWireBytes : Nat
  droppedPackets : Nat
  rxLimitedDrops : Nat
  txQueueDrops : Nat
  queueDelaySamples : Nat
  queueDelayTotalMicros : Nat
  queueDelayMaxMicros : Nat
  rekeys : Nat
  deriving DecidableEq

namespace PeerStats

def default : PeerStats where
  rxPackets := 0
  rxPayloadBytes := 0
  rxWireBytes := 0
  txPackets := 0
  txPayloadBytes := 0
  txWireBytes := 0
  droppedPackets := 0
  rxLimitedDrops := 0
  txQueueDrops := 0
  queueDelaySamples := 0
  queueDelayTotalMicros := 0
  queueDelayMaxMicros := 0
  rekeys := 0

/-- `record_rx`. -/
def recordRx (s : PeerStats) (payloadBytes wireBytes : Nat) : PeerStats :=
  { s with
    rxPackets := saturatingAdd s.rxPackets 1
    rxPayloadBytes := saturatingAdd s.rxPayloadBytes payloadBytes
    rxWireBytes := saturatingAdd s.rxWireBytes wireBytes }

/-- `record_tx`. -/
def recordTx (s : PeerStats) (payloadBytes wireBytes : Nat) : PeerStats :=
  { s with
    txPackets := saturatingAdd s.txPackets 1
    txPayloadBytes := saturatingAdd s.txPayloadBytes payloadBytes
    txWireBytes := saturatingAdd s.txWireBytes wireBytes }

/-- `record_drop`. -/
def recordDrop (s : PeerStats) : PeerStats :=
  { s with droppedPackets := saturatingAdd s.droppedPackets 1 }

/-- `record_rx_limited_drop`. -/
def recordRxLimitedDrop (s : PeerStats) : PeerStats :=
  { s.recordDrop with rxLimitedDrops := saturatingAdd s.rxLimitedDrops 1 }

/-- `record_tx_queue_drop`. -/
def recordTxQueueDrop (s : PeerStats) : PeerStats :=
  { s.recordDrop with txQueueDrops := saturatingAdd s.txQueueDrops 1 }

/-- `record_queue_delay`. -/
def recordQueueDelay (s : PeerStats) (delay : Nat) : PeerStats :=
  let micros := min (delay / 1000) u64Max
  { s with
    queueDelaySamples := saturatingAdd s.queueDelaySamples 1
    queueDelayTotalMicros := saturatingAdd s.queueDelayTotalMicros micros
    queueDelayMaxMicros := max s.queueDelayMaxMicros micros }

/-- `record_rekey`. -/
def recordRekey (s : PeerStats) : PeerStats :=
  { s with rekeys := saturatingAdd s.rekeys 1 }

end PeerStats

variable (P : Primitives)

/-- `ActivePeer`: an established session. -/
structure ActivePeer where
  identity : PeerIdentity
  session : ProtectedSession P
  endpoint : SocketAddr
  lastRx : Nat
  lastRekeyRequest : Option Nat
  stats : PeerStats
  rxLimiter : PeerRateLimiter

/-- `active` of `run_server`: the established sessions by their ids. -/
abbrev ActivePeers := HashMap SessionId (ActivePeer P)

/-- `ActivePeer::new`. -/
def ActivePeer.new (identity : PeerIdentity) (session : ProtectedSession P) (endpoint : SocketAddr)
    (rxRateBytesPerSec now : Nat) : ActivePeer P where
  identity := identity
  session := session
  endpoint := endpoint
  lastRx := now
  lastRekeyRequest := none
  stats := PeerStats.default
  rxLimiter := PeerRateLimiter.new rxRateBytesPerSec now

/-- `same_peer`: the same name and addresses. -/
def samePeer (a b : PeerIdentity) : Bool :=
  decide (a.name = b.name ∧ a.allowedIps = b.allowedIps)

/-- `PendingSource`: whom a handshake is for. -/
inductive PendingSource where
  | known (identity : PeerIdentity)
  | certificateAuthority (ca : CertificateAuthorityConfig)
  deriving DecidableEq

/-- `PendingHandshake`: a response that waits for its finish. -/
structure PendingHandshake where
  source : PendingSource
  handshake : ResponderHandshake P
  endpoint : SocketAddr
  packet : Packet
  kind : PacketKind
  attempts : Nat

/-- `PendingHandshakes`: entries by session id, counted by source. -/
structure PendingHandshakes where
  entries : HashMap SessionId (PendingHandshake P)
  perSource : HashMap SocketAddr Nat

namespace PendingHandshakes

/-- `PendingHandshakes::new`. -/
def default : PendingHandshakes P where
  entries := ∅
  perSource := ∅

variable {P}

/-- `PendingHandshakes::len`. -/
def len (p : PendingHandshakes P) : Nat :=
  p.entries.keys.length

/-- `PendingHandshakes::count_for`. -/
def countFor (p : PendingHandshakes P) (source : SocketAddr) : Nat :=
  (p.perSource.lookup source).getD 0

/-- `PendingHandshakes::decrement`. -/
def decrementCount (perSource : HashMap SocketAddr Nat) (source : SocketAddr) :
    HashMap SocketAddr Nat :=
  match perSource.lookup source with
  | none => perSource
  | some count =>
    if count - 1 = 0 then perSource.erase source
    else HashMap.modify source (fun count => count - 1) perSource

/-- `PendingHandshakes::insert`. -/
def insert (p : PendingHandshakes P) (id : SessionId) (state : PendingHandshake P) :
    PendingHandshakes P :=
  let perSource :=
    match p.entries.lookup id with
    | some previous => decrementCount p.perSource previous.endpoint
    | none => p.perSource
  { entries := p.entries.insert id state
    perSource := perSource.insert state.endpoint ((perSource.lookup state.endpoint).getD 0 + 1) }

/-- `PendingHandshakes::remove`. -/
def remove (p : PendingHandshakes P) (id : SessionId) : PendingHandshakes P where
  entries := p.entries.erase id
  perSource :=
    match p.entries.lookup id with
    | some state => decrementCount p.perSource state.endpoint
    | none => p.perSource

/-- `PendingHandshakes::retain`: dropped entries leave the count. -/
def retain (p : PendingHandshakes P) (keep : PendingHandshake P → Bool) : PendingHandshakes P where
  entries := HashMap.retain (fun _ state => keep state) p.entries
  perSource := p.entries.values.foldl
    (fun perSource state =>
      if keep state then perSource else decrementCount perSource state.endpoint) p.perSource

end PendingHandshakes
end Rvpn.Server
