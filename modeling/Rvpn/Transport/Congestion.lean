import Rvpn.Core
import Rvpn.Lib.HashMap
import Rvpn.Lib.Run

/-!
# The outbound queue

Model of `crates/rvpn-transport/src/congestion.rs`: datagrams wait in one queue for each peer, and the
receiver takes them by deficit round-robin, held back by a token bucket for each peer when a rate is set.
Every method holds the mutex of the state while it works, so a call is one step, and so is each scan of
the rotation inside `recv`. The clock is read once in a step.
-/

namespace Rvpn.Transport

/-- `DRR_QUANTUM`. -/
def drrQuantum : Nat := 1500

/-- `MAX_PEER_QUEUE`. -/
def maxPeerQueue : Nat := 256

/-- `MAX_TRACKED_PEERS`. -/
def maxTrackedPeers : Nat := 8192

/-- `bytes::Bytes`: a buffer holds at most `isize::MAX` bytes. -/
structure Buffer where
  bytes : List UInt8
  small : bytes.length < 2 ^ 63
  deriving DecidableEq

def Buffer.len (b : Buffer) : Nat :=
  b.bytes.length

/-- Errors of the queue. -/
inductive TransportError where
  | backpressure
  deriving DecidableEq

/-- A datagram that waits. -/
structure QueuedDatagram where
  peer : SocketAddr
  payload : Buffer
  peerKey : Option (Bytes 16)
  queueDelay : Nat
  enqueuedAt : Nat
  deriving DecidableEq

/-- Whose queue it is. -/
inductive QueueKey where
  | endpoint (peer : SocketAddr)
  | stable (key : Bytes 16)
  deriving DecidableEq

/-- `RateBucket`: bytes to send, refilled by the clock. -/
structure RateBucket where
  rateBytesPerSec : Nat
  capacity : Nat
  tokens : Nat
  updated : Nat
  deriving DecidableEq

namespace RateBucket

def new (rateBytesPerSec now : Nat) : RateBucket where
  rateBytesPerSec := rateBytesPerSec
  capacity := max rateBytesPerSec 65535
  tokens := max rateBytesPerSec 65535
  updated := now

/-- `RateBucket::set_rate`. -/
def setRate (bucket : RateBucket) (rateBytesPerSec now : Nat) : RateBucket where
  rateBytesPerSec := rateBytesPerSec
  capacity := max rateBytesPerSec 65535
  tokens := min bucket.tokens (max rateBytesPerSec 65535)
  updated := now

/-- The refill at the start of `consume_or_delay`. -/
def refill (bucket : RateBucket) (now : Nat) : RateBucket :=
  let replenished :=
    min ((now - bucket.updated) * bucket.rateBytesPerSec) (2 ^ 128 - 1) / 1000000000
  { bucket with
    tokens := min bucket.capacity (saturatingAdd bucket.tokens (min replenished u64Max))
    updated := now }

/-- `RateBucket::consume_or_delay`: tokens taken, or the delay. -/
def consumeOrDelay (bucket : RateBucket) (bytes now : Nat) : Except Nat Unit × RateBucket :=
  let bucket := bucket.refill now
  let bytes := min bytes u64Max
  if bytes ≤ bucket.tokens then (.ok (), { bucket with tokens := bucket.tokens - bytes })
  else
    let missing := bytes - bucket.tokens
    let nanos := (min (missing * 1000000000) (2 ^ 128 - 1) + bucket.rateBytesPerSec - 1) /
      bucket.rateBytesPerSec
    (.error (min nanos u64Max), bucket)

end RateBucket

/-- `PeerQueue`: packets, deficit and bucket of a key. -/
structure PeerQueue where
  packets : List QueuedDatagram
  deficit : Nat
  inRound : Bool
  rateBucket : Option RateBucket
  lastActivity : Nat
  deriving DecidableEq

namespace PeerQueue

def new (rateBytesPerSec : Option Nat) (now : Nat) : PeerQueue where
  packets := []
  deficit := 0
  inRound := false
  rateBucket := rateBytesPerSec.map fun rate => RateBucket.new rate now
  lastActivity := now

/-- The start of a visit: a peer that begins its round gets a quantum. -/
def enterRound (p : PeerQueue) : PeerQueue :=
  if p.inRound then p
  else { p with deficit := saturatingAdd p.deficit drrQuantum, inRound := true }

def packetSize (p : PeerQueue) : Nat :=
  (p.packets.head?.map fun packet => packet.payload.len).getD 0

def consume (p : PeerQueue) (now : Nat) : Except Nat Unit × PeerQueue :=
  match p.rateBucket with
  | none => (.ok (), p)
  | some bucket =>
    match bucket.consumeOrDelay p.packetSize now with
    | (result, bucket) => (result, { p with rateBucket := some bucket })

def pop (p : PeerQueue) (now : Nat) : Option QueuedDatagram × PeerQueue :=
  (p.packets.head?.map fun packet => { packet with queueDelay := now - packet.enqueuedAt },
    { p with
      deficit := p.deficit - p.packetSize
      packets := p.packets.tail
      lastActivity := now })

end PeerQueue

/-- `QueueState`: the queues and their rotation. -/
structure QueueState where
  peers : HashMap QueueKey PeerQueue
  rotation : List QueueKey
  queued : Nat

/-- The variables of one scan in `recv`. -/
structure Scan where
  state : QueueState
  waitFor : Option Nat
  yieldedToDeficit : Bool

namespace Scan

/-- The key goes to the back of the rotation, and its round ends. -/
def endRound (s : Scan) (key : QueueKey) (p : PeerQueue) : Scan :=
  { s with
    state := { s.state with
      peers := HashMap.modify key (fun _ => { p with inRound := false }) s.state.peers
      rotation := s.state.rotation ++ [key] } }

/-- The end of a visit: the peer is dropped, goes on, or yields. -/
def settle (s : Scan) (key : QueueKey) (p : PeerQueue) : Scan :=
  if p.packets.isEmpty then
    if p.rateBucket.isNone then
      { s with state := { s.state with peers := s.state.peers.erase key } }
    else
      { s with
        state := { s.state with
          peers := HashMap.modify key (fun _ => { p with inRound := false, deficit := 0 })
            s.state.peers } }
  else if p.packets.head?.any fun next => decide (next.payload.len ≤ p.deficit) then
    { s with
      state := { s.state with
        peers := HashMap.modify key (fun _ => p) s.state.peers
        rotation := key :: s.state.rotation } }
  else s.endRound key p

def uncount (s : Scan) : Scan :=
  { s with state := { s.state with queued := s.state.queued - 1 } }

/-- One round of `recv`: the front of the rotation is visited. -/
def visit (now : Nat) (s : Scan) : Option QueuedDatagram × Scan :=
  match s.state.rotation with
  | [] => (none, s)
  | key :: rest =>
    let s := { s with state := { s.state with rotation := rest } }
    match s.state.peers.lookup key with
    | none => (none, s)
    | some p =>
      let p := p.enterRound
      if p.deficit < p.packetSize then (none, { s.endRound key p with yieldedToDeficit := true })
      else
        match p.consume now with
        | (.error delay, p) =>
          (none, { s.endRound key p with
            waitFor := some ((s.waitFor.map fun old => min old delay).getD delay) })
        | (.ok (), p) =>
          match p.pop now with
          | (none, p) => (none, s.settle key p)
          | (some packet, p) => (some packet, (s.settle key p).uncount)

/-- The loop in `recv`; it ends with the first packet. -/
def loop (now : Nat) : Nat → Scan → Option QueuedDatagram × Scan
  | 0, s => (none, s)
  | n + 1, s =>
    match s.visit now with
    | (some packet, s) => (some packet, s)
    | (none, s) => loop now n s

end Scan

/-- `OutboundQueue`, with the state that it shares with the receiver. -/
structure OutboundQueue where
  capacity : Nat
  perPeerCapacity : Nat
  rateBytesPerSec : UInt64
  queued : Nat
  state : QueueState

/-- What `recv` does after a scan. -/
inductive Received where
  | datagram (packet : QueuedDatagram)
  | closed
  | sleep (delay : Nat)
  | yield
  | wait
  deriving DecidableEq

namespace OutboundQueue

/-- `OutboundQueue::new_with_rate`. -/
def newWithRate (capacity : Nat) (rateBytesPerSec : UInt64) : OutboundQueue where
  capacity := max capacity 1
  perPeerCapacity := min (max capacity 1) maxPeerQueue
  rateBytesPerSec := rateBytesPerSec
  queued := 0
  state := { peers := ∅, rotation := [], queued := 0 }

/-- `OutboundQueue::set_rate_bytes_per_sec`. -/
def setRateBytesPerSec (q : OutboundQueue) (rateBytesPerSec : UInt64) (now : Nat) : OutboundQueue :=
  let rate := rateBytesPerSec.toNat
  { q with
    rateBytesPerSec := rateBytesPerSec
    state := { q.state with
      peers := HashMap.mapVal
        (fun _ p => { p with
          rateBucket :=
            if rate = 0 then none
            else
              match p.rateBucket with
              | some bucket => some (bucket.setRate rate now)
              | none => some (RateBucket.new rate now) }) q.state.peers } }

def evictIdle (q : OutboundQueue) (now : Nat) : OutboundQueue :=
  { q with
    state := { q.state with
      peers := HashMap.retain
        (fun _ p => !p.packets.isEmpty || decide (now - p.lastActivity < fromSecs 1))
        q.state.peers } }

/-- The queue of a key in the map, made for the key if it has none. -/
def entry (q : OutboundQueue) (key : QueueKey) (now : Nat) : PeerQueue × OutboundQueue :=
  match q.state.peers.lookup key with
  | some p => (p, q)
  | none =>
    let rate := q.rateBytesPerSec.toNat
    let p := PeerQueue.new (if rate ≠ 0 then some rate else none) now
    (p, { q with state := { q.state with peers := q.state.peers.insert key p } })

/-- The datagram that `try_enqueue_keyed` puts into the queue of a key. -/
def datagram (key : QueueKey) (endpoint : SocketAddr) (payload : Buffer) (now : Nat) :
    QueuedDatagram where
  peer := endpoint
  payload := payload
  peerKey :=
    match key with
    | .stable key => some key
    | .endpoint _ => none
  queueDelay := 0
  enqueuedAt := now

/-- `OutboundQueue::try_enqueue_keyed`. -/
def tryEnqueueKeyed (q : OutboundQueue) (key : QueueKey) (endpoint : SocketAddr) (payload : Buffer)
    (now : Nat) : Except TransportError Unit × OutboundQueue :=
  let q := q.evictIdle now
  if q.capacity ≤ q.state.queued then (.error .backpressure, q)
  else if key ∉ q.state.peers ∧ maxTrackedPeers ≤ q.state.peers.keys.length then
    (.error .backpressure, q)
  else
    match q.entry key now with
    | (p, q) =>
      if q.perPeerCapacity ≤ p.packets.length then (.error .backpressure, q)
      else
        (.ok (),
          { q with
            queued := q.queued + 1
            state := {
              peers := HashMap.modify key
                (fun p => { p with
                  packets := p.packets ++ [datagram key endpoint payload now]
                  lastActivity := now }) q.state.peers
              rotation := if p.packets.isEmpty then q.state.rotation ++ [key] else q.state.rotation
              queued := q.state.queued + 1 } })

/-- `OutboundQueue::try_enqueue`. -/
def tryEnqueue (q : OutboundQueue) (peer : SocketAddr) (payload : Buffer) (now : Nat) :
    Except TransportError Unit × OutboundQueue :=
  q.tryEnqueueKeyed (.endpoint peer) peer payload now

/-- `OutboundQueue::try_enqueue_for_peer`. -/
def tryEnqueueForPeer (q : OutboundQueue) (peerKey : Bytes 16) (endpoint : SocketAddr)
    (payload : Buffer) (now : Nat) : Except TransportError Unit × OutboundQueue :=
  q.tryEnqueueKeyed (.stable peerKey) endpoint payload now

/-- One scan of `recv`; `alone` if it holds the only handle. -/
def recvScan (q : OutboundQueue) (alone : Bool) (now : Nat) : Received × OutboundQueue :=
  match Scan.loop now q.state.rotation.length
      { state := q.state, waitFor := none, yieldedToDeficit := false } with
  | (some packet, s) => (.datagram packet, { q with state := s.state, queued := q.queued - 1 })
  | (none, s) =>
    let q := { q with state := s.state }
    if s.state.queued = 0 ∧ alone then (.closed, q)
    else
      match s.waitFor with
      | some delay => (.sleep delay, q)
      | none => if s.yieldedToDeficit then (.yield, q) else (.wait, q)

end OutboundQueue

namespace PeerQueue
variable (p : PeerQueue)

@[simp] lemma enterRound_packets : p.enterRound.packets = p.packets := by
  unfold enterRound
  split
  · rfl
  · rfl

@[simp] lemma enterRound_rateBucket : p.enterRound.rateBucket = p.rateBucket := by
  unfold enterRound
  split
  · rfl
  · rfl

@[simp] lemma enterRound_lastActivity : p.enterRound.lastActivity = p.lastActivity := by
  unfold enterRound
  split
  · rfl
  · rfl

@[simp] lemma enterRound_inRound : p.enterRound.inRound = true := by
  unfold enterRound
  split
  · next started => exact started
  · rfl

lemma packetSize_of_packets {p : PeerQueue} {d : QueuedDatagram} {tail : List QueuedDatagram}
    (packets : p.packets = d :: tail) : p.packetSize = d.payload.len := by
  rw [packetSize, packets]
  rfl

lemma consume_cases {p p' : PeerQueue} {now : Nat} {result : Except Nat Unit}
    (h : p.consume now = (result, p')) : (p.rateBucket = none ∧ result = .ok () ∧ p' = p) ∨
      ∃ bucket bucket', p.rateBucket = some bucket ∧
        bucket.consumeOrDelay p.packetSize now = (result, bucket') ∧
        p' = { p with rateBucket := some bucket' } := by
  unfold consume at h
  split at h
  · next none =>
    cases h
    exact .inl ⟨none, rfl, rfl⟩
  · next bucket some =>
    cases taken : bucket.consumeOrDelay p.packetSize now with
    | mk outcome bucket' =>
      rw [taken] at h
      cases h
      exact .inr ⟨bucket, bucket', some, taken, rfl⟩

lemma consume_eq {p p' : PeerQueue} {now : Nat} {result : Except Nat Unit}
    (h : p.consume now = (result, p')) : p' = { p with rateBucket := p'.rateBucket } := by
  obtain ⟨_, _, rfl⟩ | ⟨_, _, _, _, rfl⟩ := consume_cases h
  · rfl
  · rfl

end PeerQueue

namespace Scan

def withRotation (s : Scan) (rotation : List QueueKey) : Scan :=
  { s with state := { s.state with rotation := rotation } }

/-- What a visit can do when each key of the rotation has packets. -/
inductive Visited (now : Nat) (s : Scan) : Option QueuedDatagram × Scan → Prop
  | idle (nobody : s.state.rotation = []) : Visited now s (none, s)
  | yields (key : QueueKey) (rest : List QueueKey) (p : PeerQueue)
      (front : s.state.rotation = key :: rest) (found : s.state.peers.lookup key = some p)
      (large : p.enterRound.deficit < p.packetSize) :
      Visited now s (none,
        { (s.withRotation rest).endRound key p.enterRound with yieldedToDeficit := true })
  | waits (key : QueueKey) (rest : List QueueKey) (p p' : PeerQueue) (delay : Nat)
      (front : s.state.rotation = key :: rest) (found : s.state.peers.lookup key = some p)
      (small : p.packetSize ≤ p.enterRound.deficit)
      (unpaid : p.enterRound.consume now = (.error delay, p')) :
      Visited now s (none,
        { (s.withRotation rest).endRound key p' with
          waitFor := some ((s.waitFor.map fun old => min old delay).getD delay) })
  | takes (key : QueueKey) (rest : List QueueKey) (p p' : PeerQueue) (d : QueuedDatagram)
      (tail : List QueuedDatagram) (front : s.state.rotation = key :: rest)
      (found : s.state.peers.lookup key = some p) (packets : p.packets = d :: tail)
      (small : d.payload.len ≤ p.enterRound.deficit)
      (paid : p.enterRound.consume now = (.ok (), p')) :
      Visited now s (some { d with queueDelay := now - d.enqueuedAt },
        ((s.withRotation rest).settle key (p'.pop now).2).uncount)

lemma visited (now : Nat) {s : Scan}
    (busy : ∀ key ∈ s.state.rotation, ∃ p d tail, s.state.peers.lookup key = some p ∧
      p.packets = d :: tail) : Visited now s (s.visit now) := by
  unfold visit
  cases front : s.state.rotation with
  | nil => exact .idle front
  | cons key rest =>
    obtain ⟨p, d, tail, found, packets⟩ := busy key (by rw [front]; exact List.mem_cons_self)
    have size : p.enterRound.packetSize = p.packetSize := by
      rw [PeerQueue.packetSize, PeerQueue.enterRound_packets]
      rfl
    simp only [found, size]
    by_cases large : p.enterRound.deficit < p.packetSize
    · rw [if_pos large]
      exact .yields key rest p front found large
    · rw [if_neg large]
      cases paid : p.enterRound.consume now with
      | mk result p' =>
        cases result with
        | error delay => exact .waits key rest p p' delay front found (Nat.le_of_not_lt large) paid
        | ok =>
          have head : (p'.pop now).1 = some { d with queueDelay := now - d.enqueuedAt } := by
            rw [PeerQueue.pop, PeerQueue.consume_eq paid]
            simp only [PeerQueue.enterRound_packets, packets, List.head?_cons, Option.map_some]
          have small : d.payload.len ≤ p.enterRound.deficit := by
            rw [← PeerQueue.packetSize_of_packets packets]
            exact Nat.le_of_not_lt large
          have taken := Visited.takes key rest p p' d tail front found packets small paid
          cases popped : p'.pop now with
          | mk packet p'' =>
            rw [popped] at head taken
            obtain rfl : packet = _ := head
            simp only [popped]
            exact taken

end Scan

namespace OutboundQueue
variable {q : OutboundQueue}

lemma entry_cases (q : OutboundQueue) (key : QueueKey) (now : Nat) :
    (∃ p, q.state.peers.lookup key = some p ∧ q.entry key now = (p, q)) ∨
      ∃ p, q.state.peers.lookup key = none ∧
        p = PeerQueue.new (if q.rateBytesPerSec.toNat ≠ 0 then some q.rateBytesPerSec.toNat else none)
          now ∧
        q.entry key now =
          (p, { q with state := { q.state with peers := q.state.peers.insert key p } }) := by
  unfold entry
  cases found : q.state.peers.lookup key with
  | some p => exact .inl ⟨p, rfl, rfl⟩
  | none => exact .inr ⟨_, rfl, rfl, rfl⟩

/-- An enqueue is rejected, or goes to the end of its queue. -/
inductive Enqueued (q : OutboundQueue) (key : QueueKey) (endpoint : SocketAddr) (payload : Buffer)
    (now : Nat) : Except TransportError Unit × OutboundQueue → Prop
  | full : Enqueued q key endpoint payload now (.error .backpressure, q.evictIdle now)
  | crowded (p : PeerQueue) (q' : OutboundQueue) (room : q.state.queued < q.capacity)
      (free : key ∈ (q.evictIdle now).state.peers ∨
        (q.evictIdle now).state.peers.keys.length < maxTrackedPeers)
      (made : (q.evictIdle now).entry key now = (p, q'))
      (beyond : q.perPeerCapacity ≤ p.packets.length) :
      Enqueued q key endpoint payload now (.error .backpressure, q')
  | accepted (p : PeerQueue) (q' : OutboundQueue) (room : q.state.queued < q.capacity)
      (free : key ∈ (q.evictIdle now).state.peers ∨
        (q.evictIdle now).state.peers.keys.length < maxTrackedPeers)
      (made : (q.evictIdle now).entry key now = (p, q'))
      (fits : p.packets.length < q.perPeerCapacity) :
      Enqueued q key endpoint payload now (.ok (),
        { q' with
          queued := q'.queued + 1
          state := {
            peers := HashMap.modify key
              (fun p => { p with
                packets := p.packets ++ [datagram key endpoint payload now]
                lastActivity := now }) q'.state.peers
            rotation := if p.packets.isEmpty then q'.state.rotation ++ [key] else q'.state.rotation
            queued := q'.state.queued + 1 } })

lemma entry_fields {key : QueueKey} {now : Nat} {p : PeerQueue} {q' : OutboundQueue}
    (made : q.entry key now = (p, q')) :
    q'.capacity = q.capacity ∧ q'.perPeerCapacity = q.perPeerCapacity ∧
      q'.rateBytesPerSec = q.rateBytesPerSec ∧ q'.queued = q.queued ∧
      q'.state.queued = q.state.queued ∧ q'.state.rotation = q.state.rotation ∧
      q'.state.peers.lookup key = some p := by
  obtain ⟨p', found, eq⟩ | ⟨p', _, _, eq⟩ := q.entry_cases key now
  · rw [eq] at made
    cases made
    exact ⟨rfl, rfl, rfl, rfl, rfl, rfl, found⟩
  · rw [eq] at made
    cases made
    refine ⟨rfl, rfl, rfl, rfl, rfl, rfl, ?_⟩
    rw [AList.lookup_insert]

lemma enqueued (q : OutboundQueue) (key : QueueKey) (endpoint : SocketAddr) (payload : Buffer)
    (now : Nat) : Enqueued q key endpoint payload now (q.tryEnqueueKeyed key endpoint payload now) := by
  unfold tryEnqueueKeyed
  simp only
  split
  · exact .full
  · next room =>
    split
    · exact .full
    · next free =>
      have room : q.state.queued < q.capacity := Nat.lt_of_not_le room
      have free : key ∈ (q.evictIdle now).state.peers ∨
          (q.evictIdle now).state.peers.keys.length < maxTrackedPeers := by
        rw [not_and_or, not_not, Nat.not_le] at free
        exact free
      cases made : (q.evictIdle now).entry key now with
      | mk p q' =>
        have perPeer : q'.perPeerCapacity = q.perPeerCapacity := (entry_fields made).2.1
        simp only
        split
        · next beyond => exact .crowded p q' room free made (perPeer ▸ beyond)
        · next fits =>
          exact .accepted p q' room free made (perPeer ▸ Nat.lt_of_not_le fits)

end OutboundQueue

end Rvpn.Transport
