import Rvpn.Lib.TokenBucket
import Rvpn.Transport.Fairness

/-!
# The shaping envelope

At a constant rate, the bytes that `recv` returns for a key are paid from the bucket of the key's
queue. The queue is dropped when it was idle for one second, and the next datagram makes a new one with
a full bucket: that is safe exactly if one second fills a bucket, which is so for rates of at least
65535 bytes per second.
-/

namespace Rvpn.Transport
open HashMap TokenBucket

/-- The queue of a key and its bucket, with the log of its returns. -/
structure PeerQueue.Paced (rate clock : Nat) (log : List (Nat × Nat)) (p : PeerQueue)
    (bucket : RateBucket) : Prop where
  held : p.rateBucket = some bucket
  constant : bucket.rateBytesPerSec = rate
  capacity : bucket.capacity = max rate 65535
  updated : bucket.updated ≤ clock
  idle : p.packets = [] → bucket.updated ≤ p.lastActivity
  covered : Covered (fromSecs 1) rate (max rate 65535) log bucket.tokens bucket.updated

/-- What holds of a key, with or without a queue. -/
def Shaped (rate clock : Nat) (log : List (Nat × Nat)) : Option PeerQueue → Prop
  | none => Recovered (fromSecs 1) rate (max rate 65535) log clock
  | some p => ∃ bucket, p.Paced rate clock log bucket

variable {rate clock now : Nat} {log : List (Nat × Nat)}

lemma Shaped.later {entry : Option PeerQueue} (h : Shaped rate clock log entry) (le : clock ≤ now) :
    Shaped rate now log entry := by
  cases entry with
  | none => exact Recovered.later h le
  | some p =>
    obtain ⟨bucket, paced⟩ := h
    exact ⟨bucket, paced.held, paced.constant, paced.capacity, paced.updated.trans le, paced.idle,
      paced.covered⟩

lemma Shaped.envelope {entry : Option PeerQueue} (h : Shaped rate clock log entry) :
    Envelope (fromSecs 1) rate (max rate 65535) log := by
  cases entry with
  | none => exact Recovered.envelope h
  | some p =>
    obtain ⟨bucket, paced⟩ := h
    exact paced.covered.envelope

namespace RateBucket

/-- What `consume_or_delay` can do with a bucket that it has refilled. -/
lemma consumeOrDelay_cases {bucket bucket' : RateBucket} {bytes : Nat} {result : Except Nat Unit}
    (h : bucket.consumeOrDelay bytes now = (result, bucket')) :
    (result = .ok () ∧ min bytes u64Max ≤ (bucket.refill now).tokens ∧
      bucket' = { bucket.refill now with
        tokens := (bucket.refill now).tokens - min bytes u64Max }) ∨
      ∃ delay, result = .error delay ∧ bucket' = bucket.refill now := by
  unfold consumeOrDelay at h
  simp only at h
  split at h
  · next enough =>
    cases h
    exact .inl ⟨rfl, enough, rfl⟩
  · cases h
    exact .inr ⟨_, rfl, rfl⟩

lemma refill_gain (bucket : RateBucket) (now : Nat) : (bucket.refill now).tokens * fromSecs 1 ≤
      bucket.tokens * fromSecs 1 + (now - bucket.updated) * bucket.rateBytesPerSec := by
  have some : (bucket.refill now).tokens ≤ bucket.tokens +
      min ((now - bucket.updated) * bucket.rateBytesPerSec) (2 ^ 128 - 1) / fromSecs 1 := by
    refine (Nat.min_le_right _ _).trans ((Nat.min_le_left _ _).trans ?_)
    exact Nat.add_le_add_left (Nat.min_le_left _ _) _
  calc (bucket.refill now).tokens * fromSecs 1
      ≤ (bucket.tokens +
          min ((now - bucket.updated) * bucket.rateBytesPerSec) (2 ^ 128 - 1) / fromSecs 1) *
            fromSecs 1 := Nat.mul_le_mul_right _ some
    _ = bucket.tokens * fromSecs 1 +
          min ((now - bucket.updated) * bucket.rateBytesPerSec) (2 ^ 128 - 1) / fromSecs 1 *
            fromSecs 1 := Nat.add_mul _ _ _
    _ ≤ bucket.tokens * fromSecs 1 + (now - bucket.updated) * bucket.rateBytesPerSec :=
        Nat.add_le_add_left ((Nat.div_mul_le_self _ _).trans (Nat.min_le_left _ _)) _

end RateBucket

namespace PeerQueue.Paced
variable {p p' : PeerQueue} {bucket bucket' : RateBucket}

lemma same (h : p.Paced rate clock log bucket) (held : p'.rateBucket = p.rateBucket)
    (packets : p'.packets = p.packets) (lastActivity : p'.lastActivity = p.lastActivity) :
    p'.Paced rate clock log bucket := by
  refine ⟨held.trans h.held, h.constant, h.capacity, h.updated, ?_, h.covered⟩
  rw [packets, lastActivity]
  exact h.idle

lemma refill (h : p.Paced rate now log bucket) :
    Covered (fromSecs 1) rate (max rate 65535) log (bucket.refill now).tokens now := by
  refine h.covered.refill h.updated ?_ ?_
  · rw [← h.capacity]
    exact Nat.min_le_left _ _
  · have gain := bucket.refill_gain now
    rw [h.constant] at gain
    exact gain

lemma waits {delay : Nat} (h : p.Paced rate now log bucket) (busy : p.packets ≠ [])
    (unpaid : p.consume now = (.error delay, p')) : ∃ bucket', p'.Paced rate now log bucket' := by
  obtain ⟨_, free, _⟩ | ⟨own, left, held, consumed, rfl⟩ := consume_cases unpaid
  · cases free
  · rw [h.held] at held
    cases held
    obtain ⟨free, _⟩ | ⟨_, _, rfl⟩ := RateBucket.consumeOrDelay_cases consumed
    · cases free
    · exact ⟨bucket.refill now, rfl, h.constant, h.capacity, Nat.le_refl now,
        fun empty => absurd empty busy, h.refill⟩

lemma takes {d : QueuedDatagram} {tail : List QueuedDatagram} (h : p.Paced rate now log bucket)
    (packets : p.packets = d :: tail) (paid : p.consume now = (.ok (), p')) :
    ∃ bucket', (p'.pop now).2.Paced rate now (log ++ [(now, d.payload.len)]) bucket' := by
  obtain ⟨none, _⟩ | ⟨own, left, held, consumed, rfl⟩ := consume_cases paid
  · rw [h.held] at none
    cases none
  · rw [h.held] at held
    cases held
    rw [packetSize_of_packets packets] at consumed
    obtain ⟨_, enough, rfl⟩ | ⟨_, wait, _⟩ := RateBucket.consumeOrDelay_cases consumed
    · have small : min d.payload.len u64Max = d.payload.len := by
        apply Nat.min_eq_left
        have bound : d.payload.len < 2 ^ 63 := d.payload.small
        have max : u64Max = 2 ^ 64 - 1 := rfl
        omega
      rw [small] at enough
      refine ⟨_, rfl, h.constant, h.capacity, Nat.le_refl now, fun _ => Nat.le_refl now, ?_⟩
      rw [small]
      exact h.refill.spend enough
    · cases wait

end PeerQueue.Paced

/-- What a part of a scan adds to the log of a key. -/
def paidFor (outcome : Option QueuedDatagram) (now : Nat) (key : QueueKey) : List (Nat × Nat) :=
  match outcome with
  | none => []
  | some d => if d.key = key then [(now, d.payload.len)] else []

namespace Scan
variable {s : Scan} {key : QueueKey} {rest : List QueueKey} {p p' : PeerQueue} {bound : Nat}
  {logs : QueueKey → List (Nat × Nat)}

lemma lookup_endRound (found : s.state.peers.lookup key = some p) (k : QueueKey) :
    ((s.withRotation rest).endRound key p').state.peers.lookup k =
      if k = key then some { p' with inRound := false } else s.state.peers.lookup k :=
  lookup_modify_found found _ k

lemma lookup_settle (found : s.state.peers.lookup key = some p) {bucket : RateBucket}
    (held : p'.rateBucket = some bucket) :
    ∃ deficit inRound, ∀ k, ((s.withRotation rest).settle key p').state.peers.lookup k =
      if k = key then some { p' with deficit := deficit, inRound := inRound }
      else s.state.peers.lookup k := by
  have bucketed : ¬ p'.rateBucket.isNone = true := by
    rw [held]
    exact Bool.false_ne_true
  unfold settle
  rw [if_neg bucketed]
  split
  · exact ⟨0, false, lookup_modify_found found _⟩
  · split
    · exact ⟨p'.deficit, p'.inRound, lookup_modify_found found _⟩
    · exact ⟨p'.deficit, false, lookup_modify_found found _⟩

/-- A visit pays from the bucket what it returns. -/
lemma shaped_visit (h : s.state.Valid bound)
    (shaped : ∀ key, Shaped rate now (logs key) (s.state.peers.lookup key)) (k : QueueKey) :
    Shaped rate now (logs k ++ paidFor (s.visit now).1 now k)
      ((s.visit now).2.state.peers.lookup k) := by
  have entered : ∀ {key p}, s.state.peers.lookup key = some p →
      ∃ bucket, p.enterRound.Paced rate now (logs key) bucket := by
    intro key p found
    have before := shaped key
    rw [found] at before
    obtain ⟨bucket, paced⟩ := before
    exact ⟨bucket, paced.same p.enterRound_rateBucket p.enterRound_packets p.enterRound_lastActivity⟩
  have visited := visited now h.busy
  generalize s.visit now = result at visited
  cases visited with
  | idle nobody =>
    rw [paidFor, List.append_nil]
    exact shaped k
  | yields key rest p front found large =>
    rw [paidFor, List.append_nil]
    show Shaped _ _ _ (((s.withRotation rest).endRound key p.enterRound).state.peers.lookup k)
    rw [lookup_endRound found]
    split
    · next own =>
      obtain ⟨bucket, paced⟩ := entered found
      rw [own]
      exact ⟨bucket, paced.same rfl rfl rfl⟩
    · exact shaped k
  | waits key rest p p' delay front found small unpaid =>
    rw [paidFor, List.append_nil]
    show Shaped _ _ _ (((s.withRotation rest).endRound key p').state.peers.lookup k)
    rw [lookup_endRound found]
    split
    · next own =>
      have busy : p.enterRound.packets ≠ [] := by
        have listed := (h.rotation key).1 (by rw [front]; exact List.mem_cons_self)
        rw [packetsOf_found found] at listed
        rw [p.enterRound_packets]
        exact listed
      obtain ⟨bucket, paced⟩ := entered found
      obtain ⟨bucket', paced⟩ := paced.waits busy unpaid
      rw [own]
      exact ⟨bucket', paced.same rfl rfl rfl⟩
    · exact shaped k
  | takes key rest p p' d tail front found packets small paid =>
    obtain ⟨keyed, _⟩ := h.keyed key d (by
      rw [packetsOf_found found, packets]
      exact List.mem_cons_self)
    have payment : paidFor (some { d with queueDelay := now - d.enqueuedAt }) now k =
        if key = k then [(now, d.payload.len)] else [] := by
      rw [← keyed]
      rfl
    obtain ⟨bucket, paced⟩ := entered found
    obtain ⟨bucket', paced⟩ := paced.takes (p.enterRound_packets.trans packets) paid
    obtain ⟨deficit, inRound, lookup⟩ := lookup_settle found paced.held
    show Shaped _ _ _ (((s.withRotation rest).settle key (p'.pop now).2).state.peers.lookup k)
    rw [lookup, payment]
    by_cases own : k = key
    · rw [if_pos own, if_pos own.symm, own]
      exact ⟨bucket', paced.same rfl rfl rfl⟩
    · rw [if_neg own, if_neg (Ne.symm own), List.append_nil]
      exact shaped k

lemma shaped_loop (h : s.state.Valid bound)
    (shaped : ∀ key, Shaped rate now (logs key) (s.state.peers.lookup key)) (n : Nat) (k : QueueKey) :
    Shaped rate now (logs k ++ paidFor (loop now n s).1 now k)
      ((loop now n s).2.state.peers.lookup k) := by
  induction n generalizing s with
  | zero =>
    rw [loop, paidFor, List.append_nil]
    exact shaped k
  | succ n ih =>
    have shaped' := shaped_visit h shaped
    have valid := (valid_visit h now).1
    unfold loop
    cases visited : s.visit now with
    | mk outcome next =>
      rw [visited] at shaped' valid
      cases outcome with
      | some packet => exact shaped' k
      | none =>
        refine ih valid fun key => ?_
        have unpaid := shaped' key
        rw [paidFor, List.append_nil] at unpaid
        exact unpaid

end Scan

namespace OutboundQueue
variable {q q' : OutboundQueue} {logs : QueueKey → List (Nat × Nat)}

/-- An evicted queue was idle long enough to fill its bucket. -/
lemma shaped_evictIdle (fast : 65535 ≤ rate)
    (h : ∀ key, Shaped rate now (logs key) (q.state.peers.lookup key)) (k : QueueKey) :
    Shaped rate now (logs k) ((q.evictIdle now).state.peers.lookup k) := by
  have before := h k
  rw [evictIdle, lookup_retain]
  cases found : q.state.peers.lookup k with
  | none =>
    rw [found] at before
    exact before
  | some p =>
    rw [found] at before
    obtain ⟨bucket, paced⟩ := before
    rw [Option.filter_some]
    split
    · exact ⟨bucket, paced⟩
    · next dropped =>
      rw [Bool.or_eq_true, Bool.not_eq_true', decide_eq_true_eq, not_or, Bool.not_eq_false,
        List.isEmpty_iff] at dropped
      have since := paced.idle dropped.1
      refine paced.covered.recovered paced.updated ?_
      rw [Nat.max_eq_left fast]
      exact Nat.mul_le_mul_left rate (by omega)

lemma shaped_entry {key : QueueKey} {p : PeerQueue} (made : q.entry key now = (p, q'))
    (constant : q.rateBytesPerSec.toNat = rate) (positive : 1 ≤ rate)
    (h : ∀ key, Shaped rate now (logs key) (q.state.peers.lookup key)) (k : QueueKey) :
    Shaped rate now (logs k) (q'.state.peers.lookup k) := by
  obtain ⟨_, _, eq⟩ | ⟨new, absent, isNew, eq⟩ := q.entry_cases key now
  · rw [eq] at made
    cases made
    exact h k
  · rw [eq] at made
    cases made
    show Shaped _ _ _ ((q.state.peers.insert key p).lookup k)
    rw [lookup_insert_eq]
    split
    · next own =>
      have before := h key
      rw [absent] at before
      rw [constant, if_pos (Nat.ne_of_gt positive)] at isNew
      subst isNew own
      exact ⟨RateBucket.new rate now, rfl, rfl, rfl, Nat.le_refl now, fun _ => Nat.le_refl now,
        Recovered.covered_new before⟩
    · exact h k

lemma shaped_enqueue (constant : q.rateBytesPerSec.toNat = rate) (fast : 65535 ≤ rate)
    (h : ∀ key, Shaped rate now (logs key) (q.state.peers.lookup key)) (key : QueueKey)
    (endpoint : SocketAddr) (payload : Buffer) (k : QueueKey) : Shaped rate now (logs k)
      ((q.tryEnqueueKeyed key endpoint payload now).2.state.peers.lookup k) := by
  have evicted := shaped_evictIdle fast h
  have enqueued := q.enqueued key endpoint payload now
  generalize q.tryEnqueueKeyed key endpoint payload now = result at enqueued
  cases enqueued with
  | full => exact evicted k
  | crowded p q' room free made beyond => exact shaped_entry made constant (by omega) evicted k
  | accepted p q' room free made few =>
    have before := shaped_entry made constant (by omega) evicted k
    show Shaped _ _ _ (AList.lookup k (HashMap.modify key _ q'.state.peers))
    rw [lookup_modify]
    split
    · cases found : q'.state.peers.lookup k with
      | none =>
        rw [found] at before
        exact before
      | some p =>
        rw [found] at before
        obtain ⟨bucket, paced⟩ := before
        exact ⟨bucket, paced.held, paced.constant, paced.capacity, paced.updated,
          fun empty => absurd empty (List.append_ne_nil_of_right_ne_nil _ (List.cons_ne_nil _ [])),
          paced.covered⟩
    · exact before

end OutboundQueue

def Event.Steady : Event → Prop
  | .setRate _ => False
  | _ => True

namespace Trace
variable {t : Trace}

def sentLog (t : Trace) (key : QueueKey) : List (Nat × Nat) :=
  (t.returned.filter fun entry => decide (entry.2.key = key)).map fun entry =>
    (entry.1, entry.2.payload.len)

/-- The payload bytes that were returned for a key from `t₁` to `t₂`. -/
def bytesWithin (t : Trace) (key : QueueKey) (t₁ t₂ : Nat) : Nat :=
  within (t.sentLog key) t₁ t₂

/-- The invariant of a run at a constant rate. -/
structure Metered (rate : UInt64) (clock : Nat) (t : Trace) : Prop where
  kept : t.Kept
  constant : t.queue.rateBytesPerSec = rate
  shaped : ∀ key, Shaped rate.toNat clock (t.sentLog key) (t.queue.state.peers.lookup key)

lemma metered_start (capacity : Nat) (rate : UInt64) : (start capacity rate).Metered rate 0 :=
  ⟨kept_start capacity rate, rfl, fun _ => Recovered.nil 0⟩

lemma sentLog_concat {t t' : Trace} {outcome : Option QueuedDatagram}
    (returned : t'.returned = t.returned ++ outcome.toList.map fun d => (now, d)) (key : QueueKey) :
    t'.sentLog key = t.sentLog key ++ paidFor outcome now key := by
  rw [sentLog, returned, List.filter_append, List.map_append]
  congr 1
  cases outcome with
  | none => rfl
  | some d =>
    simp only [Option.toList_some, List.map_cons, List.map_nil, List.filter_singleton, paidFor]
    by_cases own : d.key = key
    · rw [decide_eq_true own, if_pos own]
      rfl
    · rw [decide_eq_false own, if_neg own]
      rfl

lemma Metered.enqueued {rate : UInt64} (h : t.Metered rate now) (fast : 65535 ≤ rate.toNat)
    (key : QueueKey) (endpoint : SocketAddr) (payload : Buffer)
    (own : (OutboundQueue.datagram key endpoint payload now).key = key) :
    (t.enqueued (OutboundQueue.datagram key endpoint payload now)
      (t.queue.tryEnqueueKeyed key endpoint payload now)).Metered rate now := by
  obtain ⟨queue, returned⟩ := t.enqueued_queue (OutboundQueue.datagram key endpoint payload now)
    (t.queue.tryEnqueueKeyed key endpoint payload now)
  have shaped := OutboundQueue.shaped_enqueue (congrArg UInt64.toNat h.constant) fast h.shaped key
    endpoint payload
  refine ⟨h.kept.enqueued own, ?_, ?_⟩
  · rw [queue]
    exact (t.queue.enqueue_rate key endpoint payload now).trans h.constant
  · intro k
    rw [queue, sentLog, returned]
    exact shaped k

lemma Metered.scanned {rate : UInt64} (h : t.Metered rate now) (alone : Bool) :
    (t.scanned now (t.queue.recvScan alone now)).Metered rate now := by
  have shaped := Scan.shaped_loop
    (s := { state := t.queue.state, waitFor := none, yieldedToDeficit := false })
    h.kept.valid.state h.shaped t.queue.state.rotation.length
  cases result : Scan.loop now t.queue.state.rotation.length
      { state := t.queue.state, waitFor := none, yieldedToDeficit := false } with
  | mk outcome s =>
    obtain ⟨state, same, returned⟩ := t.scanned_loop alone now result
    rw [result] at shaped
    refine ⟨h.kept.scanned alone now, same.trans h.constant, ?_⟩
    intro k
    rw [state, sentLog_concat returned]
    exact shaped k

lemma Metered.step {rate : UInt64} (h : t.Metered rate clock) (fast : 65535 ≤ rate.toNat)
    (event : Event × Nat) (steady : event.1.Steady) (later : clock ≤ event.2) :
    (t.step event).Metered rate event.2 := by
  obtain ⟨event, now⟩ := event
  have h : t.Metered rate now := ⟨h.kept, h.constant, fun key => (h.shaped key).later later⟩
  cases event with
  | enqueue peer payload => exact h.enqueued fast (.endpoint peer) peer payload rfl
  | enqueueForPeer peerKey endpoint payload =>
    exact h.enqueued fast (.stable peerKey) endpoint payload rfl
  | setRate rate => exact absurd steady id
  | scan alone => exact h.scanned alone

/-- A rate whose second fills the bucket keeps the envelope. -/
lemma Metered.envelope {rate : UInt64} (fast : 65535 ≤ rate.toNat) (events : List (Event × Nat))
    (h : t.Metered rate clock) (steady : ∀ event ∈ events, event.1.Steady)
    (ordered : events.Pairwise fun event event' => event.2 ≤ event'.2)
    (later : ∀ event ∈ events, clock ≤ event.2) (key : QueueKey) :
    Envelope (fromSecs 1) rate.toNat (max rate.toNat 65535)
      ((run Trace.step t events).sentLog key) := by
  induction events generalizing t clock with
  | nil => exact (h.shaped key).envelope
  | cons event events ih =>
    rw [List.pairwise_cons] at ordered
    have stepped := h.step fast event (steady event List.mem_cons_self)
      (later event List.mem_cons_self)
    exact ih stepped (fun event mem => steady event (List.mem_cons_of_mem _ mem)) ordered.2 ordered.1

def sampleKey : QueueKey :=
  .endpoint (samplePeer 1)

def soleQueue (rate : UInt64) (p : PeerQueue) (rotation : List QueueKey) (queued : Nat) :
    OutboundQueue where
  capacity := 1
  perPeerCapacity := 1
  rateBytesPerSec := rate
  queued := queued
  state := { peers := AList.singleton sampleKey p, rotation := rotation, queued := queued }

def waitingQueue (payload : Buffer) (rate : UInt64) (now deficit : Nat) : OutboundQueue :=
  soleQueue rate
    { packets := [OutboundQueue.datagram sampleKey (samplePeer 1) payload now]
      deficit := deficit
      inRound := false
      rateBucket := some (RateBucket.new rate.toNat now)
      lastActivity := now } [sampleKey] 1

def idleQueue (rate : UInt64) (now : Nat) : OutboundQueue :=
  soleQueue rate
    { packets := []
      deficit := 0
      inRound := false
      rateBucket := some { RateBucket.new rate.toNat now with tokens := 0 }
      lastActivity := now } [] 0

lemma modify_singleton (p : PeerQueue) (f : PeerQueue → PeerQueue) :
    HashMap.modify sampleKey f (AList.singleton sampleKey p) = AList.singleton sampleKey (f p) := by
  apply AList.ext
  simp [HashMap.modify, HashMap.mapVal]

lemma lookup_singleton (p : PeerQueue) :
    (AList.singleton sampleKey p : HashMap QueueKey PeerQueue).lookup sampleKey = some p := by
  simp [AList.lookup]

lemma refill_new (rate : UInt64) (now : Nat) :
    (RateBucket.new rate.toNat now).refill now = RateBucket.new rate.toNat now := by
  simp only [RateBucket.refill, RateBucket.new, Nat.sub_self, Nat.zero_mul]
  have full : saturatingAdd (max rate.toNat 65535) (min (min 0 (2 ^ 128 - 1) / 1000000000) u64Max) =
      max rate.toNat 65535 := by
    have bound := rate.toNat_lt
    have max : u64Max = 2 ^ 64 - 1 := rfl
    simp [saturatingAdd, max]
    omega
  rw [full, Nat.min_self]

variable {payload : Buffer}

lemma scan_waiting (largest : payload.len = 65535) (rate : UInt64) (now deficit : Nat)
    (short : deficit + 1500 < 65535) :
    ((waitingQueue payload rate now deficit).recvScan false now) =
      (.yield, waitingQueue payload rate now (deficit + 1500)) := by
  have gain : saturatingAdd deficit drrQuantum = deficit + 1500 := by
    have max : u64Max = 2 ^ 64 - 1 := rfl
    simp [saturatingAdd, max, drrQuantum]
    omega
  simp [OutboundQueue.recvScan, waitingQueue, soleQueue, Scan.loop, Scan.visit, lookup_singleton,
    PeerQueue.enterRound, gain, PeerQueue.packetSize, OutboundQueue.datagram, largest, short,
    Scan.endRound, modify_singleton]

def sampleDatagram (payload : Buffer) (now : Nat) : QueuedDatagram :=
  OutboundQueue.datagram sampleKey (samplePeer 1) payload now

lemma scan_ready (largest : payload.len = 65535) {rate : UInt64} (slow : rate.toNat < 65535)
    (now : Nat) : (waitingQueue payload rate now 64500).recvScan false now =
      (.datagram (sampleDatagram payload now), idleQueue rate now) := by
  have gain : saturatingAdd 64500 drrQuantum = 66000 := by decide
  have capacity : max rate.toNat 65535 = 65535 := Nat.max_eq_right (Nat.le_of_lt slow)
  have paid : (RateBucket.new rate.toNat now).consumeOrDelay 65535 now =
      (.ok (), { RateBucket.new rate.toNat now with tokens := 0 }) := by
    simp only [RateBucket.consumeOrDelay, refill_new]
    simp [RateBucket.new, capacity, u64Max]
  simp [OutboundQueue.recvScan, waitingQueue, soleQueue, idleQueue, Scan.loop, Scan.visit,
    lookup_singleton, PeerQueue.enterRound, gain, PeerQueue.packetSize, OutboundQueue.datagram,
    largest, PeerQueue.consume, paid, PeerQueue.pop, Scan.settle, Scan.uncount,
    modify_singleton, sampleDatagram]

lemma enqueue_waiting (payload : Buffer) {rate : UInt64} (positive : 1 ≤ rate.toNat) {now : Nat}
    {q : OutboundQueue} (evicted : q.evictIdle now = OutboundQueue.newWithRate 1 rate) :
    q.tryEnqueue (samplePeer 1) payload now = (.ok (), waitingQueue payload rate now 0) := by
  have some : rate.toNat ≠ 0 := Nat.ne_of_gt positive
  have inserted : ∀ p : PeerQueue, AList.insert sampleKey p (∅ : HashMap QueueKey PeerQueue) =
      AList.singleton sampleKey p := fun p => rfl
  have absent : (∅ : HashMap QueueKey PeerQueue).lookup sampleKey = none := rfl
  have key : QueueKey.endpoint (samplePeer 1) = sampleKey := rfl
  simp only [OutboundQueue.tryEnqueue, OutboundQueue.tryEnqueueKeyed, evicted, key]
  simp [OutboundQueue.newWithRate, OutboundQueue.entry, absent, some, inserted, modify_singleton,
    maxTrackedPeers, maxPeerQueue, PeerQueue.new, waitingQueue, soleQueue]

/-- A packet, and the scans until it is returned. -/
def burst (payload : Buffer) (now : Nat) : List (Event × Nat) :=
  (.enqueue (samplePeer 1) payload, now) :: List.replicate 44 (.scan false, now)

lemma run_scans (largest : payload.len = 65535) {rate : UInt64} {now n : Nat}
    (short : 1500 * n < 65535) (waiting : t.queue = waitingQueue payload rate now 0) :
    (run step t (List.replicate n (.scan false, now))).queue =
        waitingQueue payload rate now (1500 * n) ∧
      (run step t (List.replicate n (.scan false, now))).returned = t.returned := by
  induction n with
  | zero => exact ⟨waiting, rfl⟩
  | succ n ih =>
    obtain ⟨queue, returned⟩ := ih (by omega)
    rw [List.replicate_succ', run_append]
    have scan := scan_waiting largest rate now (1500 * n) (by omega)
    generalize run step t (List.replicate n (.scan false, now)) = t' at queue returned
    rw [run_cons, run_nil]
    show (t'.scanned now (t'.queue.recvScan false now)).queue = _ ∧
      (t'.scanned now (t'.queue.recvScan false now)).returned = _
    rw [queue, scan]
    exact ⟨rfl, returned⟩

lemma run_burst (largest : payload.len = 65535) {rate : UInt64} (positive : 1 ≤ rate.toNat)
    (slow : rate.toNat < 65535) {now : Nat}
    (evicted : t.queue.evictIdle now = OutboundQueue.newWithRate 1 rate) :
    (run step t (burst payload now)).queue = idleQueue rate now ∧
      (run step t (burst payload now)).returned = t.returned ++ [(now, sampleDatagram payload now)] := by
  have stepped :
      (t.step (.enqueue (samplePeer 1) payload, now)).queue = waitingQueue payload rate now 0 ∧
        (t.step (.enqueue (samplePeer 1) payload, now)).returned = t.returned := by
    obtain ⟨queue, returned⟩ := t.enqueued_queue
      (OutboundQueue.datagram sampleKey (samplePeer 1) payload now)
      (t.queue.tryEnqueue (samplePeer 1) payload now)
    have accepted := enqueue_waiting payload positive evicted
    rw [accepted] at queue returned
    show (t.enqueued _ (t.queue.tryEnqueue (samplePeer 1) payload now)).queue = _ ∧
      (t.enqueued _ (t.queue.tryEnqueue (samplePeer 1) payload now)).returned = _
    rw [accepted]
    exact ⟨queue, returned⟩
  obtain ⟨waiting, none⟩ := stepped
  obtain ⟨queue, returned⟩ := run_scans largest (n := 43) (by decide) waiting
  have split : List.replicate 44 ((.scan false, now) : Event × Nat) =
      List.replicate 43 (.scan false, now) ++ [(.scan false, now)] := rfl
  rw [burst, run_cons, split, run_append, run_cons, run_nil]
  generalize run step _ (List.replicate 43 _) = t' at queue returned
  show (t'.scanned now (t'.queue.recvScan false now)).queue = _ ∧
    (t'.scanned now (t'.queue.recvScan false now)).returned = _
  rw [queue, scan_ready largest slow]
  refine ⟨rfl, ?_⟩
  rw [← none, ← returned]
  rfl

lemma evictIdle_idle (rate : UInt64) (now : Nat) :
    (idleQueue rate now).evictIdle (now + fromSecs 1) = OutboundQueue.newWithRate 1 rate := by
  have dropped : HashMap.retain
      (fun _ p => !p.packets.isEmpty || decide (now + fromSecs 1 - p.lastActivity < fromSecs 1))
      (idleQueue rate now).state.peers = ∅ := by
    apply AList.ext
    simp [HashMap.retain, idleQueue, soleQueue]
  rw [OutboundQueue.evictIdle, dropped]
  rfl

def maxPayload : Buffer :=
  ⟨List.replicate 65535 0, by rw [List.length_replicate]; decide⟩

lemma maxPayload_len : maxPayload.len = 65535 :=
  List.length_replicate

def twoBursts : List (Event × Nat) :=
  burst maxPayload 0 ++ burst maxPayload (fromSecs 1)

lemma bytesWithin_bursts {rate : UInt64} (positive : 1 ≤ rate.toNat) (slow : rate.toNat < 65535) :
    (run step (start 1 rate) twoBursts).bytesWithin sampleKey 0 (fromSecs 1) = 131070 := by
  have evicted : (start 1 rate).queue.evictIdle 0 = OutboundQueue.newWithRate 1 rate := rfl
  obtain ⟨queue, returned⟩ := run_burst maxPayload_len positive slow evicted
  rw [twoBursts, run_append]
  generalize run step (start 1 rate) (burst maxPayload 0) = t at queue returned
  have idle : t.queue.evictIdle (fromSecs 1) = OutboundQueue.newWithRate 1 rate := by
    rw [queue]
    exact evictIdle_idle rate 0
  obtain ⟨_, returned'⟩ := run_burst maxPayload_len positive slow idle
  have log : ((run step t (burst maxPayload (fromSecs 1))).sentLog sampleKey) =
      [(0, 65535), (fromSecs 1, 65535)] := by
    have own : ∀ now, (sampleDatagram maxPayload now).key = sampleKey := fun _ => rfl
    have size : ∀ now, (sampleDatagram maxPayload now).payload.len = 65535 := fun _ => maxPayload_len
    rw [sentLog, returned', returned]
    simp [start, own, size]
  rw [bytesWithin, log]
  decide

lemma steady_bursts : ∀ event ∈ twoBursts, event.1.Steady := by
  intro event mem
  simp only [twoBursts, burst, List.mem_append, List.mem_cons, List.mem_replicate] at mem
  obtain (rfl | ⟨_, rfl⟩) | (rfl | ⟨_, rfl⟩) := mem
  all_goals trivial

lemma ordered_bursts : twoBursts.Pairwise fun event event' => event.2 ≤ event'.2 := by
  have same : ∀ now, ∀ event ∈ burst maxPayload now, event.2 = now := by
    intro now event mem
    simp only [burst, List.mem_cons, List.mem_replicate] at mem
    obtain rfl | ⟨_, rfl⟩ := mem
    · rfl
    · rfl
  refine List.pairwise_append.2 ⟨?_, ?_, ?_⟩
  · exact List.pairwise_of_forall_mem_list fun event mem event' mem' => by
      rw [same 0 event mem, same 0 event' mem']
  · exact List.pairwise_of_forall_mem_list fun event mem event' mem' => by
      rw [same _ event mem, same _ event' mem']
  · intro event mem event' _
    rw [same 0 event mem]
    exact Nat.zero_le _

/-- The envelope holds for exactly the rates that fill a bucket in one idle second. -/
theorem shaping_envelope_iff (rate : UInt64) (positive : 1 ≤ rate) :
    (∀ (capacity : Nat) (events : List (Event × Nat)) (key : QueueKey) (t₁ t₂ : Nat),
      (∀ event ∈ events, event.1.Steady) →
      events.Pairwise (fun event event' => event.2 ≤ event'.2) →
      (run step (start capacity rate) events).bytesWithin key t₁ t₂ * 1000000000 ≤
        max rate.toNat 65535 * 1000000000 + rate.toNat * (t₂ - t₁)) ↔
      65535 ≤ rate := by
  refine ⟨?_, ?_⟩
  · intro envelope
    by_contra slow
    have slow : rate.toNat < 65535 := Nat.lt_of_not_le slow
    have bound := envelope 1 twoBursts sampleKey 0 (fromSecs 1) steady_bursts ordered_bursts
    rw [bytesWithin_bursts positive slow] at bound
    have second : fromSecs 1 = 1000000000 := rfl
    rw [Nat.max_eq_right (Nat.le_of_lt slow), second] at bound
    omega
  · intro fast capacity events key t₁ t₂ steady ordered
    have fast : 65535 ≤ rate.toNat := fast
    exact (metered_start capacity rate).envelope fast events steady ordered
      (fun _ _ => Nat.zero_le _) key t₁ t₂

theorem shaping_envelope_mebibyte : (∀ event ∈ twoBursts, event.1.Steady) ∧
      twoBursts.Pairwise (fun event event' => event.2 ≤ event'.2) ∧
      (run step (start 1 1048576) twoBursts).bytesWithin sampleKey 0 (fromSecs 1) * 1000000000 ≤
        max (1048576 : UInt64).toNat 65535 * 1000000000 +
          (1048576 : UInt64).toNat * (fromSecs 1 - 0) := by
  refine ⟨steady_bursts, ordered_bursts, ?_⟩
  exact (shaping_envelope_iff 1048576 (by decide)).2 (by decide) 1 twoBursts sampleKey 0 (fromSecs 1)
    steady_bursts ordered_bursts

/-- At 1000 bytes per second two largest payloads come in one second. -/
theorem idle_queue_refills_bucket : (∀ event ∈ twoBursts, event.1.Steady) ∧
      twoBursts.Pairwise (fun event event' => event.2 ≤ event'.2) ∧
      ¬ (run step (start 1 1000) twoBursts).bytesWithin sampleKey 0 (fromSecs 1) * 1000000000 ≤
        max (1000 : UInt64).toNat 65535 * 1000000000 + (1000 : UInt64).toNat * (fromSecs 1 - 0) := by
  refine ⟨steady_bursts, ordered_bursts, ?_⟩
  rw [bytesWithin_bursts (by decide) (by decide)]
  decide

end Trace

end Rvpn.Transport
