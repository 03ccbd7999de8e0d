import Rvpn.Transport.Congestion

/-!
# No datagram is lost, duplicated or overtaken

The outbound queue over whole runs of its methods and of the scans of its receiver. All rests on what a
step does to the packets of a key (`packetsOf`): a visit of the receiver takes the first packet of one
key or changes no packets, and an enqueue adds one packet at the end of one key or changes none.
-/

namespace Rvpn.Transport
open HashMap

/-- The key under which a datagram was queued. -/
def QueuedDatagram.key (d : QueuedDatagram) : QueueKey :=
  match d.peerKey with
  | some key => .stable key
  | none => .endpoint d.peer

def QueuedDatagram.asEnqueued (d : QueuedDatagram) : QueuedDatagram :=
  { d with queueDelay := 0 }

/-- The packets that are queued for a key. -/
def packetsOf (peers : HashMap QueueKey PeerQueue) (key : QueueKey) : List QueuedDatagram :=
  ((peers.lookup key).map PeerQueue.packets).getD []

section
variable {peers : HashMap QueueKey PeerQueue} {key : QueueKey} {p : PeerQueue}

lemma packetsOf_found (found : peers.lookup key = some p) : packetsOf peers key = p.packets := by
  rw [packetsOf, found]
  rfl

lemma packetsOf_modify (found : peers.lookup key = some p) (f : PeerQueue → PeerQueue)
    (k : QueueKey) : packetsOf (HashMap.modify key f peers) k =
      if k = key then (f p).packets else packetsOf peers k := by
  rw [packetsOf, lookup_modify_found found]
  split
  · rfl
  · rfl

lemma packetsOf_erase (k : QueueKey) :
    packetsOf (peers.erase key) k = if k = key then [] else packetsOf peers k := by
  rw [packetsOf, lookup_erase_eq]
  split
  · rfl
  · rfl

lemma lookup_of_packetsOf {d : QueuedDatagram} {tail : List QueuedDatagram}
    (packets : packetsOf peers key = d :: tail) :
    ∃ p, peers.lookup key = some p ∧ p.packets = d :: tail := by
  cases found : peers.lookup key with
  | none =>
    rw [packetsOf, found] at packets
    cases packets
  | some p => exact ⟨p, rfl, (packetsOf_found found).symm.trans packets⟩

end

def PeerQueue.count (p : PeerQueue) : Nat :=
  p.packets.length

/-- The state between two steps, for a bound on a key's packets. -/
structure QueueState.Valid (bound : Nat) (s : QueueState) : Prop where
  nodup : s.rotation.Nodup
  rotation : ∀ key, key ∈ s.rotation ↔ packetsOf s.peers key ≠ []
  keyed : ∀ key, ∀ d ∈ packetsOf s.peers key, d.key = key ∧ d.queueDelay = 0
  bounded : ∀ key, (packetsOf s.peers key).length ≤ bound
  counted : s.queued = HashMap.total PeerQueue.count s.peers
  tracked : s.peers.keys.length ≤ maxTrackedPeers

variable {bound : Nat}

variable {s s' : QueueState}

/-- No packets change: entries are rewritten, the rotation turned. -/
lemma QueueState.Valid.same (h : s.Valid bound)
    (packets : ∀ key, packetsOf s'.peers key = packetsOf s.peers key)
    (rotation : s'.rotation.Perm s.rotation) (queued : s'.queued = s.queued)
    (total : HashMap.total PeerQueue.count s'.peers = HashMap.total PeerQueue.count s.peers)
    (tracked : s'.peers.keys.length ≤ maxTrackedPeers) : s'.Valid bound := by
  refine ⟨rotation.nodup_iff.2 h.nodup, ?_, ?_, ?_, ?_, tracked⟩
  · intro key
    rw [rotation.mem_iff, packets]
    exact h.rotation key
  · intro key
    rw [packets]
    exact h.keyed key
  · intro key
    rw [packets]
    exact h.bounded key
  · rw [queued, total]
    exact h.counted

lemma QueueState.Valid.taken (h : s.Valid bound) {key : QueueKey} {rest : List QueueKey}
    {d : QueuedDatagram} {tail : List QueuedDatagram} (front : s.rotation = key :: rest)
    (before : packetsOf s.peers key = d :: tail)
    (after : ∀ k, packetsOf s'.peers k = if k = key then tail else packetsOf s.peers k)
    (rotation : if tail = [] then s'.rotation = rest else s'.rotation.Perm s.rotation)
    (queued : s'.queued = s.queued - 1)
    (total : HashMap.total PeerQueue.count s'.peers + 1 = HashMap.total PeerQueue.count s.peers)
    (tracked : s'.peers.keys.length ≤ maxTrackedPeers) : s'.Valid bound := by
  have nodup := h.nodup
  rw [front, List.nodup_cons] at nodup
  have other : ∀ k ≠ key, (k ∈ s.rotation ↔ k ∈ rest) := by
    intro k ne
    rw [front, List.mem_cons, or_iff_right ne]
  refine ⟨?_, ?_, ?_, ?_, ?_, tracked⟩
  · split at rotation
    · rw [rotation]
      exact nodup.2
    · exact rotation.nodup_iff.2 h.nodup
  · intro k
    rw [after]
    by_cases own : k = key
    · subst own
      rw [if_pos rfl]
      split at rotation
      · next last =>
        rw [rotation]
        exact ⟨fun mem => absurd mem nodup.1, fun more => absurd last more⟩
      · next more =>
        rw [rotation.mem_iff, front]
        exact ⟨fun _ => more, fun _ => List.mem_cons_self⟩
    · rw [if_neg own, ← h.rotation k]
      split at rotation
      · rw [rotation, other k own]
      · rw [rotation.mem_iff]
  · intro k d' mem
    rw [after] at mem
    split at mem
    · next own =>
      subst own
      exact h.keyed k d' (by rw [before]; exact List.mem_cons_of_mem _ mem)
    · exact h.keyed k d' mem
  · intro k
    rw [after]
    split
    · next own =>
      subst own
      have whole := h.bounded k
      rw [before, List.length_cons] at whole
      omega
    · exact h.bounded k
  · have counted := h.counted
    omega

lemma QueueState.Valid.added (h : s.Valid bound) {key : QueueKey} {d : QueuedDatagram}
    (own : d.key = key ∧ d.queueDelay = 0) (fits : (packetsOf s.peers key).length < bound)
    (after : ∀ k, packetsOf s'.peers k =
      if k = key then packetsOf s.peers key ++ [d] else packetsOf s.peers k)
    (rotation : s'.rotation = if packetsOf s.peers key = [] then s.rotation ++ [key] else s.rotation)
    (queued : s'.queued = s.queued + 1)
    (total : HashMap.total PeerQueue.count s'.peers = HashMap.total PeerQueue.count s.peers + 1)
    (tracked : s'.peers.keys.length ≤ maxTrackedPeers) : s'.Valid bound := by
  refine ⟨?_, ?_, ?_, ?_, ?_, tracked⟩
  · rw [rotation]
    split
    · next idle =>
      -- a key without packets is not in the rotation yet
      have absent : key ∉ s.rotation := fun mem => (h.rotation key).1 mem idle
      exact List.nodup_append.2 ⟨h.nodup, List.nodup_singleton key, fun k mem k' mem' same =>
        absent (List.mem_singleton.1 mem' ▸ same ▸ mem)⟩
    · exact h.nodup
  · intro k
    rw [rotation, after]
    by_cases same : k = key
    · subst same
      rw [if_pos rfl]
      refine ⟨fun _ => List.append_ne_nil_of_right_ne_nil _ (List.cons_ne_nil d []), fun _ => ?_⟩
      split
      · exact List.mem_append_right _ (List.mem_singleton_self k)
      · next busy => exact (h.rotation k).2 busy
    · rw [if_neg same, ← h.rotation k]
      split
      · rw [List.mem_append, List.mem_singleton, or_iff_left same]
      · rfl
  · intro k d' mem
    rw [after] at mem
    split at mem
    · next same =>
      subst same
      rcases List.mem_append.1 mem with mem | mem
      · exact h.keyed k d' mem
      · cases List.mem_singleton.1 mem
        exact own
    · exact h.keyed k d' mem
  · intro k
    rw [after]
    split
    · rw [List.length_append, List.length_singleton]
      exact fits
    · exact h.bounded k
  · rw [queued, total, h.counted]

lemma QueueState.Valid.busy (h : s.Valid bound) :
    ∀ key ∈ s.rotation, ∃ p d tail, s.peers.lookup key = some p ∧ p.packets = d :: tail := by
  intro key mem
  obtain ⟨d, tail, packets⟩ := List.exists_cons_of_ne_nil ((h.rotation key).1 mem)
  obtain ⟨p, found, eq⟩ := lookup_of_packetsOf packets
  exact ⟨p, d, tail, found, eq⟩

namespace Scan
variable {s : Scan} {key : QueueKey} {rest : List QueueKey} {p p' : PeerQueue}

lemma valid_endRound (h : s.state.Valid bound) (front : s.state.rotation = key :: rest)
    (found : s.state.peers.lookup key = some p) (same : p'.packets = p.packets) :
    ((s.withRotation rest).endRound key p').state.Valid bound ∧
      ∀ k, packetsOf ((s.withRotation rest).endRound key p').state.peers k =
        packetsOf s.state.peers k := by
  have packets : ∀ k, packetsOf ((s.withRotation rest).endRound key p').state.peers k =
      packetsOf s.state.peers k := by
    intro k
    show packetsOf (HashMap.modify key (fun _ => { p' with inRound := false }) s.state.peers) k = _
    rw [packetsOf_modify found]
    split
    · next own => rw [own, packetsOf_found found, same]
    · rfl
  refine ⟨h.same packets ?_ rfl ?_ ?_, packets⟩
  · rw [front]
    exact List.perm_append_singleton key rest
  · have total := total_modify (f := PeerQueue.count) found
      fun _ => { p' with inRound := false }
    have count : PeerQueue.count { p' with inRound := false } = p.count := congrArg List.length same
    show HashMap.total PeerQueue.count (HashMap.modify key _ s.state.peers) = _
    omega
  · show (HashMap.modify key (fun _ => { p' with inRound := false }) s.state.peers).keys.length ≤ _
    rw [HashMap.modify, keys_mapVal]
    exact h.tracked

lemma valid_settle {d : QueuedDatagram} {tail : List QueuedDatagram} (h : s.state.Valid bound)
    (front : s.state.rotation = key :: rest) (found : s.state.peers.lookup key = some p)
    (packets : p.packets = d :: tail) (same : p'.packets = tail) :
    (((s.withRotation rest).settle key p').uncount).state.Valid bound ∧
      ∀ k, packetsOf (((s.withRotation rest).settle key p').uncount).state.peers k =
        if k = key then tail else packetsOf s.state.peers k := by
  have before : packetsOf s.state.peers key = d :: tail := (packetsOf_found found).trans packets
  have count : p.count = tail.length + 1 := by
    rw [PeerQueue.count, packets, List.length_cons]
  -- the entry of the key is rewritten, with the tail as its packets
  have rewritten : ∀ q : PeerQueue, q.packets = tail →
      (∀ k, packetsOf (HashMap.modify key (fun _ => q) s.state.peers) k =
        if k = key then tail else packetsOf s.state.peers k) ∧
      HashMap.total PeerQueue.count (HashMap.modify key (fun _ => q) s.state.peers) + 1 =
        HashMap.total PeerQueue.count s.state.peers ∧
      (HashMap.modify key (fun _ => q) s.state.peers).keys.length ≤ maxTrackedPeers := by
    intro q packets'
    refine ⟨?_, ?_, ?_⟩
    · intro k
      rw [packetsOf_modify found, packets']
    · have total := total_modify (f := PeerQueue.count) found fun _ => q
      have count' : q.count = tail.length := congrArg List.length packets'
      omega
    · rw [HashMap.modify, keys_mapVal]
      exact h.tracked
  unfold settle
  split
  · next last =>
    rw [same, List.isEmpty_iff] at last
    split
    · have after : ∀ k, packetsOf (s.state.peers.erase key) k =
          if k = key then tail else packetsOf s.state.peers k := by
        intro k
        rw [packetsOf_erase, last]
      refine ⟨h.taken front before after ?_ rfl ?_ ?_, after⟩
      · rw [if_pos last]
        rfl
      · have total := total_erase (f := PeerQueue.count) found
        have one : p.count = 1 := by rw [count, last, List.length_nil]
        show HashMap.total PeerQueue.count (s.state.peers.erase key) + 1 = _
        omega
      · show (s.state.peers.erase key).keys.length ≤ maxTrackedPeers
        rw [AList.keys_erase]
        exact List.length_erase_le.trans h.tracked
    · obtain ⟨after, total, tracked⟩ := rewritten { p' with inRound := false, deficit := 0 } same
      refine ⟨h.taken front before after ?_ rfl total tracked, after⟩
      rw [if_pos last]
      rfl
  · next more =>
    rw [same, List.isEmpty_iff] at more
    split
    · obtain ⟨after, total, tracked⟩ := rewritten p' same
      refine ⟨h.taken front before after ?_ rfl total tracked, after⟩
      rw [if_neg more, front]
      exact .refl _
    · obtain ⟨after, total, tracked⟩ := rewritten { p' with inRound := false } same
      refine ⟨h.taken front before after ?_ rfl total tracked, after⟩
      rw [if_neg more, front]
      exact List.perm_append_singleton key rest

lemma queued_settle (s : Scan) (key : QueueKey) (p : PeerQueue) :
    (s.settle key p).state.queued = s.state.queued := by
  unfold settle
  split
  · split
    · rfl
    · rfl
  · split
    · rfl
    · rfl

/-- A part of a scan changes no packets, or takes the first of its key. -/
def Moves (s : Scan) (result : Option QueuedDatagram × Scan) : Prop :=
  match result.1 with
  | none =>
    result.2.state.queued = s.state.queued ∧
      ∀ k, packetsOf result.2.state.peers k = packetsOf s.state.peers k
  | some packet =>
    result.2.state.queued + 1 = s.state.queued ∧ ∃ d, packet.asEnqueued = d ∧
        packetsOf s.state.peers d.key = d :: packetsOf result.2.state.peers d.key ∧
        ∀ k ≠ d.key, packetsOf result.2.state.peers k = packetsOf s.state.peers k

lemma valid_visit (h : s.state.Valid bound) (now : Nat) :
    (s.visit now).2.state.Valid bound ∧ s.Moves (s.visit now) := by
  have visited := visited now h.busy
  generalize s.visit now = result at visited
  cases visited with
  | idle nobody => exact ⟨h, rfl, fun k => rfl⟩
  | yields key rest p front found large =>
    obtain ⟨valid, same⟩ := valid_endRound h front found p.enterRound_packets
    exact ⟨valid, rfl, same⟩
  | waits key rest p p' delay front found small unpaid =>
    have same : p'.packets = p.packets := by
      rw [PeerQueue.consume_eq unpaid]
      exact p.enterRound_packets
    obtain ⟨valid, same⟩ := valid_endRound h front found same
    exact ⟨valid, rfl, same⟩
  | takes key rest p p' d tail front found packets small paid =>
    have same : (p'.pop now).2.packets = tail := by
      show p'.packets.tail = tail
      rw [PeerQueue.consume_eq paid]
      show p.enterRound.packets.tail = tail
      rw [p.enterRound_packets, packets, List.tail_cons]
    obtain ⟨valid, after⟩ := valid_settle h front found packets same
    have before : packetsOf s.state.peers key = d :: tail := (packetsOf_found found).trans packets
    obtain ⟨own, zero⟩ := h.keyed key d (by rw [before]; exact List.mem_cons_self)
    refine ⟨valid, ?_, d, ?_, ?_, ?_⟩
    · have some := total_erase (f := PeerQueue.count) found
      have count : p.count = tail.length + 1 := by
        rw [PeerQueue.count, packets, List.length_cons]
      have counted := h.counted
      show ((s.withRotation rest).settle key (p'.pop now).2).state.queued - 1 + 1 = s.state.queued
      rw [queued_settle]
      show s.state.queued - 1 + 1 = s.state.queued
      omega
    · rw [QueuedDatagram.asEnqueued, ← zero]
    · rw [after, own, if_pos rfl, before]
    · intro k other
      rw [after, if_neg (own ▸ other)]

lemma Moves.trans {result : Option QueuedDatagram × Scan} {next : Scan}
    (h : s.Moves (none, next)) (h' : next.Moves result) : s.Moves result := by
  obtain ⟨outcome, final⟩ := result
  cases outcome with
  | none => exact ⟨h'.1.trans h.1, fun k => (h'.2 k).trans (h.2 k)⟩
  | some packet =>
    obtain ⟨count, d, eq, before, others⟩ := h'
    refine ⟨count.trans h.1, d, eq, (h.2 d.key).symm.trans before, ?_⟩
    exact fun k other => (others k other).trans (h.2 k)

lemma valid_loop (h : s.state.Valid bound) (now n : Nat) :
    (loop now n s).2.state.Valid bound ∧ s.Moves (loop now n s) := by
  induction n generalizing s with
  | zero => exact ⟨h, rfl, fun k => rfl⟩
  | succ n ih =>
    obtain ⟨valid, moves⟩ := valid_visit h now
    unfold loop
    cases visited : s.visit now with
    | mk outcome next =>
      rw [visited] at valid moves
      cases outcome with
      | none =>
        obtain ⟨valid', moves'⟩ := ih valid
        exact ⟨valid', moves.trans moves'⟩
      | some packet => exact ⟨valid, moves⟩

end Scan

namespace OutboundQueue
variable {q q' : OutboundQueue}

structure Valid (q : OutboundQueue) : Prop where
  state : q.state.Valid (min q.capacity maxPeerQueue)
  shared : q.queued = q.state.queued
  full : q.state.queued ≤ q.capacity
  perPeer : q.perPeerCapacity = min q.capacity maxPeerQueue

lemma valid_setRate (h : q.Valid) (rate : UInt64) (now : Nat) :
    (q.setRateBytesPerSec rate now).Valid ∧
      ∀ k, packetsOf (q.setRateBytesPerSec rate now).state.peers k = packetsOf q.state.peers k := by
  have packets : ∀ k, packetsOf (q.setRateBytesPerSec rate now).state.peers k =
      packetsOf q.state.peers k := by
    intro k
    rw [setRateBytesPerSec, packetsOf, lookup_mapVal, Option.map_map]
    rfl
  refine ⟨⟨h.state.same packets (.refl _) rfl ?_ ?_, h.shared, h.full, h.perPeer⟩, packets⟩
  · exact total_mapVal fun _ _ _ => rfl
  · rw [setRateBytesPerSec, keys_mapVal]
    exact h.state.tracked

lemma valid_evictIdle (h : q.Valid) (now : Nat) : (q.evictIdle now).Valid ∧
      ∀ k, packetsOf (q.evictIdle now).state.peers k = packetsOf q.state.peers k := by
  have packets : ∀ k, packetsOf (q.evictIdle now).state.peers k = packetsOf q.state.peers k := by
    intro k
    rw [evictIdle, packetsOf, packetsOf, lookup_retain]
    cases q.state.peers.lookup k with
    | none => rfl
    | some p =>
      rw [Option.filter_some]
      split
      · rfl
      · next dropped =>
        have idle : p.packets.isEmpty = true := by
          by_contra busy
          rw [Bool.not_eq_true] at busy
          exact dropped (by rw [busy]; rfl)
        rw [Option.map_some, Option.map_none, List.isEmpty_iff.1 idle]
        rfl
  refine ⟨⟨h.state.same packets (.refl _) rfl ?_ ?_, h.shared, h.full, h.perPeer⟩, packets⟩
  · refine total_retain fun k p _ dropped => ?_
    rw [Bool.or_eq_false_iff, Bool.not_eq_false'] at dropped
    rw [PeerQueue.count, List.isEmpty_iff.1 dropped.1, List.length_nil]
  · have sublist : (q.evictIdle now).state.peers.keys.Sublist q.state.peers.keys :=
      List.filter_sublist.map _
    exact sublist.length_le.trans h.state.tracked

variable {key k : QueueKey} {now : Nat} {p p' : PeerQueue} {endpoint : SocketAddr}
  {payload : Buffer}

lemma valid_entry (h : q.Valid)
    (free : key ∈ q.state.peers ∨ q.state.peers.keys.length < maxTrackedPeers)
    (made : q.entry key now = (p, q')) :
    q'.Valid ∧ ∀ k, packetsOf q'.state.peers k = packetsOf q.state.peers k := by
  obtain ⟨_, _, eq⟩ | ⟨new, absent, isNew, eq⟩ := q.entry_cases key now
  · rw [eq] at made
    cases made
    exact ⟨h, fun k => rfl⟩
  · rw [eq] at made
    cases made
    have empty : p.packets = [] := by rw [isNew]; rfl
    have unknown : key ∉ q.state.peers := AList.lookup_eq_none.1 absent
    have packets : ∀ k, packetsOf (q.state.peers.insert key p) k = packetsOf q.state.peers k := by
      intro k
      rw [packetsOf, lookup_insert_eq]
      split
      · next own => rw [own, packetsOf, absent, Option.map_some, empty]; rfl
      · rfl
    refine ⟨⟨h.state.same packets (.refl _) rfl ?_ ?_, h.shared, h.full, h.perPeer⟩, packets⟩
    · rw [total_insert_new unknown, PeerQueue.count, empty]
      rfl
    · obtain mem | few := free
      · exact absurd mem unknown
      · rw [AList.keys_insert, List.length_cons,
          List.erase_of_not_mem fun mem => unknown (AList.mem_keys.2 mem)]
        exact few

/-- A rejected enqueue leaves counters, rotation and packets alone. -/
structure Unharmed (q q' : OutboundQueue) : Prop where
  queued : q'.queued = q.queued ∧ q'.state.queued = q.state.queued
  rotation : q'.state.rotation = q.state.rotation
  packets : ∀ k, packetsOf q'.state.peers k = packetsOf q.state.peers k
  entries : ∀ k p, q.state.peers.lookup k = some p → p.packets ≠ [] →
    q'.state.peers.lookup k = some p

lemma lookup_evictIdle (now : Nat) (found : q.state.peers.lookup k = some p) (busy : p.packets ≠ []) :
    (q.evictIdle now).state.peers.lookup k = some p := by
  rw [evictIdle, lookup_retain, found, Option.filter_some, if_pos]
  rw [Bool.or_eq_true, Bool.not_eq_true', List.isEmpty_eq_false_iff]
  exact .inl busy

lemma lookup_entry (made : (q.evictIdle now).entry key now = (p, q'))
    (found : q.state.peers.lookup k = some p') (busy : p'.packets ≠ []) :
    q'.state.peers.lookup k = some p' := by
  have kept := lookup_evictIdle now found busy
  obtain ⟨_, _, eq⟩ | ⟨new, absent, _, eq⟩ := (q.evictIdle now).entry_cases key now
  · rw [eq] at made
    cases made
    exact kept
  · rw [eq] at made
    cases made
    have other : k ≠ key := by
      intro same
      rw [same, absent] at kept
      cases kept
    rw [AList.lookup_insert_ne other]
    exact kept

/-- An entry after room was made for a key was there before, or it is new. -/
lemma entry_origin (made : (q.evictIdle now).entry key now = (p, q'))
    (found : q'.state.peers.lookup k = some p') :
    q.state.peers.lookup k = some p' ∨
      p' = PeerQueue.new (if q.rateBytesPerSec.toNat ≠ 0 then some q.rateBytesPerSec.toNat else none)
        now := by
  have kept : (q.evictIdle now).state.peers.lookup k = some p' → q.state.peers.lookup k = some p' := by
    intro found
    rw [evictIdle, lookup_retain, Option.filter_eq_some_iff] at found
    exact found.1
  obtain ⟨_, _, eq⟩ | ⟨new, absent, isNew, eq⟩ := (q.evictIdle now).entry_cases key now
  · rw [eq] at made
    cases made
    exact .inl (kept found)
  · rw [eq] at made
    cases made
    have found : ((q.evictIdle now).state.peers.insert key p).lookup k = some p' := found
    rw [lookup_insert_eq] at found
    split at found
    · cases found
      exact .inr isNew
    · exact .inl (kept found)

lemma enqueue_rate (q : OutboundQueue) (key : QueueKey) (endpoint : SocketAddr) (payload : Buffer)
    (now : Nat) :
    (q.tryEnqueueKeyed key endpoint payload now).2.rateBytesPerSec = q.rateBytesPerSec := by
  have enqueued := q.enqueued key endpoint payload now
  generalize q.tryEnqueueKeyed key endpoint payload now = result at enqueued
  cases enqueued with
  | full => rfl
  | crowded p q' room free made beyond =>
    obtain ⟨_, _, same, _⟩ := entry_fields made
    exact same
  | accepted p q' room free made few =>
    obtain ⟨_, _, same, _⟩ := entry_fields made
    exact same

lemma enqueue_origin
    (found : (q.tryEnqueueKeyed key endpoint payload now).2.state.peers.lookup k = some p') :
    ∃ p, (q.state.peers.lookup k = some p ∨
        p = PeerQueue.new (if q.rateBytesPerSec.toNat ≠ 0 then some q.rateBytesPerSec.toNat else none)
          now) ∧
      (p' = p ∨ p' =
        { p with
          packets := p.packets ++ [datagram key endpoint payload now]
          lastActivity := now }) := by
  have enqueued := q.enqueued key endpoint payload now
  generalize q.tryEnqueueKeyed key endpoint payload now = result at enqueued found
  cases enqueued with
  | full =>
    rw [evictIdle, lookup_retain, Option.filter_eq_some_iff] at found
    exact ⟨p', .inl found.1, .inl rfl⟩
  | crowded p q' room free made beyond => exact ⟨p', entry_origin made found, .inl rfl⟩
  | accepted p q' room free made few =>
    rw [lookup_modify] at found
    split at found
    · obtain ⟨old, before, rfl⟩ := Option.map_eq_some_iff.1 found
      exact ⟨old, entry_origin made before, .inr rfl⟩
    · exact ⟨p', entry_origin made found, .inl rfl⟩

lemma rejected (h : q.Valid) {error : TransportError}
    (result : q.tryEnqueueKeyed key endpoint payload now = (.error error, q')) :
    q'.Valid ∧ q.Unharmed q' := by
  obtain ⟨evicted, packets⟩ := valid_evictIdle h now
  have enqueued := q.enqueued key endpoint payload now
  rw [result] at enqueued
  cases enqueued with
  | full => exact ⟨evicted, ⟨rfl, rfl⟩, rfl, packets, fun k p => lookup_evictIdle now⟩
  | crowded p q' room free made beyond =>
    obtain ⟨valid, packets'⟩ := valid_entry evicted free made
    obtain ⟨_, _, _, queued, queued', rotation, _⟩ := entry_fields made
    refine ⟨valid, ⟨queued, queued'⟩, rotation, fun k => (packets' k).trans (packets k), ?_⟩
    exact fun k p' => lookup_entry made

lemma accepted (h : q.Valid) (own : (datagram key endpoint payload now).key = key)
    (result : q.tryEnqueueKeyed key endpoint payload now = (.ok (), q')) :
    q'.Valid ∧ ∀ k, packetsOf q'.state.peers k =
      if k = key then packetsOf q.state.peers key ++ [datagram key endpoint payload now]
      else packetsOf q.state.peers k := by
  obtain ⟨evicted, packets⟩ := valid_evictIdle h now
  have enqueued := q.enqueued key endpoint payload now
  rw [result] at enqueued
  cases enqueued with
  | accepted p q' room free made fits =>
    obtain ⟨valid, packets'⟩ := valid_entry evicted free made
    obtain ⟨capacity, perPeer, _, shared, queued, _, found⟩ := entry_fields made
    have before : packetsOf q.state.peers key = p.packets := by
      rw [← packets, ← packets', packetsOf_found found]
    have after : ∀ k, packetsOf (HashMap.modify key (fun p => { p with
        packets := p.packets ++ [datagram key endpoint payload now]
        lastActivity := now }) q'.state.peers) k =
        if k = key then packetsOf q.state.peers key ++ [datagram key endpoint payload now]
        else packetsOf q.state.peers k := by
      intro k
      rw [packetsOf_modify found, packets', packets, before]
    have total := total_modify (f := PeerQueue.count) found fun p => { p with
      packets := p.packets ++ [datagram key endpoint payload now]
      lastActivity := now }
    have longer : PeerQueue.count { p with
        packets := p.packets ++ [datagram key endpoint payload now]
        lastActivity := now } = p.count + 1 := by
      rw [PeerQueue.count, List.length_append, List.length_singleton]
      rfl
    have bound : min q'.capacity maxPeerQueue = q.perPeerCapacity := by rw [capacity, h.perPeer]; rfl
    have room' : q'.state.queued < q'.capacity := by
      rw [queued, capacity]
      exact room
    refine ⟨⟨valid.state.added ⟨own, rfl⟩ ?_ ?_ ?_ rfl ?_ ?_, ?_, room', valid.perPeer⟩, after⟩
    · rw [bound, packets', packets, before]
      exact fits
    · intro k
      rw [packets', packets', packets, packets]
      exact after k
    · rw [packets', packets, before]
      simp only [List.isEmpty_iff]
    · show HashMap.total PeerQueue.count (HashMap.modify key _ q'.state.peers) = _
      omega
    · show (HashMap.modify key _ q'.state.peers).keys.length ≤ _
      rw [HashMap.modify, keys_mapVal]
      exact valid.state.tracked
    · show q'.queued + 1 = q'.state.queued + 1
      rw [valid.shared]

lemma scanned (h : q.Valid) (alone : Bool) (now : Nat) : (q.recvScan alone now).2.Valid ∧
      match (q.recvScan alone now).1 with
      | .datagram packet => ∃ d, packet.asEnqueued = d ∧
          packetsOf q.state.peers d.key = d :: packetsOf (q.recvScan alone now).2.state.peers d.key ∧
          ∀ k ≠ d.key, packetsOf (q.recvScan alone now).2.state.peers k = packetsOf q.state.peers k
      | _ => ∀ k, packetsOf (q.recvScan alone now).2.state.peers k = packetsOf q.state.peers k := by
  obtain ⟨valid, moves⟩ := Scan.valid_loop
    (s := { state := q.state, waitFor := none, yieldedToDeficit := false }) h.state now
    q.state.rotation.length
  unfold recvScan
  cases result : Scan.loop now q.state.rotation.length
      { state := q.state, waitFor := none, yieldedToDeficit := false } with
  | mk outcome s =>
    rw [result] at valid moves
    have full := h.full
    have shared := h.shared
    cases outcome with
    | some packet =>
      obtain ⟨count, moved⟩ := moves
      have count : s.state.queued + 1 = q.state.queued := count
      refine ⟨⟨valid, ?_, ?_, h.perPeer⟩, moved⟩
      · show q.queued - 1 = s.state.queued
        omega
      · show s.state.queued ≤ q.capacity
        omega
    | none =>
      obtain ⟨count, same⟩ := moves
      have count : s.state.queued = q.state.queued := count
      have after : Valid { q with state := s.state } :=
        ⟨valid, shared.trans count.symm, count.le.trans full, h.perPeer⟩
      simp only
      split
      · exact ⟨after, same⟩
      · split
        · exact ⟨after, same⟩
        · split
          · exact ⟨after, same⟩
          · exact ⟨after, same⟩

end OutboundQueue

inductive Event where
  | enqueue (peer : SocketAddr) (payload : Buffer)
  | enqueueForPeer (peerKey : Bytes 16) (endpoint : SocketAddr) (payload : Buffer)
  | setRate (rateBytesPerSec : UInt64)
  | scan (alone : Bool)

/-- The queue, what it accepted, and what `recv` returned when. -/
structure Trace where
  queue : OutboundQueue
  accepted : List QueuedDatagram
  returned : List (Nat × QueuedDatagram)

namespace Trace

def start (capacity : Nat) (rateBytesPerSec : UInt64) : Trace where
  queue := OutboundQueue.newWithRate capacity rateBytesPerSec
  accepted := []
  returned := []

def enqueued (t : Trace) (d : QueuedDatagram) (result : Except TransportError Unit × OutboundQueue) :
    Trace :=
  match result with
  | (.ok (), queue) => { t with queue := queue, accepted := t.accepted ++ [d] }
  | (.error _, queue) => { t with queue := queue }

def scanned (t : Trace) (now : Nat) (result : Received × OutboundQueue) : Trace :=
  match result with
  | (.datagram d, queue) => { t with queue := queue, returned := t.returned ++ [(now, d)] }
  | (_, queue) => { t with queue := queue }

def step (t : Trace) (event : Event × Nat) : Trace :=
  match event.1 with
  | .enqueue peer payload =>
    t.enqueued (OutboundQueue.datagram (.endpoint peer) peer payload event.2)
      (t.queue.tryEnqueue peer payload event.2)
  | .enqueueForPeer peerKey endpoint payload =>
    t.enqueued (OutboundQueue.datagram (.stable peerKey) endpoint payload event.2)
      (t.queue.tryEnqueueForPeer peerKey endpoint payload event.2)
  | .setRate rate => { t with queue := t.queue.setRateBytesPerSec rate event.2 }
  | .scan alone => t.scanned event.2 (t.queue.recvScan alone event.2)

def acceptedFor (t : Trace) (key : QueueKey) : List QueuedDatagram :=
  t.accepted.filter fun d => decide (d.key = key)

def returnedFor (t : Trace) (key : QueueKey) : List QueuedDatagram :=
  (t.returned.map fun entry => entry.2.asEnqueued).filter fun d => decide (d.key = key)

/-- Returned, then queued, is what was accepted; the counters agree. -/
structure Sound (t : Trace) : Prop where
  ordered : ∀ key, t.acceptedFor key = t.returnedFor key ++ packetsOf t.queue.state.peers key
  counted : t.queue.state.queued = HashMap.total PeerQueue.count t.queue.state.peers ∧
    t.queue.queued = t.queue.state.queued ∧ t.queue.state.queued ≤ t.queue.capacity
  bounded : ∀ key, (packetsOf t.queue.state.peers key).length ≤ min t.queue.capacity 256
  tracked : t.queue.state.peers.keys.length ≤ 8192
  rotation : t.queue.state.rotation.Nodup ∧
    ∀ key, key ∈ t.queue.state.rotation ↔ packetsOf t.queue.state.peers key ≠ []

structure Kept (t : Trace) : Prop where
  valid : t.queue.Valid
  ordered : ∀ key, t.acceptedFor key = t.returnedFor key ++ packetsOf t.queue.state.peers key

variable {t : Trace}

lemma Kept.sound (h : t.Kept) : t.Sound :=
  ⟨h.ordered, ⟨h.valid.state.counted, h.valid.shared, h.valid.full⟩, h.valid.state.bounded,
    h.valid.state.tracked, h.valid.state.nodup, h.valid.state.rotation⟩

lemma kept_start (capacity : Nat) (rate : UInt64) : (start capacity rate).Kept := by
  refine ⟨⟨⟨List.nodup_nil, ?_, ?_, ?_, rfl, Nat.zero_le _⟩, rfl, Nat.zero_le _, rfl⟩, fun key => rfl⟩
  · exact fun key => ⟨fun mem => absurd mem List.not_mem_nil, fun busy => absurd rfl busy⟩
  · exact fun key d mem => absurd mem List.not_mem_nil
  · exact fun key => Nat.zero_le _

lemma Kept.enqueued (h : t.Kept) {key : QueueKey} {endpoint : SocketAddr} {payload : Buffer}
    {now : Nat} (own : (OutboundQueue.datagram key endpoint payload now).key = key) :
    (t.enqueued (OutboundQueue.datagram key endpoint payload now)
      (t.queue.tryEnqueueKeyed key endpoint payload now)).Kept := by
  cases result : t.queue.tryEnqueueKeyed key endpoint payload now with
  | mk outcome queue =>
    cases outcome with
    | error e =>
      obtain ⟨valid, unharmed⟩ := OutboundQueue.rejected h.valid result
      refine ⟨valid, fun k => (h.ordered k).trans ?_⟩
      show _ = t.returnedFor k ++ packetsOf queue.state.peers k
      rw [unharmed.packets]
    | ok =>
      obtain ⟨valid, after⟩ := OutboundQueue.accepted h.valid own result
      refine ⟨valid, fun k => ?_⟩
      show (t.accepted ++ [_]).filter _ = t.returnedFor k ++ packetsOf queue.state.peers k
      have before := h.ordered k
      unfold acceptedFor at before
      rw [List.filter_append, before, after]
      by_cases same : k = key
      · subst same
        rw [if_pos rfl, List.filter_singleton, own, decide_eq_true rfl]
        simp
      · rw [if_neg same, List.filter_singleton, own, decide_eq_false (Ne.symm same)]
        simp

lemma Kept.scanned (h : t.Kept) (alone : Bool) (now : Nat) :
    (t.scanned now (t.queue.recvScan alone now)).Kept := by
  obtain ⟨valid, moves⟩ := OutboundQueue.scanned h.valid alone now
  cases result : t.queue.recvScan alone now with
  | mk outcome queue =>
    rw [result] at valid moves
    cases outcome with
    | datagram packet =>
      obtain ⟨d, eq, taken, others⟩ := moves
      refine ⟨valid, fun k => (h.ordered k).trans ?_⟩
      show _ = ((t.returned ++ [(now, packet)]).map _).filter _ ++ packetsOf queue.state.peers k
      rw [List.map_append, List.filter_append, List.map_singleton, List.filter_singleton, eq,
        List.append_assoc]
      congr 1
      by_cases same : d.key = k
      · subst same
        rw [taken, decide_eq_true rfl]
        rfl
      · rw [others k (Ne.symm same), decide_eq_false same]
        rfl
    | closed => exact ⟨valid, fun k => (h.ordered k).trans (congrArg _ (moves k).symm)⟩
    | sleep delay => exact ⟨valid, fun k => (h.ordered k).trans (congrArg _ (moves k).symm)⟩
    | yield => exact ⟨valid, fun k => (h.ordered k).trans (congrArg _ (moves k).symm)⟩
    | wait => exact ⟨valid, fun k => (h.ordered k).trans (congrArg _ (moves k).symm)⟩

lemma Kept.step (h : t.Kept) (event : Event × Nat) : (t.step event).Kept := by
  obtain ⟨event, now⟩ := event
  cases event with
  | enqueue peer payload => exact h.enqueued rfl
  | enqueueForPeer peerKey endpoint payload => exact h.enqueued rfl
  | setRate rate =>
    obtain ⟨valid, same⟩ := OutboundQueue.valid_setRate h.valid rate now
    exact ⟨valid, fun k => (h.ordered k).trans (congrArg _ (same k).symm)⟩
  | scan alone => exact h.scanned alone now

/-- In every run the queue does its work; a rejected datagram leaves no trace. -/
theorem outboundQueue_sound (capacity : Nat) (rate : UInt64) (events : List (Event × Nat)) :
    (run step (start capacity rate) events).Sound ∧ ∀ key endpoint payload now error queue,
        (run step (start capacity rate) events).queue.tryEnqueueKeyed key endpoint payload now =
          (.error error, queue) →
        (run step (start capacity rate) events).queue.Unharmed queue := by
  have kept : (run step (start capacity rate) events).Kept :=
    run_invariant' (kept_start capacity rate) fun t event h => h.step event
  refine ⟨kept.sound, ?_⟩
  intro key endpoint payload now error queue result
  exact (OutboundQueue.rejected kept.valid result).2

end Trace

end Rvpn.Transport
