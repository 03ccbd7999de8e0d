import Rvpn.Transport.Shaping

/-!
# Turns, waiting and the rate buckets

A peer whose deficit covers its head packet and whose bucket does not is let pass with its round ended:
its deficit stays, so the next visit adds another quantum to it. And one such peer makes `recv` sleep,
whatever the other peers need. A turn of a peer is a stretch of visits in which it stays at the front of
the rotation; its bytes are paid from the deficit (`PeerQueue.Turn`).
-/

namespace Rvpn.Transport

namespace PeerQueue
variable {p p' : PeerQueue} {now : Nat}

def heldBack (p : PeerQueue) (now : Nat) : Bool :=
  p.rateBucket.any fun bucket => decide ((bucket.refill now).tokens < p.packetSize)

/-- The deficit covers the head packet, but the bucket does not. -/
def waits (p : PeerQueue) (now : Nat) : Bool :=
  decide (p.packetSize ≤ p.enterRound.deficit) && p.heldBack now

lemma packetSize_le (p : PeerQueue) : p.packetSize ≤ u64Max := by
  unfold packetSize
  cases p.packets.head? with
  | none => exact Nat.zero_le _
  | some d =>
    have small := d.payload.small
    have max : u64Max = 18446744073709551615 := rfl
    show d.payload.bytes.length ≤ u64Max
    omega

lemma enterRound_packetSize (p : PeerQueue) : p.enterRound.packetSize = p.packetSize := by
  rw [packetSize, p.enterRound_packets]
  rfl

/-- The bucket refuses exactly the packets that are held back. -/
lemma heldBack_of_consume {result : Except Nat Unit}
    (consumed : p.enterRound.consume now = (result, p')) :
    p.heldBack now = true ↔ ∃ delay, result = .error delay := by
  unfold heldBack
  obtain ⟨free, rfl, _⟩ | ⟨bucket, bucket', some, taken, _⟩ := consume_cases consumed
  · rw [p.enterRound_rateBucket] at free
    rw [free]
    refine ⟨fun held => ?_, fun failed => ?_⟩
    · cases held
    · obtain ⟨_, failed⟩ := failed
      cases failed
  · rw [p.enterRound_rateBucket] at some
    rw [p.enterRound_packetSize] at taken
    rw [some, Option.any_some, decide_eq_true_eq]
    have size := p.packetSize_le
    unfold RateBucket.consumeOrDelay at taken
    rw [Nat.min_eq_left size] at taken
    simp only at taken
    split at taken
    · next enough =>
      cases taken
      refine ⟨fun held => absurd enough (Nat.not_le.2 held), fun failed => ?_⟩
      obtain ⟨_, failed⟩ := failed
      cases failed
    · next short =>
      cases taken
      exact ⟨fun _ => ⟨_, rfl⟩, fun _ => Nat.lt_of_not_le short⟩

lemma waits_of_consume {delay : Nat} (small : p.packetSize ≤ p.enterRound.deficit)
    (unpaid : p.enterRound.consume now = (.error delay, p')) : p.waits now = true := by
  rw [waits, decide_eq_true small, (heldBack_of_consume unpaid).2 ⟨delay, rfl⟩]
  rfl

lemma waits_of_large (large : p.enterRound.deficit < p.packetSize) : p.waits now = false := by
  rw [waits, decide_eq_false (Nat.not_le.2 large)]
  rfl

end PeerQueue

/-! ## Waiting -/

namespace Scan
variable {s s' next : Scan} {key : QueueKey} {rest todo : List QueueKey} {p : PeerQueue}
  {bound now : Nat}

/-- Whether a peer of `todo` waits for tokens, and whether one yielded. -/
structure Passed (now : Nat) (s : Scan) (todo : List QueueKey) (s' : Scan) : Prop where
  passed : ∀ key ∈ todo, ∀ p, s.state.peers.lookup key = some p →
    p.waits now = true ∨ p.enterRound.deficit < p.packetSize
  waitFor : s'.waitFor = none ↔ s.waitFor = none ∧
    ∀ key ∈ todo, ∀ p, s.state.peers.lookup key = some p → p.waits now = false
  yielded : s'.yieldedToDeficit = true ↔ s.yieldedToDeficit = true ∨
    ∃ key ∈ todo, ∃ p, s.state.peers.lookup key = some p ∧ p.enterRound.deficit < p.packetSize

/-- A visit that returns nothing notes why, and turns the rotation. -/
lemma passed_visit (h : s.state.Valid bound) (front : s.state.rotation = key :: rest)
    (nothing : s.visit now = (none, next)) : next.state.rotation = rest ++ [key] ∧
      (∀ k ≠ key, next.state.peers.lookup k = s.state.peers.lookup k) ∧
      ∃ p, s.state.peers.lookup key = some p ∧
        (p.waits now = true ∨ p.enterRound.deficit < p.packetSize) ∧
        (next.waitFor = none ↔ s.waitFor = none ∧ p.waits now = false) ∧
        (next.yieldedToDeficit = true ↔
          s.yieldedToDeficit = true ∨ p.enterRound.deficit < p.packetSize) := by
  have visited := visited now h.busy
  rw [nothing] at visited
  cases visited with
  | idle nobody =>
    rw [nobody] at front
    cases front
  | yields key' rest' p front' found large =>
    rw [front] at front'
    cases front'
    refine ⟨rfl, ?_, p, found, .inr large, ?_, ?_⟩
    · intro k other
      exact (lookup_endRound found k).trans (if_neg other)
    · exact ⟨fun none => ⟨none, PeerQueue.waits_of_large large⟩, fun none => none.1⟩
    · exact ⟨fun _ => .inr large, fun _ => rfl⟩
  | waits key' rest' p p' delay front' found small unpaid =>
    rw [front] at front'
    cases front'
    have waits := PeerQueue.waits_of_consume small unpaid
    refine ⟨rfl, ?_, p, found, .inl waits, ?_, ?_⟩
    · intro k other
      exact (lookup_endRound found k).trans (if_neg other)
    · refine ⟨fun none => ?_, fun none => ?_⟩
      · cases none
      · rw [waits] at none
        cases none.2
    · exact ⟨fun yielded => .inl yielded, fun yielded => yielded.resolve_right (Nat.not_lt.2 small)⟩

lemma Passed.cons (found : s.state.peers.lookup key = some p)
    (own : p.waits now = true ∨ p.enterRound.deficit < p.packetSize)
    (waitFor : next.waitFor = none ↔ s.waitFor = none ∧ p.waits now = false)
    (yielded : next.yieldedToDeficit = true ↔
      s.yieldedToDeficit = true ∨ p.enterRound.deficit < p.packetSize)
    (same : ∀ k ∈ todo, next.state.peers.lookup k = s.state.peers.lookup k)
    (rest : Passed now next todo s') : Passed now s (key :: todo) s' := by
  have front : ∀ {Q : PeerQueue → Prop},
      (∀ p', s.state.peers.lookup key = some p' → Q p') ↔ Q p := by
    simp [found]
  have others : ∀ {Q : PeerQueue → Prop},
      (∀ k ∈ todo, ∀ p', next.state.peers.lookup k = some p' → Q p') ↔
        ∀ k ∈ todo, ∀ p', s.state.peers.lookup k = some p' → Q p' :=
    forall₂_congr fun k mem => by rw [same k mem]
  constructor
  case passed =>
    rw [List.forall_mem_cons]
    exact ⟨front.2 own, others.1 rest.passed⟩
  case waitFor => rw [rest.waitFor, waitFor, List.forall_mem_cons, others, front, and_assoc]
  case yielded =>
    have large : (∃ p', s.state.peers.lookup key = some p' ∧ p'.enterRound.deficit < p'.packetSize) ↔
        p.enterRound.deficit < p.packetSize := by
      simp [found]
    have others : (∃ k ∈ todo, ∃ p', next.state.peers.lookup k = some p' ∧
          p'.enterRound.deficit < p'.packetSize) ↔
        ∃ k ∈ todo, ∃ p', s.state.peers.lookup k = some p' ∧
          p'.enterRound.deficit < p'.packetSize :=
      exists_congr fun k => and_congr_right fun mem => by rw [same k mem]
    rw [rest.yielded, yielded, List.exists_mem_cons_iff, others, large, or_assoc]

/-- A scan that returns nothing visits each key once. -/
lemma passed_loop (h : s.state.Valid bound) {later : List QueueKey}
    (rotation : s.state.rotation = todo ++ later)
    (nothing : loop now todo.length s = (none, s')) : Passed now s todo s' := by
  induction todo generalizing s later with
  | nil =>
    cases nothing
    refine ⟨fun key mem => absurd mem List.not_mem_nil, ?_, ?_⟩
    · exact ⟨fun none => ⟨none, fun key mem => absurd mem List.not_mem_nil⟩, fun none => none.1⟩
    · refine ⟨.inl, ?_⟩
      rintro (yielded | ⟨key, mem, _⟩)
      · exact yielded
      · exact absurd mem List.not_mem_nil
  | cons key todo ih =>
    rw [List.cons_append] at rotation
    rw [List.length_cons] at nothing
    unfold loop at nothing
    cases visited : s.visit now with
    | mk outcome next =>
      rw [visited] at nothing
      cases outcome with
      | some packet => cases nothing
      | none =>
        obtain ⟨turned, others, p, found, own, waitFor, yielded⟩ := passed_visit h rotation visited
        have valid : next.state.Valid bound := by
          have valid := (valid_visit h now).1
          rw [visited] at valid
          exact valid
        rw [List.append_assoc] at turned
        have nodup := h.nodup
        rw [rotation, List.nodup_cons] at nodup
        refine .cons found own waitFor yielded ?_ (ih valid turned nothing)
        intro k mem
        refine others k ?_
        rintro rfl
        exact nodup.1 (List.mem_append_left _ mem)

end Scan

namespace OutboundQueue
variable {q : OutboundQueue}

/-- An empty scan is followed by another iff no peer waits, else by a sleep. -/
lemma recvScan_yield_iff (h : q.Valid) {alone : Bool} {now : Nat}
    (nothing : ∀ d, (q.recvScan alone now).1 ≠ .datagram d)
    (ready : ∃ key p, q.state.peers.lookup key = some p ∧ p.packets ≠ [] ∧ p.heldBack now = false) :
    (q.recvScan alone now).1 = .yield ↔
      ∀ key p, q.state.peers.lookup key = some p → p.packets ≠ [] → p.waits now = false := by
  have busy : ∀ key p, q.state.peers.lookup key = some p → p.packets ≠ [] →
      key ∈ q.state.rotation := by
    intro key p found packets
    rw [h.state.rotation, packetsOf_found found]
    exact packets
  obtain ⟨ready, p, found, packets, free⟩ := ready
  obtain ⟨valid, moves⟩ := Scan.valid_loop
    (s := { state := q.state, waitFor := none, yieldedToDeficit := false }) h.state now
    q.state.rotation.length
  unfold recvScan at nothing ⊢
  cases result : Scan.loop now q.state.rotation.length
      { state := q.state, waitFor := none, yieldedToDeficit := false } with
  | mk outcome s =>
    rw [result] at nothing valid moves
    cases outcome with
    | some d => exact absurd rfl (nothing d)
    | none =>
      have passed := Scan.passed_loop
        (s := { state := q.state, waitFor := none, yieldedToDeficit := false })
        h.state (List.append_nil _).symm result
      have yielded : s.yieldedToDeficit = true := by
        refine passed.yielded.2 (.inr ⟨ready, busy ready p found packets, p, found, ?_⟩)
        refine (passed.passed ready (busy ready p found packets) p found).resolve_left ?_
        rw [PeerQueue.waits, free, Bool.and_false]
        exact Bool.false_ne_true
      have waitFor : s.waitFor = none ↔
          ∀ key p, q.state.peers.lookup key = some p → p.packets ≠ [] → p.waits now = false := by
        rw [passed.waitFor]
        refine ⟨fun none key p found packets => none.2 key (busy key p found packets) p found, ?_⟩
        intro none
        refine ⟨rfl, fun key mem p found => none key p found ?_⟩
        rw [← packetsOf_found found]
        exact (h.state.rotation key).1 mem
      have queued : ¬ (s.state.queued = 0 ∧ alone = true) := by
        rintro ⟨zero, _⟩
        -- the ready peer's packets are counted
        have counted := HashMap.total_erase (f := PeerQueue.count) found
        have some : 0 < p.count := List.length_pos_iff.2 packets
        have total := h.state.counted
        have same : s.state.queued = q.state.queued := moves.1
        omega
      rw [← waitFor]
      simp only [if_neg queued, yielded]
      cases s.waitFor with
      | none => exact ⟨fun _ => rfl, fun _ => rfl⟩
      | some delay =>
        refine ⟨fun sleeps => ?_, fun none => ?_⟩
        · cases sleeps
        · cases none

end OutboundQueue

/-- The states that some run of the queue's methods leads to. -/
def OutboundQueue.Reachable (q : OutboundQueue) : Prop :=
  ∃ capacity rate events, (run Trace.step (Trace.start capacity rate) events).queue = q

lemma OutboundQueue.Reachable.valid {q : OutboundQueue} (h : q.Reachable) : q.Valid := by
  obtain ⟨capacity, rate, events, rfl⟩ := h
  exact (run_invariant' (Trace.kept_start capacity rate) fun t event kept => kept.step event).valid

/-- A scan that returns nothing, while some head packet is not held back, is followed by another at
once iff no peer whose deficit covers its head packet is held back. -/
theorem recv_scans_again_iff (q : OutboundQueue) (reachable : q.Reachable) (alone : Bool) (now : Nat)
    (nothing : ∀ d, (q.recvScan alone now).1 ≠ .datagram d)
    (ready : ∃ key p, q.state.peers.lookup key = some p ∧ p.packets ≠ [] ∧ p.heldBack now = false) :
    (q.recvScan alone now).1 = .yield ↔
      ∀ key p, q.state.peers.lookup key = some p → p.packets ≠ [] → p.waits now = false :=
  OutboundQueue.recvScan_yield_iff reachable.valid nothing ready

namespace Trace

def quantumPayload : Buffer :=
  ⟨List.replicate 1500 0, by rw [List.length_replicate]; decide⟩

def longPayload : Buffer :=
  ⟨List.replicate 1501 0, by rw [List.length_replicate]; decide⟩

/-- A key sends 43 of its `n` payloads, leaving 1035 of 65535 bytes. -/
def drained (n : Nat) : List (Event × Nat) :=
  List.replicate n (.enqueue (samplePeer 1) quantumPayload, 0) ++ List.replicate 43 (.scan false, 0)

def longQueue : OutboundQueue :=
  (run step (start 64 1) [(.enqueue (samplePeer 2) longPayload, 0)]).queue

def mixedQueue : OutboundQueue :=
  (run step (start 64 1) (drained 44 ++ [(.enqueue (samplePeer 2) longPayload, 0)])).queue

lemma ready_of_any {q : OutboundQueue} {key : QueueKey} {now : Nat}
    (ready : (q.state.peers.lookup key).any
      (fun p => !p.packets.isEmpty && !p.heldBack now) = true) :
    ∃ key p, q.state.peers.lookup key = some p ∧ p.packets ≠ [] ∧ p.heldBack now = false := by
  obtain ⟨p, found, ready⟩ := (Option.any_eq_true _ _).1 ready
  rw [Bool.and_eq_true, Bool.not_eq_true', Bool.not_eq_true'] at ready
  exact ⟨key, p, found, List.isEmpty_eq_false_iff.1 ready.1, ready.2⟩

theorem recv_scans_again_alone :
    longQueue.Reachable ∧ (∀ d, (longQueue.recvScan false 0).1 ≠ .datagram d) ∧
      (∃ key p, longQueue.state.peers.lookup key = some p ∧ p.packets ≠ [] ∧ p.heldBack 0 = false) ∧
      ((longQueue.recvScan false 0).1 = .yield ↔
        ∀ key p, longQueue.state.peers.lookup key = some p → p.packets ≠ [] → p.waits 0 = false) := by
  have reachable : longQueue.Reachable := ⟨64, 1, _, rfl⟩
  have yields : (longQueue.recvScan false 0).1 = .yield := by decide +kernel
  have nothing : ∀ d, (longQueue.recvScan false 0).1 ≠ .datagram d := by
    intro d
    rw [yields]
    exact Received.noConfusion
  have ready : ∃ key p, longQueue.state.peers.lookup key = some p ∧ p.packets ≠ [] ∧
      p.heldBack 0 = false :=
    ready_of_any
      (show (longQueue.state.peers.lookup (.endpoint (samplePeer 2))).any _ = true by decide +kernel)
  exact ⟨reachable, nothing, ready, recv_scans_again_iff longQueue reachable false 0 nothing ready⟩

/-- The scan sleeps for the first key; the second only needs a quantum. -/
theorem recv_sleeps_for_other_key : mixedQueue.Reachable ∧
      (∃ key p, mixedQueue.state.peers.lookup key = some p ∧ p.packets ≠ [] ∧
        p.heldBack 0 = false) ∧
      (mixedQueue.recvScan false 0).1 = .sleep (fromSecs 465) := by
  refine ⟨⟨64, 1, _, rfl⟩, ?_, by decide +kernel⟩
  have ready : (mixedQueue.state.peers.lookup (.endpoint (samplePeer 2))).any
      (fun p => !p.packets.isEmpty && !p.heldBack 0) = true := by decide +kernel
  exact ready_of_any ready

end Trace

/-! ## Turns -/

variable {size spent : Nat}

/-- Between visits the deficit is what a packet leaves of a quantum. -/
structure PeerQueue.Turn (size spent : Nat) (p : PeerQueue) : Prop where
  small : ∀ d ∈ p.packets, d.payload.len ≤ size
  deficit : if p.inRound then spent + p.deficit ≤ size + drrQuantum else p.deficit ≤ size

/-- The turn of a key. -/
structure QueueState.Turn (size : Nat) (key : QueueKey) (spent : Nat) (s : QueueState) : Prop where
  within : spent ≤ size + drrQuantum
  peer : ∀ p, s.peers.lookup key = some p → p.Turn size spent

def QueueState.inRound (s : QueueState) (key : QueueKey) : Bool :=
  (s.peers.lookup key).any PeerQueue.inRound

namespace PeerQueue
variable {p p' : PeerQueue} {now : Nat} {d : QueuedDatagram}

lemma Turn.deficit_le (h : p.Turn size spent) : p.deficit ≤ size + drrQuantum := by
  have deficit := h.deficit
  split at deficit
  · omega
  · omega

lemma Turn.enterRound (h : p.Turn size spent) :
    (if p.inRound then spent else 0) + p.enterRound.deficit ≤ size + drrQuantum := by
  have deficit := h.deficit
  unfold PeerQueue.enterRound
  split
  · next started =>
    rw [if_pos started] at deficit
    exact deficit
  · next pausing =>
    rw [if_neg pausing] at deficit
    have gain : saturatingAdd p.deficit drrQuantum ≤ p.deficit + drrQuantum := Nat.min_le_left _ _
    show 0 + saturatingAdd p.deficit drrQuantum ≤ size + drrQuantum
    omega

/-- The head packet is paid from the deficit. -/
lemma Turn.pop {tail : List QueuedDatagram} (h : p.Turn size spent) (packets : p.packets = d :: tail)
    (fits : d.payload.len ≤ p.enterRound.deficit) (paid : p.enterRound.consume now = (.ok (), p')) :
    (p'.pop now).2.Turn size ((if p.inRound then spent else 0) + d.payload.len) ∧
      (p'.pop now).2.inRound = true := by
  have whole := h.enterRound
  have same := consume_eq paid
  have queue : p'.packets = d :: tail := by
    rw [same]
    exact p.enterRound_packets.trans packets
  have started : p'.inRound = true := by
    rw [same]
    exact p.enterRound_inRound
  have deficit : p'.deficit = p.enterRound.deficit := by rw [same]
  refine ⟨⟨?_, ?_⟩, started⟩
  · intro d' mem
    have mem : d' ∈ p'.packets.tail := mem
    rw [queue, List.tail_cons] at mem
    exact h.small d' (by rw [packets]; exact List.mem_cons_of_mem _ mem)
  · show if p'.inRound then _ + (p'.deficit - p'.packetSize) ≤ _ else _
    rw [if_pos started, packetSize_of_packets queue, deficit]
    omega

lemma Turn.paused (small : ∀ d ∈ p.packets, d.payload.len ≤ size) (deficit : p.deficit ≤ size)
    (paused : p.inRound = false) : p.Turn size spent := by
  refine ⟨small, ?_⟩
  rw [paused]
  exact deficit

end PeerQueue

namespace Scan
variable {s : Scan} {key k : QueueKey} {rest : List QueueKey} {p p' : PeerQueue} {bound now : Nat}

lemma lookup_settle_cases {q : PeerQueue} (found : s.state.peers.lookup key = some p)
    (after : ((s.withRotation rest).settle key p').state.peers.lookup k = some q) :
    (k ≠ key ∧ s.state.peers.lookup k = some q) ∨
      (k = key ∧ (q = p' ∨ q = { p' with inRound := false, deficit := 0 } ∨
        (q = { p' with inRound := false } ∧ ∃ next ∈ p'.packets, p'.deficit < next.payload.len))) := by
  have rewritten : ∀ p'' : PeerQueue,
      (HashMap.modify key (fun _ => p'') s.state.peers).lookup k = some q →
      (k ≠ key ∧ s.state.peers.lookup k = some q) ∨ (k = key ∧ q = p'') := by
    intro p'' after
    rw [HashMap.lookup_modify_found found] at after
    split at after
    · next own =>
      cases after
      exact .inr ⟨own, rfl⟩
    · next other => exact .inl ⟨other, after⟩
  unfold settle at after
  split at after
  · split at after
    · have after : (s.state.peers.erase key).lookup k = some q := after
      rw [HashMap.lookup_erase_eq] at after
      split at after
      · cases after
      · next other => exact .inl ⟨other, after⟩
    · exact (rewritten _ after).imp_right fun own => ⟨own.1, .inr (.inl own.2)⟩
  · next more =>
    split at after
    · exact (rewritten _ after).imp_right fun own => ⟨own.1, .inl own.2⟩
    · next large =>
      refine (rewritten _ after).imp_right fun own => ⟨own.1, .inr (.inr ⟨own.2, ?_⟩)⟩
      obtain ⟨next, later, packets⟩ := List.exists_cons_of_ne_nil fun empty =>
        more (List.isEmpty_iff.2 empty)
      rw [packets, List.head?_cons, Option.any_some, decide_eq_true_eq] at large
      exact ⟨next, by rw [packets]; exact List.mem_cons_self, Nat.lt_of_not_le large⟩

/-- The bytes of the turn of each key, after a datagram was returned. -/
def charge (s : Scan) (spent : QueueKey → Nat) (d : QueuedDatagram) : QueueKey → Nat :=
  Function.update spent d.key
    ((if s.state.inRound d.key then spent d.key else 0) + d.payload.len)

/-- The bytes of the turn of each key, after a scan. -/
def spend (now : Nat) : Nat → Scan → (QueueKey → Nat) → QueueKey → Nat
  | 0, _, spent => spent
  | n + 1, s, spent =>
    match s.visit now with
    | (some d, _) => s.charge spent d
    | (none, next) => spend now n next spent

variable {ledger : QueueKey → Nat}

lemma turn_endRound (turn : s.state.Turn size k spent) (found : s.state.peers.lookup key = some p)
    (packets : p'.packets = p.packets) (deficit : key = k → p'.deficit ≤ size) :
    ((s.withRotation rest).endRound key p').state.Turn size k spent := by
  refine ⟨turn.within, ?_⟩
  intro q after
  rw [lookup_endRound found] at after
  split at after
  · next own =>
    cases after
    subst own
    refine .paused ?_ (deficit rfl) rfl
    show ∀ d ∈ p'.packets, d.payload.len ≤ size
    rw [packets]
    exact (turn.peer p found).small
  · exact turn.peer q after

lemma turn_settle (turn : s.state.Turn size k spent) (found : s.state.peers.lookup key = some p)
    {spent' : Nat} (le : spent' ≤ size + drrQuantum) (other : k ≠ key → spent' = spent)
    (own : k = key → p'.Turn size spent') :
    (((s.withRotation rest).settle key p').uncount).state.Turn size k spent' := by
  refine ⟨le, ?_⟩
  intro q after
  obtain ⟨ne, before⟩ | ⟨rfl, same⟩ := lookup_settle_cases (k := k) found after
  · rw [other ne]
    exact turn.peer q before
  · have own := own rfl
    obtain rfl | rfl | ⟨rfl, next, mem, large⟩ := same
    · exact own
    · exact .paused own.small (Nat.zero_le _) rfl
    · exact .paused own.small (Nat.le_of_lt (large.trans_le (own.small next mem))) rfl

/-- A visit keeps the turn of a key that it does not let pass. -/
lemma turn_visit (h : s.state.Valid bound) (turn : s.state.Turn size k (ledger k))
    (paid : s.state.rotation.head? = some k → ∀ p, s.state.peers.lookup k = some p → p.waits now = false) :
    (s.visit now).2.state.Turn size k
      (((s.visit now).1.map (s.charge ledger)).getD ledger k) := by
  have visited := visited now h.busy
  generalize s.visit now = result at visited
  cases visited with
  | idle nobody => exact turn
  | yields key rest p front found large =>
    refine turn_endRound turn found p.enterRound_packets ?_
    rintro rfl
    obtain ⟨d, mem, size⟩ : ∃ d ∈ p.packets, p.packetSize = d.payload.len := by
      cases packets : p.packets with
      | nil =>
        rw [PeerQueue.packetSize, packets] at large
        exact absurd large (Nat.not_lt_zero _)
      | cons d tail => exact ⟨d, List.mem_cons_self, PeerQueue.packetSize_of_packets packets⟩
    have fits := (turn.peer p found).small d mem
    omega
  | waits key rest p p' delay front found small unpaid =>
    have same := PeerQueue.consume_eq unpaid
    refine turn_endRound turn found ?_ ?_
    · rw [same]
      exact p.enterRound_packets
    · rintro rfl
      have calm := paid (by rw [front, List.head?_cons]) p found
      rw [PeerQueue.waits_of_consume small unpaid] at calm
      cases calm
  | takes key rest p p' d tail front found packets small paid =>
    obtain ⟨keyed, _⟩ := h.keyed key d (by
      rw [packetsOf_found found, packets]
      exact List.mem_cons_self)
    have charged : s.charge ledger { d with queueDelay := now - d.enqueuedAt } =
        Function.update ledger key ((if p.inRound then ledger key else 0) + d.payload.len) := by
      have same : { d with queueDelay := now - d.enqueuedAt }.key = key := keyed
      rw [charge, QueueState.inRound, same, found]
      rfl
    rw [Option.map_some, Option.getD_some, charged]
    by_cases own : k = key
    · subst own
      rw [Function.update_self]
      obtain ⟨after, _⟩ := (turn.peer p found).pop packets small paid
      have whole := (turn.peer p found).enterRound
      refine turn_settle turn found (by omega) (fun ne => absurd rfl ne) fun _ => after
    · rw [Function.update_of_ne own]
      exact turn_settle turn found turn.within (fun _ => rfl) fun same => absurd same own

/-- A scan visits each key once: later entries are those of before. -/
lemma turn_loop (h : s.state.Valid bound) (turn : s.state.Turn size k (ledger k))
    {todo later : List QueueKey} (rotation : s.state.rotation = todo ++ later)
    (paid : k ∈ todo → ∀ p, s.state.peers.lookup k = some p → p.waits now = false) :
    (loop now todo.length s).2.state.Turn size k (spend now todo.length s ledger k) := by
  induction todo generalizing s later with
  | nil => exact turn
  | cons key todo ih =>
    have valid := (valid_visit h now).1
    have front : s.state.rotation.head? = some k →
        ∀ p, s.state.peers.lookup k = some p → p.waits now = false := by
      intro front
      rw [rotation, List.cons_append, List.head?_cons] at front
      exact paid (by rw [Option.some.inj front]; exact List.mem_cons_self)
    have turn' := turn_visit h turn front
    rw [List.length_cons]
    unfold loop spend
    cases visited : s.visit now with
    | mk outcome next =>
      rw [visited] at valid turn'
      cases outcome with
      | some d => exact turn'
      | none =>
        rw [List.cons_append] at rotation
        obtain ⟨turned, others, _⟩ := passed_visit h rotation visited
        rw [List.append_assoc] at turned
        have nodup := h.nodup
        rw [rotation, List.nodup_cons] at nodup
        refine ih valid turn' turned ?_
        intro mem p found
        have ne : k ≠ key := by
          rintro rfl
          exact nodup.1 (List.mem_append_left _ mem)
        exact paid (List.mem_cons_of_mem _ mem) p (by rw [← others k ne, found])

end Scan

namespace OutboundQueue
variable {q q' : OutboundQueue} {key : QueueKey} {now : Nat}

lemma turn_enqueue (turn : q.state.Turn size key spent) (k : QueueKey) (endpoint : SocketAddr)
    {payload : Buffer} (fits : payload.len ≤ size) (now : Nat) :
    (q.tryEnqueueKeyed k endpoint payload now).2.state.Turn size key spent := by
  refine ⟨turn.within, ?_⟩
  intro p' found
  obtain ⟨p, origin, eq⟩ := enqueue_origin found
  have own : p.Turn size spent := by
    cases origin with
    | inl before => exact turn.peer p before
    | inr isNew =>
      rw [isNew]
      exact .paused (fun d mem => absurd mem List.not_mem_nil) (Nat.zero_le _) rfl
  cases eq with
  | inl same => exact same ▸ own
  | inr longer =>
    subst longer
    refine ⟨?_, own.deficit⟩
    intro d mem
    rcases List.mem_append.1 mem with mem | mem
    · exact own.small d mem
    · cases List.mem_singleton.1 mem
      exact fits

lemma turn_setRate (turn : q.state.Turn size key spent) (rate : UInt64) (now : Nat) :
    (q.setRateBytesPerSec rate now).state.Turn size key spent := by
  refine ⟨turn.within, ?_⟩
  intro p found
  rw [setRateBytesPerSec, HashMap.lookup_mapVal] at found
  obtain ⟨p, before, rfl⟩ := Option.map_eq_some_iff.1 found
  exact ⟨(turn.peer p before).small, (turn.peer p before).deficit⟩

/-- The variables of a scan at its start. -/
def scan (q : OutboundQueue) : Scan where
  state := q.state
  waitFor := none
  yieldedToDeficit := false

lemma recvScan_state (q : OutboundQueue) (alone : Bool) (now : Nat) :
    (q.recvScan alone now).2.state = (Scan.loop now q.state.rotation.length q.scan).2.state := by
  unfold recvScan
  rw [scan]
  cases Scan.loop now q.state.rotation.length
      { state := q.state, waitFor := none, yieldedToDeficit := false } with
  | mk outcome s =>
    cases outcome with
    | some packet => rfl
    | none =>
      simp only
      split
      · rfl
      · split
        · rfl
        · split
          · rfl
          · rfl

end OutboundQueue

lemma Trace.scanned_queue (t : Trace) (now : Nat) (result : Received × OutboundQueue) :
    (t.scanned now result).queue = result.2 := by
  obtain ⟨received, queue⟩ := result
  cases received with
  | datagram d => rfl
  | closed => rfl
  | sleep delay => rfl
  | yield => rfl
  | wait => rfl

def Event.payloadLen : Event → Nat
  | .enqueue _ payload => payload.len
  | .enqueueForPeer _ _ payload => payload.len
  | .setRate _ => 0
  | .scan _ => 0

structure Turns where
  trace : Trace
  spent : QueueKey → Nat

namespace Turns
variable {t : Turns} {key : QueueKey}

def start (capacity : Nat) (rateBytesPerSec : UInt64) : Turns where
  trace := Trace.start capacity rateBytesPerSec
  spent := fun _ => 0

def step (t : Turns) (event : Event × Nat) : Turns where
  trace := t.trace.step event
  spent :=
    match event.1 with
    | .scan _ =>
      Scan.spend event.2 t.trace.queue.state.rotation.length t.trace.queue.scan t.spent
    | _ => t.spent

/-- No scan lets the key pass for want of tokens. -/
def Paid (key : QueueKey) (t : Turns) (event : Event × Nat) : Prop :=
  match event.1 with
  | .scan _ => ∀ p ∈ t.trace.queue.state.peers.lookup key, p.waits event.2 = false
  | _ => True

instance (key : QueueKey) (t : Turns) : (event : Event × Nat) → Decidable (Paid key t event)
  | (.scan _, now) => inferInstanceAs
      (Decidable (∀ p ∈ t.trace.queue.state.peers.lookup key, p.waits now = false))
  | (.enqueue .., _) => .isTrue trivial
  | (.enqueueForPeer .., _) => .isTrue trivial
  | (.setRate _, _) => .isTrue trivial

/-- The invariant of a run for a key. -/
structure Bounded (size : Nat) (key : QueueKey) (t : Turns) : Prop where
  kept : t.trace.Kept
  turn : t.trace.queue.state.Turn size key (t.spent key)

lemma bounded_start (capacity : Nat) (rate : UInt64) (size : Nat) (key : QueueKey) :
    (start capacity rate).Bounded size key :=
  ⟨Trace.kept_start capacity rate, Nat.zero_le _, fun p found => by cases found⟩

lemma Bounded.step (h : t.Bounded size key) {event : Event × Nat} (fits : event.1.payloadLen ≤ size)
    (paid : t.Paid key event) :
    (t.step event).Bounded size key := by
  refine ⟨h.kept.step event, ?_⟩
  obtain ⟨event, now⟩ := event
  cases event with
  | enqueue peer payload =>
    have turn := OutboundQueue.turn_enqueue h.turn (.endpoint peer) peer fits now
    have queue := (t.trace.enqueued_queue (OutboundQueue.datagram (.endpoint peer) peer payload now)
      (t.trace.queue.tryEnqueue peer payload now)).1
    show QueueState.Turn size key (t.spent key) (Trace.enqueued _ _ _).queue.state
    rw [queue]
    exact turn
  | enqueueForPeer peerKey endpoint payload =>
    have turn := OutboundQueue.turn_enqueue h.turn (.stable peerKey) endpoint fits now
    have queue := (t.trace.enqueued_queue (OutboundQueue.datagram (.stable peerKey) endpoint payload now)
      (t.trace.queue.tryEnqueueForPeer peerKey endpoint payload now)).1
    show QueueState.Turn size key (t.spent key) (Trace.enqueued _ _ _).queue.state
    rw [queue]
    exact turn
  | setRate rate => exact OutboundQueue.turn_setRate h.turn rate now
  | scan alone =>
    have turn := Scan.turn_loop (s := t.trace.queue.scan) h.kept.valid.state h.turn
      (List.append_nil _).symm fun _ => paid
    have queue := t.trace.scanned_queue now (t.trace.queue.recvScan alone now)
    show QueueState.Turn size key _ (Trace.scanned _ _ _).queue.state
    rw [queue, OutboundQueue.recvScan_state]
    exact turn

/-- If no scan lets a key pass for want of tokens, its deficit and the bytes of each turn are at
most a quantum and `size`. -/
theorem deficit_bounded (capacity : Nat) (rate : UInt64) (events : List (Event × Nat)) (size : Nat)
    (key : QueueKey) (fits : ∀ event ∈ events, event.1.payloadLen ≤ size)
    (paid : EachStep step (Paid key) (start capacity rate) events) : Always step
      (fun t => (∀ p, t.trace.queue.state.peers.lookup key = some p → p.deficit < 1500 + size + 1) ∧
        t.spent key ≤ 1500 + size)
      (start capacity rate) events := by
  have allowed : EachStep step
      (fun t event => event.1.payloadLen ≤ size ∧ t.Paid key event) (start capacity rate) events := by
    intro pre event post eq
    refine ⟨fits event ?_, paid pre event post eq⟩
    rw [eq]
    exact List.mem_append_right _ List.mem_cons_self
  have bounded : Always step (Bounded size key) (start capacity rate) events :=
    always_of_eachStep (bounded_start capacity rate size key)
      (fun _ _ h allowed => h.step allowed.1 allowed.2) allowed
  intro pre post eq
  have turn := (bounded pre post eq).turn
  have quantum : drrQuantum = 1500 := rfl
  refine ⟨?_, ?_⟩
  · intro p found
    have deficit := (turn.peer p found).deficit_le
    omega
  · have within := turn.within
    omega

def shortPayload : Buffer :=
  ⟨List.replicate 1000 0, by rw [List.length_replicate]; decide⟩

/-- Two keys with four payloads each, which eight scans send. -/
def alternating : List (Event × Nat) :=
  List.replicate 4 (.enqueue (Trace.samplePeer 1) shortPayload, 0) ++
    List.replicate 4 (.enqueue (Trace.samplePeer 2) shortPayload, 0) ++
    List.replicate 8 (.scan false, 0)

/-- The first turn leaves 500 bytes of deficit, the second sends 2000. -/
theorem deficit_bounded_alternating :
    ((run step (start 64 1) (alternating.take 9)).trace.queue.state.peers.lookup
        Trace.sampleKey).map PeerQueue.deficit = some 500 ∧
      (run step (start 64 1) (alternating.take 12)).spent Trace.sampleKey = 2000 ∧
      (∀ event ∈ alternating, event.1.payloadLen ≤ 1000) ∧
      EachStep step (Paid Trace.sampleKey) (start 64 1) alternating ∧ Always step (fun t =>
          (∀ p, t.trace.queue.state.peers.lookup Trace.sampleKey = some p →
            p.deficit < 1500 + 1000 + 1) ∧ t.spent Trace.sampleKey ≤ 1500 + 1000)
        (start 64 1) alternating := by
  have fits : ∀ event ∈ alternating, event.1.payloadLen ≤ 1000 := by decide +kernel
  have paid : EachStep step (Paid Trace.sampleKey) (start 64 1) alternating := by decide +kernel
  refine ⟨by decide +kernel, by decide +kernel, fits, paid, ?_⟩
  exact deficit_bounded 64 1 alternating 1000 Trace.sampleKey fits paid

/-- A key that waits in three scans sends four payloads in one turn. -/
theorem waiting_key_saves_quanta :
    (∀ event ∈ Trace.drained 47 ++ List.replicate 3 (.scan false, 0) ++
        List.replicate 4 (.scan false, fromSecs 10000), event.1.payloadLen ≤ 1500) ∧
      (∃ p, (run step (start 64 1)
          (Trace.drained 47 ++ List.replicate 3 (.scan false, 0))).trace.queue.state.peers.lookup
            Trace.sampleKey = some p ∧ ¬ p.deficit < 1500 + 1500 + 1) ∧
      ¬ (run step (start 64 1) (Trace.drained 47 ++ List.replicate 3 (.scan false, 0) ++
        List.replicate 4 (.scan false, fromSecs 10000))).spent Trace.sampleKey ≤ 1500 + 1500 := by
  have deficit : ((run step (start 64 1) (Trace.drained 47 ++
      List.replicate 3 (.scan false, 0))).trace.queue.state.peers.lookup
        Trace.sampleKey).map PeerQueue.deficit = some 4500 := by decide +kernel
  obtain ⟨p, found, deficit⟩ := Option.map_eq_some_iff.1 deficit
  refine ⟨by decide +kernel, ⟨p, found, ?_⟩, by decide +kernel⟩
  rw [deficit]
  decide

end Turns

end Rvpn.Transport
