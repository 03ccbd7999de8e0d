import Mathlib.Algebra.Order.Group.Abs
import Rvpn.Lib.Rotation
import Rvpn.Transport.QueueInvariant

/-!
# Deficit round-robin is fair

Without shaping, two peers that both have packets get the same share of the bytes, up to three
quanta and two packets. The credit of a peer is its deficit without the quantum of a round that it is
in; the balance of two peers changes only by the bytes that they send (`balance_pay`, `balance_turn`).
-/

namespace Rvpn.Transport
open HashMap

/-- The deficit of a peer without the quantum of the round that it is in. -/
def PeerQueue.credit (p : PeerQueue) : Int :=
  p.deficit - if p.inRound then (drrQuantum : Int) else 0

def creditOf (peers : HashMap QueueKey PeerQueue) (key : QueueKey) : Int :=
  ((peers.lookup key).map PeerQueue.credit).getD 0

def QueueState.balance (s : QueueState) (a b : QueueKey) : Int :=
  Rvpn.balance drrQuantum (creditOf s.peers) s.rotation a b

/-- No bucket, packets of at most `size` bytes, and a deficit within them. -/
structure PeerQueue.Light (size : Nat) (p : PeerQueue) : Prop where
  free : p.rateBucket = none
  small : ∀ d ∈ p.packets, d.payload.len ≤ size
  deficit : p.deficit ≤ size + if p.inRound then drrQuantum else 0

def QueueState.Light (size : Nat) (s : QueueState) : Prop :=
  ∀ key p, s.peers.lookup key = some p → p.Light size

variable {size : Nat}

namespace PeerQueue
variable {p : PeerQueue}

lemma credit_inRound (started : p.inRound = true) : p.credit = p.deficit - drrQuantum := by
  rw [credit, started, if_pos rfl]

lemma credit_paused (p : PeerQueue) : credit { p with inRound := false } = p.deficit :=
  Int.sub_zero _

lemma Light.credit_bounds (h : p.Light size) : -(drrQuantum : Int) ≤ p.credit ∧ p.credit ≤ size := by
  have deficit := h.deficit
  unfold credit
  cases inRound : p.inRound with
  | true =>
    rw [inRound, if_pos rfl] at deficit
    rw [if_pos rfl]
    omega
  | false =>
    rw [inRound, if_neg Bool.false_ne_true] at deficit
    rw [if_neg Bool.false_ne_true]
    omega

/-- Beginning a round leaves the credit as it is. -/
lemma Light.enterRound (h : p.Light size) (bound : size < 2 ^ 63) :
    p.enterRound.deficit ≤ size + drrQuantum ∧ p.enterRound.credit = p.credit := by
  have deficit := h.deficit
  unfold PeerQueue.enterRound
  split
  · next started =>
    rw [started, if_pos rfl] at deficit
    exact ⟨deficit, rfl⟩
  · next pausing =>
    rw [if_neg pausing] at deficit
    have added : saturatingAdd p.deficit drrQuantum = p.deficit + drrQuantum := by
      apply Nat.min_eq_left
      have max : u64Max = 18446744073709551615 := rfl
      have quantum : drrQuantum = 1500 := rfl
      omega
    refine ⟨?_, ?_⟩
    · show saturatingAdd p.deficit drrQuantum ≤ size + drrQuantum
      omega
    · simp only [credit, added, if_true, if_neg pausing]
      push_cast
      omega

lemma Light.consume {result : Except Nat Unit} {p' : PeerQueue} {now : Nat} (h : p.Light size)
    (consumed : p.enterRound.consume now = (result, p')) : result = .ok () ∧ p' = p.enterRound := by
  obtain ⟨_, free, same⟩ | ⟨bucket, _, some, _⟩ := consume_cases consumed
  · exact ⟨free, same⟩
  · rw [p.enterRound_rateBucket, h.free] at some
    cases some

/-- A light peer pays for its head packet from its credit and stays light. -/
lemma Light.pop {d : QueuedDatagram} {tail : List QueuedDatagram} (h : p.Light size)
    (bound : size < 2 ^ 63) (packets : p.packets = d :: tail)
    (fits : d.payload.len ≤ p.enterRound.deficit) (now : Nat) :
    (p.enterRound.pop now).2.Light size ∧
      (p.enterRound.pop now).2.credit = p.credit - d.payload.len := by
  obtain ⟨deficit, credit⟩ := h.enterRound bound
  have head : p.enterRound.packetSize = d.payload.len :=
    packetSize_of_packets (by rw [p.enterRound_packets, packets])
  have left : (p.enterRound.pop now).2.deficit = p.enterRound.deficit - d.payload.len := by
    rw [← head]
    rfl
  have started : (p.enterRound.pop now).2.inRound = true := p.enterRound_inRound
  refine ⟨⟨?_, ?_, ?_⟩, ?_⟩
  · show p.enterRound.rateBucket = none
    rw [p.enterRound_rateBucket]
    exact h.free
  · show ∀ d' ∈ p.enterRound.packets.tail, d'.payload.len ≤ size
    rw [p.enterRound_packets]
    exact fun d' mem => h.small d' (List.mem_of_mem_tail mem)
  · rw [started, if_pos rfl, left]
    omega
  · rw [← credit, credit_inRound started, credit_inRound p.enterRound_inRound, left]
    omega

end PeerQueue

section
variable {peers : HashMap QueueKey PeerQueue} {key : QueueKey} {p : PeerQueue}

lemma creditOf_found (found : peers.lookup key = some p) : creditOf peers key = p.credit := by
  rw [creditOf, found]
  rfl

lemma creditOf_modify (found : peers.lookup key = some p) (p' : PeerQueue) :
    creditOf (HashMap.modify key (fun _ => p') peers) =
      Function.update (creditOf peers) key p'.credit := by
  funext k
  rw [creditOf, lookup_modify_found found]
  by_cases own : k = key
  · rw [if_pos own, own, Function.update_self]
    rfl
  · rw [if_neg own, Function.update_of_ne own]
    rfl

lemma creditOf_erase {k : QueueKey} (other : k ≠ key) :
    creditOf (peers.erase key) k = creditOf peers k := by
  rw [creditOf, AList.lookup_erase_ne other]
  rfl

end

lemma QueueState.Light.creditOf_bounds {s : QueueState} (h : s.Light size) (key : QueueKey) :
    -(drrQuantum : Int) ≤ creditOf s.peers key ∧ creditOf s.peers key ≤ size := by
  unfold creditOf
  cases found : s.peers.lookup key with
  | none => exact ⟨by decide, Int.natCast_nonneg size⟩
  | some p => exact (h key p found).credit_bounds

/-- The bytes of what a part of a scan returned, if it is for the key. -/
def bytesFor (outcome : Option QueuedDatagram) (key : QueueKey) : Int :=
  match outcome with
  | none => 0
  | some d => if d.key = key then (d.payload.len : Int) else 0

def InRange (size : Nat) (x : Int) : Prop :=
  -(size : Int) - 2 * drrQuantum ≤ x ∧ x ≤ size + drrQuantum

lemma QueueState.Light.inRange {s : QueueState} (h : s.Light size) (a b : QueueKey) :
    InRange size (s.balance a b) := by
  have bounds := balance_bounds s.rotation (h.creditOf_bounds a) (h.creditOf_bounds b)
    (Int.natCast_nonneg drrQuantum)
  unfold InRange balance
  omega

namespace Scan
variable {s : Scan} {key a b : QueueKey} {rest : List QueueKey} {p p' : PeerQueue} {bound : Nat}

def withPeer (s : Scan) (key : QueueKey) (p : PeerQueue) : Scan :=
  { s with state := { s.state with peers := HashMap.modify key (fun _ => p) s.state.peers } }

lemma light_withPeer (h : s.state.Light size) (own : p.Light size) :
    (s.withPeer key p).state.Light size := by
  intro k q found
  have found : (HashMap.modify key (fun _ => p) s.state.peers).lookup k = some q := found
  rw [lookup_modify] at found
  split at found
  · obtain ⟨_, _, rfl⟩ := Option.map_eq_some_iff.1 found
    exact own
  · exact h k q found

lemma balance_endRound (nodup : s.state.rotation.Nodup) (memA : a ∈ s.state.rotation)
    (memB : b ∈ s.state.rotation) (ne : a ≠ b) (front : s.state.rotation = key :: rest)
    (found : s.state.peers.lookup key = some p) (credit : (p'.deficit : Int) = p.credit + drrQuantum) :
    ((s.withRotation rest).endRound key p').state.balance a b = s.state.balance a b := by
  rw [front] at nodup memA memB
  show Rvpn.balance drrQuantum
    (creditOf (HashMap.modify key (fun _ => { p' with inRound := false }) s.state.peers))
    (rest ++ [key]) a b = _
  rw [creditOf_modify found, PeerQueue.credit_paused, credit, ← creditOf_found found,
    balance_turn nodup memA memB ne, QueueState.balance, front]

/-- The front key pays for a packet and stays at the front. -/
lemma balance_withPeer (ne : a ≠ b) (found : s.state.peers.lookup key = some p) {price : Int}
    (credit : p'.credit = p.credit - price) : (s.withPeer key p').state.balance a b =
      s.state.balance a b - (if key = a then price else 0) + if key = b then price else 0 := by
  show Rvpn.balance drrQuantum (creditOf (HashMap.modify key (fun _ => p') s.state.peers))
    s.state.rotation a b = _
  rw [creditOf_modify found, credit, ← creditOf_found found, balance_pay _ ne]
  rfl

/-- A peer whose round ends for want of deficit is light. -/
lemma light_endRound (h : s.state.Light size) (free : p'.rateBucket = none)
    (small : ∀ d ∈ p'.packets, d.payload.len ≤ size) (deficit : p'.deficit ≤ size) :
    ((s.withRotation rest).endRound key p').state.Light size :=
  light_withPeer (p := { p' with inRound := false }) h ⟨free, small, deficit⟩

lemma light_settle (h : s.state.Light size) (own : p'.Light size) :
    ((s.withRotation rest).settle key p').state.Light size := by
  unfold settle
  split
  · split
    · intro k q found
      have found : (s.state.peers.erase key).lookup k = some q := found
      rw [lookup_erase_eq] at found
      split at found
      · cases found
      · exact h k q found
    · exact light_withPeer (p := { p' with inRound := false, deficit := 0 }) h
        ⟨own.free, own.small, Nat.zero_le _⟩
  · next more =>
    split
    · exact light_withPeer h own
    · next large =>
      refine light_endRound h own.free own.small ?_
      obtain ⟨next, later, packets⟩ := List.exists_cons_of_ne_nil fun empty =>
        more (List.isEmpty_iff.2 empty)
      have small := own.small next (by rw [packets]; exact List.mem_cons_self)
      rw [packets, List.head?_cons, Option.any_some, decide_eq_true_eq] at large
      omega

/-- A packet paid for keeps the balance while both keys have some. -/
lemma balance_settle (nodup : s.state.rotation.Nodup) (memA : a ∈ s.state.rotation)
    (memB : b ∈ s.state.rotation) (ne : a ≠ b) (front : s.state.rotation = key :: rest)
    (found : s.state.peers.lookup key = some p) (own : p'.Light size) (started : p'.inRound = true)
    (busyA : packetsOf ((s.withRotation rest).settle key p').state.peers a ≠ [])
    (busyB : packetsOf ((s.withRotation rest).settle key p').state.peers b ≠ []) :
    ((s.withRotation rest).settle key p').state.balance a b =
      (s.withPeer key p').state.balance a b := by
  unfold settle at busyA busyB ⊢
  split
  · next last =>
    rw [if_pos last] at busyA busyB
    rw [own.free] at busyA busyB ⊢
    -- the key leaves the queue, so it is neither of the two
    have other : ∀ k, packetsOf (s.state.peers.erase key) k ≠ [] → k ≠ key := by
      intro k busy same
      rw [packetsOf_erase, if_pos same] at busy
      exact busy rfl
    have otherA := other a busyA
    have otherB := other b busyB
    refine balance_congr ?_ ?_ ?_
    · show creditOf (s.state.peers.erase key) a = creditOf (HashMap.modify key _ s.state.peers) a
      rw [creditOf_erase otherA, creditOf_modify found, Function.update_of_ne otherA]
    · show creditOf (s.state.peers.erase key) b = creditOf (HashMap.modify key _ s.state.peers) b
      rw [creditOf_erase otherB, creditOf_modify found, Function.update_of_ne otherB]
    · show Ahead rest b a ↔ Ahead s.state.rotation b a
      rw [front, ahead_cons rest (Ne.symm otherB) (Ne.symm otherA)]
  · split
    · show Rvpn.balance drrQuantum _ (key :: rest) a b = _
      rw [← front]
      rfl
    · have charged : (s.withPeer key p').state.peers.lookup key = some p' := by
        show (HashMap.modify key (fun _ => p') s.state.peers).lookup key = some p'
        rw [lookup_modify_self, found, Option.map_some]
      have same : (s.withRotation rest).endRound key p' =
          ((s.withPeer key p').withRotation rest).endRound key p' := by
        simp only [endRound, withRotation, withPeer, modify_modify]
      have credit : (p'.deficit : Int) = p'.credit + drrQuantum := by
        rw [PeerQueue.credit_inRound started]
        omega
      rw [same]
      exact balance_endRound nodup memA memB ne front charged credit

lemma light_visit (h : s.state.Valid bound) (light : s.state.Light size) (small : size < 2 ^ 63)
    (now : Nat) : (s.visit now).2.state.Light size := by
  have visited := visited now h.busy
  generalize s.visit now = result at visited
  cases visited with
  | idle nobody => exact light
  | yields key rest p front found large =>
    have own := light key p found
    refine light_endRound light (by rw [p.enterRound_rateBucket]; exact own.free)
      (by rw [p.enterRound_packets]; exact own.small) ?_
    cases packets : p.packets with
    | nil =>
      rw [PeerQueue.packetSize, packets] at large
      exact absurd large (Nat.not_lt_zero _)
    | cons d tail =>
      have fits := own.small d (by rw [packets]; exact List.mem_cons_self)
      rw [PeerQueue.packetSize_of_packets packets] at large
      omega
  | waits key rest p p' delay front found fits unpaid => cases ((light key p found).consume unpaid).1
  | takes key rest p p' d tail front found packets fits paid =>
    obtain ⟨_, rfl⟩ := (light key p found).consume paid
    exact light_settle light ((light key p found).pop small packets fits now).1

/-- The balance changes by what two keys with packets send. -/
def Accounts (size : Nat) (a b : QueueKey) (s : Scan) (result : Option QueuedDatagram × Scan) : Prop :=
  ∃ after, InRange size after ∧
    s.state.balance a b = after + bytesFor result.1 a - bytesFor result.1 b ∧
    (packetsOf result.2.state.peers a ≠ [] → packetsOf result.2.state.peers b ≠ [] →
      result.2.state.balance a b = after)

lemma accounts_refl (light : s.state.Light size) : s.Accounts size a b (none, s) := by
  refine ⟨s.state.balance a b, light.inRange a b, ?_, fun _ _ => rfl⟩
  simp only [bytesFor]
  omega

lemma accounts_visit (h : s.state.Valid bound) (light : s.state.Light size) (small : size < 2 ^ 63)
    (ne : a ≠ b) (busyA : packetsOf s.state.peers a ≠ []) (busyB : packetsOf s.state.peers b ≠ [])
    (now : Nat) : s.Accounts size a b (s.visit now) := by
  have memA := (h.rotation a).2 busyA
  have memB := (h.rotation b).2 busyB
  have visited := visited now h.busy
  generalize s.visit now = result at visited
  cases visited with
  | idle nobody => exact accounts_refl light
  | yields key rest p front found large =>
    obtain ⟨after, range, eq, _⟩ := accounts_refl (a := a) (b := b) light
    have credit := ((light key p found).enterRound small).2
    rw [PeerQueue.credit_inRound p.enterRound_inRound] at credit
    refine ⟨after, range, eq, fun _ _ => ?_⟩
    have same : ((s.withRotation rest).endRound key p.enterRound).state.balance a b =
        s.state.balance a b := balance_endRound h.nodup memA memB ne front found (by omega)
    simp only [bytesFor] at eq
    exact same.trans (by omega)
  | waits key rest p p' delay front found fits unpaid => cases ((light key p found).consume unpaid).1
  | takes key rest p p' d tail front found packets fits paid =>
    obtain ⟨_, rfl⟩ := (light key p found).consume paid
    obtain ⟨own, credit⟩ := (light key p found).pop small packets fits now
    obtain ⟨keyed, _⟩ := h.keyed key d (by
      rw [packetsOf_found found, packets]
      exact List.mem_cons_self)
    have bytes : ∀ k, bytesFor (some { d with queueDelay := now - d.enqueuedAt }) k =
        if key = k then (d.payload.len : Int) else 0 := by
      intro k
      rw [← keyed]
      rfl
    -- the balance after the payment, before it is known whether the key has packets left
    refine ⟨(s.withPeer key (p.enterRound.pop now).2).state.balance a b,
      (light_withPeer light own).inRange a b, ?_, ?_⟩
    · have charged := balance_withPeer ne found credit
      rw [bytes, bytes]
      omega
    · exact balance_settle h.nodup memA memB ne front found own p.enterRound_inRound

lemma light_loop (h : s.state.Valid bound) (light : s.state.Light size) (small : size < 2 ^ 63)
    (now n : Nat) : (loop now n s).2.state.Light size := by
  induction n generalizing s with
  | zero => exact light
  | succ n ih =>
    have light' := light_visit h light small now
    have valid := (valid_visit h now).1
    unfold loop
    cases visited : s.visit now with
    | mk outcome next =>
      rw [visited] at light' valid
      cases outcome with
      | some packet => exact light'
      | none => exact ih valid light'

lemma accounts_loop (h : s.state.Valid bound) (light : s.state.Light size) (small : size < 2 ^ 63)
    (ne : a ≠ b) (busyA : packetsOf s.state.peers a ≠ []) (busyB : packetsOf s.state.peers b ≠ [])
    (now n : Nat) : s.Accounts size a b (loop now n s) := by
  induction n generalizing s with
  | zero => exact accounts_refl light
  | succ n ih =>
    have accounts := accounts_visit h light small ne busyA busyB now
    have light' := light_visit h light small now
    obtain ⟨valid, moves⟩ := valid_visit h now
    unfold loop
    cases visited : s.visit now with
    | mk outcome next =>
      rw [visited] at accounts light' valid moves
      cases outcome with
      | some packet => exact accounts
      | none =>
        -- nothing was taken, so both keys still have their packets
        obtain ⟨after, _, eq, kept⟩ := accounts
        have busyA' : packetsOf next.state.peers a ≠ [] := (moves.2 a).symm ▸ busyA
        have busyB' : packetsOf next.state.peers b ≠ [] := (moves.2 b).symm ▸ busyB
        obtain ⟨after', range, eq', kept'⟩ := ih valid light' busyA' busyB'
        refine ⟨after', range, ?_, kept'⟩
        have same : next.state.balance a b = after := kept busyA' busyB'
        have unpaid : s.state.balance a b = after := eq.trans (by simp only [bytesFor]; omega)
        rw [unpaid, ← same]
        exact eq'

end Scan

namespace OutboundQueue
variable {q q' : OutboundQueue} {a b : QueueKey}

/-- No rate is set and all peers are light. -/
structure Unshaped (size : Nat) (q : OutboundQueue) : Prop where
  rate : q.rateBytesPerSec = 0
  light : q.state.Light size

lemma unshaped_setRate (h : q.Unshaped size) (now : Nat) :
    (q.setRateBytesPerSec 0 now).Unshaped size ∧
      (q.setRateBytesPerSec 0 now).state.balance a b = q.state.balance a b := by
  have lookup : ∀ k, (q.setRateBytesPerSec 0 now).state.peers.lookup k =
      (q.state.peers.lookup k).map fun p => { p with rateBucket := none } := by
    intro k
    rw [setRateBytesPerSec, lookup_mapVal]
    rfl
  have credit : ∀ k, creditOf (q.setRateBytesPerSec 0 now).state.peers k =
      creditOf q.state.peers k := by
    intro k
    rw [creditOf, lookup, Option.map_map]
    rfl
  refine ⟨⟨rfl, ?_⟩, balance_congr (credit a) (credit b) Iff.rfl⟩
  intro k p found
  rw [lookup] at found
  obtain ⟨p, before, rfl⟩ := Option.map_eq_some_iff.1 found
  exact ⟨rfl, (h.light k p before).small, (h.light k p before).deficit⟩

lemma creditOf_entry {key k : QueueKey} {now : Nat} {p : PeerQueue}
    (made : (q.evictIdle now).entry key now = (p, q')) (busy : packetsOf q.state.peers k ≠ []) :
    creditOf q'.state.peers k = creditOf q.state.peers k := by
  obtain ⟨d, tail, packets⟩ := List.exists_cons_of_ne_nil busy
  obtain ⟨p', found, eq⟩ := lookup_of_packetsOf packets
  have kept := lookup_entry made found (by rw [eq]; exact List.cons_ne_nil d tail)
  rw [creditOf_found found, creditOf_found kept]

lemma unshaped_enqueue (h : q.Unshaped size) (key : QueueKey) (endpoint : SocketAddr)
    {payload : Buffer} (fits : payload.len ≤ size) (now : Nat) :
    (q.tryEnqueueKeyed key endpoint payload now).2.Unshaped size := by
  refine ⟨(q.enqueue_rate key endpoint payload now).trans h.rate, ?_⟩
  intro k p' found
  obtain ⟨p, origin, eq⟩ := enqueue_origin found
  have own : p.Light size := by
    cases origin with
    | inl before => exact h.light k p before
    | inr isNew =>
      rw [isNew, h.rate]
      exact ⟨rfl, fun d mem => absurd mem List.not_mem_nil, Nat.zero_le _⟩
  cases eq with
  | inl same => exact same ▸ own
  | inr longer =>
    subst longer
    refine ⟨own.free, ?_, own.deficit⟩
    intro d mem
    rcases List.mem_append.1 mem with mem | mem
    · exact own.small d mem
    · cases List.mem_singleton.1 mem
      exact fits

/-- An enqueue leaves the balance alone: another key joins behind. -/
lemma balance_enqueue (h : q.Valid) (busyA : packetsOf q.state.peers a ≠ [])
    (busyB : packetsOf q.state.peers b ≠ []) (key : QueueKey) (endpoint : SocketAddr)
    (payload : Buffer) (now : Nat) :
    (q.tryEnqueueKeyed key endpoint payload now).2.state.balance a b = q.state.balance a b := by
  have memA := (h.state.rotation a).2 busyA
  have memB := (h.state.rotation b).2 busyB
  have enqueued := q.enqueued key endpoint payload now
  generalize q.tryEnqueueKeyed key endpoint payload now = result at enqueued
  cases enqueued with
  | full =>
    have credit : ∀ k, packetsOf q.state.peers k ≠ [] →
        creditOf (q.evictIdle now).state.peers k = creditOf q.state.peers k := by
      intro k busy
      obtain ⟨d, tail, packets⟩ := List.exists_cons_of_ne_nil busy
      obtain ⟨p, found, eq⟩ := lookup_of_packetsOf packets
      have kept := lookup_evictIdle now found (by rw [eq]; exact List.cons_ne_nil d tail)
      rw [creditOf_found found, creditOf_found kept]
    exact balance_congr (credit a busyA) (credit b busyB) Iff.rfl
  | crowded p q' room free made beyond =>
    obtain ⟨_, _, _, _, _, rotation, _⟩ := entry_fields made
    refine balance_congr (creditOf_entry made busyA) (creditOf_entry made busyB) ?_
    rw [rotation]
    rfl
  | accepted p q' room free made few =>
    obtain ⟨_, _, _, _, _, rotation, own⟩ := entry_fields made
    have credit : ∀ k, packetsOf q.state.peers k ≠ [] →
        creditOf (HashMap.modify key (fun p => { p with
          packets := p.packets ++ [datagram key endpoint payload now]
          lastActivity := now }) q'.state.peers) k = creditOf q.state.peers k := by
      intro k busy
      rw [← creditOf_entry made busy, creditOf, lookup_modify]
      split
      · rw [Option.map_map]
        rfl
      · rfl
    refine balance_congr (credit a busyA) (credit b busyB) ?_
    have rotation : q'.state.rotation = q.state.rotation := rotation
    rw [rotation]
    split
    · exact ahead_append memB memA [key]
    · exact Iff.rfl

end OutboundQueue

/-- An event that sets no rate and enqueues at most `size` bytes. -/
def Event.Unshaped (size : Nat) : Event → Prop
  | .enqueue _ payload => payload.len ≤ size
  | .enqueueForPeer _ _ payload => payload.len ≤ size
  | .setRate rate => rate = 0
  | .scan _ => True

lemma Event.Unshaped.min {event : Event} (h : event.Unshaped size) :
    event.Unshaped (min size (2 ^ 63 - 1)) := by
  cases event with
  | enqueue peer payload => exact Nat.le_min.2 ⟨h, Nat.le_sub_one_of_lt payload.small⟩
  | enqueueForPeer peerKey endpoint payload =>
    exact Nat.le_min.2 ⟨h, Nat.le_sub_one_of_lt payload.small⟩
  | setRate rate => exact h
  | scan alone => exact h

instance (size : Nat) (event : Event) : Decidable (event.Unshaped size) := by
  cases event with
  | enqueue peer payload => exact inferInstanceAs (Decidable (payload.len ≤ size))
  | enqueueForPeer peerKey endpoint payload => exact inferInstanceAs (Decidable (payload.len ≤ size))
  | setRate rate => exact inferInstanceAs (Decidable (rate = 0))
  | scan alone => exact inferInstanceAs (Decidable True)

namespace Trace
variable {t : Trace} {a b : QueueKey}

def bytesReturned (t : Trace) (key : QueueKey) : Nat :=
  ((t.returnedFor key).map fun d => d.payload.len).sum

def Backlogged (a b : QueueKey) (t : Trace) : Prop :=
  packetsOf t.queue.state.peers a ≠ [] ∧ packetsOf t.queue.state.peers b ≠ []

lemma scanned_loop (t : Trace) (alone : Bool) (now : Nat) {outcome : Option QueuedDatagram} {s : Scan}
    (result : Scan.loop now t.queue.state.rotation.length
      { state := t.queue.state, waitFor := none, yieldedToDeficit := false } = (outcome, s)) :
    (t.scanned now (t.queue.recvScan alone now)).queue.state = s.state ∧
      (t.scanned now (t.queue.recvScan alone now)).queue.rateBytesPerSec = t.queue.rateBytesPerSec ∧
      (t.scanned now (t.queue.recvScan alone now)).returned =
        t.returned ++ outcome.toList.map fun d => (now, d) := by
  unfold OutboundQueue.recvScan
  rw [result]
  cases outcome with
  | some packet => exact ⟨rfl, rfl, rfl⟩
  | none =>
    rw [Option.toList_none, List.map_nil, List.append_nil]
    simp only
    split
    · exact ⟨rfl, rfl, rfl⟩
    · split
      · exact ⟨rfl, rfl, rfl⟩
      · split
        · exact ⟨rfl, rfl, rfl⟩
        · exact ⟨rfl, rfl, rfl⟩

lemma bytesReturned_concat {t t' : Trace} {now : Nat} {outcome : Option QueuedDatagram}
    (returned : t'.returned = t.returned ++ outcome.toList.map fun d => (now, d)) (key : QueueKey) :
    (t'.bytesReturned key : Int) = t.bytesReturned key + bytesFor outcome key := by
  rw [bytesReturned, returnedFor, returned, List.map_append, List.filter_append, List.map_append,
    List.sum_append]
  rw [Nat.cast_add]
  congr 1
  cases outcome with
  | none => rfl
  | some d =>
    have same : d.asEnqueued.key = d.key := rfl
    simp only [Option.toList_some, List.map_cons, List.map_nil, List.filter_singleton, same, bytesFor]
    by_cases own : d.key = key
    · rw [decide_eq_true own, if_pos own]
      rfl
    · rw [decide_eq_false own, if_neg own]
      rfl

/-- The invariant of a run without shaping. -/
structure Balanced (size : Nat) (t : Trace) : Prop where
  kept : t.Kept
  unshaped : t.queue.Unshaped size

lemma balanced_start (capacity : Nat) : (start capacity 0).Balanced size :=
  ⟨kept_start capacity 0, rfl, fun _ _ found => absurd found (by simp [start, OutboundQueue.newWithRate])⟩

/-- The balance changes by what is sent, while both keys have packets. -/
def Accounts (size : Nat) (a b : QueueKey) (t t' : Trace) : Prop :=
  ∃ after, InRange size after ∧ t.queue.state.balance a b =
      after + (t'.bytesReturned a - t.bytesReturned a) - (t'.bytesReturned b - t.bytesReturned b) ∧
    (t'.Backlogged a b → t'.queue.state.balance a b = after)

lemma accounts_same {t' : Trace} (h : t.Balanced size) (returned : t'.returned = t.returned)
    (same : t'.queue.state.balance a b = t.queue.state.balance a b) : t.Accounts size a b t' := by
  have bytes : ∀ key, t'.bytesReturned key = t.bytesReturned key := by
    intro key
    rw [bytesReturned, returnedFor, returned]
    rfl
  refine ⟨t.queue.state.balance a b, h.unshaped.light.inRange a b, ?_, fun _ => same⟩
  rw [bytes, bytes]
  omega

lemma Balanced.scanned (h : t.Balanced size) (small : size < 2 ^ 63) (alone : Bool) (now : Nat) :
    (t.scanned now (t.queue.recvScan alone now)).Balanced size ∧ (a ≠ b → t.Backlogged a b →
        t.Accounts size a b (t.scanned now (t.queue.recvScan alone now))) := by
  have kept := h.kept.scanned alone now
  have light := Scan.light_loop
    (s := { state := t.queue.state, waitFor := none, yieldedToDeficit := false })
    h.kept.valid.state h.unshaped.light small now t.queue.state.rotation.length
  cases result : Scan.loop now t.queue.state.rotation.length
      { state := t.queue.state, waitFor := none, yieldedToDeficit := false } with
  | mk outcome s =>
    obtain ⟨state, rate, returned⟩ := t.scanned_loop alone now result
    rw [result] at light
    refine ⟨⟨kept, rate.trans h.unshaped.rate, state ▸ light⟩, ?_⟩
    intro ne busy
    have accounts := Scan.accounts_loop
      (s := { state := t.queue.state, waitFor := none, yieldedToDeficit := false })
      h.kept.valid.state h.unshaped.light small ne busy.1 busy.2 now t.queue.state.rotation.length
    rw [result] at accounts
    obtain ⟨after, range, eq, same⟩ := accounts
    refine ⟨after, range, ?_, ?_⟩
    · have bytesA := bytesReturned_concat returned a
      have bytesB := bytesReturned_concat returned b
      simp only at eq
      omega
    · intro busy'
      rw [Backlogged, state] at busy'
      rw [state]
      exact same busy'.1 busy'.2

lemma enqueued_queue (t : Trace) (d : QueuedDatagram)
    (result : Except TransportError Unit × OutboundQueue) :
    (t.enqueued d result).queue = result.2 ∧ (t.enqueued d result).returned = t.returned := by
  obtain ⟨outcome, queue⟩ := result
  cases outcome with
  | ok => exact ⟨rfl, rfl⟩
  | error e => exact ⟨rfl, rfl⟩

lemma Balanced.enqueued (h : t.Balanced size) (key : QueueKey) (endpoint : SocketAddr)
    {payload : Buffer} (now : Nat) (fits : payload.len ≤ size)
    (own : (OutboundQueue.datagram key endpoint payload now).key = key) :
    (t.enqueued (OutboundQueue.datagram key endpoint payload now)
        (t.queue.tryEnqueueKeyed key endpoint payload now)).Balanced size ∧
      (t.Backlogged a b →
        t.Accounts size a b (t.enqueued (OutboundQueue.datagram key endpoint payload now)
          (t.queue.tryEnqueueKeyed key endpoint payload now))) := by
  have kept := h.kept.enqueued own
  obtain ⟨queue, returned⟩ := t.enqueued_queue (OutboundQueue.datagram key endpoint payload now)
    (t.queue.tryEnqueueKeyed key endpoint payload now)
  have unshaped := OutboundQueue.unshaped_enqueue h.unshaped key endpoint fits now
  rw [← queue] at unshaped
  refine ⟨⟨kept, unshaped⟩, ?_⟩
  intro busy
  refine accounts_same h returned ?_
  rw [queue]
  exact OutboundQueue.balance_enqueue h.kept.valid busy.1 busy.2 key endpoint payload now

lemma balanced_step (h : t.Balanced size) (small : size < 2 ^ 63) (event : Event × Nat)
    (unshaped : event.1.Unshaped size) : (t.step event).Balanced size ∧
      (a ≠ b → t.Backlogged a b → t.Accounts size a b (t.step event)) := by
  obtain ⟨event, now⟩ := event
  cases event with
  | enqueue peer payload =>
    obtain ⟨balanced, accounts⟩ := h.enqueued (.endpoint peer) peer now unshaped rfl
    exact ⟨balanced, fun _ => accounts⟩
  | enqueueForPeer peerKey endpoint payload =>
    obtain ⟨balanced, accounts⟩ := h.enqueued (.stable peerKey) endpoint now unshaped rfl
    exact ⟨balanced, fun _ => accounts⟩
  | setRate rate =>
    cases unshaped
    obtain ⟨unshaped, same⟩ := OutboundQueue.unshaped_setRate h.unshaped now
    exact ⟨⟨h.kept.step (.setRate 0, now), unshaped⟩, fun _ _ => accounts_same h rfl same⟩
  | scan alone => exact h.scanned small alone now

/-- A run in which both keys have packets whenever a step begins. -/
lemma accounts_run (small : size < 2 ^ 63) (ne : a ≠ b) (events : List (Event × Nat))
    (h : t.Balanced size) (unshaped : ∀ event ∈ events, event.1.Unshaped size)
    (busy : EachStep step (fun t _ => t.Backlogged a b) t events) :
    t.Accounts size a b (run step t events) := by
  induction events generalizing t with
  | nil => exact accounts_same h rfl rfl
  | cons event events ih =>
    obtain ⟨busy, later⟩ := eachStep_cons.1 busy
    obtain ⟨balanced, accounts⟩ := balanced_step h small event (unshaped event List.mem_cons_self)
    obtain ⟨after, range, eq, kept⟩ := accounts ne busy
    cases events with
    | nil => exact ⟨after, range, eq, kept⟩
    | cons event' events =>
      have busy' := (eachStep_cons.1 later).1
      have kept := kept busy'
      obtain ⟨after', range', eq', kept'⟩ := ih balanced
        (fun event mem => unshaped event (List.mem_cons_of_mem _ mem)) later
      refine ⟨after', range', ?_, kept'⟩
      rw [run_cons]
      omega

/-- Without shaping, in any stretch of a run in which two keys have packets whenever a step begins,
the bytes returned for them differ by at most three quanta and two largest packets. -/
theorem deficitRoundRobin_fair (capacity size : Nat) (before during : List (Event × Nat))
    (a b : QueueKey) (unshaped : ∀ event ∈ before ++ during, event.1.Unshaped size)
    (busy : EachStep step (fun t _ => t.Backlogged a b) (run step (start capacity 0) before) during) :
    |(((run step (start capacity 0) (before ++ during)).bytesReturned a -
          (run step (start capacity 0) before).bytesReturned a : Int) -
        ((run step (start capacity 0) (before ++ during)).bytesReturned b -
          (run step (start capacity 0) before).bytesReturned b))| ≤ 3 * 1500 + 2 * size := by
  by_cases same : a = b
  · subst same
    rw [sub_self, abs_zero]
    omega
  · -- a buffer is smaller than `2 ^ 63` bytes whatever `size` is
    have small : min size (2 ^ 63 - 1) < 2 ^ 63 := by omega
    have light : ∀ event ∈ before ++ during, event.1.Unshaped (min size (2 ^ 63 - 1)) :=
      fun event mem => (unshaped event mem).min
    have each : EachStep step (fun _ event => event.1.Unshaped (min size (2 ^ 63 - 1)))
        (start capacity 0) before := by
      intro pre event post eq
      exact light event (by simp [eq])
    have balanced : (run step (start capacity 0) before).Balanced (min size (2 ^ 63 - 1)) :=
      run_invariant (balanced_start capacity)
        (fun t event h ok => (balanced_step (a := a) (b := b) h small event ok).1) each
    obtain ⟨after, range, eq, _⟩ := accounts_run small same during balanced
      (fun event mem => light event (List.mem_append_right _ mem)) busy
    have range' := balanced.unshaped.light.inRange a b
    rw [run_append, abs_le]
    unfold InRange at range range'
    have quantum : drrQuantum = 1500 := rfl
    refine ⟨?_, ?_⟩
    · omega
    · omega

def samplePeer (port : UInt16) : SocketAddr where
  ip := .v4 (Bytes.ofList 4 [192, 0, 2, 1])
  port := port

def sampleBacklog : List (Event × Nat) :=
  (List.range 3).flatMap fun now =>
    [(.enqueue (samplePeer 1) ⟨[1, 2], by decide⟩, now),
      (.enqueue (samplePeer 2) ⟨[1, 2, 3, 4, 5], by decide⟩, now)]

theorem deficitRoundRobin_fair_backlog :
    |(((run step (start 16 0) (sampleBacklog ++ [(.scan false, 3), (.scan false, 4)])).bytesReturned
            (.endpoint (samplePeer 1)) -
          (run step (start 16 0) sampleBacklog).bytesReturned (.endpoint (samplePeer 1)) : Int) -
        ((run step (start 16 0) (sampleBacklog ++ [(.scan false, 3), (.scan false, 4)])).bytesReturned
            (.endpoint (samplePeer 2)) -
          (run step (start 16 0) sampleBacklog).bytesReturned (.endpoint (samplePeer 2))))| ≤
      3 * 1500 + 2 * (5 : Nat) :=
  deficitRoundRobin_fair 16 5 sampleBacklog [(.scan false, 3), (.scan false, 4)]
    (.endpoint (samplePeer 1)) (.endpoint (samplePeer 2)) (by decide +kernel)
    (eachStep_cons.2 ⟨⟨by decide +kernel, by decide +kernel⟩,
      eachStep_cons.2 ⟨⟨by decide +kernel, by decide +kernel⟩, eachStep_nil⟩⟩)

end Trace

end Rvpn.Transport
