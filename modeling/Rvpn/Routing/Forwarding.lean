import Rvpn.Routing.Grammar

/-!
# Forwarding keeps packets valid

`prepare_forward` takes one hop off a copy of the packet. For IPv4 it clears the checksum, sums the
header and writes the complement into the two cleared bytes, so the header verifies
(`Folds.complement`). For IPv6 the hop limit is a byte that `valid_ipv6` does not read.
-/

namespace Rvpn.Routing
open Checked OnesComplement

variable {packet copy : List UInt8}

/-- The index of the TTL or the hop limit. -/
def hopIndex (packet : List UInt8) : Nat :=
  if (packet.getD 0 0).toNat / 16 = 4 then 8 else 7

/-- The bytes that forwarding may change. -/
def hopBytes (packet : List UInt8) : List Nat :=
  if (packet.getD 0 0).toNat / 16 = 4 then [8, 10, 11] else [7]

/-- An IPv4 packet with one hop less and no checksum. -/
def cleared (packet : List UInt8) : List UInt8 :=
  ((packet.set 8 (UInt8.ofNat ((packet.getD 8 0).toNat - 1))).set 10 0).set 11 0

def withChecksum (packet : List UInt8) (checksum : Nat) : List UInt8 :=
  (packet.set 10 (UInt8.ofNat (checksum / 256))).set 11 (UInt8.ofNat checksum)

structure Forwards4 (packet : List UInt8) : Prop where
  version : (packet.getD 0 0).toNat / 16 = 4
  long : 20 ≤ packet.length
  header : 20 ≤ headerLen packet ∧ headerLen packet ≤ packet.length
  ttl : 1 < (packet.getD 8 0).toNat

structure Forwards6 (packet : List UInt8) : Prop where
  version : (packet.getD 0 0).toNat / 16 = 6
  long : 40 ≤ packet.length
  hops : 1 < (packet.getD 7 0).toNat

/-- What `decrement_hop_limit` can do. -/
inductive HopOutcome (packet : List UInt8) : Bool × List UInt8 → Prop
  | refused (not4 : ¬ Forwards4 packet) (not6 : ¬ Forwards6 packet) : HopOutcome packet (false, packet)
  | ipv4 (forwards : Forwards4 packet) (checksum : Nat)
      (sum : ipv4HeaderChecksumChecked ((cleared packet).take (headerLen packet)) = .ok checksum) :
      HopOutcome packet (true, withChecksum (cleared packet) checksum)
  | ipv6 (forwards : Forwards6 packet) :
      HopOutcome packet (true, packet.set 7 (UInt8.ofNat ((packet.getD 7 0).toNat - 1)))

lemma length_cleared (packet : List UInt8) : (cleared packet).length = packet.length := by
  rw [cleared, List.length_set, List.length_set, List.length_set]

variable {n checksum : Nat} {header : List UInt8}

lemma getD_of_head (nibble : packet.head?.map (fun byte => byte.toNat / 16) = some n) :
    (packet.getD 0 0).toNat / 16 = n := by
  cases packet with
  | nil => cases nibble
  | cons first rest => exact Option.some.inj nibble

section
variable {result : Bool × List UInt8}

lemma hopOutcome_ipv4 (nibble : packet.head?.map (fun byte => byte.toNat / 16) = some 4)
    (eq : decrementHopLimitChecked packet = .ok result) : HopOutcome packet result := by
  simp only [decrementHopLimitChecked, nibble] at eq
  have version := getD_of_head nibble
  have not6 : ¬ Forwards6 packet := by
    intro h
    rw [h.version] at version
    cases version
  by_cases short : packet.length < ipv4MinHeader
  · rw [if_pos short] at eq
    cases eq
    exact .refused (fun h => absurd h.long (Nat.not_le.2 short)) not6
  have long : 20 ≤ packet.length := Nat.le_of_not_lt short
  rw [if_neg short, index_getD (show 0 < packet.length by omega), bind_ok] at eq
  change (if headerLen packet < ipv4MinHeader ∨ packet.length < headerLen packet then _ else _) =
    _ at eq
  by_cases lens : headerLen packet < ipv4MinHeader ∨ packet.length < headerLen packet
  · rw [if_pos lens] at eq
    cases eq
    refine .refused (fun h => ?_) not6
    exact lens.elim (Nat.not_lt.2 h.header.1) (Nat.not_lt.2 h.header.2)
  have header : 20 ≤ headerLen packet ∧ headerLen packet ≤ packet.length := by
    rw [not_or] at lens
    exact ⟨Nat.le_of_not_lt lens.1, Nat.le_of_not_lt lens.2⟩
  rw [if_neg lens, index_getD (show 8 < packet.length by omega), bind_ok] at eq
  by_cases expired : (packet.getD 8 0).toNat ≤ 1
  · rw [if_pos expired] at eq
    cases eq
    exact .refused (fun h => absurd h.ttl (Nat.not_lt.2 expired)) not6
  rw [if_neg expired, sub_of_le (show 1 ≤ (packet.getD 8 0).toNat by omega), bind_ok,
    set_of_lt (show 8 < packet.length by omega), bind_ok,
    set_of_lt (by rw [List.length_set]; omega), bind_ok,
    set_of_lt (by rw [List.length_set, List.length_set]; omega), bind_ok] at eq
  change (slice (cleared packet) 0 (headerLen packet) >>= _) = _ at eq
  rw [slice_of_le (Nat.zero_le _) (by rw [length_cleared]; exact header.2), bind_ok] at eq
  obtain ⟨checksum, sum, eq⟩ := except_bind_ok.1 eq
  change (set (cleared packet) 10 (UInt8.ofNat (checksum / 256)) >>= _) = _ at eq
  rw [set_of_lt (by rw [length_cleared]; omega), bind_ok,
    set_of_lt (by rw [List.length_set, length_cleared]; omega), bind_ok] at eq
  cases eq
  exact .ipv4 ⟨version, long, header, Nat.lt_of_not_le expired⟩ checksum sum

lemma hopOutcome_ipv6 (nibble : packet.head?.map (fun byte => byte.toNat / 16) = some 6)
    (eq : decrementHopLimitChecked packet = .ok result) : HopOutcome packet result := by
  simp only [decrementHopLimitChecked, nibble] at eq
  have version := getD_of_head nibble
  have not4 : ¬ Forwards4 packet := by
    intro h
    rw [h.version] at version
    cases version
  by_cases short : packet.length < ipv6Header
  · rw [if_pos short] at eq
    cases eq
    exact .refused not4 fun h => absurd h.long (Nat.not_le.2 short)
  have long : 40 ≤ packet.length := Nat.le_of_not_lt short
  rw [if_neg short, index_getD (show 7 < packet.length by omega), bind_ok] at eq
  by_cases expired : (packet.getD 7 0).toNat ≤ 1
  · rw [if_pos expired] at eq
    cases eq
    exact .refused not4 fun h => absurd h.hops (Nat.not_lt.2 expired)
  rw [if_neg expired, sub_of_le (show 1 ≤ (packet.getD 7 0).toNat by omega), bind_ok,
    set_of_lt (show 7 < packet.length by omega), bind_ok] at eq
  cases eq
  exact .ipv6 ⟨version, long, Nat.lt_of_not_le expired⟩

end

lemma hopOutcome (packet : List UInt8) : HopOutcome packet (decrementHopLimit packet) := by
  have eq := get_eq (decrementHopLimit_returns packet)
  change decrementHopLimitChecked packet = .ok (decrementHopLimit packet) at eq
  generalize decrementHopLimit packet = result at eq
  by_cases four : packet.head?.map (fun byte => byte.toNat / 16) = some 4
  · exact hopOutcome_ipv4 four eq
  by_cases six : packet.head?.map (fun byte => byte.toNat / 16) = some 6
  · exact hopOutcome_ipv6 six eq
  have other : decrementHopLimitChecked packet = .ok (false, packet) := by
    unfold decrementHopLimitChecked
    split
    · next nibble => exact absurd nibble four
    · next nibble => exact absurd nibble six
    · rfl
  rw [other] at eq
  cases eq
  refine .refused (fun h => four ?_) fun h => six ?_
  · rw [head_of_getD (Nat.lt_of_lt_of_le (by decide) h.long : 0 < packet.length), Option.map_some,
      h.version]
  · rw [head_of_getD (Nat.lt_of_lt_of_le (by decide) h.long : 0 < packet.length), Option.map_some,
      h.version]

/-! ## The checksum of the new header -/

lemma wordSum_set {k : Nat} (even : k % 2 = 0) (inside : k + 1 < header.length) (a b : UInt8) :
    wordSum ((header.set k a).set (k + 1) b) + u16 (header.getD k 0) (header.getD (k + 1) 0) =
      wordSum header + u16 a b := by
  fun_induction wordSum header generalizing k with
  | case1 a' b' rest ih =>
    cases k with
    | zero =>
      show u16 a b + wordSum rest + u16 a' b' = u16 a' b' + wordSum rest + u16 a b
      omega
    | succ k =>
      cases k with
      | zero => exact absurd even (by decide)
      | succ k =>
        have sum := ih (k := k) (by omega) (by simp only [List.length_cons] at inside; omega)
        show u16 a' b' + wordSum ((rest.set k a).set (k + 1) b) +
          u16 (rest.getD k 0) (rest.getD (k + 1) 0) = u16 a' b' + wordSum rest + u16 a b
        omega
  | case2 a' =>
    simp only [List.length_cons, List.length_nil] at inside
    omega
  | case3 => exact absurd inside (Nat.not_lt_zero _)

lemma wordSum_pos (first : 0 < (header.getD 0 0).toNat) : 0 < wordSum header := by
  fun_cases wordSum header with
  | case1 a b rest =>
    have pos : 0 < a.toNat := first
    unfold u16
    omega
  | case2 a =>
    have pos : 0 < a.toNat := first
    unfold u16
    omega
  | case3 => exact absurd first (by decide)

lemma u16_checksum (small : checksum < 65536) :
    u16 (UInt8.ofNat (checksum / 256)) (UInt8.ofNat checksum) = checksum := by
  rw [u16, UInt8.toNat_ofNat', UInt8.toNat_ofNat']
  omega

/-- The header verifies with the checksum of the header without one. -/
lemma checksum_verifies (short : header.length ≤ 60) (long : 12 ≤ header.length)
    (first : 0 < (header.getD 0 0).toNat) (blank : header.getD 10 0 = 0 ∧ header.getD 11 0 = 0)
    (sum : ipv4HeaderChecksumChecked header = .ok checksum) :
    ipv4HeaderChecksumChecked (withChecksum header checksum) = .ok 0 := by
  obtain ⟨f, eq, folds⟩ := ipv4HeaderChecksum_eq short
  rw [sum] at eq
  cases eq
  have short' : (withChecksum header (65535 - f)).length ≤ 60 := by
    rw [withChecksum, List.length_set, List.length_set]
    exact short
  obtain ⟨g, eq, folds'⟩ := ipv4HeaderChecksum_eq short'
  have words := wordSum_set (by decide : 10 % 2 = 0) (show 10 + 1 < header.length by omega)
    (UInt8.ofNat ((65535 - f) / 256)) (UInt8.ofNat (65535 - f))
  rw [blank.1, blank.2, u16_checksum (by omega)] at words
  have total : wordSum (withChecksum header (65535 - f)) = wordSum header + (65535 - f) := words
  rw [total] at folds'
  rw [eq, folds.complement (wordSum_pos first) folds']

/-! ## The copy -/

variable {i : Nat}

lemma getD_eq_of (same : copy[i]? = packet[i]?) : copy.getD i 0 = packet.getD i 0 := by
  rw [List.getD_eq_getElem?_getD, same, ← List.getD_eq_getElem?_getD]

lemma getD_take {i : Nat} (lt : i < n) : (packet.take n).getD i 0 = packet.getD i 0 :=
  getD_eq_of (List.getElem?_take_of_lt lt)

lemma getD_set_self (lt : i < packet.length) (byte : UInt8) : (packet.set i byte).getD i 0 = byte := by
  rw [List.getD_eq_getElem?_getD, List.getElem?_set_self lt, Option.getD_some]

lemma getD_set_ne {i j : Nat} (ne : j ≠ i) (byte : UInt8) :
    (packet.set j byte).getD i 0 = packet.getD i 0 :=
  getD_eq_of (List.getElem?_set_ne ne)

lemma getElem?_cleared (other : i ∉ [8, 10, 11]) : (cleared packet)[i]? = packet[i]? := by
  simp only [List.mem_cons, List.not_mem_nil, or_false, not_or] at other
  rw [cleared, List.getElem?_set_ne (Ne.symm other.2.2), List.getElem?_set_ne (Ne.symm other.2.1),
    List.getElem?_set_ne (Ne.symm other.1)]

lemma getElem?_withChecksum (other : i ∉ [8, 10, 11]) (checksum : Nat) :
    (withChecksum packet checksum)[i]? = packet[i]? := by
  simp only [List.mem_cons, List.not_mem_nil, or_false, not_or] at other
  rw [withChecksum, List.getElem?_set_ne (Ne.symm other.2.2),
    List.getElem?_set_ne (Ne.symm other.2.1)]

/-- The copy has all bytes but those of the hop and the checksum. -/
lemma getElem?_ipv4 (other : i ∉ [8, 10, 11]) (checksum : Nat) :
    (withChecksum (cleared packet) checksum)[i]? = packet[i]? :=
  (getElem?_withChecksum other checksum).trans (getElem?_cleared other)

lemma drop_ipv4 (beyond : 11 < n) (checksum : Nat) :
    (withChecksum (cleared packet) checksum).drop n = packet.drop n := by
  rw [withChecksum, cleared, List.drop_set_of_lt beyond, List.drop_set_of_lt (by omega),
    List.drop_set_of_lt beyond, List.drop_set_of_lt (by omega), List.drop_set_of_lt (by omega)]

lemma length_withChecksum (packet : List UInt8) (checksum : Nat) :
    (withChecksum packet checksum).length = packet.length := by
  rw [withChecksum, List.length_set, List.length_set]

lemma Ipv4Packet.forwarded (h : Ipv4Packet packet)
    (sum : ipv4HeaderChecksumChecked ((cleared packet).take (headerLen packet)) = .ok checksum) :
    Ipv4Packet (withChecksum (cleared packet) checksum) := by
  have byte : ∀ i ∉ [8, 10, 11],
      (withChecksum (cleared packet) checksum).getD i 0 = packet.getD i 0 :=
    fun i other => getD_eq_of (getElem?_ipv4 other checksum)
  have header : headerLen (withChecksum (cleared packet) checksum) = headerLen packet := by
    rw [headerLen, byte 0 (by decide)]
    rfl
  have total : totalLen (withChecksum (cleared packet) checksum) = totalLen packet := by
    rw [totalLen, byte 2 (by decide), byte 3 (by decide)]
    rfl
  have long : headerLen packet ≤ packet.length := h.total.trans h.inside
  have least := h.header
  have most : headerLen packet ≤ 60 := by
    unfold headerLen
    omega
  have length : ((cleared packet).take (headerLen packet)).length = headerLen packet := by
    rw [List.length_take, length_cleared, Nat.min_eq_left long]
  refine ⟨?_, ?_, ?_, ?_, ?_⟩
  · rw [byte 0 (by decide)]
    exact h.version
  · rw [header]
    exact h.header
  · rw [header, total]
    exact h.total
  · rw [total, length_withChecksum, length_cleared]
    exact h.inside
  · have front : (withChecksum (cleared packet) checksum).take (headerLen packet) =
        withChecksum ((cleared packet).take (headerLen packet)) checksum := by
      rw [withChecksum, List.take_set, List.take_set]
      rfl
    rw [header, front]
    refine checksum_verifies (by omega) (by omega) ?_ ⟨?_, ?_⟩ sum
    · have version := h.version
      rw [getD_take (by omega), getD_eq_of (getElem?_cleared (by decide))]
      omega
    · rw [getD_take (by omega), cleared, getD_set_ne (by decide), getD_set_self]
      rw [List.length_set]
      omega
    · rw [getD_take (by omega), cleared, getD_set_self]
      rw [List.length_set, List.length_set]
      omega

lemma Ipv6Packet.forwarded (h : Ipv6Packet packet) (byte : UInt8) :
    Ipv6Packet (packet.set 7 byte) := by
  rw [ipv6Packet_iff] at h ⊢
  obtain ⟨long, version, inside, chain⟩ := h
  have len : payloadLen (packet.set 7 byte) = payloadLen packet := by
    rw [payloadLen, getD_set_ne (by decide), getD_set_ne (by decide)]
    rfl
  rw [len, List.length_set, getD_set_ne (by decide), getD_set_ne (by decide), List.take_set,
    List.drop_set_of_lt (by decide)]
  exact ⟨long, version, inside, chain⟩

lemma addressAt_ipv4 (h : Ipv4Packet packet) {at4 : Nat} (beyond : 11 < at4) (at6 : Nat)
    (sum : ipv4HeaderChecksumChecked ((cleared packet).take (headerLen packet)) = .ok checksum) :
    addressAt at4 at6 (withChecksum (cleared packet) checksum) = addressAt at4 at6 packet := by
  rw [addressAt, addressAt, if_pos ((validIpv4_iff _).2 (h.forwarded sum)),
    if_pos ((validIpv4_iff packet).2 h), drop_ipv4 beyond]

lemma addressAt_ipv6 (h : Ipv6Packet packet) {at6 : Nat} (beyond : 7 < at6) (at4 : Nat)
    (byte : UInt8) : addressAt at4 at6 (packet.set 7 byte) = addressAt at4 at6 packet := by
  have other : ∀ p : List UInt8, Ipv6Packet p → ¬ validIpv4 p = true := by
    intro p six four
    have version := (validIpv4_bounds four).1
    rw [((ipv6Packet_iff p).1 six).2.1] at version
    cases version
  rw [addressAt, addressAt, if_neg (other _ (h.forwarded byte)), if_neg (other _ h),
    if_pos ((validIpv6_iff _).2 (h.forwarded byte)), if_pos ((validIpv6_iff packet).2 h),
    List.drop_set_of_lt beyond]

lemma accepted_cases {source : IpAddr} (accepted : packetSource packet = some source) :
    Ipv4Packet packet ∨ Ipv6Packet packet := by
  have some : (addressAt 12 8 packet).isSome = true := by
    rw [← packetSource_eq, accepted]
    rfl
  rw [addressAt_isSome, Bool.or_eq_true, validIpv4_iff, validIpv6_iff] at some
  exact some

lemma one_less {hops : UInt8} (more : 1 < hops.toNat) :
    (UInt8.ofNat (hops.toNat - 1)).toNat + 1 = hops.toNat := by
  have lt := hops.toNat_lt
  rw [UInt8.toNat_ofNat']
  omega

/-- The copy has the packet's length and addresses and one hop less. -/
structure Forwarded (packet copy : List UInt8) : Prop where
  length : copy.length = packet.length
  hop : (copy.getD (hopIndex packet) 0).toNat + 1 = (packet.getD (hopIndex packet) 0).toNat
  others : ∀ i ∉ hopBytes packet, copy[i]? = packet[i]?
  source : (packetSource copy).isSome = true ∧ packetSource copy = packetSource packet
  destination : (packetDestination copy).isSome = true ∧
    packetDestination copy = packetDestination packet

lemma forwarded_ipv4 (h : Ipv4Packet packet) (forwards : Forwards4 packet)
    (sum : ipv4HeaderChecksumChecked ((cleared packet).take (headerLen packet)) = .ok checksum) :
    Forwarded packet (withChecksum (cleared packet) checksum) := by
  have valid := (validIpv4_iff _).2 (h.forwarded sum)
  have long := forwards.long
  refine ⟨?_, ?_, ?_, ⟨?_, ?_⟩, ?_, ?_⟩
  · rw [length_withChecksum, length_cleared]
  · rw [hopIndex, if_pos h.version, withChecksum, getD_set_ne (by decide), getD_set_ne (by decide),
      cleared, getD_set_ne (by decide), getD_set_ne (by decide), getD_set_self (by omega)]
    exact one_less forwards.ttl
  · intro i other
    rw [hopBytes, if_pos h.version] at other
    exact getElem?_ipv4 other checksum
  · rw [packetSource_eq, addressAt_isSome, valid]
    rfl
  · rw [packetSource_eq, packetSource_eq, addressAt_ipv4 h (by decide) 8 sum]
  · rw [packetDestination_eq, addressAt_isSome, valid]
    rfl
  · rw [packetDestination_eq, packetDestination_eq, addressAt_ipv4 h (by decide) 24 sum]

lemma forwarded_ipv6 (h : Ipv6Packet packet) (forwards : Forwards6 packet) :
    Forwarded packet (packet.set 7 (UInt8.ofNat ((packet.getD 7 0).toNat - 1))) := by
  have valid := (validIpv6_iff _).2 (h.forwarded (UInt8.ofNat ((packet.getD 7 0).toNat - 1)))
  have long := forwards.long
  have not4 : ¬ (packet.getD 0 0).toNat / 16 = 4 := by
    rw [forwards.version]
    decide
  refine ⟨List.length_set, ?_, ?_, ⟨?_, ?_⟩, ?_, ?_⟩
  · rw [hopIndex, if_neg not4, getD_set_self (by omega)]
    exact one_less forwards.hops
  · intro i other
    rw [hopBytes, if_neg not4, List.mem_singleton] at other
    exact List.getElem?_set_ne (Ne.symm other)
  · rw [packetSource_eq, addressAt_isSome, valid, Bool.or_true]
  · rw [packetSource_eq, packetSource_eq, addressAt_ipv6 h (by decide) 12]
  · rw [packetDestination_eq, addressAt_isSome, valid, Bool.or_true]
  · rw [packetDestination_eq, packetDestination_eq, addressAt_ipv6 h (by decide) 16]

/-- An accepted packet that is not forwarded has no hop left. -/
lemma expired_of_refused {source : IpAddr} (accepted : packetSource packet = some source)
    (not4 : ¬ Forwards4 packet) (not6 : ¬ Forwards6 packet) :
    (packet.getD (hopIndex packet) 0).toNat ≤ 1 := by
  by_contra more
  rcases accepted_cases accepted with four | six
  · rw [hopIndex, if_pos four.version] at more
    have long := four.header.trans (four.total.trans four.inside)
    exact not4 ⟨four.version, long, ⟨four.header, four.total.trans four.inside⟩,
      Nat.lt_of_not_le more⟩
  · obtain ⟨long, version, _, _⟩ := (ipv6Packet_iff packet).1 six
    have not4 : ¬ (packet.getD 0 0).toNat / 16 = 4 := by
      rw [version]
      decide
    rw [hopIndex, if_neg not4] at more
    exact not6 ⟨version, long, Nat.lt_of_not_le more⟩

/-- A packet is forwarded iff a hop is left, as a valid packet with the same addresses. -/
theorem forwarding_keeps_valid (packet : List UInt8) :
    (∀ source, packetSource packet = some source →
      (prepareForward packet = none ↔ (packet.getD (hopIndex packet) 0).toNat ≤ 1) ∧
        ∀ copy, prepareForward packet = some copy → Forwarded packet copy) ∧
      ((decrementHopLimit packet).1 = false → (decrementHopLimit packet).2 = packet) := by
  have outcome := hopOutcome packet
  unfold prepareForward
  generalize decrementHopLimit packet = result at outcome
  cases outcome with
  | refused not4 not6 =>
    refine ⟨?_, fun _ => rfl⟩
    intro source accepted
    exact ⟨⟨fun _ => expired_of_refused accepted not4 not6, fun _ => rfl⟩, nofun⟩
  | ipv4 forwards checksum sum =>
    refine ⟨?_, nofun⟩
    intro source accepted
    rcases accepted_cases accepted with four | six
    · refine ⟨⟨nofun, fun expired => ?_⟩, ?_⟩
      · rw [hopIndex, if_pos four.version] at expired
        exact absurd forwards.ttl (Nat.not_lt.2 expired)
      · intro copy made
        cases made
        exact forwarded_ipv4 four forwards sum
    · have version := ((ipv6Packet_iff packet).1 six).2.1
      rw [forwards.version] at version
      cases version
  | ipv6 forwards =>
    refine ⟨?_, nofun⟩
    intro source accepted
    rcases accepted_cases accepted with four | six
    · have version := four.version
      rw [forwards.version] at version
      cases version
    · have not4 : ¬ (packet.getD 0 0).toNat / 16 = 4 := by
        rw [forwards.version]
        decide
      refine ⟨⟨nofun, fun expired => ?_⟩, ?_⟩
      · rw [hopIndex, if_neg not4] at expired
        exact absurd forwards.hops (Nat.not_lt.2 expired)
      · intro copy made
        cases made
        exact forwarded_ipv6 six forwards

def sampleIpv4 : List UInt8 :=
  [0x45, 0, 0, 20, 0, 0, 0, 0, 64, 0, 0x66, 0xe8, 10, 0, 0, 1, 10, 0, 0, 2]

theorem forwarding_keeps_sample_valid :
    packetSource sampleIpv4 = some (.v4 (Bytes.ofList 4 [10, 0, 0, 1])) ∧
      prepareForward sampleIpv4 =
        some [0x45, 0, 0, 20, 0, 0, 0, 0, 63, 0, 0x67, 0xe8, 10, 0, 0, 1, 10, 0, 0, 2] ∧
      Forwarded sampleIpv4
        [0x45, 0, 0, 20, 0, 0, 0, 0, 63, 0, 0x67, 0xe8, 10, 0, 0, 1, 10, 0, 0, 2] := by
  have accepted : packetSource sampleIpv4 = some (.v4 (Bytes.ofList 4 [10, 0, 0, 1])) := by
    decide +kernel
  have copied : prepareForward sampleIpv4 =
      some [0x45, 0, 0, 20, 0, 0, 0, 0, 63, 0, 0x67, 0xe8, 10, 0, 0, 1, 10, 0, 0, 2] := by
    decide +kernel
  exact ⟨accepted, copied, ((forwarding_keeps_valid sampleIpv4).1 _ accepted).2 _ copied⟩

end Rvpn.Routing
