import Rvpn.Core
import Rvpn.Lib.Checked
import Rvpn.Lib.OnesComplement

/-!
# Packet parsers

Model of `crates/rvpn-routing/src/packet.rs`. Every function is translated as checked code first
(`*Checked`): an index or a slice panics out of bounds. The lemmas `*_returns` show that no input makes
one of them panic, and the functions under the source's names are the values they return.
-/

namespace Rvpn.Routing
open Checked OnesComplement

/-- `ETHERNET_HEADER_LEN`. -/
def ethernetHeaderLen : Nat := 14
/-- `ETHERTYPE_IPV4`. -/
def ethertypeIpv4 : Nat := 0x0800
/-- `ETHERTYPE_ARP`. -/
def ethertypeArp : Nat := 0x0806
/-- `ETHERTYPE_IPV6`. -/
def ethertypeIpv6 : Nat := 0x86DD
/-- `IPV4_MIN_HEADER`. -/
def ipv4MinHeader : Nat := 20
/-- `IPV6_HEADER`. -/
def ipv6Header : Nat := 40

/-- A hardware address. -/
abbrev Mac := Bytes 6

def u16 (a b : UInt8) : Nat :=
  a.toNat * 256 + b.toNat

/-- The sum of the 16-bit words of a header, with an odd last byte padded. -/
def checksumWords : List UInt8 → Nat → Checked Nat
  | a :: b :: rest, sum => do checksumWords rest (← add 32 sum (u16 a b))
  | [a], sum => add 32 sum (u16 a 0)
  | [], sum => pure sum

/-- `ipv4_header_checksum`. Two rounds of folding are enough for any `u32`. -/
def ipv4HeaderChecksumChecked (header : List UInt8) : Checked Nat := do
  let sum ← checksumWords header 0
  let sum ← loop (fun s => s / 65536 ≠ 0) (fun s => add 32 (s % 65536) (s / 65536)) 32 sum
  return 65535 - sum % 65536

/-- `valid_ipv4`. -/
def validIpv4Checked (packet : List UInt8) : Checked Bool := do
  if packet.length < ipv4MinHeader then return false
  let first ← index packet 0
  if first.toNat / 16 ≠ 4 then return false
  let headerLen := first.toNat % 16 * 4
  let totalLen := u16 (← index packet 2) (← index packet 3)
  if ipv4MinHeader ≤ headerLen ∧ headerLen ≤ totalLen ∧ totalLen ≤ packet.length then
    return (← ipv4HeaderChecksumChecked (← slice packet 0 headerLen)) == 0
  else
    return false

def isExtension (next : UInt8) : Bool :=
  next == 0 || next == 43 || next == 44 || next == 51 || next == 60

/-- The walk over extension headers in `valid_ipv6`. -/
def extensionChain (packet : List UInt8) (stop : Nat) : Nat → UInt8 → Nat → Checked Bool
  | 0, next, _ => return !isExtension next
  | rounds + 1, next, offset => do
    if next == 0 || next == 43 || next == 60 then
      if stop < offset + 2 then return false
      let length := ((← index packet (offset + 1)).toNat + 1) * 8
      if stop < offset + length then return false
      extensionChain packet stop rounds (← index packet offset) (offset + length)
    else if next == 44 then
      if stop < offset + 8 then return false
      extensionChain packet stop rounds (← index packet offset) (offset + 8)
    else if next == 51 then
      if stop < offset + 2 then return false
      let length := ((← index packet (offset + 1)).toNat + 2) * 4
      if stop < offset + length then return false
      extensionChain packet stop rounds (← index packet offset) (offset + length)
    else
      return true

/-- `valid_ipv6`. -/
def validIpv6Checked (packet : List UInt8) : Checked Bool := do
  if packet.length < ipv6Header then return false
  if (← index packet 0).toNat / 16 ≠ 6 then return false
  let payloadLen := u16 (← index packet 4) (← index packet 5)
  let stop := ipv6Header + payloadLen
  if packet.length < stop then return false
  extensionChain packet stop 8 (← index packet 6) ipv6Header

/-- `packet_source` and `packet_destination`: the address at `at4` or `at6`. -/
def packetAddressChecked (at4 at6 : Nat) (packet : List UInt8) : Checked (Option IpAddr) := do
  match packet.head? with
  | none => return none
  | some first =>
    if first.toNat / 16 = 4 then
      if ← validIpv4Checked packet then
        return some (.v4 (Bytes.ofList 4 (← slice packet at4 (at4 + 4))))
      else
        return none
    else if first.toNat / 16 = 6 then
      if ← validIpv6Checked packet then
        return some (.v6 (Bytes.ofList 16 (← slice packet at6 (at6 + 16))))
      else
        return none
    else
      return none

/-- `packet_source`. -/
def packetSourceChecked : List UInt8 → Checked (Option IpAddr) :=
  packetAddressChecked 12 8

/-- `packet_destination`. -/
def packetDestinationChecked : List UInt8 → Checked (Option IpAddr) :=
  packetAddressChecked 16 24

/-- `ethernet_dst_mac`. -/
def ethernetDstMac (frame : List UInt8) : Option Mac :=
  if 6 ≤ frame.length then some (Bytes.ofList 6 frame) else none

/-- `ethernet_src_mac`. -/
def ethernetSrcMac (frame : List UInt8) : Option Mac :=
  if 12 ≤ frame.length then some (Bytes.ofList 6 (frame.drop 6)) else none

def ethertype (frame : List UInt8) : Option Nat :=
  match frame.drop 12 with
  | a :: b :: _ => some (u16 a b)
  | _ => none

/-- `is_broadcast_or_multicast_mac`. -/
def isBroadcastOrMulticastMac (mac : Mac) : Bool :=
  mac.head.toNat % 2 == 1

/-- `ethernet_payload_ip` on an ARP body: its checks and the address. -/
def arpAddressChecked (frame payload : List UInt8) (isDest : Bool) : Checked (Option IpAddr) := do
  if payload.length < 28 then return none
  if (← slice payload 0 2) ≠ [0, 1] then return none
  if (← slice payload 2 4) ≠ [0x08, 0x00] then return none
  if (← index payload 4) ≠ 6 then return none
  if (← index payload 5) ≠ 4 then return none
  let operation := u16 (← index payload 6) (← index payload 7)
  if operation ≠ 1 ∧ operation ≠ 2 then return none
  if (← slice frame 6 12) ≠ (← slice payload 8 14) then return none
  let offset := if isDest then 24 else 14
  return some (.v4 (Bytes.ofList 4 (← slice payload offset (offset + 4))))

/-- `ethernet_payload_ip`. -/
def ethernetPayloadIpChecked (frame : List UInt8) (isDest : Bool) : Checked (Option IpAddr) := do
  if frame.length < ethernetHeaderLen then return none
  let payload ← slice frame ethernetHeaderLen frame.length
  let address := if isDest then packetDestinationChecked else packetSourceChecked
  match ethertype frame with
  | none => return none
  | some kind =>
    if kind = ethertypeIpv4 ∧ payload.head?.any (fun byte => byte.toNat / 16 == 4) then
      address payload
    else if kind = ethertypeIpv6 ∧ payload.head?.any (fun byte => byte.toNat / 16 == 6) then
      address payload
    else if kind = ethertypeArp then
      arpAddressChecked frame payload isDest
    else
      return none

/-- `decrement_hop_limit`: whether to forward, and the buffer afterwards. -/
def decrementHopLimitChecked (packet : List UInt8) : Checked (Bool × List UInt8) := do
  match packet.head?.map (fun byte => byte.toNat / 16) with
  | some 4 =>
    if packet.length < ipv4MinHeader then return (false, packet)
    let headerLen := (← index packet 0).toNat % 16 * 4
    if headerLen < ipv4MinHeader ∨ packet.length < headerLen then return (false, packet)
    let ttl ← index packet 8
    if ttl.toNat ≤ 1 then return (false, packet)
    let packet ← set packet 8 (UInt8.ofNat (← sub ttl.toNat 1))
    let packet ← set packet 10 0
    let packet ← set packet 11 0
    let checksum ← ipv4HeaderChecksumChecked (← slice packet 0 headerLen)
    let packet ← set packet 10 (UInt8.ofNat (checksum / 256))
    let packet ← set packet 11 (UInt8.ofNat checksum)
    return (true, packet)
  | some 6 =>
    if packet.length < ipv6Header then return (false, packet)
    let hops ← index packet 7
    if hops.toNat ≤ 1 then return (false, packet)
    return (true, ← set packet 7 (UInt8.ofNat (← sub hops.toNat 1)))
  | _ => return (false, packet)

lemma u16_lt (a b : UInt8) : u16 a b < 65536 := by
  have ha := a.toNat_lt
  have hb := b.toNat_lt
  simp only [u16]
  omega

def wordSum : List UInt8 → Nat
  | a :: b :: rest => u16 a b + wordSum rest
  | [a] => u16 a 0
  | [] => 0

lemma wordSum_le (header : List UInt8) : wordSum header ≤ 65536 * header.length := by
  fun_induction wordSum header with
  | case1 a b rest ih =>
    have lt := u16_lt a b
    simp only [List.length_cons]
    omega
  | case2 a =>
    have lt := u16_lt a 0
    simp only [List.length_cons, List.length_nil]
    omega
  | case3 => exact Nat.zero_le _

variable {header : List UInt8} {packet : List UInt8}

/-- The words of a short header sum up without overflow. -/
lemma checksumWords_eq {sum : Nat} (h : sum + 65536 * header.length < 2 ^ 32) :
    checksumWords header sum = .ok (sum + wordSum header) := by
  fun_induction checksumWords header sum with
  | case1 a b rest sum ih =>
    have lt := u16_lt a b
    simp only [List.length_cons] at h
    rw [add_of_lt (by omega), bind_ok, ih _ (by omega), wordSum, Nat.add_assoc]
  | case2 a sum =>
    have lt := u16_lt a 0
    simp only [List.length_cons, List.length_nil] at h
    exact add_of_lt (by omega)
  | case3 sum => rfl

/-- Two rounds fold a `u32` into 16 bits. -/
lemma checksum_folds {sum : Nat} (h : sum < 2 ^ 32) :
    ∃ f, loop (fun s => s / 65536 ≠ 0) (fun s => add 32 (s % 65536) (s / 65536)) 32 sum = .ok f ∧
      Folds 65535 sum f := by
  -- the measure counts the rounds left: one from 65536 on, two from 131071 on
  let rounds : Nat → Nat := fun s => if s < 65536 then 0 else if s < 131071 then 1 else 2
  let folds : Nat → Prop := fun s => s < 2 ^ 32 ∧ s ≡ sum [MOD 65535] ∧ (0 < sum → 0 < s)
  have round : ∀ s, folds s → decide (s / 65536 ≠ 0) = true →
      ∃ s', add 32 (s % 65536) (s / 65536) = .ok s' ∧ folds s' ∧ rounds s' < rounds s := by
    rintro s ⟨inv, same, positive⟩ guard
    have guard : s / 65536 ≠ 0 := by simpa using guard
    refine ⟨carry 65535 s, add_of_lt (by omega), ⟨?_, ?_, ?_⟩, ?_⟩
    · unfold carry
      omega
    · exact (carry_modEq 65535 s).trans same
    · exact fun pos => carry_pos (positive pos)
    · simp only [rounds, carry]
      repeat' split
      all_goals omega
  have enough : rounds sum ≤ 32 := by
    simp only [rounds]
    repeat' split
    all_goals omega
  obtain ⟨f, eq, ⟨_, same, positive⟩, stop⟩ :=
    loop_returns folds rounds round ⟨h, Nat.ModEq.refl _, fun pos => pos⟩ enough
  refine ⟨f, eq, ?_, same, positive⟩
  have stop : f / 65536 = 0 := by simpa using stop
  omega

/-- The checksum is the complement of the folded sum of words. -/
lemma ipv4HeaderChecksum_eq (h : header.length ≤ 60) :
    ∃ f, ipv4HeaderChecksumChecked header = .ok (65535 - f) ∧ Folds 65535 (wordSum header) f := by
  have few := wordSum_le header
  obtain ⟨f, folded, folds⟩ := checksum_folds (show wordSum header < 2 ^ 32 by omega)
  refine ⟨f, ?_, folds⟩
  have small := folds.small
  have sum : checksumWords header 0 = .ok (0 + wordSum header) := checksumWords_eq (by omega)
  rw [ipv4HeaderChecksumChecked, sum, bind_ok, Nat.zero_add, folded, bind_ok,
    Nat.mod_eq_of_lt (Nat.lt_succ_of_le small)]
  rfl

lemma ipv4HeaderChecksum_returns (h : header.length ≤ 60) :
    Returns (ipv4HeaderChecksumChecked header) := by
  obtain ⟨f, eq, _⟩ := ipv4HeaderChecksum_eq h
  exact ⟨_, eq⟩

lemma validIpv4_returns (packet : List UInt8) : Returns (validIpv4Checked packet) := by
  simp only [validIpv4Checked, pure_eq]
  refine returns_ite (fun _ => returns_ok _) (fun long => ?_)
  have long : 20 ≤ packet.length := by simpa [ipv4MinHeader] using long
  simp only [index_of_lt (show 0 < packet.length by omega), bind_ok]
  refine returns_ite (fun _ => returns_ok _) (fun _ => ?_)
  simp only [index_of_lt (show 2 < packet.length by omega),
    index_of_lt (show 3 < packet.length by omega), bind_ok]
  refine returns_ite (fun lens => ?_) (fun _ => returns_ok _)
  -- the header ends inside the packet, and after at most 15 words of 4 bytes
  have headerLen : (packet[0]).toNat % 16 * 4 ≤ packet.length := by omega
  rw [slice_of_le (by omega) headerLen, bind_ok]
  refine returns_bind (ipv4HeaderChecksum_returns ?_) (fun _ _ => returns_ok _)
  simp only [List.drop_zero, Nat.sub_zero, List.length_take]
  omega

lemma validIpv4_length (h : validIpv4Checked packet = .ok true) : ipv4MinHeader ≤ packet.length := by
  by_contra short
  rw [validIpv4Checked, if_pos (by omega)] at h
  cases h

lemma extensionChain_returns {stop : Nat} (inside : stop ≤ packet.length) (rounds : Nat) (next : UInt8)
    (offset : Nat) : Returns (extensionChain packet stop rounds next offset) := by
  induction rounds generalizing next offset with
  | zero => exact returns_ok _
  | succ rounds ih =>
    simp only [extensionChain, pure_eq]
    refine returns_ite (fun _ => ?_) (fun _ => ?_)
    · refine returns_ite (fun _ => returns_ok _) (fun room => ?_)
      rw [index_of_lt (show offset + 1 < packet.length by omega), bind_ok]
      refine returns_ite (fun _ => returns_ok _) (fun _ => ?_)
      rw [index_of_lt (show offset < packet.length by omega), bind_ok]
      exact ih _ _
    · refine returns_ite (fun _ => ?_) (fun _ => ?_)
      · refine returns_ite (fun _ => returns_ok _) (fun room => ?_)
        rw [index_of_lt (show offset < packet.length by omega), bind_ok]
        exact ih _ _
      · refine returns_ite (fun _ => ?_) (fun _ => returns_ok _)
        refine returns_ite (fun _ => returns_ok _) (fun room => ?_)
        rw [index_of_lt (show offset + 1 < packet.length by omega), bind_ok]
        refine returns_ite (fun _ => returns_ok _) (fun _ => ?_)
        rw [index_of_lt (show offset < packet.length by omega), bind_ok]
        exact ih _ _

lemma validIpv6_returns (packet : List UInt8) : Returns (validIpv6Checked packet) := by
  simp only [validIpv6Checked, pure_eq]
  refine returns_ite (fun _ => returns_ok _) (fun long => ?_)
  have long : 40 ≤ packet.length := by simpa [ipv6Header] using long
  simp only [index_of_lt (show 0 < packet.length by omega),
    index_of_lt (show 4 < packet.length by omega), index_of_lt (show 5 < packet.length by omega),
    index_of_lt (show 6 < packet.length by omega), bind_ok]
  refine returns_ite (fun _ => returns_ok _) (fun _ => ?_)
  refine returns_ite (fun _ => returns_ok _) (fun inside => ?_)
  exact extensionChain_returns (by omega) _ _ _

lemma validIpv6_length (h : validIpv6Checked packet = .ok true) : ipv6Header ≤ packet.length := by
  by_contra short
  rw [validIpv6Checked, if_pos (by omega)] at h
  cases h

lemma packetAddress_returns {at4 at6 : Nat} (h4 : at4 + 4 ≤ ipv4MinHeader)
    (h6 : at6 + 16 ≤ ipv6Header) (packet : List UInt8) :
    Returns (packetAddressChecked at4 at6 packet) := by
  simp only [packetAddressChecked, pure_eq]
  cases packet.head? with
  | none => exact returns_ok _
  | some first =>
    refine returns_ite (fun _ => ?_) (fun _ => returns_ite (fun _ => ?_) (fun _ => returns_ok _))
    · refine returns_bind (validIpv4_returns packet) (fun valid eq => ?_)
      cases valid with
      | false => exact returns_ok _
      | true =>
        have long := validIpv4_length eq
        simp only [if_true, slice_of_le (show at4 ≤ at4 + 4 by omega)
          (show at4 + 4 ≤ packet.length by omega), bind_ok]
        exact returns_ok _
    · refine returns_bind (validIpv6_returns packet) (fun valid eq => ?_)
      cases valid with
      | false => exact returns_ok _
      | true =>
        have long := validIpv6_length eq
        simp only [if_true, slice_of_le (show at6 ≤ at6 + 16 by omega)
          (show at6 + 16 ≤ packet.length by omega), bind_ok]
        exact returns_ok _

lemma packetSource_returns (packet : List UInt8) : Returns (packetSourceChecked packet) :=
  packetAddress_returns (by decide) (by decide) packet

lemma packetDestination_returns (packet : List UInt8) : Returns (packetDestinationChecked packet) :=
  packetAddress_returns (by decide) (by decide) packet

lemma arpAddress_returns {frame : List UInt8} (long : ethernetHeaderLen ≤ frame.length)
    (payload : List UInt8) (isDest : Bool) : Returns (arpAddressChecked frame payload isDest) := by
  have long : 14 ≤ frame.length := long
  simp only [arpAddressChecked, pure_eq]
  refine returns_ite (fun _ => returns_ok _) (fun room => ?_)
  have room : 28 ≤ payload.length := by omega
  have offset : (if isDest then 24 else 14) + 4 ≤ payload.length := by split <;> omega
  simp only [slice_of_le (show 0 ≤ 2 by omega) (show 2 ≤ payload.length by omega),
    slice_of_le (show 2 ≤ 4 by omega) (show 4 ≤ payload.length by omega),
    slice_of_le (show 8 ≤ 14 by omega) (show 14 ≤ payload.length by omega),
    slice_of_le (show 6 ≤ 12 by omega) (show 12 ≤ frame.length by omega),
    index_of_lt (show 4 < payload.length by omega), index_of_lt (show 5 < payload.length by omega),
    index_of_lt (show 6 < payload.length by omega), index_of_lt (show 7 < payload.length by omega),
    slice_of_le (Nat.le_add_right _ 4) offset, bind_ok]
  repeat' refine returns_ite (fun _ => returns_ok _) (fun _ => ?_)
  exact returns_ok _

lemma ethernetPayloadIp_returns (frame : List UInt8) (isDest : Bool) :
    Returns (ethernetPayloadIpChecked frame isDest) := by
  simp only [ethernetPayloadIpChecked, pure_eq]
  refine returns_ite (fun _ => returns_ok _) (fun long => ?_)
  have long : ethernetHeaderLen ≤ frame.length := by omega
  have address : ∀ payload,
      Returns ((if isDest then packetDestinationChecked else packetSourceChecked) payload) := by
    intro payload
    cases isDest with
    | false => exact packetSource_returns payload
    | true => exact packetDestination_returns payload
  rw [slice_of_le long (Nat.le_refl _), bind_ok]
  cases ethertype frame with
  | none => exact returns_ok _
  | some kind =>
    refine returns_ite (fun _ => address _) (fun _ => ?_)
    refine returns_ite (fun _ => address _) (fun _ => ?_)
    exact returns_ite (fun _ => arpAddress_returns long _ _) (fun _ => returns_ok _)

lemma decrementHopLimit_returns (packet : List UInt8) :
    Returns (decrementHopLimitChecked packet) := by
  simp only [decrementHopLimitChecked, pure_eq]
  split
  · refine returns_ite (fun _ => returns_ok _) (fun long => ?_)
    have long : 20 ≤ packet.length := by simpa [ipv4MinHeader] using long
    simp only [index_of_lt (show 0 < packet.length by omega),
      index_of_lt (show 8 < packet.length by omega), bind_ok]
    refine returns_ite (fun _ => returns_ok _) (fun lens => ?_)
    refine returns_ite (fun _ => returns_ok _) (fun ttl => ?_)
    have headerLen : (packet[0]).toNat % 16 * 4 ≤ packet.length := by omega
    simp only [sub_of_le (show 1 ≤ (packet[8]).toNat by omega), bind_ok]
    rw [set_of_lt (by omega), bind_ok, set_of_lt (by simp; omega), bind_ok,
      set_of_lt (by simp; omega), bind_ok,
      slice_of_le (by omega) (by simpa using headerLen), bind_ok]
    refine returns_bind (ipv4HeaderChecksum_returns ?_) (fun checksum _ => ?_)
    · simp only [List.drop_zero, Nat.sub_zero, List.length_take]
      omega
    · rw [set_of_lt (by simp; omega), bind_ok, set_of_lt (by simp; omega), bind_ok]
      exact returns_ok _
  · refine returns_ite (fun _ => returns_ok _) (fun long => ?_)
    have long : 40 ≤ packet.length := by simpa [ipv6Header] using long
    rw [index_of_lt (show 7 < packet.length by omega), bind_ok]
    refine returns_ite (fun _ => returns_ok _) (fun hops => ?_)
    rw [sub_of_le (by omega), bind_ok, set_of_lt (by omega), bind_ok]
    exact returns_ok _
  · exact returns_ok _

/-- `packet_source`, as the total function it is. -/
def packetSource (packet : List UInt8) : Option IpAddr :=
  (packetSourceChecked packet).get (packetSource_returns packet)

def packetDestination (packet : List UInt8) : Option IpAddr :=
  (packetDestinationChecked packet).get (packetDestination_returns packet)

def ethernetPayloadIp (frame : List UInt8) (isDest : Bool) : Option IpAddr :=
  (ethernetPayloadIpChecked frame isDest).get (ethernetPayloadIp_returns frame isDest)

def decrementHopLimit (packet : List UInt8) : Bool × List UInt8 :=
  (decrementHopLimitChecked packet).get (decrementHopLimit_returns packet)

/-- `prepare_forward`. -/
def prepareForward (packet : List UInt8) : Option (List UInt8) :=
  let (ok, copy) := decrementHopLimit packet
  if ok then some copy else none

end Rvpn.Routing
