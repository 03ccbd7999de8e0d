import Mathlib.Data.List.GetD
import Rvpn.Routing.Packet

/-!
# The packets that the parsers accept

`packet_source` and `packet_destination` accept the same packets. For IPv6 they are those of a
grammar over the bytes of the packet (`Ipv6Packet`): a fixed header, a payload of the declared length
that starts with a chain of at most eight extension headers, and any bytes after it.
-/

namespace Rvpn.Routing
open Checked

variable {packet : List UInt8}

/-- The next-header values of extension headers. -/
def extensionTypes : List UInt8 := [0, 43, 44, 51, 60]

/-- An extension header: its bytes and the next-header value. -/
inductive Extension : UInt8 → List UInt8 → UInt8 → Prop
  | options (kind next n : UInt8) (body : List UInt8) (type : kind ∈ [0, 43, 60])
      (length : (next :: n :: body).length = (n.toNat + 1) * 8) :
      Extension kind (next :: n :: body) next
  | fragment (next : UInt8) (body : List UInt8) (length : (next :: body).length = 8) :
      Extension 44 (next :: body) next
  | authentication (next n : UInt8) (body : List UInt8)
      (length : (next :: n :: body).length = (n.toNat + 2) * 4) :
      Extension 51 (next :: n :: body) next

/-- At most `n` extension headers from type `kind`, then another value. -/
inductive Chain : Nat → UInt8 → List UInt8 → Prop
  | upper (n : Nat) (kind : UInt8) (payload : List UInt8) (other : kind ∉ extensionTypes) :
      Chain n kind payload
  | header (n : Nat) (kind next : UInt8) (bytes rest : List UInt8)
      (extension : Extension kind bytes next) (chain : Chain n next rest) :
      Chain (n + 1) kind (bytes ++ rest)

/-- 40 bytes of version 6, a payload as declared, and the rest. -/
def Ipv6Packet (packet : List UInt8) : Prop :=
  ∃ header payload trailer, packet = header ++ payload ++ trailer ∧ header.length = 40 ∧
    (header.getD 0 0).toNat / 16 = 6 ∧
    payload.length = u16 (header.getD 4 0) (header.getD 5 0) ∧
    Chain 8 (header.getD 6 0) payload

/-- `valid_ipv4`, as the total function it is. -/
def validIpv4 (packet : List UInt8) : Bool :=
  (validIpv4Checked packet).get (validIpv4_returns packet)

/-- `valid_ipv6`, as the total function it is. -/
def validIpv6 (packet : List UInt8) : Bool :=
  (validIpv6Checked packet).get (validIpv6_returns packet)

def headerLen (packet : List UInt8) : Nat :=
  (packet.getD 0 0).toNat % 16 * 4

def totalLen (packet : List UInt8) : Nat :=
  u16 (packet.getD 2 0) (packet.getD 3 0)

/-- What `valid_ipv4` checks. -/
structure Ipv4Packet (packet : List UInt8) : Prop where
  version : (packet.getD 0 0).toNat / 16 = 4
  header : 20 ≤ headerLen packet
  total : headerLen packet ≤ totalLen packet
  inside : totalLen packet ≤ packet.length
  checksum : ipv4HeaderChecksumChecked (packet.take (headerLen packet)) = .ok 0

variable {i offset stop at4 at6 : Nat}

lemma index_getD (h : i < packet.length) : index packet i = .ok (packet.getD i 0) := by
  rw [index_of_lt h, List.getD_eq_getElem _ _ h]

lemma validIpv4_eq : validIpv4Checked packet = .ok (validIpv4 packet) :=
  get_eq (validIpv4_returns packet)

lemma validIpv6_eq : validIpv6Checked packet = .ok (validIpv6 packet) :=
  get_eq (validIpv6_returns packet)

lemma not_accepted {ε : Type} : (Except.ok false : Except ε Bool) ≠ .ok true := by
  intro h
  cases h

lemma validIpv4_iff (packet : List UInt8) : validIpv4 packet = true ↔ Ipv4Packet packet := by
  rw [← Except.ok.injEq, ← validIpv4_eq, validIpv4Checked]
  by_cases short : packet.length < ipv4MinHeader
  · rw [if_pos short]
    refine ⟨fun h => absurd h not_accepted, fun h => ?_⟩
    have short : packet.length < 20 := short
    have header := h.header
    have total := h.total
    have inside := h.inside
    omega
  · have long : 20 ≤ packet.length := Nat.le_of_not_lt short
    rw [if_neg short, index_getD (show 0 < packet.length by omega), bind_ok]
    by_cases version : (packet.getD 0 0).toNat / 16 ≠ 4
    · rw [if_pos version]
      exact ⟨fun h => absurd h not_accepted, fun h => absurd h.version version⟩
    · rw [if_neg version, index_getD (show 2 < packet.length by omega), bind_ok,
        index_getD (show 3 < packet.length by omega), bind_ok]
      dsimp only
      split
      · next lens =>
        obtain ⟨header, total, inside⟩ := lens
        have slice : slice packet 0 ((packet.getD 0 0).toNat % 16 * 4) =
            .ok (packet.take (headerLen packet)) := slice_of_le (Nat.zero_le _) (total.trans inside)
        rw [slice, bind_ok]
        refine ⟨fun accepted => ?_, fun h => ?_⟩
        · obtain ⟨checksum, eq, zero⟩ := except_bind_ok.1 accepted
          have zero : (checksum == 0) = true := Except.ok.inj zero
          rw [beq_iff_eq.1 zero] at eq
          exact ⟨not_not.1 version, header, total, inside, eq⟩
        · rw [h.checksum]
          rfl
      · next lens =>
        refine ⟨fun h => absurd h not_accepted, fun h => ?_⟩
        exact absurd ⟨h.header, h.total, h.inside⟩ lens

/-! ## The chain of extension headers -/

/-- The length of the extension header of a type at the start of the bytes. -/
def extensionLen (kind : UInt8) (bytes : List UInt8) : Nat :=
  if kind = 44 then 8
  else if kind = 51 then ((bytes.getD 1 0).toNat + 2) * 4
  else ((bytes.getD 1 0).toNat + 1) * 8

lemma eight_le_extensionLen (kind : UInt8) (bytes : List UInt8) : 8 ≤ extensionLen kind bytes := by
  unfold extensionLen
  split
  · exact Nat.le_refl 8
  · split
    · omega
    · omega

variable {kind : UInt8} {payload : List UInt8}

lemma isExtension_iff : isExtension kind = true ↔ kind ∈ extensionTypes := by
  simp [isExtension, extensionTypes, or_assoc]

lemma options_type (type : kind ∈ [0, 43, 60]) : kind ∈ extensionTypes ∧ kind ≠ 44 ∧ kind ≠ 51 := by
  simp only [List.mem_cons, List.not_mem_nil, or_false] at type
  obtain rfl | rfl | rfl := type
  · decide
  · decide
  · decide

lemma extension_type_cases (type : kind ∈ extensionTypes) :
    kind ∈ [0, 43, 60] ∨ kind = 44 ∨ kind = 51 := by
  simp only [extensionTypes, List.mem_cons, List.not_mem_nil, or_false] at type
  obtain rfl | rfl | rfl | rfl | rfl := type
  · decide
  · decide
  · decide
  · decide
  · decide

lemma extensionLen_options (type : kind ∈ [0, 43, 60]) (bytes : List UInt8) :
    extensionLen kind bytes = ((bytes.getD 1 0).toNat + 1) * 8 := by
  rw [extensionLen, if_neg (options_type type).2.1, if_neg (options_type type).2.2]

lemma Extension.length {kind next : UInt8} {bytes : List UInt8} (h : Extension kind bytes next)
    (rest : List UInt8) : kind ∈ extensionTypes ∧ bytes.length = extensionLen kind (bytes ++ rest) ∧
      next = (bytes ++ rest).getD 0 0 := by
  cases h with
  | options _ _ n body type length =>
    refine ⟨(options_type type).1, ?_, rfl⟩
    rw [length, extensionLen_options type]
    rfl
  | fragment _ body length => exact ⟨by decide, length, rfl⟩
  | authentication _ n body length => exact ⟨by decide, length, rfl⟩

lemma extension_take (type : kind ∈ extensionTypes)
    (fits : extensionLen kind payload ≤ payload.length) :
    Extension kind (payload.take (extensionLen kind payload)) (payload.getD 0 0) := by
  have long := eight_le_extensionLen kind payload
  obtain ⟨next, n, rest, rfl⟩ : ∃ next n rest, payload = next :: n :: rest := by
    cases payload with
    | nil => exact absurd (long.trans fits) (by decide)
    | cons next payload =>
      cases payload with
      | nil => exact absurd (show 8 ≤ 1 from long.trans fits) (by decide)
      | cons n rest => exact ⟨next, n, rest, rfl⟩
  obtain ⟨len, eq⟩ := Nat.exists_eq_add_of_le (Nat.le_of_lt (Nat.lt_of_lt_of_le (by decide) long) :
    2 ≤ extensionLen kind (next :: n :: rest))
  have taken : (next :: n :: rest).take (extensionLen kind (next :: n :: rest)) =
      next :: n :: rest.take len := by
    rw [eq, Nat.add_comm]
    rfl
  have length : (next :: n :: rest.take len).length = extensionLen kind (next :: n :: rest) := by
    rw [← taken, List.length_take, Nat.min_eq_left fits]
  rw [taken]
  rcases extension_type_cases type with options | rfl | rfl
  · refine .options kind next n _ options (length.trans ?_)
    rw [extensionLen_options options]
    rfl
  · exact .fragment next _ length
  · exact .authentication next n _ length

lemma chain_succ {n : Nat} (type : kind ∈ extensionTypes) : Chain (n + 1) kind payload ↔
      extensionLen kind payload ≤ payload.length ∧
        Chain n (payload.getD 0 0) (payload.drop (extensionLen kind payload)) := by
  refine ⟨fun chain => ?_, fun h => ?_⟩
  · cases chain with
    | upper _ _ _ other => exact absurd type other
    | header _ _ next bytes rest extension chain =>
      obtain ⟨_, length, rfl⟩ := extension.length rest
      rw [← length, List.drop_left, List.length_append]
      exact ⟨Nat.le_add_right _ _, chain⟩
  · obtain ⟨fits, chain⟩ := h
    rw [← List.take_append_drop (extensionLen kind payload) payload]
    exact .header n kind _ _ _ (extension_take type fits) chain

lemma chain_other {n : Nat} (other : kind ∉ extensionTypes) : Chain n kind payload :=
  .upper n kind payload other

lemma getD_payload (h : offset + i < stop) :
    ((packet.take stop).drop offset).getD i 0 = packet.getD (offset + i) 0 := by
  rw [List.getD_eq_getElem?_getD, List.getElem?_drop, List.getElem?_take_of_lt h,
    ← List.getD_eq_getElem?_getD]

lemma walks_options : (kind == 0 || kind == 43 || kind == 60) = true ↔ kind ∈ [0, 43, 60] := by
  simp [or_assoc]

lemma fragment_type : ¬ (44 : UInt8) ∈ ([0, 43, 60] : List UInt8) := by
  decide

lemma authentication_type :
    (¬ (51 : UInt8) ∈ ([0, 43, 60] : List UInt8)) ∧ ¬ ((51 : UInt8) == 44) = true := by
  decide

lemma extensionChain_succ {rounds : Nat} (inside : stop ≤ packet.length)
    (type : kind ∈ extensionTypes) : extensionChain packet stop (rounds + 1) kind offset =
      if stop < offset + extensionLen kind ((packet.take stop).drop offset) then .ok false
      else extensionChain packet stop rounds (((packet.take stop).drop offset).getD 0 0)
        (offset + extensionLen kind ((packet.take stop).drop offset)) := by
  have long := eight_le_extensionLen kind ((packet.take stop).drop offset)
  -- where the first two bytes are missing, the header is too long in any case
  by_cases room : offset + 2 ≤ stop
  · have first : index packet offset = .ok (((packet.take stop).drop offset).getD 0 0) := by
      rw [getD_payload (by omega), index_getD (by omega), Nat.add_zero]
    have second : index packet (offset + 1) = .ok (((packet.take stop).drop offset).getD 1 0) := by
      rw [getD_payload (by omega), index_getD (by omega)]
    have here : ¬ stop < offset + 2 := Nat.not_lt.2 room
    rcases extension_type_cases type with options | rfl | rfl
    · rw [extensionLen_options options]
      simp only [extensionChain, walks_options.2 options, if_true, here, if_false, first, second,
        bind_ok, pure_eq]
    · simp only [extensionChain, walks_options, fragment_type, if_false, beq_self_eq_true, if_true,
        first, bind_ok, pure_eq]
      rfl
    · simp only [extensionChain, walks_options, authentication_type, if_false, beq_self_eq_true,
        if_true, here, first, second, bind_ok, pure_eq]
      rfl
  · have beyond : stop < offset + extensionLen kind ((packet.take stop).drop offset) := by omega
    rw [if_pos beyond]
    have short : stop < offset + 2 := Nat.lt_of_not_le room
    have short' : stop < offset + 8 := by omega
    rcases extension_type_cases type with options | rfl | rfl
    · simp only [extensionChain, walks_options.2 options, if_true, short, pure_eq]
    · simp only [extensionChain, walks_options, fragment_type, if_false, beq_self_eq_true, if_true,
        short', pure_eq]
    · simp only [extensionChain, walks_options, authentication_type, Bool.false_eq_true, if_false,
        beq_self_eq_true, if_true, short, pure_eq]

/-- The walk accepts the rest of the payload iff it continues the chain. -/
lemma extensionChain_iff (inside : stop ≤ packet.length) (rounds : Nat) (kind : UInt8)
    (le : offset ≤ stop) : extensionChain packet stop rounds kind offset = .ok true ↔
      Chain rounds kind ((packet.take stop).drop offset) := by
  induction rounds generalizing kind offset with
  | zero =>
    rw [extensionChain, pure_eq, Except.ok.injEq, Bool.not_eq_true', ← Bool.not_eq_true,
      isExtension_iff]
    refine ⟨chain_other, fun chain => ?_⟩
    cases chain with
    | upper _ _ _ other => exact other
  | succ rounds ih =>
    by_cases type : kind ∈ extensionTypes
    · have length : ((packet.take stop).drop offset).length = stop - offset := by
        rw [List.length_drop, List.length_take, Nat.min_eq_left inside]
      rw [extensionChain_succ inside type, chain_succ type, length]
      split
      · next beyond => exact ⟨fun h => absurd h not_accepted, fun h => by omega⟩
      · next fits =>
        rw [ih _ (Nat.le_of_not_lt fits), List.drop_drop]
        exact ⟨fun chain => ⟨by omega, chain⟩, fun h => h.2⟩
    · refine ⟨fun _ => chain_other type, fun _ => ?_⟩
      have options : kind ∉ [0, 43, 60] := fun mem => type (options_type mem).1
      have fragment : (kind == 44) = false := beq_eq_false_iff_ne.2 fun same =>
        type (same ▸ by decide)
      have authentication : (kind == 51) = false := beq_eq_false_iff_ne.2 fun same =>
        type (same ▸ by decide)
      simp only [extensionChain, walks_options, options, fragment, authentication,
        Bool.false_eq_true, if_false, pure_eq]

def payloadLen (packet : List UInt8) : Nat :=
  u16 (packet.getD 4 0) (packet.getD 5 0)

lemma ipv6Packet_iff (packet : List UInt8) :
    Ipv6Packet packet ↔ 40 ≤ packet.length ∧ (packet.getD 0 0).toNat / 16 = 6 ∧
      40 + payloadLen packet ≤ packet.length ∧
      Chain 8 (packet.getD 6 0) ((packet.take (40 + payloadLen packet)).drop 40) := by
  refine ⟨?_, ?_⟩
  · rintro ⟨header, payload, trailer, rfl, length, version, declared, chain⟩
    have fixed : ∀ i < 40, (header ++ payload ++ trailer).getD i 0 = header.getD i 0 := by
      intro i lt
      rw [List.append_assoc, List.getD_append _ _ _ _ (by omega)]
    have len : payloadLen (header ++ payload ++ trailer) = payload.length := by
      rw [payloadLen, fixed 4 (by decide), fixed 5 (by decide), declared]
    have whole : (header ++ payload).length = 40 + payload.length := by
      rw [List.length_append, length]
    rw [fixed 0 (by decide), fixed 6 (by decide), len, List.take_left' whole,
      List.drop_left' length, List.length_append, whole]
    exact ⟨by omega, version, by omega, chain⟩
  · rintro ⟨long, version, inside, chain⟩
    have fixed : ∀ i < 40, (packet.take 40).getD i 0 = packet.getD i 0 := by
      intro i lt
      rw [List.getD_eq_getElem?_getD, List.getElem?_take_of_lt lt, ← List.getD_eq_getElem?_getD]
    refine ⟨packet.take 40, (packet.take (40 + payloadLen packet)).drop 40,
      packet.drop (40 + payloadLen packet), ?_, ?_, ?_, ?_, ?_⟩
    · have front : packet.take 40 = (packet.take (40 + payloadLen packet)).take 40 := by
        rw [List.take_take, Nat.min_eq_left (Nat.le_add_right _ _)]
      rw [front, List.take_append_drop, List.take_append_drop]
    · rw [List.length_take, Nat.min_eq_left long]
    · rw [fixed 0 (by decide)]
      exact version
    · rw [fixed 4 (by decide), fixed 5 (by decide), List.length_drop, List.length_take,
        Nat.min_eq_left inside, Nat.add_sub_cancel_left]
      rfl
    · rw [fixed 6 (by decide)]
      exact chain

lemma validIpv6_iff (packet : List UInt8) : validIpv6 packet = true ↔ Ipv6Packet packet := by
  rw [← Except.ok.injEq, ← validIpv6_eq, validIpv6Checked, ipv6Packet_iff]
  by_cases short : packet.length < ipv6Header
  · rw [if_pos short]
    exact ⟨fun h => absurd h not_accepted, fun h => absurd h.1 (Nat.not_le.2 short)⟩
  · have long : 40 ≤ packet.length := Nat.le_of_not_lt short
    rw [if_neg short, index_getD (show 0 < packet.length by omega), bind_ok]
    by_cases version : (packet.getD 0 0).toNat / 16 ≠ 6
    · rw [if_pos version]
      exact ⟨fun h => absurd h not_accepted, fun h => absurd h.2.1 version⟩
    · rw [if_neg version, index_getD (show 4 < packet.length by omega), bind_ok,
        index_getD (show 5 < packet.length by omega), bind_ok]
      dsimp only
      by_cases beyond : packet.length < ipv6Header + u16 (packet.getD 4 0) (packet.getD 5 0)
      · rw [if_pos beyond]
        exact ⟨fun h => absurd h not_accepted, fun h => absurd h.2.2.1 (Nat.not_le.2 beyond)⟩
      · have inside : 40 + payloadLen packet ≤ packet.length := Nat.le_of_not_lt beyond
        rw [if_neg beyond, index_getD (show 6 < packet.length by omega), bind_ok]
        have walk := extensionChain_iff inside 8 (packet.getD 6 0) (Nat.le_add_right 40 _)
        exact walk.trans ⟨fun chain => ⟨long, not_not.1 version, inside, chain⟩, fun h => h.2.2.2⟩

/-! ## Acceptance -/

/-- The address at an offset of an accepted packet. -/
def addressAt (at4 at6 : Nat) (packet : List UInt8) : Option IpAddr :=
  if validIpv4 packet then some (.v4 (Bytes.ofList 4 ((packet.drop at4).take 4)))
  else if validIpv6 packet then some (.v6 (Bytes.ofList 16 ((packet.drop at6).take 16)))
  else none

lemma head_of_getD (long : i < packet.length) : packet.head? = some (packet.getD 0 0) := by
  rw [List.head?_eq_getElem?, List.getD_eq_getElem?_getD,
    List.getElem?_eq_getElem (Nat.lt_of_le_of_lt (Nat.zero_le i) long), Option.getD_some]

lemma validIpv4_bounds (valid : validIpv4 packet = true) :
    (packet.getD 0 0).toNat / 16 = 4 ∧ 20 ≤ packet.length := by
  have h := (validIpv4_iff packet).1 valid
  exact ⟨h.version, h.header.trans (h.total.trans h.inside)⟩

lemma validIpv6_bounds (valid : validIpv6 packet = true) :
    (packet.getD 0 0).toNat / 16 = 6 ∧ 40 ≤ packet.length := by
  have h := (ipv6Packet_iff packet).1 ((validIpv6_iff packet).1 valid)
  exact ⟨h.2.1, h.1⟩

/-- The common body of the two functions returns the address at its offset. -/
lemma packetAddress_eq (h4 : at4 + 4 ≤ ipv4MinHeader) (h6 : at6 + 16 ≤ ipv6Header)
    (packet : List UInt8) :
    packetAddressChecked at4 at6 packet = .ok (addressAt at4 at6 packet) := by
  unfold packetAddressChecked addressAt
  cases four : validIpv4 packet with
  | true =>
    obtain ⟨version, long⟩ := validIpv4_bounds four
    have inside : at4 + 4 ≤ packet.length := h4.trans long
    have taken : slice packet at4 (at4 + 4) = .ok ((packet.drop at4).take 4) := by
      rw [slice_of_le (Nat.le_add_right _ _) inside, Nat.add_sub_cancel_left]
    simp only [head_of_getD long, version, if_true, validIpv4_eq, four, bind_ok, taken, pure_eq]
  | false =>
    cases six : validIpv6 packet with
    | true =>
      obtain ⟨version, long⟩ := validIpv6_bounds six
      have inside : at6 + 16 ≤ packet.length := h6.trans long
      have taken : slice packet at6 (at6 + 16) = .ok ((packet.drop at6).take 16) := by
        rw [slice_of_le (Nat.le_add_right _ _) inside, Nat.add_sub_cancel_left]
      have other : ¬ 6 = 4 := by decide
      simp only [head_of_getD long, version, other, if_false, if_true, validIpv6_eq, six, bind_ok,
        taken, pure_eq, Bool.false_eq_true]
    | false =>
      cases packet.head? with
      | none => rfl
      | some first =>
        simp only [validIpv4_eq, validIpv6_eq, four, six, bind_ok, pure_eq, Bool.false_eq_true,
          if_false, ite_self]

lemma packetSource_eq (packet : List UInt8) : packetSource packet = addressAt 12 8 packet :=
  get_eq_of _ (packetAddress_eq (by decide) (by decide) packet)

lemma packetDestination_eq (packet : List UInt8) : packetDestination packet = addressAt 16 24 packet :=
  get_eq_of _ (packetAddress_eq (by decide) (by decide) packet)

lemma addressAt_isSome {packet : List UInt8} :
    (addressAt at4 at6 packet).isSome = (validIpv4 packet || validIpv6 packet) := by
  unfold addressAt
  cases validIpv4 packet with
  | true => rfl
  | false =>
    cases validIpv6 packet with
    | true => rfl
    | false => rfl

lemma addressAt_v6_iff :
    (∃ a, addressAt at4 at6 packet = some (.v6 a)) ↔ validIpv6 packet = true := by
  unfold addressAt
  cases four : validIpv4 packet with
  | true =>
    refine ⟨nofun, fun six => ?_⟩
    -- a packet has one version
    have version := (validIpv4_bounds four).1
    rw [(validIpv6_bounds six).1] at version
    cases version
  | false =>
    cases six : validIpv6 packet with
    | true => exact ⟨fun _ => rfl, fun _ => ⟨_, rfl⟩⟩
    | false => exact ⟨nofun, nofun⟩

/-- No parser indexes out of bounds; source and destination are defined for the same packets; a
packet is accepted as IPv6 iff it is one of the grammar. -/
theorem packet_parsers_exact (packet : List UInt8) :
    (Returns (packetSourceChecked packet) ∧ Returns (packetDestinationChecked packet) ∧
        (∀ isDest, Returns (ethernetPayloadIpChecked packet isDest)) ∧
        Returns (decrementHopLimitChecked packet)) ∧
      ((packetSource packet).isSome = true ↔ (packetDestination packet).isSome = true) ∧
      ((∃ a, packetSource packet = some (.v6 a)) ↔ Ipv6Packet packet) := by
  refine ⟨⟨packetSource_returns packet, packetDestination_returns packet,
    ethernetPayloadIp_returns packet, decrementHopLimit_returns packet⟩, ?_, ?_⟩
  · rw [packetSource_eq, packetDestination_eq, addressAt_isSome, addressAt_isSome]
  · rw [packetSource_eq, addressAt_v6_iff, validIpv6_iff]

end Rvpn.Routing
