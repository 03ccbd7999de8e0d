import Rvpn.Interface
import Rvpn.Lib.Transparent
import Rvpn.Protocol.Session

/-!
# The size of datagrams

Each end lowers the requested MTU so that a packet with all its overhead fits a UDP payload on a path of
1500 bytes; the largest datagram that it sends is also the largest one that it receives. The server
knows the outer address family from the address that it is bound to, the client from the address of the
server: `datagrams_fit_iff` says when the difference loses packets.
-/

namespace Rvpn

def SocketAddr.isIpv6 (addr : SocketAddr) : Bool :=
  match addr.ip with
  | .v4 _ => false
  | .v6 _ => true

namespace Transport
open Config Crypto Interface Protocol

/-- `DEFAULT_PATH_MTU`. -/
def defaultPathMtu : Nat := 1500

/-- `default_udp_payload_mtu`. -/
def defaultUdpPayloadMtu (outerIsIpv6 : Bool) : Nat :=
  defaultPathMtu - 8 - if outerIsIpv6 then 40 else 20

/-- `effective_tunnel_mtu` of both applications. -/
def effectiveTunnelMtu (requested : UInt16) (wireOverhead : Nat) (outerIsIpv6 : Bool) : UInt16 :=
  let safeInner := defaultUdpPayloadMtu outerIsIpv6 - wireOverhead
  let safe := if safeInner < 65536 then UInt16.ofNat safeInner else 65535
  if requested ≤ safe then requested else safe

/-- What a frame is longer by than the MTU. -/
def frameOverhead : DeviceMode → Nat
  | .tun => 0
  | .tap => 18
  | .both => 18

/-- What a packet gets longer by on its way into a datagram, at most. -/
def wireOverhead (mode : DeviceMode) (obfuscated : Bool) : Nat :=
  frameOverhead mode + headerLen + 16 + if obfuscated then obfuscationOverhead else 0

/-- One end of a tunnel: the settings of its devices and of its transport. -/
structure TunnelEnd where
  mode : DeviceMode
  obfuscation : Option ObfuscationKey
  mtu : UInt16
  maxDatagramSize : Nat

namespace TunnelEnd

/-- The sizing of the server's `main` and of `run_client_inner`. -/
def size (interface : InterfaceConfig) (obfuscation : Option ObfuscationKey) (outerIsIpv6 : Bool) :
    TunnelEnd :=
  let mode := interface.deviceMode
  let overhead := wireOverhead mode obfuscation.isSome
  let mtu := effectiveTunnelMtu (interface.mtu.getD defaultMtu) overhead outerIsIpv6
  { mode := mode
    obfuscation := obfuscation
    mtu := mtu
    maxDatagramSize := mtu.toNat + overhead }

/-- The sizes in the server's `main`. -/
def ofServer (config : ServerConfig) (obfuscation : Option ObfuscationKey) : TunnelEnd :=
  size config.interface obfuscation config.bind.isIpv6

def ofClient (interface : InterfaceConfig) (obfuscation : Option ObfuscationKey)
    (server : SocketAddr) : TunnelEnd :=
  size interface obfuscation server.isIpv6

def deviceModes (e : TunnelEnd) : List DeviceMode :=
  match e.mode with
  | .tun => [.tun]
  | .tap => [.tap]
  | .both => [.tun, .tap]

end TunnelEnd

def kindOf (mode : DeviceMode) : PacketKind :=
  if mode = .tap then .dataTap else .data

/-- What a device accepts, sealed, encoded and wrapped. -/
inductive TunnelEnd.Sends (P : Primitives) (e : TunnelEnd) : List UInt8 → Prop
  | intro {device : VirtualInterface} {packet plaintext datagram : List UInt8}
      {session session' : ProtectedSession P} {sealed : Packet} {draw : Option WrapDraw}
      (mode : device.mode ∈ e.deviceModes) (mtu : device.mtu = e.mtu)
      (accepts : device.recv packet = .ok plaintext)
      (seals : session.sealPacket (kindOf device.mode) plaintext = (.ok sealed, session'))
      (wraps : wrap P e.obfuscation draw sealed.encode = .ok datagram) : Sends P e datagram

inductive ReceiveError where
  | datagramTooLarge (size maximum : Nat)
  deriving DecidableEq

/-- `receive_from`; the socket drops the rest of the datagram. -/
def receiveFrom (maxDatagramSize : Nat) (datagram : List UInt8) :
    Except ReceiveError (List UInt8) :=
  let capacity := maxDatagramSize + 1
  let maximum := capacity - 1
  let read := datagram.take capacity
  if maximum < read.length then .error (.datagramTooLarge read.length maximum) else .ok read

lemma receiveFrom_ok_iff {maxDatagramSize : Nat} {datagram : List UInt8} :
    receiveFrom maxDatagramSize datagram = .ok datagram ↔ datagram.length ≤ maxDatagramSize := by
  unfold receiveFrom
  simp only
  refine ⟨?_, ?_⟩
  · intro received
    split at received
    · cases received
    · next short =>
      rw [Except.ok.injEq, List.take_eq_self_iff] at received
      rw [List.take_of_length_le received] at short
      omega
  · intro fits
    rw [List.take_of_length_le (Nat.le_succ_of_le fits), if_neg (by omega)]

lemma receiveFrom_of_long {maxDatagramSize : Nat} {datagram : List UInt8}
    (long : maxDatagramSize < datagram.length) : receiveFrom maxDatagramSize datagram =
      .error (.datagramTooLarge (maxDatagramSize + 1) maxDatagramSize) := by
  unfold receiveFrom
  simp only [List.length_take, Nat.add_sub_cancel, Nat.min_eq_left (Nat.succ_le_of_lt long)]
  exact if_pos (Nat.lt_succ_self _)

section
variable {P : Primitives}

variable {session : ProtectedSession P} {e : TunnelEnd}

lemma length_sealed {session' : ProtectedSession P} {kind : PacketKind} {plaintext : List UInt8}
    {packet : Packet} (h : session.sealPacket kind plaintext = (.ok packet, session')) :
    packet.encode.length = headerLen + 16 + plaintext.length := by
  obtain ⟨_, _, _, sealed, _⟩ := ProtectedSession.sealPacket_ok h
  rw [Packet.encode, List.length_append, Header.length_encode, P.aeadSeal_length sealed]
  omega

lemma TunnelEnd.maxPacketLen_le {device : VirtualInterface} (mode : device.mode ∈ e.deviceModes)
    (mtu : device.mtu = e.mtu) : device.maxPacketLen ≤ e.mtu.toNat + frameOverhead e.mode := by
  unfold VirtualInterface.maxPacketLen
  rw [mtu]
  unfold deviceModes at mode
  split at mode
  · next own =>
    rw [if_neg (by rw [List.mem_singleton.1 mode]; decide)]
    exact Nat.le_add_right _ _
  · next own =>
    rw [own]
    split
    · exact Nat.le_refl _
    · exact Nat.le_add_right _ _
  · next own =>
    rw [own]
    split
    · exact Nat.le_refl _
    · exact Nat.le_add_right _ _

lemma TunnelEnd.Sends.length_le {datagram : List UInt8} (h : e.Sends P datagram) :
    datagram.length ≤ e.mtu.toNat + wireOverhead e.mode e.obfuscation.isSome := by
  obtain @⟨_, _, plaintext, _, _, _, sealed, draw, mode, mtu, accepts, seals, wraps⟩ := h
  have inner : plaintext.length ≤ e.mtu.toNat + frameOverhead e.mode :=
    (VirtualInterface.recv_length accepts).trans (maxPacketLen_le mode mtu)
  have encoded := length_sealed seals
  unfold wireOverhead
  cases obfuscation : e.obfuscation with
  | none =>
    rw [obfuscation] at wraps
    cases wraps
    simp only [Option.isSome_none, Bool.false_eq_true, if_false]
    omega
  | some key =>
    rw [obfuscation] at wraps
    have wrapped := ObfuscationKey.length_wrap_bounds (show key.wrap P draw _ = .ok _ from wraps)
    simp only [Option.isSome_some, if_true]
    omega

lemma exists_longest {device : VirtualInterface} (single : device.mode ≠ .both) :
    ∃ packet, device.recv packet = .ok packet ∧ packet.length = device.maxPacketLen := by
  have mtu := device.minMtu
  have positive : device.mtu.toNat ≤ device.maxPacketLen := by
    unfold VirtualInterface.maxPacketLen
    split
    · exact Nat.le_add_right _ _
    · exact Nat.le_refl _
  have length : ((0x45 : UInt8) :: List.replicate (device.maxPacketLen - 1) 0).length =
      device.maxPacketLen := by
    rw [List.length_cons, List.length_replicate]
    omega
  refine ⟨_, VirtualInterface.recv_of_valid ?_ length.le, length⟩
  unfold validatePacket
  unfold VirtualInterface.maxPacketLen at length ⊢
  cases mode : device.mode with
  | tun =>
    rw [mode, if_neg (by decide)] at length
    simp only [reduceCtorEq, if_false] at length ⊢
    rw [if_neg (by omega)]
    rfl
  | tap =>
    rw [mode, if_pos rfl] at length
    simp only [if_true] at length ⊢
    rw [if_neg (by omega), if_neg (by omega)]
  | both => exact absurd mode single

/-- With primitives that work, every plaintext can be sealed. -/
lemma exists_sealed (correct : P.Correct) (room : session.nextSendSequence.toNat ≠ 2 ^ 64 - 1)
    (mode : DeviceMode) (plaintext : List UInt8) :
    ∃ packet session', session.sealPacket (kindOf mode) plaintext = (.ok packet, session') := by
  have kind : kindOf mode ≠ .handshake := by
    unfold kindOf
    split
    · decide
    · decide
  obtain ⟨payload, sealed⟩ := correct.seal_total session.keys.send
    (packetNonce session.keyPhase session.nextSendSequence)
    (Header.encode
      { kind := kindOf mode
        keyPhase := session.keyPhase
        sequence := session.nextSendSequence
        sessionId := session.sessionId }) plaintext
  unfold ProtectedSession.sealPacket
  rw [if_neg kind, if_neg room]
  simp only [SessionKeys.sealWith, cryptSeal_ok.2 sealed]
  exact ⟨_, _, rfl⟩

def longestPadding : WrapDraw :=
  ⟨Bytes.zero 12, 96, fun _ => 0⟩

lemma TunnelEnd.exists_largest (correct : P.Correct)
    (room : session.nextSendSequence.toNat ≠ 2 ^ 64 - 1) (minMtu : 576 ≤ e.mtu.toNat) :
    ∃ datagram, e.Sends P datagram ∧
      datagram.length = e.mtu.toNat + wireOverhead e.mode e.obfuscation.isSome := by
  -- the device with the longest packets
  have largest : ∃ device : VirtualInterface, device.mode ∈ e.deviceModes ∧ device.mode ≠ .both ∧
      device.mtu = e.mtu ∧ device.maxPacketLen = e.mtu.toNat + frameOverhead e.mode := by
    unfold deviceModes
    cases e.mode with
    | tun => exact ⟨⟨e.mtu, .tun, minMtu⟩, by simp, by simp, rfl, rfl⟩
    | tap => exact ⟨⟨e.mtu, .tap, minMtu⟩, by simp, by simp, rfl, rfl⟩
    | both => exact ⟨⟨e.mtu, .tap, minMtu⟩, by simp, by simp, rfl, rfl⟩
  obtain ⟨device, mode, single, mtu, longest⟩ := largest
  obtain ⟨packet, accepts, length⟩ := exists_longest single
  obtain ⟨sealed, session', seals⟩ := exists_sealed correct room device.mode packet
  have encoded := length_sealed seals
  cases obfuscation : e.obfuscation with
  | none =>
    have wraps : wrap P e.obfuscation none sealed.encode = .ok sealed.encode := by
      rw [obfuscation]
      rfl
    refine ⟨sealed.encode, .intro mode mtu accepts seals wraps, ?_⟩
    rw [encoded, length, longest, wireOverhead]
    simp only [Option.isSome_none, Bool.false_eq_true, if_false]
    omega
  | some key =>
    have wraps : ∃ wire, key.wrap P (some longestPadding) sealed.encode = .ok wire := ⟨_, rfl⟩
    obtain ⟨wire, wraps⟩ := wraps
    have padded := ObfuscationKey.length_wrap wraps
    have selector : longestPadding.padSelector.toNat % (maxPadding + 1) = 96 := by decide
    have datagram : wrap P e.obfuscation (some longestPadding) sealed.encode = .ok wire := by
      rw [obfuscation]
      exact wraps
    refine ⟨wire, .intro mode mtu accepts seals datagram, ?_⟩
    rw [padded, selector, encoded, length, longest, wireOverhead]
    simp only [Option.isSome_some, if_true, obfuscationOverhead, maxPadding]
    omega

lemma wireOverhead_le (mode : DeviceMode) (obfuscated : Bool) :
    wireOverhead mode obfuscated ≤ 173 := by
  cases mode with
  | tun => cases obfuscated with
    | false => decide
    | true => decide
  | tap => cases obfuscated with
    | false => decide
    | true => decide
  | both => cases obfuscated with
    | false => decide
    | true => decide

lemma effectiveTunnelMtu_add {requested : UInt16} {overhead : Nat} (small : overhead ≤ 173)
    (outerIsIpv6 : Bool) : (effectiveTunnelMtu requested overhead outerIsIpv6).toNat + overhead =
      min (requested.toNat + overhead) (defaultUdpPayloadMtu outerIsIpv6) := by
  have room : 1452 ≤ defaultUdpPayloadMtu outerIsIpv6 ∧ defaultUdpPayloadMtu outerIsIpv6 ≤ 1472 := by
    cases outerIsIpv6 with
    | false => decide
    | true => decide
  unfold effectiveTunnelMtu
  generalize defaultUdpPayloadMtu outerIsIpv6 = payload at room
  have narrow : payload - overhead < 65536 := by omega
  have inner : (UInt16.ofNat (payload - overhead)).toNat = payload - overhead :=
    UInt16.toNat_ofNat_of_lt narrow
  simp only [if_pos narrow]
  split
  · next fits =>
    rw [UInt16.le_iff_toNat_le, inner] at fits
    omega
  · next wide =>
    rw [UInt16.le_iff_toNat_le, inner] at wide
    rw [inner]
    omega

namespace TunnelEnd

/-- The receiver leaves as much room, or both leave the requested one. -/
lemma fits_iff (correct : P.Correct) {session : ProtectedSession P}
    (room : session.nextSendSequence.toNat ≠ 2 ^ 64 - 1) (interface : InterfaceConfig)
    (obfuscation : Option ObfuscationKey) (v6 v6' : Bool) :
    (∀ datagram, (size interface obfuscation v6).Sends P datagram →
        receiveFrom (size interface obfuscation v6').maxDatagramSize datagram = .ok datagram) ↔
      (v6' = true → v6 = true) ∨ (interface.mtu.getD defaultMtu).toNat +
        wireOverhead interface.deviceMode obfuscation.isSome ≤ defaultUdpPayloadMtu true := by
  have small := wireOverhead_le interface.deviceMode obfuscation.isSome
  have sender : (size interface obfuscation v6).mtu.toNat + _ = _ := effectiveTunnelMtu_add small v6
  have receiver : (size interface obfuscation v6').maxDatagramSize = _ :=
    effectiveTunnelMtu_add small v6'
  have wide : defaultUdpPayloadMtu true = 1452 ∧ defaultUdpPayloadMtu false = 1472 := ⟨rfl, rfl⟩
  refine ⟨?_, ?_⟩
  · intro fits
    by_contra lossy
    rw [not_or, Classical.not_imp, Bool.not_eq_true] at lossy
    obtain ⟨⟨rfl, rfl⟩, big⟩ := lossy
    obtain ⟨datagram, sends, length⟩ := exists_largest correct room
      (e := size interface obfuscation false) (by omega)
    have received := receiveFrom_ok_iff.1 (fits datagram sends)
    rw [length, receiver] at received
    have sent : (size interface obfuscation false).mtu.toNat +
        wireOverhead (size interface obfuscation false).mode
          (size interface obfuscation false).obfuscation.isSome = _ := sender
    omega
  · intro same datagram sends
    rw [receiveFrom_ok_iff, receiver]
    have length := sends.length_le
    have sent : (size interface obfuscation v6).mtu.toNat +
        wireOverhead (size interface obfuscation v6).mode
          (size interface obfuscation v6).obfuscation.isSome = _ := sender
    rw [sent] at length
    refine length.trans ?_
    cases v6 with
    | true =>
      cases v6' with
      | false => omega
      | true => exact Nat.le_refl _
    | false =>
      cases v6' with
      | false => exact Nat.le_refl _
      | true =>
        obtain impossible | fits := same
        · cases impossible rfl
        · omega

end TunnelEnd
end

/-- With the same settings at both ends, no datagram is dropped as too large exactly when both ends see the same
outer address family, or the requested size fits the narrower one. -/
theorem datagrams_fit_iff {P : Primitives} (correct : P.Correct) (session : ProtectedSession P)
    (room : session.nextSendSequence.toNat ≠ 2 ^ 64 - 1) (config : ServerConfig)
    (client : InterfaceConfig) (obfuscation : Option ObfuscationKey) (server : SocketAddr)
    (sameMtu : client.mtu = config.interface.mtu)
    (sameMode : client.deviceMode = config.interface.deviceMode) :
    ((∀ datagram, (TunnelEnd.ofClient client obfuscation server).Sends P datagram →
        receiveFrom (TunnelEnd.ofServer config obfuscation).maxDatagramSize datagram =
          .ok datagram) ∧
      ∀ datagram, (TunnelEnd.ofServer config obfuscation).Sends P datagram →
        receiveFrom (TunnelEnd.ofClient client obfuscation server).maxDatagramSize datagram =
          .ok datagram) ↔
      server.isIpv6 = config.bind.isIpv6 ∨ (config.interface.mtu.getD defaultMtu).toNat +
        wireOverhead config.interface.deviceMode obfuscation.isSome ≤ defaultUdpPayloadMtu true := by
  have sized : TunnelEnd.ofClient client obfuscation server =
      .size config.interface obfuscation server.isIpv6 := by
    rw [TunnelEnd.ofClient, TunnelEnd.size, TunnelEnd.size, sameMtu, sameMode]
  rw [sized, TunnelEnd.ofServer, TunnelEnd.fits_iff correct room, TunnelEnd.fits_iff correct room,
    ← and_or_right]
  refine or_congr_left ?_
  exact ⟨fun same => Bool.eq_iff_iff.2 ⟨same.2, same.1⟩, fun same => ⟨same.trans, same.symm.trans⟩⟩

section
open Primitives

def plainSession : ProtectedSession transparent :=
  .new transparent ⟨Bytes.zero 16⟩ 0
    { send := ([], s(Bytes.zero 32, Bytes.zero 32), [])
      receive := ([], s(Bytes.zero 32, Bytes.zero 32), []) } 0

def listening (ip : IpAddr) : SocketAddr where
  ip := ip
  port := 51820

/-- A client and a server that both use IPv4. -/
theorem datagrams_fit_iff_ipv4 :
    (∀ datagram, (TunnelEnd.ofClient {} none (listening (.v4 (Bytes.zero 4)))).Sends transparent
        datagram →
      receiveFrom (TunnelEnd.ofServer { bind := listening (.v4 (Bytes.zero 4)) } none).maxDatagramSize
        datagram = .ok datagram) ∧
    ∀ datagram, (TunnelEnd.ofServer { bind := listening (.v4 (Bytes.zero 4)) } none).Sends transparent
        datagram →
      receiveFrom (TunnelEnd.ofClient {} none (listening (.v4 (Bytes.zero 4)))).maxDatagramSize
        datagram = .ok datagram :=
  (datagrams_fit_iff transparent_correct plainSession (by decide)
    { bind := listening (.v4 (Bytes.zero 4)) } {} none (listening (.v4 (Bytes.zero 4))) rfl rfl).2
    (.inl rfl)

/-- An IPv4 client sends 1472 bytes to an IPv6 wildcard, which takes 1452. -/
theorem ipv4_client_datagram_dropped : ∃ datagram, (TunnelEnd.ofClient {} (some ⟨Bytes.zero 32⟩)
        (listening (.v4 (Bytes.zero 4)))).Sends transparent datagram ∧ datagram.length = 1472 ∧
      receiveFrom (TunnelEnd.ofServer { bind := listening (.v6 (Bytes.zero 16)) }
        (some ⟨Bytes.zero 32⟩)).maxDatagramSize datagram = .error (.datagramTooLarge 1453 1452) := by
  have room : plainSession.nextSendSequence.toNat ≠ 2 ^ 64 - 1 := by decide
  obtain ⟨datagram, sends, length⟩ := TunnelEnd.exists_largest transparent_correct room
    (e := TunnelEnd.ofClient {} (some ⟨Bytes.zero 32⟩) (listening (.v4 (Bytes.zero 4)))) (by decide)
  have size : datagram.length = 1472 := length
  refine ⟨datagram, sends, size, ?_⟩
  exact receiveFrom_of_long (size ▸ by decide)

end
end Transport
end Rvpn
