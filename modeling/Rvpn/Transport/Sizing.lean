import Rvpn.Transport.Mtu
import Rvpn.Transport.UdpTransport

/-!
# A sender's own packets

A packet that a device accepts is, sealed, encoded and wrapped, not longer than the largest datagram of
the transport. The functions on the way are given again with the arithmetic of the source checked, in
a `usize` of `w` bits; the lemmas `checked…_eq` say that nothing overflows.
-/

namespace Rvpn.Transport
open Config Crypto Interface Protocol

section
variable (w : Nat)

/-- `default_udp_payload_mtu`, checked. -/
def checkedUdpPayloadMtu (outerIsIpv6 : Bool) : Checked Nat := do
  let payload ← Checked.sub defaultPathMtu 8
  Checked.sub payload (if outerIsIpv6 then 40 else 20)

def checkedWireOverhead (mode : DeviceMode) (obfuscated : Bool) : Checked Nat := do
  let header ← Checked.add w (frameOverhead mode) headerLen
  let tagged ← Checked.add w header 16
  Checked.add w tagged (if obfuscated then obfuscationOverhead else 0)

/-- The sizing of both applications, checked. -/
def checkedSize (interface : InterfaceConfig) (obfuscation : Option ObfuscationKey)
    (outerIsIpv6 : Bool) : Checked TunnelEnd := do
  let mode := interface.deviceMode
  let requested := interface.mtu.getD defaultMtu
  let overhead ← checkedWireOverhead w mode obfuscation.isSome
  let payload ← checkedUdpPayloadMtu outerIsIpv6
  -- a saturating subtraction and a conversion with a default, which do not panic
  let safeInner := payload - overhead
  let safe := if safeInner < 65536 then UInt16.ofNat safeInner else 65535
  let mtu := if requested ≤ safe then requested else safe
  let maxDatagramSize ← Checked.add w mtu.toNat overhead
  let _recvCapacity ← Checked.add w maxDatagramSize 1
  return { mode := mode, obfuscation := obfuscation, mtu := mtu, maxDatagramSize := maxDatagramSize }

def checkedValidatePacket (packet : List UInt8) (mtu : UInt16) (mode : DeviceMode) :
    Checked (Except InterfaceError Unit) :=
  match mode with
  | .tun => .ok (validatePacket packet mtu .tun)
  | _ =>
    if packet.length < 14 then .ok (.error .invalidEthernetFrame)
    else do
      let limit ← Checked.add w mtu.toNat 18
      if limit < packet.length then
        let reported ← Checked.add 16 mtu.toNat 18
        return .error (.packetTooLarge packet.length (UInt16.ofNat reported))
      else return .ok ()

def checkedMaxPacketLen (device : VirtualInterface) : Checked Nat :=
  if device.mode = .tap then Checked.add w device.mtu.toNat 18 else .ok device.mtu.toNat

/-- `VirtualInterface::recv`, checked. -/
def checkedRecv (device : VirtualInterface) (packet : List UInt8) :
    Checked (Except InterfaceError (List UInt8)) := do
  let maxPacketLen ← checkedMaxPacketLen w device
  let capacity ← Checked.add w maxPacketLen 1
  let read := packet.take capacity
  if maxPacketLen < read.length then return .error (.packetTooLarge read.length (UInt16.ofNat maxPacketLen))
  else
    match ← checkedValidatePacket w read device.mtu device.mode with
    | .ok () => return .ok read
    | .error e => return .error e

/-- `Packet::encode`, checked. -/
def checkedEncode (packet : Packet) : Checked (List UInt8) := do
  let _capacity ← Checked.add w headerLen packet.payload.length
  return packet.encode

def checkedWrap (P : Primitives) (obfuscation : Option ObfuscationKey) (draw : Option WrapDraw)
    (inner : List UInt8) : Checked (Except CryptoError (List UInt8)) :=
  match obfuscation, draw with
  | some key, some draw => do
    let paddingLen := draw.padSelector.toNat % (maxPadding + 1)
    let padded ← Checked.add w 1 inner.length
    let bodyLen ← Checked.add w padded paddingLen
    let _capacity ← Checked.add w 12 bodyLen
    return key.wrap P (some draw) inner
  | _, _ => .ok (wrap P obfuscation draw inner)

end

/-! ## Nothing overflows -/

lemma defaultUdpPayloadMtu_bounds (outerIsIpv6 : Bool) :
    1452 ≤ defaultUdpPayloadMtu outerIsIpv6 ∧ defaultUdpPayloadMtu outerIsIpv6 ≤ 1472 := by
  cases outerIsIpv6 with
  | false => decide
  | true => decide

section
variable {w : Nat} (wide : 16 ≤ w)
include wide

lemma add_of_small {a b : Nat} (small : a + b < 65536) : Checked.add w a b = .ok (a + b) := by
  have pow : 2 ^ 16 ≤ 2 ^ w := Nat.pow_le_pow_right (by decide) wide
  exact Checked.add_of_lt (small.trans_le pow)

omit wide in
lemma checkedUdpPayloadMtu_eq (outerIsIpv6 : Bool) :
    checkedUdpPayloadMtu outerIsIpv6 = .ok (defaultUdpPayloadMtu outerIsIpv6) := by
  cases outerIsIpv6 with
  | false => rfl
  | true => rfl

lemma checkedWireOverhead_eq (mode : DeviceMode) (obfuscated : Bool) :
    checkedWireOverhead w mode obfuscated = .ok (wireOverhead mode obfuscated) := by
  have total := wireOverhead_le mode obfuscated
  unfold wireOverhead at total
  unfold checkedWireOverhead
  rw [add_of_small wide (by omega), Checked.bind_ok, add_of_small wide (by omega), Checked.bind_ok,
    add_of_small wide (by omega)]
  rfl

lemma checkedSize_eq (interface : InterfaceConfig) (obfuscation : Option ObfuscationKey)
    (outerIsIpv6 : Bool) : checkedSize w interface obfuscation outerIsIpv6 =
      .ok (TunnelEnd.size interface obfuscation outerIsIpv6) := by
  have total : (effectiveTunnelMtu (interface.mtu.getD defaultMtu) _ _).toNat + _ = _ :=
    effectiveTunnelMtu_add (wireOverhead_le interface.deviceMode obfuscation.isSome) outerIsIpv6
  have payload := defaultUdpPayloadMtu_bounds outerIsIpv6
  unfold checkedSize
  simp only
  rw [checkedWireOverhead_eq wide, Checked.bind_ok, checkedUdpPayloadMtu_eq, Checked.bind_ok]
  change (Checked.add w (effectiveTunnelMtu (interface.mtu.getD defaultMtu) _ outerIsIpv6).toNat _ >>=
    fun maxDatagramSize => Checked.add w maxDatagramSize 1 >>= fun _ => _) = _
  rw [add_of_small wide (by omega), Checked.bind_ok, add_of_small wide (by omega)]
  rfl

lemma checkedValidatePacket_eq (packet : List UInt8) {mtu : UInt16} (mode : DeviceMode)
    (small : mtu.toNat + 18 < 65536) :
    checkedValidatePacket w packet mtu mode = .ok (validatePacket packet mtu mode) := by
  unfold checkedValidatePacket
  split
  · rfl
  · next other =>
    have frame : validatePacket packet mtu mode =
        if packet.length < 14 then .error .invalidEthernetFrame
        else if mtu.toNat + 18 < packet.length then .error (.packetTooLarge packet.length (mtu + 18))
        else .ok () := by
      cases mode with
      | tun => exact absurd rfl other
      | tap => rfl
      | both => rfl
    rw [frame]
    split
    · rfl
    · rw [add_of_small wide small, Checked.bind_ok]
      split
      · have reported : UInt16.ofNat (mtu.toNat + 18) = mtu + 18 := by simp
        rw [add_of_small le_rfl small, Checked.bind_ok, reported]
        rfl
      · rfl

lemma checkedRecv_eq {device : VirtualInterface} (small : device.mtu.toNat + 19 < 65536)
    (packet : List UInt8) : checkedRecv w device packet = .ok (device.recv packet) := by
  have len : checkedMaxPacketLen w device = .ok device.maxPacketLen := by
    unfold checkedMaxPacketLen VirtualInterface.maxPacketLen
    split
    · exact add_of_small wide (by omega)
    · rfl
  have most : device.maxPacketLen ≤ device.mtu.toNat + 18 := by
    unfold VirtualInterface.maxPacketLen
    split
    · exact le_rfl
    · exact Nat.le_add_right _ _
  unfold checkedRecv VirtualInterface.recv
  rw [len, Checked.bind_ok, add_of_small wide (by omega), Checked.bind_ok]
  simp only
  split
  · rfl
  · rw [checkedValidatePacket_eq wide _ _ (by omega), Checked.bind_ok]
    generalize validatePacket _ device.mtu device.mode = verdict
    cases verdict with
    | ok => rfl
    | error => rfl

lemma checkedEncode_eq {packet : Packet} (small : packet.encode.length < 65536) :
    checkedEncode w packet = .ok packet.encode := by
  rw [Packet.encode, List.length_append, Header.length_encode] at small
  unfold checkedEncode
  rw [add_of_small wide small]
  rfl

lemma checkedWrap_eq {P : Primitives} {inner : List UInt8}
    (small : inner.length + obfuscationOverhead < 65536) (obfuscation : Option ObfuscationKey)
    (draw : Option WrapDraw) :
    checkedWrap w P obfuscation draw inner = .ok (wrap P obfuscation draw inner) := by
  unfold checkedWrap
  split
  · next key draw =>
    have padding := Nat.mod_lt draw.padSelector.toNat (show 0 < maxPadding + 1 by decide)
    unfold obfuscationOverhead at small
    simp only
    rw [add_of_small wide (by omega), Checked.bind_ok, add_of_small wide (by omega), Checked.bind_ok,
      add_of_small wide (by omega)]
    rfl
  · rfl

end

/-- A device of an end: one that the end creates, with the MTU of the end. -/
structure TunnelEnd.Creates (e : TunnelEnd) (device : VirtualInterface) : Prop where
  mode : device.mode ∈ e.deviceModes
  mtu : device.mtu = e.mtu

lemma TunnelEnd.Creates.recv {e : TunnelEnd} {device : VirtualInterface} (creates : e.Creates device)
    {packet : List UInt8} (valid : validatePacket packet device.mtu device.mode = .ok ()) :
    device.recv packet = .ok packet := by
  refine VirtualInterface.recv_of_valid valid ?_
  have single : device.mode ≠ .both := by
    have mode := creates.mode
    unfold deviceModes at mode
    intro both
    rw [both] at mode
    cases own : e.mode <;> simp [own] at mode
  unfold validatePacket at valid
  unfold VirtualInterface.maxPacketLen
  cases mode : device.mode with
  | tun =>
    simp only [mode] at valid
    split at valid
    · cases valid
    · next fits =>
      rw [if_neg (by decide)]
      exact Nat.not_lt.1 fits
  | tap =>
    simp only [mode] at valid
    split at valid
    · cases valid
    · split at valid
      · cases valid
      · next fits => exact Nat.not_lt.1 fits
  | both => exact absurd mode single

section
variable (interface : InterfaceConfig) (obfuscation : Option ObfuscationKey) (outerIsIpv6 : Bool)

lemma TunnelEnd.size_maxDatagramSize :
    (TunnelEnd.size interface obfuscation outerIsIpv6).maxDatagramSize =
      min ((interface.mtu.getD defaultMtu).toNat +
        wireOverhead interface.deviceMode obfuscation.isSome) (defaultUdpPayloadMtu outerIsIpv6) :=
  effectiveTunnelMtu_add (wireOverhead_le interface.deviceMode obfuscation.isSome) outerIsIpv6

lemma TunnelEnd.size_mtu : (TunnelEnd.size interface obfuscation outerIsIpv6).mtu.toNat =
      min (interface.mtu.getD defaultMtu).toNat (defaultUdpPayloadMtu outerIsIpv6 -
        wireOverhead interface.deviceMode obfuscation.isSome) := by
  have small := wireOverhead_le interface.deviceMode obfuscation.isSome
  have sum := TunnelEnd.size_maxDatagramSize interface obfuscation outerIsIpv6
  have payload := defaultUdpPayloadMtu_bounds outerIsIpv6
  have total : (TunnelEnd.size interface obfuscation outerIsIpv6).mtu.toNat +
      wireOverhead interface.deviceMode obfuscation.isSome = _ := sum
  omega

end

lemma UdpTransport.dropIfOversized_of_le {t : UdpTransport} {payload : List UInt8}
    (fits : payload.length ≤ t.effectiveMtu) (clock : MtuClock) :
    t.dropIfOversized payload clock = (false, t) :=
  if_pos fits

lemma UdpTransport.exists_open (size : Nat) (positive : 1 ≤ size) (small : size ≤ maxUdpPayloadSize)
    (localAddress : SocketAddr) (now : Nat) :
    ∃ t, openWithTuning { localAddress := localAddress, maxDatagramSize := size } {} now = .ok t ∧
      t.effectiveMtu = size := by
  have valid : TransportConfig.validate { localAddress := localAddress, maxDatagramSize := size } =
      .ok () := if_neg (by simp only; omega)
  refine ⟨_, except_bind_ok.2 ⟨(), valid, rfl⟩, ?_⟩
  exact max_eq_left positive

lemma TunnelEnd.Creates.length_encode {P : Primitives} {e : TunnelEnd} {device : VirtualInterface}
    (creates : e.Creates device) {packet : List UInt8}
    (valid : validatePacket packet device.mtu device.mode = .ok ())
    {session session' : ProtectedSession P} {sealed : Packet}
    (seals : session.sealPacket (kindOf device.mode) packet = (.ok sealed, session')) :
    sealed.encode.length ≤ e.mtu.toNat + wireOverhead e.mode false := by
  have inner := (VirtualInterface.recv_length (creates.recv valid)).trans
    (maxPacketLen_le creates.mode creates.mtu)
  have encoded := length_sealed seals
  unfold wireOverhead
  rw [if_neg (by decide)]
  omega

/-- For every requested MTU of at least 576, device mode, obfuscation setting and outer address
family: the largest datagram fits the path, and a packet that a device accepts is, sealed, encoded
and wrapped, not longer; at first the transport does not drop it. No arithmetic overflows. -/
theorem own_packets_fit {w : Nat} (wide : 16 ≤ w) (P : Primitives) (interface : InterfaceConfig)
    (requested : 576 ≤ (interface.mtu.getD defaultMtu).toNat) (obfuscation : Option ObfuscationKey)
    (outerIsIpv6 : Bool) (localAddress : SocketAddr) (now : Nat) :
    ∃ e t, checkedSize w interface obfuscation outerIsIpv6 = .ok e ∧
      e = .size interface obfuscation outerIsIpv6 ∧ 576 ≤ e.mtu.toNat ∧
      e.maxDatagramSize ≤ defaultUdpPayloadMtu outerIsIpv6 ∧ UdpTransport.openWithTuning
        { localAddress := localAddress, maxDatagramSize := e.maxDatagramSize } {} now = .ok t ∧
      ∀ device, e.Creates device → ∀ packet,
        checkedRecv w device packet = .ok (device.recv packet) ∧
        checkedValidatePacket w packet device.mtu device.mode =
          .ok (validatePacket packet device.mtu device.mode) ∧
        (validatePacket packet device.mtu device.mode = .ok () →
          ∀ (session session' : ProtectedSession P) (sealed : Packet),
            session.sealPacket (kindOf device.mode) packet = (.ok sealed, session') →
            checkedEncode w sealed = .ok sealed.encode ∧
            ∀ draw, checkedWrap w P obfuscation draw sealed.encode =
                .ok (wrap P obfuscation draw sealed.encode) ∧
              ∀ datagram, wrap P obfuscation draw sealed.encode = .ok datagram →
                datagram.length ≤ e.maxDatagramSize ∧
                (∀ clock, t.dropIfOversized datagram clock = (false, t)) ∧
                datagram.length + 8 + (if outerIsIpv6 then 40 else 20) ≤ defaultPathMtu) := by
  have payload := defaultUdpPayloadMtu_bounds outerIsIpv6
  have overhead := wireOverhead_le interface.deviceMode obfuscation.isSome
  have bare : wireOverhead (TunnelEnd.size interface obfuscation outerIsIpv6).mode false ≤ 173 :=
    wireOverhead_le _ _
  have mtu := TunnelEnd.size_mtu interface obfuscation outerIsIpv6
  have largest := TunnelEnd.size_maxDatagramSize interface obfuscation outerIsIpv6
  have path : defaultUdpPayloadMtu outerIsIpv6 + 8 + (if outerIsIpv6 then 40 else 20) =
      defaultPathMtu := by
    cases outerIsIpv6 with
    | false => rfl
    | true => rfl
  have low : 576 ≤ (TunnelEnd.size interface obfuscation outerIsIpv6).mtu.toNat := by
    omega
  obtain ⟨t, opens, effective⟩ := UdpTransport.exists_open
    (TunnelEnd.size interface obfuscation outerIsIpv6).maxDatagramSize (by omega)
    (by unfold maxUdpPayloadSize; omega) localAddress now
  refine ⟨_, t, checkedSize_eq wide interface obfuscation outerIsIpv6, rfl, low, by omega, opens, ?_⟩
  intro device creates packet
  have short : device.mtu.toNat + 19 < 65536 := by
    rw [creates.mtu]
    omega
  refine ⟨checkedRecv_eq wide short packet, checkedValidatePacket_eq wide packet _ (by omega), ?_⟩
  intro valid session session' sealed seals
  have encoded := creates.length_encode valid seals
  refine ⟨checkedEncode_eq wide (by omega), ?_⟩
  intro draw
  refine ⟨checkedWrap_eq wide (by unfold obfuscationOverhead maxPadding; omega) obfuscation draw, ?_⟩
  intro datagram wraps
  have sends : (TunnelEnd.size interface obfuscation outerIsIpv6).Sends P datagram :=
    .intro creates.mode creates.mtu (creates.recv valid) seals wraps
  have fits : datagram.length ≤
      (TunnelEnd.size interface obfuscation outerIsIpv6).maxDatagramSize := sends.length_le
  exact ⟨fits, UdpTransport.dropIfOversized_of_le (effective ▸ fits), by omega⟩

def fullPacket : List UInt8 :=
  69 :: List.replicate 1316 0

/-- The default settings and obfuscation, in a `usize` of 64 bits. -/
theorem own_packets_fit_default :
    ∃ e t device sealed session datagram, checkedSize 64 {} (some ⟨Bytes.zero 32⟩) false = .ok e ∧
      UdpTransport.openWithTuning
        { localAddress := listening (.v4 (Bytes.zero 4)), maxDatagramSize := e.maxDatagramSize } {} 0 =
          .ok t ∧
      e.Creates device ∧ checkedRecv 64 device fullPacket = .ok (.ok fullPacket) ∧
      plainSession.sealPacket .data fullPacket = (.ok sealed, session) ∧
      checkedEncode 64 sealed = .ok sealed.encode ∧
      checkedWrap 64 Primitives.transparent (some ⟨Bytes.zero 32⟩) (some longestPadding) sealed.encode =
        .ok (.ok datagram) ∧
      datagram.length ≤ e.maxDatagramSize ∧ ∀ clock, t.dropIfOversized datagram clock = (false, t) := by
  obtain ⟨e, t, sizes, eq, low, _, opens, rest⟩ := own_packets_fit (show 16 ≤ 64 by decide)
    Primitives.transparent {} (by decide) (some ⟨Bytes.zero 32⟩) false (listening (.v4 (Bytes.zero 4))) 0
  have mode : DeviceMode.tun ∈ e.deviceModes := by
    rw [eq]
    decide
  have creates : e.Creates ⟨e.mtu, .tun, low⟩ := ⟨mode, rfl⟩
  have valid : validatePacket fullPacket e.mtu .tun = .ok () := by
    rw [eq]
    decide +kernel
  obtain ⟨read, _, sent⟩ := rest _ creates fullPacket
  obtain ⟨sealed, session, seals⟩ : ∃ sealed session,
      plainSession.sealPacket .data fullPacket = (.ok sealed, session) := ⟨_, _, rfl⟩
  obtain ⟨encodes, wraps⟩ := sent valid plainSession session sealed seals
  obtain ⟨wraps, fits⟩ := wraps (some longestPadding)
  obtain ⟨datagram, wrapped⟩ := ObfuscationKey.exists_wrap (P := Primitives.transparent) ⟨Bytes.zero 32⟩
    longestPadding sealed.encode
  obtain ⟨short, kept, _⟩ := fits datagram wrapped
  refine ⟨e, t, _, sealed, session, datagram, sizes, opens, creates, ?_, seals, encodes, ?_, short, kept⟩
  · rw [read, creates.recv valid]
  · rw [wraps]
    exact congrArg Except.ok wrapped

/-- The room that the overhead leaves on the path, in all twelve cases. -/
lemma room_iff (mode : DeviceMode) (obfuscated outerIsIpv6 : Bool) :
    1280 ≤ defaultUdpPayloadMtu outerIsIpv6 - wireOverhead mode obfuscated ↔
      ¬(mode ≠ .tun ∧ obfuscated ∧ outerIsIpv6) := by
  cases mode <;> cases obfuscated <;> cases outerIsIpv6 <;> decide

/-- The tunnel MTU for a requested one of at least 1280 leaves room for IPv6, except for Ethernet frames with
obfuscation over IPv6. -/
theorem tunnel_mtu_configurable_iff (interface : InterfaceConfig)
    (requested : 1280 ≤ (interface.mtu.getD defaultMtu).toNat) (obfuscation : Option ObfuscationKey)
    (outerIsIpv6 : Bool) : 1280 ≤ (TunnelEnd.size interface obfuscation outerIsIpv6).mtu.toNat ↔
      ¬(interface.deviceMode ≠ .tun ∧ obfuscation.isSome ∧ outerIsIpv6) := by
  rw [← room_iff, TunnelEnd.size_mtu, le_min_iff]
  exact and_iff_right requested

/-- A server with the default settings that is bound to IPv4. -/
theorem tunnel_mtu_configurable_iff_default :
    1280 ≤ (TunnelEnd.ofServer { bind := listening (.v4 (Bytes.zero 4)) }
      (some ⟨Bytes.zero 32⟩)).mtu.toNat :=
  (tunnel_mtu_configurable_iff {} (by decide) (some ⟨Bytes.zero 32⟩) false).2 (by simp)

/-- A TAP device of 1280 bytes gets 1279 with obfuscation over IPv6. -/
theorem obfuscated_tap_mtu_over_ipv6 : (TunnelEnd.ofServer
        { bind := listening (.v6 (Bytes.zero 16)), interface := { mode := some .tap, mtu := some 1280 } }
        (some ⟨Bytes.zero 32⟩)).mtu = 1279 ∧
      (TunnelEnd.ofClient { mode := some .tap, mtu := some 1280 } (some ⟨Bytes.zero 32⟩)
        (listening (.v6 (Bytes.zero 16)))).mtu = 1279 := by
  decide

end Rvpn.Transport
