import Rvpn.Config.Server

/-!
# Virtual interfaces

Model of the parts of `crates/rvpn-interface` that decide what reaches a device: a
`VirtualInterface` by its MTU and mode, and `validate_packet`, which every write passes first.
-/

namespace Rvpn.Interface
open Config

/-- `DEFAULT_MTU`. -/
def defaultMtu : UInt16 := 1400

/-- `InterfaceError`, for a packet that is refused. -/
inductive InterfaceError where
  | packetTooLarge (size : Nat) (mtu : UInt16)
  | invalidIpPacket
  | invalidEthernetFrame
  deriving DecidableEq

/-- `VirtualInterface`; `TunConfig::validate` refuses an MTU below `MIN_MTU`. -/
structure VirtualInterface where
  mtu : UInt16
  mode : DeviceMode
  minMtu : 576 ≤ mtu.toNat
  deriving DecidableEq

/-- `validate_packet`: TUN takes what starts like an IP packet, TAP a frame. -/
def validatePacket (packet : List UInt8) (mtu : UInt16) (mode : DeviceMode) :
    Except InterfaceError Unit :=
  match mode with
  | .tun =>
    if mtu.toNat < packet.length then .error (.packetTooLarge packet.length mtu)
    else
      match packet with
      | [] => .error .invalidIpPacket
      | first :: _ =>
        if first >>> 4 = 4 ∨ first >>> 4 = 6 then .ok () else .error .invalidIpPacket
  | _ =>
    if packet.length < 14 then .error .invalidEthernetFrame
    else if mtu.toNat + 18 < packet.length then .error (.packetTooLarge packet.length (mtu + 18))
    else .ok ()

/-- The longest packet that a device hands over. -/
def VirtualInterface.maxPacketLen (device : VirtualInterface) : Nat :=
  if device.mode = .tap then device.mtu.toNat + 18 else device.mtu.toNat

/-- `VirtualInterface::recv`, with one byte more than the longest packet. -/
def VirtualInterface.recv (device : VirtualInterface) (packet : List UInt8) :
    Except InterfaceError (List UInt8) :=
  let read := packet.take (device.maxPacketLen + 1)
  if device.maxPacketLen < read.length then
    .error (.packetTooLarge read.length (UInt16.ofNat device.maxPacketLen))
  else
    match validatePacket read device.mtu device.mode with
    | .ok () => .ok read
    | .error e => .error e

/-- `VirtualInterface::send`. -/
def VirtualInterface.send (device : VirtualInterface) (packet : List UInt8) : Option (List UInt8) :=
  match validatePacket packet device.mtu device.mode with
  | .ok () => some packet
  | .error _ => none

variable {device : VirtualInterface}

lemma VirtualInterface.send_eq {packet written : List UInt8} (h : device.send packet = some written) :
    written = packet := by
  unfold send at h
  split at h
  · exact (Option.some.inj h).symm
  · cases h

lemma VirtualInterface.recv_length {packet plaintext : List UInt8}
    (h : device.recv packet = .ok plaintext) : plaintext.length ≤ device.maxPacketLen := by
  unfold recv at h
  simp only at h
  split at h
  · cases h
  · next short =>
    split at h
    · cases h
      exact Nat.not_lt.1 short
    · cases h

lemma VirtualInterface.recv_of_valid {packet : List UInt8}
    (valid : validatePacket packet device.mtu device.mode = .ok ())
    (fits : packet.length ≤ device.maxPacketLen) : device.recv packet = .ok packet := by
  unfold recv
  simp only [List.take_of_length_le (Nat.le_succ_of_le fits), valid, if_neg (Nat.not_lt.2 fits)]

end Rvpn.Interface
