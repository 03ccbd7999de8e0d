import Rvpn.Lib.Transparent
import Rvpn.Routing.Consistency
import Rvpn.Server.Tables

/-!
# Source addresses at the devices of the server

What the server writes to a device should carry a source address of the session that sent it. The
router asks this of every payload it forwards, read in the format of the packet kind. `inject_frame`
then takes the TUN device for a frame when there is no TAP device, and a TUN device reads the frame
as an IP packet.
-/

namespace Rvpn.Server
open Config Interface Protocol Routing

variable {P : Primitives}

/-- What is written carries a source out of `allowedIps`, in the device's format. -/
def Output.SourceAllowed (allowedIps : List IpNet) : Output P → Prop
  | .tun packet => SourceIn allowedIps (packetSource packet)
  | .tap frame => SourceIn allowedIps (ethernetPayloadIp frame false)
  | _ => True

variable {o : Output P} {setup : Setup}

lemma Output.QuietFor.sourceAllowed {active : ActivePeers P} (quiet : o.QuietFor active)
    (allowedIps : List IpNet) : o.SourceAllowed allowedIps := by
  cases o with
  | tun packet => exact absurd quiet id
  | tap frame => exact absurd quiet id
  | _ => trivial

lemma mem_injectIp {packet : List UInt8} (mem : o ∈ injectIp setup packet) : o = .tun packet := by
  unfold injectIp at mem
  split at mem
  · obtain ⟨written, sent, rfl⟩ := Option.map_eq_some_iff.1 (Option.mem_toList.1 mem)
    rw [VirtualInterface.send_eq sent]
  · cases mem

lemma mem_injectFrame {frame : List UInt8} (devices : setup.tap = none → setup.tun = none)
    (mem : o ∈ injectFrame setup frame) : o = .tap frame := by
  unfold injectFrame at mem
  split at mem
  · obtain ⟨written, sent, rfl⟩ := Option.map_eq_some_iff.1 (Option.mem_toList.1 mem)
    rw [VirtualInterface.send_eq sent]
  · next noTap =>
    rw [devices noTap] at mem
    cases mem

/-- What reaches the device of its own format has an allowed source. -/
lemma routeInbound_sourceAllowed {env : Env} {router : Router} {active : ActivePeers P}
    {id : SessionId} {entry : PeerEntry} {kind : PacketKind} {payload : List UInt8}
    {wireBytes : Nat} (found : router.peers.lookup id = some entry)
    (devices : kind = .dataTap → setup.tap = none → setup.tun = none) :
    ∀ o ∈ (routeInbound setup env router active id kind payload wireBytes).2.2,
      o.SourceAllowed entry.allowedIps := by
  intro o mem
  obtain quiet | ⟨⟨delivery, forwarded⟩, injected⟩ :=
    (routeInbound_spec active setup env router id kind payload wireBytes).2 o mem
  · exact quiet.sourceAllowed _
  · unfold inboundVerdict at forwarded
    split at injected
    · next tap =>
      rw [if_pos tap] at forwarded
      rw [mem_injectFrame (devices tap) injected]
      exact Router.routeFrame_forward found forwarded
    · next tap =>
      rw [if_neg tap] at forwarded
      rw [mem_injectIp injected]
      exact Router.routeIp_forward found forwarded

/-- A multicast frame from 10.0.0.2, and an IPv4 packet from 8.0.69.0. -/
def ambiguousFrame : List UInt8 :=
  [0x45, 0x00, 0x00, 0x22, 0x00, 0x00, 0x00, 0x00, 0x40, 0x11, 0x2d, 0xb8, 0x08, 0x00,
    0x45, 0x00, 0x00, 0x14, 0x00, 0x00, 0x00, 0x00, 0x40, 0x11, 0x66, 0xd7,
    0x0a, 0x00, 0x00, 0x02, 0x0a, 0x00, 0x00, 0x01]

def sampleSession : SessionId :=
  ⟨Bytes.ofList 16 [1]⟩

def sampleNet : IpNet :=
  hostNet 2

/-- One registered session, for 10.0.0.2. -/
def sampleEvents : List Router.Event :=
  [.register sampleSession "laptop" [sampleNet]]

def sampleEntry : PeerEntry where
  name := "laptop"
  allowedIps := [sampleNet]
  linked := ∅
  macs := ∅

lemma lookup_sampleEvents :
    (run Router.step (Router.new ⟨∅⟩) sampleEvents).peers.lookup sampleSession = some sampleEntry := by
  decide +kernel

lemma packetSource_ambiguousFrame :
    packetSource ambiguousFrame = some (.v4 (Bytes.ofList 4 [8, 0, 0x45, 0])) := by
  decide +kernel

lemma not_sourceIn_ambiguousFrame :
    ¬ SourceIn sampleEntry.allowedIps (packetSource ambiguousFrame) := by
  rw [packetSource_ambiguousFrame]
  intro h
  obtain ⟨address, eq, net, mem, inside⟩ := h
  obtain rfl := Option.some.inj eq
  obtain rfl := List.mem_singleton.1 mem
  revert inside
  decide +kernel

lemma routeFrame_ambiguousFrame :
    ((run Router.step (Router.new ⟨∅⟩) sampleEvents).routeFrame sampleSession ambiguousFrame).1 =
      .forward ⟨true, []⟩ := by
  decide +kernel

lemma send_ambiguousFrame {mtu : UInt16} (minMtu : 576 ≤ mtu.toNat) :
    VirtualInterface.send ⟨mtu, .tun, minMtu⟩ ambiguousFrame = some ambiguousFrame := by
  have fits : ¬ mtu.toNat < ambiguousFrame.length := by
    have size : ambiguousFrame.length = 34 := rfl
    omega
  simp only [VirtualInterface.send, validatePacket, if_neg fits]
  rfl

lemma ambiguousFrame_written {mtu : UInt16} (minMtu : 576 ≤ mtu.toNat) :
    Output.tun (P := P) ambiguousFrame ∈
      (routeInbound (P := P) (deviceSetup (createDevices .tun mtu minMtu)) sampleEnv
        (run Router.step (Router.new ⟨∅⟩) sampleEvents) ∅ sampleSession .dataTap ambiguousFrame
        34).2.2 := by
  have forwarded := routeFrame_ambiguousFrame
  cases routed : (run Router.step (Router.new ⟨∅⟩) sampleEvents).routeFrame sampleSession
      ambiguousFrame with
  | mk verdict router =>
    rw [routed] at forwarded
    simp only at forwarded
    subst forwarded
    unfold routeInbound
    simp only [if_true, routed]
    refine List.mem_append_right _ ?_
    simp only [injectFrame, deviceSetup, createDevices, send_ambiguousFrame minMtu]
    exact List.mem_singleton.2 rfl

/-- The server writes only what carries a source address of the session, for all device sets and
packet kinds but frames at a server with only a TUN device. -/
theorem antiSpoofing_iff (P : Primitives) (mode : DeviceMode) (mtu : UInt16)
    (minMtu : 576 ≤ mtu.toNat) (kind : PacketKind) (dataKind : kind = .data ∨ kind = .dataTap) :
    (∀ (setup : Setup) (env : Env) (links : Links) (events : List Router.Event) (router : Router)
        (active : ActivePeers P) (id : SessionId) (entry : PeerEntry)
        (payload : List UInt8) (wireBytes : Nat),
        (setup.tun, setup.tap) = createDevices mode mtu minMtu →
        router = run Router.step (Router.new links) events → router.peers.lookup id = some entry →
        ∀ o ∈ (routeInbound setup env router active id kind payload wireBytes).2.2,
          o.SourceAllowed entry.allowedIps) ↔
      ¬ (mode = .tun ∧ kind = .dataTap) := by
  refine ⟨?_, ?_⟩
  · intro law bad
    obtain ⟨rfl, rfl⟩ := bad
    exact not_sourceIn_ambiguousFrame
      (law (deviceSetup (createDevices .tun mtu minMtu)) sampleEnv ⟨∅⟩ sampleEvents _ ∅ sampleSession
        sampleEntry ambiguousFrame 34 rfl rfl lookup_sampleEvents _ (ambiguousFrame_written minMtu))
  · intro good setup env links events router active id entry payload wireBytes devices _ found
    refine routeInbound_sourceAllowed found ?_
    intro tap noTap
    rw [noTap] at devices
    cases mode with
    | tun => exact absurd ⟨rfl, tap⟩ good
    | tap => exact absurd (congrArg Prod.snd devices) (by simp [createDevices])
    | both => exact absurd (congrArg Prod.snd devices) (by simp [createDevices])

theorem antiSpoofing_iff_both : 576 ≤ (1420 : UInt16).toNat ∧
      ∀ o ∈ (routeInbound (P := Primitives.transparent)
          (deviceSetup (createDevices .both 1420 (by decide))) sampleEnv
          (run Router.step (Router.new ⟨∅⟩) sampleEvents) ∅ sampleSession .dataTap ambiguousFrame
          34).2.2,
        o.SourceAllowed sampleEntry.allowedIps :=
  ⟨by decide, (antiSpoofing_iff Primitives.transparent .both 1420 (by decide) .dataTap (.inr rfl)).2
      (fun h => absurd h.1 (by decide)) _ sampleEnv ⟨∅⟩ sampleEvents _ ∅ sampleSession sampleEntry
      ambiguousFrame 34 rfl rfl lookup_sampleEvents⟩

/-- At a TUN server 10.0.0.2 gets a packet from 8.0.69.0 written. -/
theorem tun_server_writes_spoofed_source :
    (run Router.step (Router.new ⟨∅⟩) sampleEvents).peers.lookup sampleSession = some sampleEntry ∧
      Output.tun (P := Primitives.transparent) ambiguousFrame ∈
        (routeInbound (deviceSetup (createDevices .tun 1420 (by decide))) sampleEnv
          (run Router.step (Router.new ⟨∅⟩) sampleEvents) ∅ sampleSession .dataTap ambiguousFrame
          34).2.2 ∧
      packetSource ambiguousFrame = some (.v4 (Bytes.ofList 4 [8, 0, 0x45, 0])) ∧
      ¬ SourceIn sampleEntry.allowedIps (packetSource ambiguousFrame) :=
  ⟨lookup_sampleEvents, ambiguousFrame_written (by decide), packetSource_ambiguousFrame,
    not_sourceIn_ambiguousFrame⟩

end Rvpn.Server
