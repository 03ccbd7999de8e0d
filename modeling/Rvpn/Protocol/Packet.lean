import Rvpn.Crypto.Obfuscation
import Rvpn.Lib.Codec

/-!
# Packets

Model of `crates/rvpn-protocol/src/packet.rs`: the packet header, its 30-byte encoding, and the
decoder with its errors. `decode_encode` is the round trip, `Header.encode_inj` says that the
encoded header (which the AEAD authenticates) determines the header. At the end, how both
applications put a packet into a datagram and read it out again.
-/

namespace Rvpn.Protocol
open Crypto

/-- `HEADER_LEN`. -/
def headerLen : Nat := 1 + 1 + 4 + 8 + 16

/-- `PacketKind`. -/
inductive PacketKind where
  | handshake
  | data
  | rekey
  | close
  | dataTap
  | keepalive
  deriving DecidableEq

namespace PacketKind

/-- `kind as u8`. -/
def toByte : PacketKind → UInt8
  | .handshake => 1
  | .data => 2
  | .rekey => 3
  | .close => 4
  | .dataTap => 5
  | .keepalive => 6

end PacketKind

/-- Errors of the decoders. -/
inductive ProtocolError where
  | truncatedHeader
  | unsupportedVersion (major minor : UInt8)
  | unknownPacketKind (kind : UInt8)
  | invalidHandshake
  deriving DecidableEq

/-- `PacketKind::try_from`. -/
def PacketKind.tryFrom (value : UInt8) : Except ProtocolError PacketKind :=
  if value = 1 then .ok .handshake
  else if value = 2 then .ok .data
  else if value = 3 then .ok .rekey
  else if value = 4 then .ok .close
  else if value = 5 then .ok .dataTap
  else if value = 6 then .ok .keepalive
  else .error (.unknownPacketKind value)

/-- `Header`: kind, key phase, sequence number and session id. -/
@[ext] structure Header where
  kind : PacketKind
  keyPhase : UInt32
  sequence : UInt64
  sessionId : SessionId
  deriving DecidableEq

/-- `Header::encode`. -/
def Header.encode (h : Header) : List UInt8 :=
  protocolVersion.encoded :: h.kind.toByte ::
    (beBytes 4 h.keyPhase.toNat ++ (beBytes 8 h.sequence.toNat ++ h.sessionId.bytes.toList))

/-- `Packet`. -/
@[ext] structure Packet where
  header : Header
  payload : List UInt8
  deriving DecidableEq

/-- `Packet::encode`. -/
def Packet.encode (p : Packet) : List UInt8 :=
  p.header.encode ++ p.payload

/-- `Packet::decode`. -/
def Packet.decode (input : List UInt8) : Except ProtocolError Packet :=
  match input with
  | version :: kind :: rest =>
    if input.length < headerLen then .error .truncatedHeader
    else
      let version := ProtocolVersion.new version protocolVersion.minorDigits
      if version.encoded ≠ protocolVersion.encoded then
        .error (.unsupportedVersion version.major version.minor)
      else
        match PacketKind.tryFrom kind with
        | .error e => .error e
        | .ok kind =>
          .ok
            { header :=
                { kind := kind
                  keyPhase := UInt32.ofNat (ofBe (rest.take 4))
                  sequence := UInt64.ofNat (ofBe ((rest.drop 4).take 8))
                  sessionId := ⟨Bytes.ofList 16 ((rest.drop 12).take 16)⟩ }
              payload := rest.drop 28 }
  | _ => .error .truncatedHeader

lemma PacketKind.tryFrom_toByte (k : PacketKind) : tryFrom k.toByte = .ok k := by
  cases k with
  | _ => rfl

lemma PacketKind.toByte_inj {k k' : PacketKind} (h : k.toByte = k'.toByte) : k = k' :=
  RoundTrips.injective tryFrom_toByte h

@[simp] lemma Header.length_encode (h : Header) : h.encode.length = headerLen := by
  simp [Header.encode, headerLen]

lemma Header.encode_inj {h h' : Header} (eq : h.encode = h'.encode) : h = h' := by
  simp only [Header.encode, List.cons.injEq, true_and] at eq
  obtain ⟨kind, eq⟩ := eq
  obtain ⟨phase, eq⟩ := List.append_inj eq (by simp)
  obtain ⟨sequence, session⟩ := List.append_inj eq (by simp)
  apply Header.ext
  · exact PacketKind.toByte_inj kind
  · exact UInt32.toNat_inj.1 (beBytes_inj h.keyPhase.toNat_lt h'.keyPhase.toNat_lt phase)
  · exact UInt64.toNat_inj.1 (beBytes_inj h.sequence.toNat_lt h'.sequence.toNat_lt sequence)
  · exact SessionId.ext (Bytes.toList_inj.1 session)

/-- Decoding an encoded packet gives the packet back. -/
theorem Packet.decode_encode (p : Packet) : Packet.decode p.encode = .ok p := by
  have long : ¬ p.encode.length < headerLen := by simp [Packet.encode]
  obtain ⟨⟨kind, phase, sequence, ⟨session⟩⟩, payload⟩ := p
  have phase' : ofBe (beBytes 4 phase.toNat) = phase.toNat := ofBe_beBytes phase.toNat_lt
  have sequence' : ofBe (beBytes 8 sequence.toNat) = sequence.toNat :=
    ofBe_beBytes sequence.toNat_lt
  simp only [Packet.encode, Header.encode, List.cons_append, List.append_assoc] at long ⊢
  simp only [Packet.decode, if_neg long, ProtocolVersion.new, ne_eq, not_true_eq_false, if_false,
    PacketKind.tryFrom_toByte]
  have drop4 : ∀ l, (beBytes 4 phase.toNat ++ l).drop 4 = l := fun l => by simp
  have drop12 : ∀ l, (beBytes 4 phase.toNat ++ (beBytes 8 sequence.toNat ++ l)).drop 12 = l := by
    intro l
    rw [← List.append_assoc, List.drop_left' (by simp)]
  have drop28 : ∀ l, (beBytes 4 phase.toNat ++
      (beBytes 8 sequence.toNat ++ (session.toList ++ l))).drop 28 = l := by
    intro l
    rw [← List.append_assoc, ← List.append_assoc, List.drop_left' (by simp)]
  rw [List.take_left' (by simp), drop4, List.take_left' (by simp), drop12,
    List.take_left' (by simp), drop28, phase', sequence']
  simp

/-- `wrap` of both applications. -/
def wrap (P : Primitives) (obfuscation : Option ObfuscationKey) (draw : Option WrapDraw)
    (encoded : List UInt8) : Except CryptoError (List UInt8) :=
  match obfuscation with
  | some key => key.wrap P draw encoded
  | none => .ok encoded

def decodeDatagram (P : Primitives) (obfuscation : Option ObfuscationKey) (payload : List UInt8) :
    Option Packet :=
  match obfuscation with
  | none => (Packet.decode payload).toOption
  | some key =>
    match key.unwrap P payload with
    | .error _ => none
    | .ok inner => (Packet.decode inner).toOption

variable {P : Primitives} {obfuscation : Option ObfuscationKey} {draw : Option WrapDraw}

lemma decodeDatagram_wrap {packet : Packet} {wire : List UInt8}
    (h : wrap P obfuscation draw packet.encode = .ok wire) :
    decodeDatagram P obfuscation wire = some packet := by
  cases obfuscation with
  | none =>
    cases h
    simp only [decodeDatagram, Packet.decode_encode]
    rfl
  | some key =>
    have inner : key.wrap P draw packet.encode = .ok wire := h
    simp only [decodeDatagram, ObfuscationKey.unwrap_wrap inner, Packet.decode_encode]
    rfl

lemma wrap_error {encoded : List UInt8} {e : CryptoError}
    (h : wrap P obfuscation draw encoded = .error e) : obfuscation.isSome = true ∧ draw = none := by
  cases obfuscation with
  | none => cases h
  | some key =>
    cases draw with
    | none => exact ⟨rfl, rfl⟩
    | some draw => cases h

end Rvpn.Protocol
