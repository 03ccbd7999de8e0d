import Rvpn.Lib.Transparent
import Rvpn.Protocol.Handshake
import Rvpn.Protocol.Session

/-!
# The wire format through all layers

A packet is sealed by a session, encoded behind its header and wrapped into an obfuscated datagram,
and the other end takes the layers off again. The decoders of received bytes are modelled a second time
here, as they read from their buffers: a read past the end of a buffer is a panic.
-/

namespace Rvpn.Crypto
open Cursor

variable {P : Primitives}

def ObfuscationKey.unwrapChecked (P : Primitives) (key : ObfuscationKey) (datagram : List UInt8) :
    Checked (Except CryptoError (List UInt8)) :=
  if datagram.length < 12 + 1 then .ok (.error .obfuscationTooShort)
  else do
    let (nonce, body) ← splitAt 12 datagram
    let body := applyKeystream P key.bytes (Bytes.ofList 12 nonce) body
    let paddingLen ← Checked.index body 0
    if body.length < 1 + paddingLen.toNat then .ok (.error .obfuscationTooShort)
    else do
      let innerEnd ← Checked.sub body.length paddingLen.toNat
      let inner ← Checked.slice body 1 innerEnd
      return .ok inner

/-- `unwrap` reads within its buffers. -/
theorem ObfuscationKey.unwrapChecked_eq (key : ObfuscationKey) (datagram : List UInt8) :
    key.unwrapChecked P datagram = .ok (key.unwrap P datagram) := by
  unfold unwrapChecked unwrap
  split
  · rfl
  · next long =>
    rw [splitAt_of_le (by omega), Checked.bind_ok]
    simp only
    cases body : applyKeystream P key.bytes (Bytes.ofList 12 (datagram.take 12)) (datagram.drop 12) with
    | nil =>
      have empty := congrArg List.length body
      rw [length_applyKeystream, List.length_drop, List.length_nil] at empty
      omega
    | cons paddingLen rest =>
      rw [Checked.index_of_lt (by simp), Checked.bind_ok]
      simp only [List.getElem_cons_zero, List.length_cons]
      by_cases short : rest.length < paddingLen.toNat
      · rw [if_pos (by omega), if_pos short]
      · rw [if_neg (by omega), if_neg short, Checked.sub_of_le (by omega), Checked.bind_ok,
          Checked.slice_of_le (by omega) (by simp), Checked.bind_ok, Checked.pure_eq, List.drop_one,
          List.tail_cons, show rest.length + 1 - paddingLen.toNat - 1 = rest.length - paddingLen.toNat by
            omega]

end Rvpn.Crypto

namespace Rvpn.Protocol
open Crypto Cursor

variable {P : Primitives}

/-- `Packet::decode`, with the reads it makes. -/
def Packet.decodeChecked (input : List UInt8) : Checked (Except ProtocolError Packet) :=
  if input.length < headerLen then .ok (.error .truncatedHeader)
  else do
    let (version, input) ← getU8 input
    Checked.require (0 < protocolVersion.minorDigits ∧ protocolVersion.minorDigits ≤ 2)
    let version := ProtocolVersion.new version protocolVersion.minorDigits
    if version.encoded ≠ protocolVersion.encoded then
      .ok (.error (.unsupportedVersion version.major version.minor))
    else do
      let (kind, input) ← getU8 input
      match PacketKind.tryFrom kind with
      | .error e => .ok (.error e)
      | .ok kind => do
        let (keyPhase, input) ← getU32 input
        let (sequence, input) ← getU64 input
        let (sessionId, payload) ← copyToSlice 16 input
        return .ok
          { header :=
              { kind := kind
                keyPhase := keyPhase
                sequence := sequence
                sessionId := ⟨sessionId⟩ }
            payload := payload }

/-- `Packet::decode` reads within its buffer. -/
theorem Packet.decodeChecked_eq (input : List UInt8) :
    Packet.decodeChecked input = .ok (Packet.decode input) := by
  by_cases short : input.length < headerLen
  · have truncated : Packet.decode input = .error .truncatedHeader := by
      unfold Packet.decode
      split
      · rw [if_pos short]
      · rfl
    rw [Packet.decodeChecked, if_pos short, truncated]
  · cases input with
    | nil => exact absurd (by decide) short
    | cons version input =>
      cases input with
      | nil => exact absurd (show 1 < headerLen by decide) short
      | cons kind rest =>
        have size : 28 ≤ rest.length := by
          simp only [headerLen, List.length_cons] at short
          omega
        have digits : 0 < protocolVersion.minorDigits ∧ protocolVersion.minorDigits ≤ 2 := by decide
        have phase := getU32_of_le (show 4 ≤ rest.length by omega)
        have sequence := getU64_drop (show 4 + 8 ≤ rest.length by omega)
        have session := copyToSlice_drop (show 12 + 16 ≤ rest.length by omega)
        simp only [Packet.decodeChecked, Packet.decode, if_neg short, getU8_cons, Checked.bind_ok,
          Checked.require_of digits, phase, sequence, session, Nat.reduceAdd, Checked.pure_eq]
        split
        · rfl
        · cases PacketKind.tryFrom kind with
          | error e => rfl
          | ok kind => rfl

def HandshakeMessage.decodeChecked (input : List UInt8) :
    Checked (Except ProtocolError HandshakeMessage) :=
  match input.head? with
  | none => .ok (.error .invalidHandshake)
  | some kind =>
    if kind = 1 then
      if input.length ≠ initiationLen then .ok (.error .invalidHandshake)
      else do
        let input ← advance 1 input
        let (publicKey, input) ← copyToSlice 32 input
        let (random, input) ← copyToSlice 32 input
        let (hasCookie, input) ← getU8 input
        let (cookie, input) ← copyToSlice 32 input
        let (mac1, _) ← copyToSlice 16 input
        return .ok (.initiation publicKey random (if hasCookie = 1 then some cookie else none) mac1)
    else if kind = 2 then
      if input.length ≠ responseLen then .ok (.error .invalidHandshake)
      else do
        let input ← advance 1 input
        let (publicKey, input) ← copyToSlice 32 input
        let (random, input) ← copyToSlice 32 input
        let (sessionId, input) ← copyToSlice 16 input
        let (sealedProof, _) ← copyToSlice sealedProofLen input
        return .ok (.response publicKey random ⟨sessionId⟩ sealedProof)
    else if kind = 3 then
      if input.length ≠ finishLen then .ok (.error .invalidHandshake)
      else do
        let input ← advance 1 input
        let (sealedProof, _) ← copyToSlice sealedProofLen input
        return .ok (.finish sealedProof)
    else if kind = 4 then
      if input.length ≠ cookieReplyLen then .ok (.error .invalidHandshake)
      else do
        let input ← advance 1 input
        let (cookie, _) ← copyToSlice 32 input
        return .ok (.cookieReply cookie)
    else .ok (.error .invalidHandshake)

/-- `HandshakeMessage::decode` reads within its buffer. -/
theorem HandshakeMessage.decodeChecked_eq (input : List UInt8) :
    HandshakeMessage.decodeChecked input = .ok (HandshakeMessage.decode input) := by
  cases input with
  | nil => rfl
  | cons kind rest =>
    have step : advance 1 (kind :: rest) = .ok rest := by simp
    simp only [HandshakeMessage.decodeChecked, HandshakeMessage.decode, List.head?_cons, step,
      Checked.bind_ok]
    split
    · split
      · rfl
      · next len =>
        have len : rest.length = 113 := Nat.succ.inj (not_not.1 len)
        have publicKey := copyToSlice_of_le (show 32 ≤ rest.length by omega)
        have random := copyToSlice_drop (show 32 + 32 ≤ rest.length by omega)
        have hasCookie := getU8_drop (show 64 < rest.length by omega)
        have cookie := copyToSlice_drop (show 65 + 32 ≤ rest.length by omega)
        have mac1 := copyToSlice_drop (show 97 + 16 ≤ rest.length by omega)
        have whole : (rest.drop 97).take 16 = rest.drop 97 := List.take_of_length_le (by simp [len])
        have flag : (rest.drop 64).head? = some rest[64] := by
          rw [List.head?_drop, List.getElem?_eq_getElem]
        simp only [publicKey, random, hasCookie, cookie, mac1, whole, flag, Nat.reduceAdd,
          Checked.bind_ok, Checked.pure_eq, Option.some.injEq]
    · split
      · split
        · rfl
        · next len =>
          have len : rest.length = 273 := Nat.succ.inj (not_not.1 len)
          have publicKey := copyToSlice_of_le (show 32 ≤ rest.length by omega)
          have random := copyToSlice_drop (show 32 + 32 ≤ rest.length by omega)
          have sessionId := copyToSlice_drop (show 64 + 16 ≤ rest.length by omega)
          have sealedProof := copyToSlice_drop (show 80 + sealedProofLen ≤ rest.length by
            rw [len]; decide)
          have whole : (rest.drop 80).take sealedProofLen = rest.drop 80 :=
            List.take_of_length_le (by rw [List.length_drop, len]; decide)
          simp only [publicKey, random, sessionId, sealedProof, whole, Nat.reduceAdd,
            Checked.bind_ok, Checked.pure_eq]
      · split
        · split
          · rfl
          · next len =>
            have len : rest.length = sealedProofLen :=
              Nat.succ.inj ((not_not.1 len).trans (Nat.add_comm _ _))
            rw [copyToSlice_of_le (by rw [len]), List.take_of_length_le (by rw [len])]
            rfl
        · split
          · split
            · rfl
            · next len =>
              have len : rest.length = 32 := Nat.succ.inj (not_not.1 len)
              rw [copyToSlice_of_le (by rw [len]), List.take_of_length_le (by rw [len])]
              rfl
          · rfl

/-! ### The two ends of a session -/

def OpensSealed (P : Primitives) : Prop :=
  ∀ k n a m c, P.aeadSeal k n a m = some c → P.aeadOpen k n a c = some m

/-- The two ends in one phase; the receiver accepted only used numbers. -/
structure SessionPair (P : Primitives) where
  sender : ProtectedSession P
  receiver : ProtectedSession P
  accepted : Finset Nat
  sessionId : receiver.sessionId = sender.sessionId
  keyPhase : receiver.keyPhase = sender.keyPhase
  keys : receiver.keys.receive = sender.keys.send
  window : Represents receiver.receiveReplay accepted
  used : ∀ n ∈ accepted, n < sender.nextSendSequence.toNat

namespace SessionPair

def fresh (sessionId : SessionId) (keyPhase : UInt32) (keys keys' : SessionKeys P)
    (mirrored : keys'.receive = keys.send) (now now' : Nat) : SessionPair P where
  sender := ProtectedSession.new P sessionId keyPhase keys now
  receiver := ProtectedSession.new P sessionId keyPhase keys' now'
  accepted := ∅
  sessionId := rfl
  keyPhase := rfl
  keys := mirrored
  window := Represents.init
  used := by simp

lemma used_sealPacket (pair : SessionPair P) (kind : PacketKind) (plaintext : List UInt8) (n : Nat)
    (mem : n ∈ pair.accepted) :
    n < (pair.sender.sealPacket kind plaintext).2.nextSendSequence.toNat := by
  have lt := pair.used n mem
  cases sealing : pair.sender.sealPacket kind plaintext with
  | mk result sender =>
    cases result with
    | error e =>
      rw [ProtectedSession.sealPacket_refused sealing]
      exact lt
    | ok packet =>
      obtain ⟨_, room, _, _, rfl⟩ := ProtectedSession.sealPacket_ok sealing
      have bound := pair.sender.nextSendSequence.toNat_lt
      have next : (pair.sender.nextSendSequence + 1).toNat =
          pair.sender.nextSendSequence.toNat + 1 := by
        rw [UInt64.toNat_add]
        exact Nat.mod_eq_of_lt (by simp; omega)
      show n < (pair.sender.nextSendSequence + 1).toNat
      omega

def sealing (pair : SessionPair P) (kind : PacketKind) (plaintext : List UInt8) : SessionPair P :=
  have same : pair.sender.Continues (pair.sender.sealPacket kind plaintext).2 :=
    ProtectedSession.continues_sealPacket rfl
  { pair with
    sender := (pair.sender.sealPacket kind plaintext).2
    sessionId := by rw [same.sessionId, pair.sessionId]
    keyPhase := by rw [same.keyPhase, pair.keyPhase]
    keys := by rw [same.keys, pair.keys]
    used := pair.used_sealPacket kind plaintext }

def acceptedAfter (pair : SessionPair P) (packet : Packet) (now : Nat) : Finset Nat :=
  match (pair.receiver.openPacket packet now).1 with
  | .ok _ =>
    if packet.header.keyPhase = pair.receiver.keyPhase then
      insert packet.header.sequence.toNat pair.accepted
    else pair.accepted
  | .error _ => pair.accepted

lemma window_openPacket (pair : SessionPair P) (packet : Packet) (now : Nat) :
    Represents (pair.receiver.openPacket packet now).2.receiveReplay (pair.acceptedAfter packet now) := by
  unfold acceptedAfter
  cases opening : pair.receiver.openPacket packet now with
  | mk result receiver =>
    cases result with
    | error e =>
      rw [ProtectedSession.openPacket_refused opening]
      exact pair.window
    | ok plaintext =>
      obtain ⟨_, _, ⟨phase, w, current, rfl⟩ | ⟨phase, _, _, _, _, _, _, rfl⟩⟩ :=
        ProtectedSession.openPacket_ok opening
      · simp only [if_pos phase]
        exact (ReplayWindow.represents_accept pair.window
          (ProtectedSession.openPhase_ok current).2).2
      · simp only [if_neg phase]
        exact pair.window

/-- The receiver is handed a packet with a number that the sender has used. -/
def opening (pair : SessionPair P) (packet : Packet) (now : Nat)
    (sent : packet.header.sequence.toNat < pair.sender.nextSendSequence.toNat) : SessionPair P :=
  have same : pair.receiver.Continues (pair.receiver.openPacket packet now).2 :=
    ProtectedSession.continues_openPacket rfl
  { pair with
    receiver := (pair.receiver.openPacket packet now).2
    accepted := pair.acceptedAfter packet now
    sessionId := by rw [same.sessionId, pair.sessionId]
    keyPhase := by rw [same.keyPhase, pair.keyPhase]
    keys := by rw [same.keys, pair.keys]
    window := pair.window_openPacket packet now
    used := by
      intro n mem
      unfold acceptedAfter at mem
      split at mem
      · split at mem
        · obtain rfl | mem := Finset.mem_insert.1 mem
          · exact sent
          · exact pair.used n mem
        · exact pair.used n mem
      · exact pair.used n mem }

lemma openPacket_of_sealed (opens : OpensSealed P) (pair : SessionPair P) {kind : PacketKind}
    {plaintext : List UInt8} {packet : Packet} {sender : ProtectedSession P}
    (sealed : pair.sender.sealPacket kind plaintext = (.ok packet, sender)) (now : Nat) :
    ∃ receiver, pair.receiver.openPacket packet now = (.ok plaintext, receiver) := by
  obtain ⟨protects, _, header, ciphertext, _⟩ := ProtectedSession.sealPacket_ok sealed
  have number : packet.header.sequence = pair.sender.nextSendSequence := by rw [header]
  have decrypts : P.aeadOpen pair.receiver.keys.receive
      (packetNonce packet.header.keyPhase packet.header.sequence) packet.header.encode packet.payload =
        some plaintext := by
    have nonce : packetNonce packet.header.keyPhase packet.header.sequence =
        packetNonce pair.sender.keyPhase pair.sender.nextSendSequence := by rw [header]
    rw [pair.keys, nonce]
    exact opens _ _ _ _ _ ciphertext
  -- everything that the window stands for is below the number of the packet
  obtain ⟨w, current⟩ := ProtectedSession.openPhase_of_represents pair.window decrypts
    (by
      intro mem
      have lt := pair.used _ mem
      rw [number] at lt
      exact Nat.lt_irrefl _ lt)
    (by
      intro n mem
      have lt := pair.used n mem
      rw [number]
      omega)
  refine ⟨_, ProtectedSession.openPacket_of_current ?_ ?_ ?_ current now⟩
  · rw [header]
    exact protects
  · rw [header, pair.sessionId]
  · rw [header, pair.keyPhase]

end SessionPair

/-! ### All layers together -/

/-- The properties of the wire format. -/
structure WireFormat (P : Primitives) : Prop where
  /-- Codecs give back what was encoded, one value per encoding. -/
  packets : RoundTrips Packet.encode Packet.decode ∧ Function.Injective Packet.encode
  headers : Function.Injective Header.encode
  messages : RoundTrips HandshakeMessage.encode HandshakeMessage.decode ∧
    Function.Injective HandshakeMessage.encode
  proofs : RoundTrips (fun p => Bytes.ofList proofBodyLen p.encodeBody) AuthProof.decodeBody ∧
    Function.Injective AuthProof.encodeBody
  certificates : Function.LeftInverse Certificate.decode Certificate.encode ∧
    Function.Injective Certificate.encode
  /-- Obfuscation adds 13 to 109 bytes, and is undone. -/
  obfuscation : ∀ (key : ObfuscationKey) (draw : WrapDraw) (inner : List UInt8),
    ∃ wire, key.wrap P (some draw) inner = .ok wire ∧ key.unwrap P wire = .ok inner ∧
      inner.length + 13 ≤ wire.length ∧ wire.length ≤ inner.length + 109
  /-- Unless the numbers or the AEAD run out, the other end gets the plaintext. -/
  layers : ∀ (pair : SessionPair P) (kind : PacketKind) (plaintext : List UInt8), kind ≠ .handshake →
    (pair.sender.nextSendSequence.toNat = 2 ^ 64 - 1 ∨ P.aeadSeal pair.sender.keys.send
        (packetNonce pair.sender.keyPhase pair.sender.nextSendSequence)
        (Header.encode
          { kind := kind
            keyPhase := pair.sender.keyPhase
            sequence := pair.sender.nextSendSequence
            sessionId := pair.sender.sessionId }) plaintext = none) ∨
    ∃ packet sender, pair.sender.sealPacket kind plaintext = (.ok packet, sender) ∧
      ∀ (key : ObfuscationKey) (draw : WrapDraw) (now : Nat), ∃ wire inner received receiver,
        key.wrap P (some draw) packet.encode = .ok wire ∧ key.unwrap P wire = .ok inner ∧
        Packet.decode inner = .ok received ∧
        pair.receiver.openPacket received now = (.ok plaintext, receiver)
  /-- The decoders return on every byte string, without a read out of bounds. -/
  reads : (∀ input, Packet.decodeChecked input = .ok (Packet.decode input)) ∧
    (∀ input, HandshakeMessage.decodeChecked input = .ok (HandshakeMessage.decode input)) ∧
    ∀ (key : ObfuscationKey) datagram, key.unwrapChecked P datagram = .ok (key.unwrap P datagram)

lemma sealPacket_cases (s : ProtectedSession P) {kind : PacketKind} (plaintext : List UInt8)
    (protects : kind ≠ .handshake) : (s.nextSendSequence.toNat = 2 ^ 64 - 1 ∨
      P.aeadSeal s.keys.send (packetNonce s.keyPhase s.nextSendSequence) (Header.encode
          { kind := kind
            keyPhase := s.keyPhase
            sequence := s.nextSendSequence
            sessionId := s.sessionId }) plaintext = none) ∨
      ∃ packet s', s.sealPacket kind plaintext = (.ok packet, s') := by
  unfold ProtectedSession.sealPacket
  rw [if_neg protects]
  split
  · next exhausted => exact .inl (.inl exhausted)
  · simp only
    split
    · next e refused =>
      refine .inl (.inr (Option.eq_none_iff_forall_ne_some.2 fun c sealed => ?_))
      have ok := cryptSeal_ok.2 sealed
      rw [SessionKeys.sealWith, ok] at refused
      cases refused
    · exact .inr ⟨_, _, rfl⟩

/-- The wire format round-trips, and its decoders are safe on every input. -/
theorem wireFormat (opens : OpensSealed P) : WireFormat P where
  packets := by
    have roundTrips : RoundTrips Packet.encode Packet.decode := Packet.decode_encode
    exact ⟨roundTrips, roundTrips.injective⟩
  headers := fun _ _ => Header.encode_inj
  messages := by
    have roundTrips : RoundTrips HandshakeMessage.encode HandshakeMessage.decode :=
      HandshakeMessage.decode_encode
    exact ⟨roundTrips, roundTrips.injective⟩
  proofs := by
    have roundTrips : RoundTrips (fun p => Bytes.ofList proofBodyLen p.encodeBody)
        AuthProof.decodeBody := AuthProof.decodeBody_encodeBody
    refine ⟨roundTrips, ?_⟩
    intro p p' eq
    exact roundTrips.injective (congrArg (Bytes.ofList proofBodyLen) eq)
  certificates := by
    have left : Function.LeftInverse Certificate.decode Certificate.encode := Certificate.decode_encode
    exact ⟨left, left.injective⟩
  obfuscation := by
    intro key draw inner
    obtain ⟨wire, wrapped⟩ := key.exists_wrap (P := P) draw inner
    exact ⟨wire, wrapped, ObfuscationKey.unwrap_wrap wrapped,
      ObfuscationKey.length_wrap_bounds wrapped⟩
  layers := by
    intro pair kind plaintext protects
    refine (sealPacket_cases pair.sender plaintext protects).imp_right ?_
    intro sealing
    obtain ⟨packet, sender, sealed⟩ := sealing
    refine ⟨packet, sender, sealed, ?_⟩
    intro key draw now
    obtain ⟨wire, wrapped⟩ := key.exists_wrap (P := P) draw packet.encode
    obtain ⟨receiver, opened⟩ := pair.openPacket_of_sealed opens sealed now
    exact ⟨wire, packet.encode, packet, receiver, wrapped, ObfuscationKey.unwrap_wrap wrapped,
      Packet.decode_encode packet, opened⟩
  reads := ⟨Packet.decodeChecked_eq, HandshakeMessage.decodeChecked_eq,
    ObfuscationKey.unwrapChecked_eq⟩

section
open Primitives

def plainPair : SessionPair transparent :=
  .fresh ⟨Bytes.zero 16⟩ 0
    { send := ([], s(Bytes.zero 32, Bytes.zero 32), [])
      receive := ([], s(Bytes.zero 32, Bytes.zero 32), []) }
    { send := ([], s(Bytes.zero 32, Bytes.zero 32), [])
      receive := ([], s(Bytes.zero 32, Bytes.zero 32), []) } rfl 0 0

def usedPair : SessionPair transparent :=
  (plainPair.sealing .data [1, 2, 3]).opening
    { header := { kind := .data, keyPhase := 0, sequence := 0, sessionId := ⟨Bytes.zero 16⟩ }
      payload := [1, 2, 3] } 0 (by decide)

/-- The second packet gets through. -/
theorem wireFormat_second_packet :
    ∃ packet sender, usedPair.sender.sealPacket .keepalive [] = (.ok packet, sender) ∧
      ∀ (key : ObfuscationKey) (draw : WrapDraw) (now : Nat), ∃ wire inner received receiver,
        key.wrap transparent (some draw) packet.encode = .ok wire ∧
        key.unwrap transparent wire = .ok inner ∧ Packet.decode inner = .ok received ∧
        usedPair.receiver.openPacket received now = (.ok [], receiver) := by
  have format := wireFormat (P := transparent)
    fun _ _ _ _ _ sealed => transparent_correct.open_seal sealed
  refine (format.layers usedPair .keepalive [] (by decide)).resolve_left ?_
  rintro (exhausted | refused)
  · exact absurd exhausted (by decide)
  · cases refused

end

end Rvpn.Protocol
