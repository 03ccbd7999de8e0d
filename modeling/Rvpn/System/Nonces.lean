import Rvpn.Client.Handshake
import Rvpn.Protocol.Delivery

/-!
# Nonces never repeat

Three systems and one result for each. `Ends` are the two ends of a session through any number of
rekeys: a nonce is made of the key phase and the sequence number. A single session seals at most
`2 ^ 64 - 1` packets (`Counted`). In an `Exchange` a call of `establish` and the responder's instance for
it seal one proof each under the all-zero nonce.
-/

namespace Rvpn.Protocol
open Crypto

variable (P : Primitives)

/-- `accept_for_session` up to `seal_response`: keys and proof. -/
def ResponderHandshake.responseProof (identity : AuthIdentity) (initiation : HandshakeMessage)
    (sessionId : SessionId) (ephemeral random : Option (Bytes 32)) :
    Except HandshakeError (HandshakeKeys P × AuthProof) :=
  match initiation with
  | .initiation publicKey _ _ _ => do
    let secret ← drawn ephemeral
    let keyPair : EphemeralKeyPair := { secret := secret }
    let sharedSecret ← (keyPair.agree P publicKey).mapError .crypto
    let ephPub := keyPair.publicKey P
    let random ← drawn random
    let responsePublic := HandshakeMessage.responsePublicBytes ephPub random sessionId
    let salt := handshakeSalt P initiation.encode responsePublic
    let handshakeKeys ← (HandshakeKeys.derive P sharedSecret salt).mapError .crypto
    let transcript ← (HandshakeTranscript.new initiation).mapError .protocol
    let data ← (transcript.serverAuthenticationInput ephPub random sessionId).mapError .protocol
    return (handshakeKeys, produceProof P identity data)
  | _ => .error .unexpectedMessage

/-- The proof that `accept_for_session` seals. -/
def ResponderHandshake.sealedResponse (identity : AuthIdentity) (initiation : HandshakeMessage)
    (sessionId : SessionId) (ephemeral random : Option (Bytes 32)) : Option (SealRecord P) :=
  match responseProof P identity initiation sessionId ephemeral random with
  | .error _ => none
  | .ok (keys, proof) =>
    match keys.sealResponse initiation.encode proof.encodeBody with
    | .error _ => none
    | .ok c => some ⟨keys.r2i, Bytes.zero 12, initiation.encode, proof.encodeBody, c⟩

/-- `finish_for_session` up to `seal_finish`: keys and proof. -/
def InitiatorHandshake.finishProof (h : InitiatorHandshake) (response : HandshakeMessage)
    (expectedSessionId : SessionId) (clock : Clock) :
    Except HandshakeError (HandshakeKeys P × AuthProof) :=
  match response with
  | .response publicKey random sessionId sealedProof =>
    if sessionId ≠ expectedSessionId then .error .unexpectedSession
    else do
    let (_, handshakeKeys, proof) ← openProof P h publicKey random sessionId sealedProof
    let transcript ← (HandshakeTranscript.new h.initiation).mapError .protocol
    let data ← (transcript.serverAuthenticationInput publicKey random sessionId).mapError .protocol
    let _ ← verifyProof P h.verifier data proof clock.unix
    let transcript ← (transcript.setResponse response).mapError .protocol
    let finishData ← transcript.clientAuthenticationInput.mapError .protocol
    return (handshakeKeys, produceProof P h.identity finishData)
  | _ => .error .unexpectedMessage

/-- The proof that `finish_for_session` seals. -/
def InitiatorHandshake.sealedFinish (h : InitiatorHandshake) (response : HandshakeMessage)
    (expectedSessionId : SessionId) (clock : Clock) : Option (SealRecord P) :=
  match h.finishProof P response expectedSessionId clock with
  | .error _ => none
  | .ok (keys, proof) =>
    match keys.sealFinish (h.initiation.encode ++ response.encode) proof.encodeBody with
    | .error _ => none
    | .ok c =>
      some ⟨keys.i2r, Bytes.zero 12, h.initiation.encode ++ response.encode, proof.encodeBody, c⟩

variable {P}

/-- An accepted initiation: the response carries the one proof sealed. -/
lemma ResponderHandshake.sealedResponse_of_accepted {identity : AuthIdentity} {verifier : AuthVerifier}
    {initiation : HandshakeMessage} {sid : SessionId} {keyPhase : UInt32}
    {ephemeral random : Option (Bytes 32)} {h : ResponderHandshake P} {response : HandshakeMessage}
    (ok : acceptForSession P identity verifier initiation sid keyPhase ephemeral random =
      .ok (h, response)) :
    ∃ record publicKey r, sealedResponse P identity initiation sid ephemeral random = some record ∧
      record.key = h.handshakeKeys.r2i ∧
      response = .response publicKey r sid (Bytes.ofList sealedProofLen record.ciphertext) := by
  obtain ⟨pk, rnd, cookie, mac1, secret, r, s, keys, sealed, rfl, rfl, rfl, agree, derive, sealing,
    rfl, rfl⟩ := acceptForSession_ok ok
  have proof : responseProof P identity (.initiation pk rnd cookie mac1) sid (some secret) (some r) =
      .ok (keys, produceProof P identity
        (serverInput (.initiation pk rnd cookie mac1) (P.dhPublic secret) r sid)) := by
    simp only [responseProof, except_bind_ok, except_mapError_ok, drawn_ok, agree_ok,
      transcript_new_ok]
    exact ⟨secret, rfl, s, agree, r, rfl, keys, derive, _, ⟨rfl, rfl⟩, _, rfl, rfl⟩
  rw [sealedResponse, proof]
  simp only [HandshakeKeys.sealResponse, cryptSeal_ok.2 sealing]
  exact ⟨_, _, _, rfl, rfl, rfl⟩

/-- A completed initiator: the finish carries the one proof that was sealed. -/
lemma InitiatorHandshake.sealedFinish_of_finished {h : InitiatorHandshake}
    {response finish : HandshakeMessage} {sid : SessionId} {keyPhase : UInt32} {clock : Clock}
    {session : ProtectedSession P} {remote : Option (Bytes 32)}
    (ok : finishForSession P h response sid keyPhase clock = .ok (finish, session, remote)) :
    ∃ record, h.sealedFinish P response sid clock = some record ∧
      finish = .finish (Bytes.ofList sealedProofLen record.ciphertext) := by
  obtain ⟨pk, r, sealedProof, s, keys, proof, c, _, rfl, isInit, opened, verified, sealing, rfl, _⟩ :=
    finishForSession_ok ok
  have proof : h.finishProof P (.response pk r sid sealedProof) sid clock =
      .ok (keys, produceProof P h.identity
        (clientInput h.initiation (.response pk r sid sealedProof))) := by
    simp only [finishProof, ne_eq, not_true, if_false, except_bind_ok, except_mapError_ok,
      transcript_new_ok, setResponse_ok]
    exact ⟨(s, keys, proof), opened, _, ⟨isInit, rfl⟩, _, rfl, remote, verified, _, ⟨rfl, rfl⟩, _,
      rfl, rfl⟩
  rw [sealedFinish, proof]
  simp only [HandshakeKeys.sealFinish, cryptSeal_ok.2 sealing]
  exact ⟨_, rfl, rfl⟩

end Rvpn.Protocol

namespace Rvpn.Client.Establish
open Crypto Protocol

variable {P : Primitives} (e : Establish P)

def sealedFinish (handshake : InitiatorHandshake) (response : HandshakeMessage) (clock : Clock) :
    Option (SealRecord P) :=
  match e.old with
  | some _ => handshake.sealedFinish P response e.sessionId clock
  | none =>
    match response with
    | .response _ _ sessionId _ => handshake.sealedFinish P response sessionId clock
    | _ => none

def responseSeal (clock : Clock) (handshake : InitiatorHandshake) (packet : Packet) :
    Option (SealRecord P) :=
  match e.hear clock handshake packet with
  | .response response _ => e.sealedFinish handshake response clock
  | _ => none

def proofSeal (stage : Stage P) (event : Event × Env) : Option (SealRecord P) :=
  match stage, event.1 with
  | .response _ handshake, .datagram peer payload =>
    if peer ≠ e.server then none
    else
      match decodeDatagram P e.obfuscation payload with
      | none => none
      | some packet => e.responseSeal event.2.clock handshake packet
  | _, _ => none

def Waiting (stage : Stage P) : Prop :=
  ∃ attempt handshake, stage = .response attempt handshake

variable {e}

lemma not_waiting_commit (env : Env) (handshake : InitiatorHandshake) (response : HandshakeMessage)
    (sessionId : SessionId) : ¬ Waiting (e.commit env handshake response sessionId).1 := by
  rintro ⟨attempt, handshake', waits⟩
  unfold commit at waits
  split at waits
  · cases waits
  · simp only at waits
    split at waits
    · cases waits
    · next finish session _ _ _ =>
      obtain eq | eq := e.send_cases env
        { header := { kind := e.kind, keyPhase := e.oldPhase, sequence := 1, sessionId := sessionId }
          payload := finish.encode } (.acknowledgment 1 _ session)
      · rw [eq] at waits
        cases waits
      · rw [eq] at waits
        cases waits

/-- A step in which a proof is sealed ends the first loop. -/
lemma proofSeal_some {stage : Stage P} {event : Event × Env} {record : SealRecord P}
    (sealed : e.proofSeal stage event = some record) : ¬ Waiting (e.step stage event).1 ∧
      ∃ handshake response clock, e.sealedFinish handshake response clock = some record := by
  unfold proofSeal at sealed
  split at sealed
  · next attempt handshake peer payload datagram =>
    split at sealed
    · cases sealed
    · next server =>
      split at sealed
      · cases sealed
      · next packet decoded =>
        have stepped : e.step (.response attempt handshake) event =
            e.onResponse event.2 attempt handshake packet := by
          simp only [step, datagram, if_neg server, decoded]
        rw [stepped]
        unfold responseSeal at sealed
        unfold onResponse
        split at sealed
        · next heard =>
          rw [heard]
          exact ⟨not_waiting_commit _ _ _ _, _, _, _, sealed⟩
        · cases sealed
  · cases sealed

lemma not_waiting_step {stage : Stage P} (left : ¬ Waiting stage) (event : Event × Env) :
    ¬ Waiting (e.step stage event).1 ∧ e.proofSeal stage event = none := by
  cases stage with
  | response attempt handshake => exact absurd ⟨attempt, handshake, rfl⟩ left
  | acknowledgment attempt finish session =>
    refine ⟨?_, rfl⟩
    have stepped := step_acknowledgment (e := e) attempt finish session event
    generalize (e.step (.acknowledgment attempt finish session) event).1 = next at stepped
    rintro ⟨_, _, rfl⟩
    cases stepped
  | established session acknowledgment => exact ⟨left, rfl⟩
  | failed => exact ⟨left, rfl⟩

end Rvpn.Client.Establish

namespace Rvpn.System
open Crypto Protocol

variable {P : Primitives}

lemma packetNonce_inj {phase phase' : UInt32} {sequence sequence' : UInt64}
    (eq : packetNonce phase sequence = packetNonce phase' sequence') :
    phase = phase' ∧ sequence = sequence' := by
  have bytes := congrArg List.Vector.toList eq
  unfold packetNonce at bytes
  rw [Bytes.toList_ofList (by simp), Bytes.toList_ofList (by simp)] at bytes
  obtain ⟨high, low⟩ := List.append_inj bytes (by simp)
  refine ⟨UInt32.toNat_inj.1 (beBytes_inj phase.toNat_lt phase'.toNat_lt high), ?_⟩
  exact UInt64.toNat_inj.1 (beBytes_inj sequence.toNat_lt sequence'.toNat_lt low)

/-- The label of the key under which a role seals. -/
def sendLabel : SessionRole → List UInt8
  | .initiator => infoC2s
  | .responder => infoS2c

/-- Handshakes of a session, and the two labels, have distinct keys. -/
structure Independent (P : Primitives) (material : Nat → P.Shared × P.Digest) : Prop where
  handshakes : ∀ {h h' role role' k}, h ≠ h' →
    P.hkdf (material h).2 (material h).1 (sendLabel role) = some k →
    P.hkdf (material h').2 (material h').1 (sendLabel role') ≠ some k
  labels : ∀ {h k}, P.hkdf (material h).2 (material h).1 infoC2s = some k →
    P.hkdf (material h).2 (material h).1 infoS2c ≠ some k

/-- The two ends of a session, and what they sealed (newest first). -/
structure Ends (P : Primitives) where
  sessionOf : SessionRole → Option (ProtectedSession P)
  sealed : List (Sealed P)

namespace Ends

def start : Ends P where
  sessionOf := fun _ => none
  sealed := []

/-- A packet is sealed or opened, or a handshake replaces the session. -/
inductive Event where
  | sealing (role : SessionRole) (kind : PacketKind) (plaintext : List UInt8)
  | opening (role : SessionRole) (packet : Packet) (now : Nat)
  | rekey (role : SessionRole) (handshake : Nat) (keyPhase : UInt32) (gracePeriod now : Nat)

def withSession (ends : Ends P) (role : SessionRole) (session : ProtectedSession P) : Ends P :=
  { ends with sessionOf := Function.update ends.sessionOf role (some session) }

/-- One event. A rekey leads to a larger key phase. -/
def step (sessionId : SessionId) (material : Nat → P.Shared × P.Digest) (ends : Ends P) :
    Event → Ends P
  | .sealing role kind plaintext =>
    match ends.sessionOf role with
    | none => ends
    | some s =>
      match s.sealPacket kind plaintext with
      | (.error _, s) => ends.withSession role s
      | (.ok packet, s') =>
        { ends.withSession role s' with
          sealed := { kind := kind, plaintext := plaintext, key := s.keys.send, packet := packet }
            :: ends.sealed }
  | .opening role packet now =>
    match ends.sessionOf role with
    | none => ends
    | some s => ends.withSession role (s.openPacket packet now).2
  | .rekey role handshake keyPhase gracePeriod now =>
    match SessionKeys.derive P (material handshake).1 (material handshake).2 role with
    | .error _ => ends
    | .ok keys =>
      match ends.sessionOf role with
      | none => ends.withSession role (ProtectedSession.new P sessionId keyPhase keys now)
      | some old =>
        if old.keyPhase < keyPhase then
          ends.withSession role
            ((ProtectedSession.new P sessionId keyPhase keys now).inheritPrevious old gracePeriod now)
        else ends

def keyAndNonce (e : Sealed P) : P.Key × Bytes 12 :=
  (e.record.key, e.record.nonce)

/-- The key of a role in some handshake. -/
def KeyOf (material : Nat → P.Shared × P.Digest) (role : SessionRole) (k : P.Key) : Prop :=
  ∃ h, P.hkdf (material h).2 (material h).1 (sendLabel role) = some k

/-- A packet was sealed before the next one of the session. -/
def Before (header : Header) (s : ProtectedSession P) : Prop :=
  header.keyPhase < s.keyPhase ∨ header.keyPhase = s.keyPhase ∧ header.sequence < s.nextSendSequence

/-- Seals use keys of their role, and no key twice with a nonce. -/
structure Distinct (material : Nat → P.Shared × P.Digest) (ends : Ends P) : Prop where
  keys : ∀ {role s}, ends.sessionOf role = some s → KeyOf material role s.keys.send
  before : ∀ e ∈ ends.sealed, ∃ role s, KeyOf material role e.key ∧
    ends.sessionOf role = some s ∧ Before e.packet.header s
  nodup : (ends.sealed.map keyAndNonce).Nodup

variable {material : Nat → P.Shared × P.Digest} {ends : Ends P} {role : SessionRole}
  {s s' : ProtectedSession P}

lemma openPacket_sends (s : ProtectedSession P) (packet : Packet) (now : Nat) :
    (s.openPacket packet now).2.keys = s.keys ∧ (s.openPacket packet now).2.keyPhase = s.keyPhase ∧
      (s.openPacket packet now).2.nextSendSequence = s.nextSendSequence := by
  cases opened : s.openPacket packet now with
  | mk result s' =>
    cases result with
    | error e =>
      rw [ProtectedSession.openPacket_refused opened]
      exact ⟨rfl, rfl, rfl⟩
    | ok m =>
      obtain ⟨_, _, ⟨_, w, _, rfl⟩ | ⟨_, prev, w, _, _, _, _, rfl⟩⟩ :=
        ProtectedSession.openPacket_ok opened
      · exact ⟨rfl, rfl, rfl⟩
      · exact ⟨rfl, rfl, rfl⟩

lemma Distinct.withSession (h : ends.Distinct material) (own : KeyOf material role s'.keys.send)
    (later : ∀ s header, ends.sessionOf role = some s → Before header s → Before header s') :
    (ends.withSession role s').Distinct material := by
  refine ⟨?_, ?_, h.nodup⟩
  · intro role' s found
    have found : Function.update ends.sessionOf role (some s') role' = some s := found
    by_cases same : role' = role
    · subst same
      rw [Function.update_self] at found
      cases found
      exact own
    · rw [Function.update_of_ne same] at found
      exact h.keys found
  · intro e mem
    obtain ⟨role', s, label, found, before⟩ := h.before e mem
    by_cases same : role' = role
    · subst same
      exact ⟨role', s', label, Function.update_self .., later s _ found before⟩
    · refine ⟨role', s, label, ?_, before⟩
      exact (Function.update_of_ne same ..).trans found

lemma Distinct.replace (h : ends.Distinct material) (found : ends.sessionOf role = some s)
    (own : KeyOf material role s'.keys.send)
    (later : ∀ header, Before header s → Before header s') :
    (ends.withSession role s').Distinct material := by
  refine h.withSession own fun s'' header found' before => ?_
  rw [found] at found'
  cases found'
  exact later header before

/-- Two ends never seal under one key. -/
lemma KeyOf.role_eq (independent : Independent P material) {role' : SessionRole} {k : P.Key}
    (h : KeyOf material role k) (h' : KeyOf material role' k) : role = role' := by
  obtain ⟨i, derived⟩ := h
  obtain ⟨i', derived'⟩ := h'
  by_cases same : i = i'
  · subst same
    cases role with
    | initiator =>
      cases role' with
      | initiator => rfl
      | responder => exact absurd derived' (independent.labels derived)
    | responder =>
      cases role' with
      | initiator => exact absurd derived (independent.labels derived')
      | responder => rfl
  · exact absurd derived' (independent.handshakes same derived)

/-- A seal uses a new nonce, under a key the other end does not use. -/
lemma Distinct.sealed (independent : Independent P material) (h : ends.Distinct material)
    (found : ends.sessionOf role = some s) {kind : PacketKind} {plaintext : List UInt8}
    {packet : Packet} (sealing : s.sealPacket kind plaintext = (.ok packet, s')) :
    Distinct material { ends.withSession role s' with
      sealed := { kind := kind, plaintext := plaintext, key := s.keys.send, packet := packet }
        :: ends.sealed } := by
  obtain ⟨_, room, header, _, rfl⟩ := ProtectedSession.sealPacket_ok sealing
  have next : s.nextSendSequence < s.nextSendSequence + 1 := by
    rw [UInt64.lt_iff_toNat_lt, UInt64.toNat_add]
    have bound := s.nextSendSequence.toNat_lt
    have one : (1 : UInt64).toNat = 1 := rfl
    omega
  have own : KeyOf material role s.keys.send := h.keys found
  have moved : (ends.withSession role
      { s with nextSendSequence := s.nextSendSequence + 1 }).Distinct material := by
    refine h.replace found own fun header before => ?_
    obtain older | ⟨same, lt⟩ := before
    · exact .inl older
    · exact .inr ⟨same, UInt64.lt_trans lt next⟩
  refine ⟨moved.keys, ?_, ?_⟩
  · intro e mem
    cases mem with
    | head =>
      refine ⟨role, _, own, Function.update_self .., .inr ?_⟩
      rw [header]
      exact ⟨rfl, next⟩
    | tail _ mem => exact moved.before e mem
  · refine List.nodup_cons.2 ⟨?_, h.nodup⟩
    intro used
    obtain ⟨e, mem, eq⟩ := List.mem_map.1 used
    obtain ⟨role', s'', label, found', before⟩ := h.before e mem
    have key : e.key = s.keys.send := congrArg Prod.fst eq
    have nonce : packetNonce e.packet.header.keyPhase e.packet.header.sequence =
        packetNonce packet.header.keyPhase packet.header.sequence := congrArg Prod.snd eq
    rw [key] at label
    obtain rfl := label.role_eq independent own
    rw [found] at found'
    cases found'
    obtain ⟨phase, sequence⟩ := packetNonce_inj nonce
    rw [header] at phase sequence
    obtain older | ⟨_, lt⟩ := before
    · exact absurd (phase ▸ older) (UInt32.lt_irrefl _)
    · exact absurd (sequence ▸ lt) (UInt64.lt_irrefl _)

lemma Distinct.opening (h : ends.Distinct material) (found : ends.sessionOf role = some s)
    (packet : Packet) (now : Nat) :
    (ends.withSession role (s.openPacket packet now).2).Distinct material := by
  obtain ⟨keys, phase, sequence⟩ := openPacket_sends s packet now
  refine h.replace found ?_ fun header before => ?_
  · rw [keys]
    exact h.keys found
  · unfold Before
    rw [phase, sequence]
    exact before

lemma Distinct.rekey (h : ends.Distinct material) (found : ends.sessionOf role = some s)
    (sessionId : SessionId) {keyPhase : UInt32} (larger : s.keyPhase < keyPhase)
    {keys : SessionKeys P} (own : KeyOf material role keys.send) (gracePeriod now : Nat) :
    (ends.withSession role ((ProtectedSession.new P sessionId keyPhase keys now).inheritPrevious s
      gracePeriod now)).Distinct material := by
  have later : ∀ header, Before header s → header.keyPhase < keyPhase := by
    intro header before
    obtain older | ⟨same, _⟩ := before
    · exact UInt32.lt_trans older larger
    · rw [same]
      exact larger
  obtain eq | ⟨_, _, eq⟩ := ProtectedSession.inheritPrevious_cases
    (ProtectedSession.new P sessionId keyPhase keys now) s gracePeriod now
  · rw [eq]
    exact h.replace found own fun header before => .inl (later header before)
  · rw [eq]
    exact h.replace found own fun header before => .inl (later header before)

lemma keyOf_derive {i : Nat} {keys : SessionKeys P}
    (derived : SessionKeys.derive P (material i).1 (material i).2 role = .ok keys) :
    KeyOf material role keys.send := by
  obtain ⟨c2s, s2c, hc, hs, rfl⟩ := SessionKeys.derive_ok.1 derived
  cases role with
  | initiator => exact ⟨i, hc⟩
  | responder => exact ⟨i, hs⟩

lemma Distinct.step (independent : Independent P material) (sessionId : SessionId)
    (h : ends.Distinct material) (event : Event) :
    (ends.step sessionId material event).Distinct material := by
  cases event with
  | sealing role kind plaintext =>
    unfold Ends.step
    simp only
    cases found : ends.sessionOf role with
    | none => exact h
    | some s =>
      simp only
      cases sealing : s.sealPacket kind plaintext with
      | mk result s' =>
        cases result with
        | ok packet => exact h.sealed independent found sealing
        | error e =>
          rw [ProtectedSession.sealPacket_refused sealing]
          exact h.replace found (h.keys found) fun _ before => before
  | opening role packet now =>
    unfold Ends.step
    simp only
    cases found : ends.sessionOf role with
    | none => exact h
    | some s => exact h.opening found packet now
  | rekey role handshake keyPhase gracePeriod now =>
    unfold Ends.step
    simp only
    cases derived : SessionKeys.derive P (material handshake).1 (material handshake).2 role with
    | error e => exact h
    | ok keys =>
      have own := keyOf_derive derived
      simp only
      cases found : ends.sessionOf role with
      | none =>
        refine h.withSession own fun s'' header found' _ => ?_
        rw [found] at found'
        cases found'
      | some old =>
        simp only
        split
        · next larger => exact h.rekey found sessionId larger own gracePeriod now
        · exact h

lemma distinct_start : (start : Ends P).Distinct material := by
  refine ⟨?_, fun _ mem => absurd mem List.not_mem_nil, List.nodup_nil⟩
  intro role s found
  cases found

end Ends

/-- A session with the number of packets that it has sealed. -/
structure Counted (P : Primitives) where
  session : ProtectedSession P
  count : Nat

namespace Counted

/-- A call of `seal` or `open`. -/
inductive Call where
  | sealing (kind : PacketKind) (plaintext : List UInt8)
  | opening (packet : Packet) (now : Nat)

def step (c : Counted P) : Call → Counted P
  | .sealing kind plaintext =>
    match c.session.sealPacket kind plaintext with
    | (.ok _, session) => { session := session, count := c.count + 1 }
    | (.error _, session) => { c with session := session }
  | .opening packet now => { c with session := (c.session.openPacket packet now).2 }

lemma count_step {c : Counted P} (h : c.session.nextSendSequence.toNat = c.count) (call : Call) :
    (c.step call).session.nextSendSequence.toNat = (c.step call).count := by
  cases call with
  | opening packet now =>
    have same := (Ends.openPacket_sends c.session packet now).2.2
    show (c.session.openPacket packet now).2.nextSendSequence.toNat = c.count
    rw [same, h]
  | sealing kind plaintext =>
    unfold step
    simp only
    cases sealing : c.session.sealPacket kind plaintext with
    | mk result session =>
      cases result with
      | error e =>
        rw [ProtectedSession.sealPacket_refused sealing]
        exact h
      | ok packet =>
        obtain ⟨_, room, _, _, rfl⟩ := ProtectedSession.sealPacket_ok sealing
        have bound := c.session.nextSendSequence.toNat_lt
        have one : (1 : UInt64).toNat = 1 := rfl
        show (c.session.nextSendSequence + 1).toNat = c.count + 1
        rw [UInt64.toNat_add]
        omega

lemma sealPacket_exhausted {s : ProtectedSession P} (full : s.nextSendSequence.toNat = 2 ^ 64 - 1)
    (kind : PacketKind) (plaintext : List UInt8) : s.sealPacket kind plaintext =
      (.error (if kind = .handshake then .handshakeNotProtected else .sequenceExhausted), s) := by
  unfold ProtectedSession.sealPacket
  rw [if_pos full]
  split
  · rfl
  · rfl

end Counted

inductive ProofKey where
  | r2i
  | i2r
  deriving DecidableEq

/-- The responder's instance of a handshake. -/
inductive Responder (P : Primitives) where
  | idle
  | accepted (handshake : ResponderHandshake P)
  | consumed

/-- A call of `establish`, its responder, and the proofs they sealed. -/
structure Exchange (P : Primitives) where
  stage : Client.Stage P
  responder : Responder P
  sealed : List (ProofKey × SealRecord P)

namespace Exchange

inductive Event where
  | client (event : Client.Event × Client.Env)
  | accept (identity : AuthIdentity) (verifier : AuthVerifier) (initiation : HandshakeMessage)
      (sessionId : SessionId) (keyPhase : UInt32) (ephemeral random : Option (Bytes 32))
  | finish

/-- One event; `accept_for_session` and `finish` happen at most once. -/
def step (e : Client.Establish P) (x : Exchange P) : Event → Exchange P
  | .client event =>
    { x with
      stage := (e.step x.stage event).1
      sealed := x.sealed ++ (e.proofSeal x.stage event).toList.map fun record => (.i2r, record) }
  | .accept identity verifier initiation sessionId keyPhase ephemeral random =>
    match x.responder with
    | .idle =>
      { x with
        responder :=
          match ResponderHandshake.acceptForSession P identity verifier initiation sessionId keyPhase
            ephemeral random with
          | .ok (handshake, _) => .accepted handshake
          | .error _ => .consumed
        sealed := x.sealed ++ (ResponderHandshake.sealedResponse P identity initiation sessionId
          ephemeral random).toList.map fun record => (.r2i, record) }
    | _ => x
  | .finish =>
    match x.responder with
    | .accepted _ => { x with responder := .consumed }
    | _ => x

def count (sealed : List (ProofKey × SealRecord P)) (key : ProofKey) : Nat :=
  sealed.countP fun entry => decide (entry.1 = key)

/-- `establish` has sent its initiation or has failed. -/
def start (e : Client.Establish P) (auth : AuthConfig) (ephemeral random : Option (Bytes 32))
    (env : Client.Env) : Exchange P where
  stage := (e.start auth ephemeral random env).1
  responder := .idle
  sealed := []

/-- The invariant: each end seals one proof, and none while it still can. -/
structure Once (x : Exchange P) : Prop where
  zeroNonce : ∀ entry ∈ x.sealed, entry.2.nonce = Bytes.zero 12
  client : count x.sealed .i2r ≤ 1
  waiting : Client.Establish.Waiting x.stage → count x.sealed .i2r = 0
  responder : count x.sealed .r2i ≤ 1
  idle : x.responder = .idle → count x.sealed .r2i = 0

variable {e : Client.Establish P} {x : Exchange P}

lemma sealedFinish_nonce {handshake : InitiatorHandshake} {response : HandshakeMessage} {clock : Clock}
    {record : SealRecord P} (sealed : e.sealedFinish handshake response clock = some record) :
    record.nonce = Bytes.zero 12 := by
  have zero : ∀ sid, handshake.sealedFinish P response sid clock = some record →
      record.nonce = Bytes.zero 12 := by
    intro sid sealed
    unfold InitiatorHandshake.sealedFinish at sealed
    split at sealed
    · cases sealed
    · split at sealed
      · cases sealed
      · cases sealed
        rfl
  unfold Client.Establish.sealedFinish at sealed
  split at sealed
  · exact zero _ sealed
  · split at sealed
    · exact zero _ sealed
    · cases sealed

lemma sealedResponse_nonce {identity : AuthIdentity} {initiation : HandshakeMessage} {sid : SessionId}
    {ephemeral random : Option (Bytes 32)} {record : SealRecord P}
    (sealed : ResponderHandshake.sealedResponse P identity initiation sid ephemeral random =
      some record) : record.nonce = Bytes.zero 12 := by
  unfold ResponderHandshake.sealedResponse at sealed
  split at sealed
  · cases sealed
  · split at sealed
    · cases sealed
    · cases sealed
      rfl

/-- A step adds at most one proof, under one key. -/
lemma count_append (sealed : List (ProofKey × SealRecord P)) (key key' : ProofKey)
    (added : Option (SealRecord P)) :
    count (sealed ++ added.toList.map fun record => (key, record)) key' =
      count sealed key' + if key = key' then added.toList.length else 0 := by
  rw [count, List.countP_append]
  congr 1
  cases added with
  | none => simp
  | some record => simp [List.countP_singleton]

lemma Once.client_step (h : x.Once) (event : Client.Event × Client.Env) :
    (x.step e (.client event)).Once := by
  have other : count (x.step e (.client event)).sealed .r2i = count x.sealed .r2i :=
    count_append x.sealed .i2r .r2i _
  have own : count (x.step e (.client event)).sealed .i2r =
      count x.sealed .i2r + (e.proofSeal x.stage event).toList.length :=
    count_append x.sealed .i2r .i2r _
  have zeroNonce : ∀ entry ∈ (x.step e (.client event)).sealed, entry.2.nonce = Bytes.zero 12 := by
    intro entry mem
    rcases List.mem_append.1 mem with mem | mem
    · exact h.zeroNonce entry mem
    · obtain ⟨record, listed, rfl⟩ := List.mem_map.1 mem
      obtain ⟨_, _, _, _, sealed⟩ := Client.Establish.proofSeal_some (Option.mem_toList.1 listed)
      exact sealedFinish_nonce sealed
  refine ⟨zeroNonce, ?_, ?_, other.le.trans h.responder, fun idle => other.trans (h.idle idle)⟩
  all_goals
    rw [own]
    by_cases waits : Client.Establish.Waiting x.stage
  · rw [h.waiting waits]
    cases sealed : e.proofSeal x.stage event with
    | none => exact Nat.zero_le _
    | some record => exact Nat.le_refl _
  · rw [(Client.Establish.not_waiting_step waits event).2]
    exact h.client
  · intro next
    rw [h.waiting waits]
    cases sealed : e.proofSeal x.stage event with
    | none => rfl
    | some record => exact absurd next (Client.Establish.proofSeal_some sealed).1
  · exact fun next => absurd next (Client.Establish.not_waiting_step waits event).1

lemma Once.step (h : x.Once) (event : Event) : (x.step e event).Once := by
  cases event with
  | client event => exact h.client_step event
  | finish =>
    unfold Exchange.step
    simp only
    split
    · exact ⟨h.zeroNonce, h.client, h.waiting, h.responder, fun idle => nomatch idle⟩
    · exact h
  | accept identity verifier initiation sessionId keyPhase ephemeral random =>
    unfold Exchange.step
    simp only
    split
    · next idle =>
      have other := count_append x.sealed .r2i .i2r
        (ResponderHandshake.sealedResponse P identity initiation sessionId ephemeral random)
      have own := count_append x.sealed .r2i .r2i
        (ResponderHandshake.sealedResponse P identity initiation sessionId ephemeral random)
      refine ⟨?_, other.le.trans h.client, fun waits => other.trans (h.waiting waits), ?_, ?_⟩
      · intro entry mem
        rcases List.mem_append.1 mem with mem | mem
        · exact h.zeroNonce entry mem
        · obtain ⟨record, listed, rfl⟩ := List.mem_map.1 mem
          exact sealedResponse_nonce (Option.mem_toList.1 listed)
      · show count (x.sealed ++ _) .r2i ≤ 1
        rw [own, h.idle idle]
        cases ResponderHandshake.sealedResponse P identity initiation sessionId ephemeral random with
        | none => exact Nat.zero_le _
        | some record => exact Nat.le_refl _
      · intro same
        have same : (match ResponderHandshake.acceptForSession P identity verifier initiation sessionId
            keyPhase ephemeral random with
          | .ok (handshake, _) => Responder.accepted handshake
          | .error _ => .consumed) = .idle := same
        split at same
        · cases same
        · cases same
    · exact h

lemma once_start (e : Client.Establish P) (auth : AuthConfig) (ephemeral random : Option (Bytes 32))
    (env : Client.Env) : (start e auth ephemeral random env).Once :=
  ⟨fun _ mem => absurd mem List.not_mem_nil, Nat.zero_le 1, fun _ => rfl, Nat.zero_le 1, fun _ => rfl⟩

end Exchange

/-- No nonce is used twice under one key by the two ends of a session, however often they rekey. A
session that has sealed `2 ^ 64 - 1` packets seals no more. Each of the two handshake keys seals at
most one proof, under the all-zero nonce. -/
theorem nonces_never_repeat (material : Nat → P.Shared × P.Digest)
    (independent : Independent P material) : (∀ (sessionId : SessionId) (events : List Ends.Event),
      ((run (Ends.step sessionId material) Ends.start events).sealed.map Ends.keyAndNonce).Nodup) ∧
    (∀ (s : ProtectedSession P) (calls : List Counted.Call), s.nextSendSequence = 0 →
      (run Counted.step { session := s, count := 0 } calls).count ≤ 2 ^ 64 - 1 ∧
      ((run Counted.step { session := s, count := 0 } calls).count = 2 ^ 64 - 1 → ∀ kind plaintext,
          (run Counted.step { session := s, count := 0 } calls).session.sealPacket kind plaintext =
            (.error (if kind = .handshake then .handshakeNotProtected else .sequenceExhausted),
              (run Counted.step { session := s, count := 0 } calls).session))) ∧
    ∀ (e : Client.Establish P) (auth : AuthConfig) (ephemeral random : Option (Bytes 32))
      (env : Client.Env) (events : List Exchange.Event) (key : ProofKey),
      Exchange.count (run (Exchange.step e) (Exchange.start e auth ephemeral random env) events).sealed
        key ≤ 1 ∧
      ∀ entry ∈ (run (Exchange.step e) (Exchange.start e auth ephemeral random env) events).sealed,
        entry.2.nonce = Bytes.zero 12 := by
  refine ⟨?_, ?_, ?_⟩
  · intro sessionId events
    have distinct : (run (Ends.step sessionId material) Ends.start events).Distinct material :=
      run_invariant' Ends.distinct_start fun ends event h => h.step independent sessionId event
    exact distinct.nodup
  · intro s calls fresh
    have counted : (run Counted.step { session := s, count := 0 } calls).session.nextSendSequence.toNat
        = (run Counted.step { session := s, count := 0 } calls).count := by
      refine run_invariant' (I := fun c : Counted P => c.session.nextSendSequence.toNat = c.count)
        ?_ fun c call h => Counted.count_step h call
      show s.nextSendSequence.toNat = 0
      rw [fresh]
      rfl
    refine ⟨?_, ?_⟩
    · rw [← counted]
      exact Nat.le_sub_one_of_lt (UInt64.toNat_lt _)
    · intro full kind plaintext
      exact Counted.sealPacket_exhausted (counted.trans full) kind plaintext
  · intro e auth ephemeral random env events key
    have once : (run (Exchange.step e) (Exchange.start e auth ephemeral random env) events).Once :=
      run_invariant' (Exchange.once_start e auth ephemeral random env) fun x event h => h.step event
    refine ⟨?_, once.zeroNonce⟩
    cases key with
    | r2i => exact once.responder
    | i2r => exact once.client

section
open Primitives

def sampleMaterial (h : Nat) : transparent.Shared × transparent.Digest :=
  (s(Bytes.zero 32, Bytes.zero 32), List.replicate h 0)

lemma independent_sample : Independent transparent sampleMaterial := by
  refine ⟨?_, ?_⟩
  · intro h h' role role' k ne derived derived'
    have same := (transparent_ideal.hkdf_inj derived derived').1
    have lengths := congrArg List.length same
    exact ne (by simpa [sampleMaterial] using lengths)
  · intro h k derived derived'
    have same := (transparent_ideal.hkdf_inj derived derived').2.2
    exact absurd same (by decide)

def sampleSeals : List Ends.Event :=
  [.rekey .initiator 0 0 0 0, .rekey .responder 0 0 0 0, .sealing .initiator .data [1],
    .sealing .responder .data [1], .sealing .initiator .handshake [1], .sealing .initiator .data [1],
    .rekey .initiator 1 1 30 1, .sealing .initiator .data [1], .rekey .responder 1 1 30 1,
    .sealing .responder .data [1]]

theorem nonces_never_repeat_two_phases :
    (run (Ends.step SessionId.zero sampleMaterial) Ends.start sampleSeals).sealed.length = 5 ∧
      ((run (Ends.step SessionId.zero sampleMaterial) Ends.start sampleSeals).sealed.map
        Ends.keyAndNonce).Nodup :=
  ⟨by decide +kernel,
    (nonces_never_repeat sampleMaterial independent_sample).1 SessionId.zero sampleSeals⟩

def sampleSession : ProtectedSession transparent :=
  ProtectedSession.new transparent SessionId.zero 0
    { send := ([], s(Bytes.zero 32, Bytes.zero 32), infoC2s)
      receive := ([], s(Bytes.zero 32, Bytes.zero 32), infoS2c) } 0

lemma count_sample {n : Nat} (room : n ≤ 2 ^ 64 - 1) :
    (run Counted.step { session := sampleSession, count := 0 }
        (List.replicate n (.sealing .data []))).count = n ∧
      (run Counted.step { session := sampleSession, count := 0 }
        (List.replicate n (.sealing .data []))).session.nextSendSequence.toNat = n := by
  induction n with
  | zero => exact ⟨rfl, rfl⟩
  | succ n ih =>
    obtain ⟨count, sequence⟩ := ih (by omega)
    rw [List.replicate_succ', run_append, run_cons, run_nil]
    generalize run Counted.step { session := sampleSession, count := 0 }
      (List.replicate n (.sealing .data [])) = c at count sequence
    have full : ¬ c.session.nextSendSequence.toNat = 2 ^ 64 - 1 := by omega
    have sealed : ∃ packet, c.session.sealPacket .data [] =
        (.ok packet, { c.session with nextSendSequence := c.session.nextSendSequence + 1 }) := by
      unfold ProtectedSession.sealPacket
      rw [if_neg (by decide), if_neg full]
      exact ⟨_, rfl⟩
    obtain ⟨packet, sealed⟩ := sealed
    have stepped : c.step (.sealing .data []) =
        { session := { c.session with nextSendSequence := c.session.nextSendSequence + 1 }
          count := c.count + 1 } := by
      simp only [Counted.step, sealed]
    rw [← Counted.count_step (sequence.trans count.symm), stepped]
    have bound := c.session.nextSendSequence.toNat_lt
    have one : (1 : UInt64).toNat = 1 := rfl
    show (c.session.nextSendSequence + 1).toNat = n + 1 ∧
      (c.session.nextSendSequence + 1).toNat = n + 1
    rw [UInt64.toNat_add]
    omega

/-- After `2 ^ 64 - 1` seals a handshake packet is refused for its kind. -/
theorem exhausted_refuses_handshake_kind :
    (run Counted.step { session := sampleSession, count := 0 }
        (List.replicate (2 ^ 64 - 1) (.sealing .data []))).count = 2 ^ 64 - 1 ∧
      ((run Counted.step { session := sampleSession, count := 0 }
        (List.replicate (2 ^ 64 - 1) (.sealing .data []))).session.sealPacket .handshake []).1 =
          .error .handshakeNotProtected := by
  obtain ⟨count, sequence⟩ := count_sample (Nat.le_refl (2 ^ 64 - 1))
  refine ⟨count, ?_⟩
  rw [Counted.sealPacket_exhausted sequence, if_pos rfl]

end

end Rvpn.System
