import Rvpn.Protocol.Handshake
import Rvpn.Protocol.Session

/-!
# The authenticated handshake

Model of `crates/rvpn-protocol/src/authenticated_handshake.rs`. The random values that a function
draws are arguments, `none` when the system has no randomness; the clock is an argument too. Each
function that can succeed has one inversion lemma that says everything a success implies.
-/

namespace Rvpn.Protocol
open Crypto

/-- Errors of a handshake. -/
inductive HandshakeError where
  | crypto (e : CryptoError)
  | protocol (e : ProtocolError)
  | unexpectedMessage
  | unexpectedSession
  | authenticationFailed
  deriving DecidableEq

/-- The two clocks: seconds since the Unix epoch, and the monotone instant. -/
structure Clock where
  unix : Nat
  instant : Nat
  deriving DecidableEq

variable (P : Primitives)

/-- `produce_proof`. -/
def produceProof (identity : AuthIdentity) (data : List UInt8) : AuthProof :=
  match identity with
  | .pinnedKey seed => .pinnedKey (P.edSign seed data)
  | .certificate localSeed certificate =>
    .certificate certificate.encode (P.edSign localSeed data)

/-- `verify_proof`: the key that is proved. -/
def verifyProof (verifier : AuthVerifier) (data : List UInt8) (proof : AuthProof) (now : Nat) :
    Except HandshakeError (Option (Bytes 32)) :=
  match verifier, proof with
  | .pinnedKey expected, .pinnedKey sig =>
    if P.edVerify expected data sig then .ok (some expected) else .error .authenticationFailed
  | .certificate ca, .certificate certificate signature =>
    let cert := Certificate.decode certificate
    if !cert.verify P ca now then .error .authenticationFailed
    else if !P.edVerify cert.subject data signature then .error .authenticationFailed
    else .ok (some cert.subject)
  | _, _ => .error .authenticationFailed

/-- A draw of random bytes that the system may refuse. -/
def drawn {n : Nat} (bytes : Option (Bytes n)) : Except HandshakeError (Bytes n) :=
  match bytes with
  | some b => .ok b
  | none => .error (.crypto .randomness)

def toBody (opened : List UInt8) : Except HandshakeError (Bytes proofBodyLen) :=
  if opened.length = proofBodyLen then .ok (Bytes.ofList proofBodyLen opened)
  else .error .authenticationFailed

/-- The proof inside an opened ciphertext. -/
def parseProof (opened : List UInt8) : Except HandshakeError AuthProof := do
  let body ← toBody opened
  (AuthProof.decodeBody body).mapError .protocol

/-- `InitiatorHandshake`: what is kept until the response. -/
structure InitiatorHandshake where
  identity : AuthIdentity
  verifier : AuthVerifier
  keyPair : EphemeralKeyPair
  initiation : HandshakeMessage
  deriving DecidableEq

/-- `ResponderHandshake`: what is kept until the finish. -/
structure ResponderHandshake where
  verifier : AuthVerifier
  sharedSecret : P.Shared
  handshakeKeys : HandshakeKeys P
  transcript : HandshakeTranscript
  sessionId : SessionId
  keyPhase : UInt32

namespace InitiatorHandshake

/-- `InitiatorHandshake::start`. -/
def start (identity : AuthIdentity) (verifier : AuthVerifier) (ephemeral random : Option (Bytes 32)) :
    Except HandshakeError (InitiatorHandshake × HandshakeMessage) := do
  let secret ← drawn ephemeral
  let keyPair : EphemeralKeyPair := { secret := secret }
  let random ← drawn random
  let publicKey := keyPair.publicKey P
  let mac1 := HandshakeMessage.computeMac1 P (verifier.mac1Key P) publicKey random none
  let initiation := HandshakeMessage.initiation publicKey random none mac1
  return ({ identity := identity, verifier := verifier, keyPair := keyPair, initiation := initiation },
    initiation)

/-- `InitiatorHandshake::attach_cookie`. -/
def attachCookie (h : InitiatorHandshake) (cookie : Bytes 32) : InitiatorHandshake :=
  match h.initiation with
  | .initiation publicKey random _ _ =>
    let mac1 :=
      HandshakeMessage.computeMac1 P (h.verifier.mac1Key P) publicKey random (some cookie)
    { h with initiation := .initiation publicKey random (some cookie) mac1 }
  | _ => h

/-- The responder's proof in a response, as the initiator opens it. -/
def openProof (h : InitiatorHandshake) (publicKey random : Bytes 32) (sessionId : SessionId)
    (sealedProof : Bytes sealedProofLen) :
    Except HandshakeError (P.Shared × HandshakeKeys P × AuthProof) := do
  let sharedSecret ← (h.keyPair.agree P publicKey).mapError .crypto
  let responsePublic := HandshakeMessage.responsePublicBytes publicKey random sessionId
  let salt := handshakeSalt P h.initiation.encode responsePublic
  let handshakeKeys ← (HandshakeKeys.derive P sharedSecret salt).mapError .crypto
  let opened ← (handshakeKeys.openResponse h.initiation.encode sealedProof.toList).mapError
    fun _ => .authenticationFailed
  let proof ← parseProof opened
  return (sharedSecret, handshakeKeys, proof)

/-- `authenticates_response`; failures before the transcript are `false`. -/
def authenticatesResponse (h : InitiatorHandshake) (response : HandshakeMessage) (clock : Clock) :
    Except HandshakeError Bool :=
  match response with
  | .response publicKey random sessionId sealedProof =>
    match openProof P h publicKey random sessionId sealedProof with
    | .error _ => .ok false
    | .ok (_, _, proof) => do
      let transcript ← (HandshakeTranscript.new h.initiation).mapError .protocol
      let data ← (transcript.serverAuthenticationInput publicKey random sessionId).mapError .protocol
      match verifyProof P h.verifier data proof clock.unix with
      | .ok _ => return true
      | .error _ => return false
  | _ => .error .unexpectedMessage

/-- `InitiatorHandshake::finish_for_session`. -/
def finishForSession (h : InitiatorHandshake) (response : HandshakeMessage)
    (expectedSessionId : SessionId) (keyPhase : UInt32) (clock : Clock) :
    Except HandshakeError (HandshakeMessage × ProtectedSession P × Option (Bytes 32)) :=
  match response with
  | .response publicKey random sessionId sealedProof =>
    if sessionId ≠ expectedSessionId then .error .unexpectedSession
    else do
    let (sharedSecret, handshakeKeys, proof) ←
      openProof P h publicKey random sessionId sealedProof
    let transcript ← (HandshakeTranscript.new h.initiation).mapError .protocol
    let data ← (transcript.serverAuthenticationInput publicKey random sessionId).mapError .protocol
    let remoteIdentity ← verifyProof P h.verifier data proof clock.unix
    let transcript ← (transcript.setResponse response).mapError .protocol
    let finishData ← transcript.clientAuthenticationInput.mapError .protocol
    let clientProof := produceProof P h.identity finishData
    let aad := h.initiation.encode ++ response.encode
    let sealedFinish ← (handshakeKeys.sealFinish aad clientProof.encodeBody).mapError .crypto
    let finish := HandshakeMessage.finish (Bytes.ofList sealedProofLen sealedFinish)
    let final ← (transcript.finalBytes finish).mapError .protocol
    let keys ← (SessionKeys.derive P sharedSecret (transcriptHash P final) .initiator).mapError
      .crypto
    return (finish, ProtectedSession.new P sessionId keyPhase keys clock.instant, remoteIdentity)
  | _ => .error .unexpectedMessage

/-- `InitiatorHandshake::finish`. -/
def finish (h : InitiatorHandshake) (response : HandshakeMessage) (clock : Clock) :
    Except HandshakeError (HandshakeMessage × ProtectedSession P × Option (Bytes 32)) :=
  match response with
  | .response _ _ sessionId _ => finishForSession P h response sessionId 0 clock
  | _ => .error .unexpectedMessage

end InitiatorHandshake

namespace ResponderHandshake

/-- `ResponderHandshake::accept_for_session`. -/
def acceptForSession (identity : AuthIdentity) (verifier : AuthVerifier)
    (initiation : HandshakeMessage) (sessionId : SessionId) (keyPhase : UInt32)
    (ephemeral random : Option (Bytes 32)) :
    Except HandshakeError (ResponderHandshake P × HandshakeMessage) :=
  match initiation with
  | .initiation publicKey _ _ _ => do
    let secret ← drawn ephemeral
    let keyPair : EphemeralKeyPair := { secret := secret }
    let sharedSecret ← (keyPair.agree P publicKey).mapError .crypto
    let ephPub := keyPair.publicKey P
    let random ← drawn random
    let responsePublic := HandshakeMessage.responsePublicBytes ephPub random sessionId
    let salt := handshakeSalt P initiation.encode responsePublic
    let handshakeKeys ← (HandshakeKeys.derive P sharedSecret salt).mapError .crypto
    let transcript ← (HandshakeTranscript.new initiation).mapError .protocol
    let data ← (transcript.serverAuthenticationInput ephPub random sessionId).mapError .protocol
    let proof := produceProof P identity data
    let sealed ← (handshakeKeys.sealResponse initiation.encode proof.encodeBody).mapError .crypto
    let response :=
      HandshakeMessage.response ephPub random sessionId (Bytes.ofList sealedProofLen sealed)
    let transcript ← (transcript.setResponse response).mapError .protocol
    return ({ verifier := verifier, sharedSecret := sharedSecret, handshakeKeys := handshakeKeys,
              transcript := transcript, sessionId := sessionId, keyPhase := keyPhase }, response)
  | _ => .error .unexpectedMessage

/-- `ResponderHandshake::accept`. -/
def accept (identity : AuthIdentity) (verifier : AuthVerifier) (initiation : HandshakeMessage)
    (sessionId : Option (Bytes 16)) (ephemeral random : Option (Bytes 32)) :
    Except HandshakeError (ResponderHandshake P × HandshakeMessage) := do
  let id ← drawn sessionId
  acceptForSession P identity verifier initiation ⟨id⟩ 0 ephemeral random

variable {P}

/-- `ResponderHandshake::finish`. -/
def finish (h : ResponderHandshake P) (finish : HandshakeMessage) (clock : Clock) :
    Except HandshakeError (ProtectedSession P × Option (Bytes 32)) :=
  match finish, h.transcript.response with
  | .finish sealedProof, some response => do
    let aad := h.transcript.initiation.encode ++ response.encode
    let opened ← (h.handshakeKeys.openFinish aad sealedProof.toList).mapError
      fun _ => .authenticationFailed
    let proof ← parseProof opened
    let data ← h.transcript.clientAuthenticationInput.mapError .protocol
    let remoteIdentity ← verifyProof P h.verifier data proof clock.unix
    let final ← (h.transcript.finalBytes finish).mapError .protocol
    let keys ← (SessionKeys.derive P h.sharedSecret (transcriptHash P final) .responder).mapError
      .crypto
    return (ProtectedSession.new P h.sessionId h.keyPhase keys clock.instant, remoteIdentity)
  | _, _ => .error .unexpectedMessage

end ResponderHandshake

variable {P}

/-- `k` is pinned, or the proof carries a certificate for it, valid now. -/
def Trusts (P : Primitives) (verifier : AuthVerifier) (proof : AuthProof) (now : Nat)
    (k : Bytes 32) : Prop :=
  match verifier with
  | .pinnedKey expected => k = expected
  | .certificate ca => ∃ certificate signature, proof = .certificate certificate signature ∧
      (Certificate.decode certificate).subject = k ∧
      (Certificate.decode certificate).verify P ca now = true

/-- A verified proof is signed under the key it returns, which is trusted. -/
lemma verifyProof_ok {verifier : AuthVerifier} {data : List UInt8} {proof : AuthProof} {now : Nat}
    {remote : Option (Bytes 32)} (h : verifyProof P verifier data proof now = .ok remote) :
    ∃ k, remote = some k ∧ P.edVerify k data proof.signature = true ∧
      Trusts P verifier proof now k := by
  cases verifier with
  | pinnedKey expected =>
    cases proof with
    | pinnedKey sig =>
      simp only [verifyProof] at h
      split at h
      · next verified =>
        cases h
        exact ⟨_, rfl, verified, rfl⟩
      · cases h
    | certificate cert sig => cases h
  | certificate ca =>
    cases proof with
    | pinnedKey sig => cases h
    | certificate cert sig =>
      simp only [verifyProof, Bool.not_eq_true'] at h
      split at h
      · cases h
      · next valid =>
        split at h
        · cases h
        · next verified =>
          cases h
          exact ⟨_, rfl, Bool.of_not_eq_false verified, cert, sig, rfl, rfl,
            Bool.of_not_eq_false valid⟩

lemma drawn_ok {n : Nat} {bytes : Option (Bytes n)} {b : Bytes n} :
    drawn bytes = .ok b ↔ bytes = some b := by
  cases bytes with
  | none => simp [drawn]
  | some c => simp [drawn]

lemma transcript_new_ok {initiation : HandshakeMessage} {t : HandshakeTranscript} :
    HandshakeTranscript.new initiation = .ok t ↔
      initiation.isInitiation = true ∧ t = { initiation := initiation, response := none } := by
  unfold HandshakeTranscript.new
  split
  · next h => simp [h, eq_comm]
  · next h => simp [h]

lemma setResponse_ok {t t' : HandshakeTranscript} {response : HandshakeMessage} :
    t.setResponse response = .ok t' ↔
      response.isResponse = true ∧ t' = { t with response := some response } := by
  unfold HandshakeTranscript.setResponse
  split
  · next h => simp [h, eq_comm]
  · next h => simp [h]

namespace InitiatorHandshake

variable {h : InitiatorHandshake}

lemma start_ok {identity : AuthIdentity} {verifier : AuthVerifier}
    {ephemeral random : Option (Bytes 32)} {message : HandshakeMessage}
    (ok : InitiatorHandshake.start P identity verifier ephemeral random = .ok (h, message)) :
    ephemeral = some h.keyPair.secret ∧ h.identity = identity ∧ h.verifier = verifier ∧
      ∃ r mac1, h.initiation = .initiation (P.dhPublic h.keyPair.secret) r none mac1 := by
  simp only [InitiatorHandshake.start, except_bind_ok, drawn_ok] at ok
  obtain ⟨secret, rfl, r, rfl, eq⟩ := ok
  cases eq
  exact ⟨rfl, rfl, rfl, r, _, rfl⟩

lemma attachCookie_spec (cookie : Bytes 32) (shape : ∃ random old mac1,
      h.initiation = .initiation (P.dhPublic h.keyPair.secret) random old mac1) :
    (h.attachCookie P cookie).keyPair = h.keyPair ∧ (h.attachCookie P cookie).identity = h.identity ∧
      (h.attachCookie P cookie).verifier = h.verifier ∧
      ∃ random old mac1, (h.attachCookie P cookie).initiation =
        .initiation (P.dhPublic h.keyPair.secret) random old mac1 := by
  obtain ⟨random, old, mac1, eq⟩ := shape
  simp only [InitiatorHandshake.attachCookie, eq]
  exact ⟨trivial, trivial, trivial, random, some cookie, _, rfl⟩

lemma openProof_ok {pk r : Bytes 32} {sid : SessionId} {sealedProof : Bytes sealedProofLen}
    {s : P.Shared} {keys : HandshakeKeys P} {proof : AuthProof} :
    openProof P h pk r sid sealedProof = .ok (s, keys, proof) ↔ P.dh h.keyPair.secret pk = some s ∧
      HandshakeKeys.derive P s (handshakeSalt P h.initiation.encode
        (HandshakeMessage.responsePublicBytes pk r sid)) = .ok keys ∧
      ∃ m, P.aeadOpen keys.r2i (Bytes.zero 12) h.initiation.encode sealedProof.toList = some m ∧
        parseProof m = .ok proof := by
  unfold openProof
  simp only [except_bind_ok, except_mapError_ok, agree_ok, HandshakeKeys.openResponse, cryptOpen_ok]
  refine ⟨?_, ?_⟩
  · intro ok
    obtain ⟨s', agree, keys', derive, m, opened, proof', parsed, eq⟩ := ok
    cases eq
    exact ⟨agree, derive, m, opened, parsed⟩
  · intro ok
    obtain ⟨agree, derive, m, opened, parsed⟩ := ok
    exact ⟨s, agree, keys, derive, m, opened, proof, parsed, rfl⟩

lemma finishForSession_ok {response : HandshakeMessage} {sid : SessionId} {keyPhase : UInt32}
    {clock : Clock} {finish : HandshakeMessage} {session : ProtectedSession P}
    {remote : Option (Bytes 32)}
    (ok : finishForSession P h response sid keyPhase clock = .ok (finish, session, remote)) :
    ∃ pk r sealedProof s keys proof sealedFinish sessionKeys,
      response = .response pk r sid sealedProof ∧ h.initiation.isInitiation = true ∧
      openProof P h pk r sid sealedProof = .ok (s, keys, proof) ∧
      verifyProof P h.verifier (serverInput h.initiation pk r sid) proof clock.unix = .ok remote ∧
      P.aeadSeal keys.i2r (Bytes.zero 12) (h.initiation.encode ++ response.encode)
        (produceProof P h.identity (clientInput h.initiation response)).encodeBody =
          some sealedFinish ∧
      finish = .finish (Bytes.ofList sealedProofLen sealedFinish) ∧
      SessionKeys.derive P s (transcriptHash P (finalInput h.initiation response finish))
        .initiator = .ok sessionKeys ∧
      session = ProtectedSession.new P sid keyPhase sessionKeys clock.instant := by
  unfold finishForSession at ok
  split at ok
  · next pk r sid' sealedProof =>
    split at ok
    · cases ok
    · next same =>
      have same := not_not.1 same
      subst same
      simp only [except_bind_ok, except_mapError_ok, transcript_new_ok, setResponse_ok,
        HandshakeKeys.sealFinish, cryptSeal_ok] at ok
      obtain ⟨⟨s, keys, proof⟩, opened, t, ⟨isInit, rfl⟩, data, eqData, remote', verified, t',
        ⟨_, rfl⟩, finishData, eqFinish, sealedFinish, sealed, final, eqFinal, sessionKeys, derive,
        eq⟩ := ok
      cases eqData
      cases eqFinish
      cases eqFinal
      cases eq
      exact ⟨pk, r, sealedProof, s, keys, proof, sealedFinish, sessionKeys, rfl, isInit, opened,
        verified, sealed, rfl, derive, rfl⟩
  · cases ok

lemma finish_ok {response : HandshakeMessage} {clock : Clock}
    {outcome : HandshakeMessage × ProtectedSession P × Option (Bytes 32)}
    (ok : InitiatorHandshake.finish P h response clock = .ok outcome) :
    ∃ sid, finishForSession P h response sid 0 clock = .ok outcome := by
  unfold InitiatorHandshake.finish at ok
  split at ok
  · next sid _ => exact ⟨sid, ok⟩
  · cases ok

end InitiatorHandshake

namespace ResponderHandshake

lemma acceptForSession_ok {identity : AuthIdentity} {verifier : AuthVerifier}
    {initiation : HandshakeMessage} {sid : SessionId} {keyPhase : UInt32}
    {ephemeral random : Option (Bytes 32)} {h : ResponderHandshake P} {response : HandshakeMessage}
    (ok : acceptForSession P identity verifier initiation sid keyPhase ephemeral random =
      .ok (h, response)) :
    ∃ pk rnd cookie mac1 secret r s keys sealed,
      initiation = .initiation pk rnd cookie mac1 ∧ ephemeral = some secret ∧ random = some r ∧
      P.dh secret pk = some s ∧ HandshakeKeys.derive P s (handshakeSalt P initiation.encode
        (HandshakeMessage.responsePublicBytes (P.dhPublic secret) r sid)) = .ok keys ∧
      P.aeadSeal keys.r2i (Bytes.zero 12) initiation.encode (produceProof P identity
          (serverInput initiation (P.dhPublic secret) r sid)).encodeBody = some sealed ∧
      response = .response (P.dhPublic secret) r sid (Bytes.ofList sealedProofLen sealed) ∧
      h =
        { verifier := verifier
          sharedSecret := s
          handshakeKeys := keys
          transcript := { initiation := initiation, response := some response }
          sessionId := sid
          keyPhase := keyPhase } := by
  unfold acceptForSession at ok
  split at ok
  · next pk rnd cookie mac1 =>
    simp only [except_bind_ok, except_mapError_ok, drawn_ok, agree_ok, transcript_new_ok,
      setResponse_ok, HandshakeKeys.sealResponse, cryptSeal_ok] at ok
    obtain ⟨secret, he, s, agree, r, hr, keys, derive, t, ⟨_, rfl⟩, data, eqData, sealed, sealing,
      t', ⟨_, rfl⟩, eq⟩ := ok
    cases eqData
    cases eq
    exact ⟨pk, rnd, cookie, mac1, secret, r, s, keys, sealed, rfl, he, hr, agree, derive, sealing,
      rfl, rfl⟩
  · cases ok

lemma finish_ok {h : ResponderHandshake P} {fin : HandshakeMessage} {clock : Clock}
    {session : ProtectedSession P} {remote : Option (Bytes 32)}
    (ok : h.finish fin clock = .ok (session, remote)) : ∃ sealedProof response m proof sessionKeys,
      fin = .finish sealedProof ∧ h.transcript.response = some response ∧
      P.aeadOpen h.handshakeKeys.i2r (Bytes.zero 12)
        (h.transcript.initiation.encode ++ response.encode) sealedProof.toList = some m ∧
      parseProof m = .ok proof ∧
      verifyProof P h.verifier (clientInput h.transcript.initiation response) proof clock.unix =
        .ok remote ∧
      SessionKeys.derive P h.sharedSecret
        (transcriptHash P (finalInput h.transcript.initiation response fin)) .responder =
          .ok sessionKeys ∧
      session = ProtectedSession.new P h.sessionId h.keyPhase sessionKeys clock.instant := by
  unfold finish at ok
  split at ok
  · next sealedProof response found =>
    simp only [except_bind_ok, except_mapError_ok, HandshakeKeys.openFinish, cryptOpen_ok,
      HandshakeTranscript.clientAuthenticationInput, HandshakeTranscript.finalBytes, found] at ok
    obtain ⟨m, opened, proof, parsed, data, eqData, remote', verified, final, eqFinal, sessionKeys,
      derive, eq⟩ := ok
    cases eqData
    cases eqFinal
    cases eq
    exact ⟨sealedProof, response, m, proof, sessionKeys, rfl, found, opened, parsed, verified,
      derive, rfl⟩
  · cases ok

end ResponderHandshake
end Rvpn.Protocol
