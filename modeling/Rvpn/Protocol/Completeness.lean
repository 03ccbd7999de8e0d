import Rvpn.Protocol.AuthenticatedHandshake

/-!
# Honest handshakes complete

With correct primitives, the initiator of an exchange opens the response that the responder made for
its initiation, and the responder opens the finish that the initiator made for its response. Whether
the proof inside is accepted is then up to the verifier alone.
-/

namespace Rvpn.Protocol
open Crypto

variable {P : Primitives}

lemma parseProof_encodeBody (proof : AuthProof) : parseProof proof.encodeBody = .ok proof := by
  unfold parseProof toBody
  rw [if_pos (AuthProof.length_encodeBody proof)]
  simp only [bind, Except.bind, AuthProof.decodeBody_encodeBody, Except.mapError]

lemma toList_sealedProof {key : P.Key} {nonce : Bytes 12} {aad : List UInt8} {proof : AuthProof}
    {sealed : List UInt8} (h : P.aeadSeal key nonce aad proof.encodeBody = some sealed) :
    (Bytes.ofList sealedProofLen sealed).toList = sealed := by
  apply Bytes.toList_ofList
  rw [P.aeadSeal_length h, AuthProof.length_encodeBody]
  rfl

/-- With an ephemeral key that agrees, the responder accepts. -/
lemma acceptForSession_total (correct : P.Correct) {secret pk : Bytes 32} {s : P.Shared}
    (agree : P.dh secret pk = some s) (identity : AuthIdentity) (verifier : AuthVerifier)
    (random : Bytes 32) (cookie : Option (Bytes 32)) (mac1 : Bytes 16) (sid : SessionId)
    (keyPhase : UInt32) (r : Bytes 32) :
    ∃ handshake response, ResponderHandshake.acceptForSession P identity verifier
      (.initiation pk random cookie mac1) sid keyPhase (some secret) (some r) =
        .ok (handshake, response) := by
  let initiation := HandshakeMessage.initiation pk random cookie mac1
  let salt := handshakeSalt P initiation.encode
    (HandshakeMessage.responsePublicBytes (P.dhPublic secret) r sid)
  obtain ⟨r2i, deriveR2i⟩ := correct.hkdf_total salt s infoR2i
  obtain ⟨i2r, deriveI2r⟩ := correct.hkdf_total salt s infoI2r
  have derive : HandshakeKeys.derive P s salt = .ok { r2i := r2i, i2r := i2r } :=
    HandshakeKeys.derive_ok.2 ⟨deriveR2i, deriveI2r⟩
  obtain ⟨sealed, sealing⟩ := correct.seal_total r2i (Bytes.zero 12) initiation.encode
    (produceProof P identity (serverInput initiation (P.dhPublic secret) r sid)).encodeBody
  simp only [ResponderHandshake.acceptForSession, except_bind_ok, except_mapError_ok, drawn_ok,
    agree_ok, transcript_new_ok, setResponse_ok, HandshakeKeys.sealResponse, cryptSeal_ok]
  exact ⟨_, _, secret, rfl, s, agree, r, rfl, _, derive, _, ⟨rfl, rfl⟩, _, rfl, sealed, sealing, _,
    ⟨rfl, rfl⟩, rfl⟩

variable {h : InitiatorHandshake}

/-- A verified response is finished if the finish can be sealed. -/
lemma InitiatorHandshake.finishForSession_of {pk r : Bytes 32} {sid : SessionId}
    {sealedProof : Bytes sealedProofLen} {s : P.Shared} {keys : HandshakeKeys P} {proof : AuthProof}
    {remote : Option (Bytes 32)} {sealed : List UInt8} {sessionKeys : SessionKeys P} {clock : Clock}
    (isInit : h.initiation.isInitiation = true)
    (opened : h.openProof P pk r sid sealedProof = .ok (s, keys, proof))
    (verified : verifyProof P h.verifier (serverInput h.initiation pk r sid) proof clock.unix =
      .ok remote) (sealing : P.aeadSeal keys.i2r (Bytes.zero 12)
      (h.initiation.encode ++ (HandshakeMessage.response pk r sid sealedProof).encode)
      (produceProof P h.identity
        (clientInput h.initiation (.response pk r sid sealedProof))).encodeBody = some sealed)
    (derived : SessionKeys.derive P s (transcriptHash P
      (finalInput h.initiation (.response pk r sid sealedProof)
        (.finish (Bytes.ofList sealedProofLen sealed)))) .initiator = .ok sessionKeys)
    (phase : UInt32) : h.finishForSession P (.response pk r sid sealedProof) sid phase clock =
      .ok (.finish (Bytes.ofList sealedProofLen sealed),
        ProtectedSession.new P sid phase sessionKeys clock.instant, remote) := by
  simp only [InitiatorHandshake.finishForSession, ne_eq, not_true_eq_false, if_false, except_bind_ok,
    except_mapError_ok, transcript_new_ok, setResponse_ok, HandshakeKeys.sealFinish, cryptSeal_ok]
  exact ⟨_, opened, _, ⟨isInit, rfl⟩, _, rfl, remote, verified, _, ⟨rfl, rfl⟩, _, rfl, sealed,
    sealing, _, rfl, sessionKeys, derived, rfl⟩

lemma sessionKeys_total (hkdf_total : ∀ d s i, ∃ k, P.hkdf d s i = some k) (shared : P.Shared)
    (hash : P.Digest) (role : SessionRole) :
    ∃ keys, SessionKeys.derive P shared hash role = .ok keys := by
  obtain ⟨c2s, eq⟩ := hkdf_total hash shared infoC2s
  obtain ⟨s2c, eq'⟩ := hkdf_total hash shared infoS2c
  exact ⟨_, SessionKeys.derive_ok.2 ⟨c2s, s2c, eq, eq', rfl⟩⟩

/-- The responder accepted the initiation with the initiator's key. -/
structure Exchange (h : InitiatorHandshake) (identity : AuthIdentity) (verifier : AuthVerifier)
    (sid : SessionId) (keyPhase : UInt32) (responder : ResponderHandshake P)
    (response : HandshakeMessage) : Prop where
  initiation : ∃ random cookie mac1,
    h.initiation = .initiation (P.dhPublic h.keyPair.secret) random cookie mac1
  accepted : ∃ ephemeral random, ResponderHandshake.acceptForSession P identity verifier h.initiation
    sid keyPhase ephemeral random = .ok (responder, response)

namespace Exchange
variable {h : InitiatorHandshake} {identity : AuthIdentity} {verifier : AuthVerifier}
  {sid : SessionId} {keyPhase : UInt32} {responder : ResponderHandshake P}
  {response : HandshakeMessage}

lemma opened (correct : P.Correct)
    (x : Exchange h identity verifier sid keyPhase responder response) :
    ∃ pk r sealedProof, response = .response pk r sid sealedProof ∧
      responder.verifier = verifier ∧ responder.sessionId = sid ∧ responder.keyPhase = keyPhase ∧
      responder.transcript = { initiation := h.initiation, response := some response } ∧
      h.openProof P pk r sid sealedProof = .ok (responder.sharedSecret, responder.handshakeKeys,
        produceProof P identity (serverInput h.initiation pk r sid)) := by
  obtain ⟨random, cookie, mac1, initiation⟩ := x.initiation
  obtain ⟨ephemeral, draw, accepted⟩ := x.accepted
  obtain ⟨pk, _, _, _, secret, r, s, keys, sealed, shape, _, _, agree, derive, sealing, rfl, rfl⟩ :=
    ResponderHandshake.acceptForSession_ok accepted
  rw [initiation] at shape
  cases shape
  refine ⟨_, r, _, rfl, rfl, rfl, rfl, rfl, InitiatorHandshake.openProof_ok.2
    ⟨?_, derive, _, ?_, parseProof_encodeBody _⟩⟩
  · rw [correct.dh_comm]
    exact agree
  · rw [toList_sealedProof sealing]
    exact correct.open_seal sealing

lemma authenticatesResponse (correct : P.Correct)
    (x : Exchange h identity verifier sid keyPhase responder response) (clock : Clock) :
    ∃ pk r sealedProof, response = .response pk r sid sealedProof ∧
      h.authenticatesResponse P response clock = .ok
        (verifyProof P h.verifier (serverInput h.initiation pk r sid)
          (produceProof P identity (serverInput h.initiation pk r sid)) clock.unix).toBool := by
  obtain ⟨pk, r, sealedProof, eq, _, _, _, _, opened⟩ := x.opened correct
  obtain ⟨random, cookie, mac1, initiation⟩ := x.initiation
  have isInit : h.initiation.isInitiation = true := by rw [initiation]; rfl
  have transcript : HandshakeTranscript.new h.initiation =
      .ok { initiation := h.initiation, response := none } :=
    transcript_new_ok.2 ⟨isInit, rfl⟩
  have input : HandshakeTranscript.serverAuthenticationInput
      { initiation := h.initiation, response := none } pk r sid =
        .ok (serverInput h.initiation pk r sid) := rfl
  refine ⟨pk, r, sealedProof, eq, ?_⟩
  rw [eq]
  simp only [InitiatorHandshake.authenticatesResponse, opened, transcript, input, Except.mapError, bind,
    Except.bind]
  cases verified : verifyProof P h.verifier (serverInput h.initiation pk r sid)
      (produceProof P identity (serverInput h.initiation pk r sid)) clock.unix with
  | ok remote => rfl
  | error e => rfl

lemma finished (correct : P.Correct)
    (x : Exchange h identity verifier sid keyPhase responder response) {clock : Clock}
    (authenticated : h.authenticatesResponse P response clock = .ok true) (phase : UInt32) :
    ∃ finish session remote, h.finishForSession P response sid phase clock =
        .ok (finish, session, remote) ∧
      ∀ (clock' : Clock) (remote' : Option (Bytes 32)),
        verifyProof P verifier (clientInput h.initiation response)
          (produceProof P h.identity (clientInput h.initiation response)) clock'.unix = .ok remote' →
        ∃ session', responder.finish finish clock' = .ok (session', remote') := by
  obtain ⟨pk, r, sealedProof, eq, verifierEq, sidEq, phaseEq, transcriptEq, opened⟩ :=
    x.opened correct
  obtain ⟨_, _, _, eq', decided⟩ := x.authenticatesResponse correct clock
  rw [eq] at eq'
  obtain ⟨rfl, rfl, _, rfl⟩ := HandshakeMessage.response.inj eq'
  rw [decided] at authenticated
  obtain ⟨random, cookie, mac1, initiation⟩ := x.initiation
  have isInit : h.initiation.isInitiation = true := by rw [initiation]; rfl
  cases verified : verifyProof P h.verifier (serverInput h.initiation pk r sid)
      (produceProof P identity (serverInput h.initiation pk r sid)) clock.unix with
  | error e =>
    rw [verified] at authenticated
    cases authenticated
  | ok remote =>
    obtain ⟨sealed, sealing⟩ := correct.seal_total responder.handshakeKeys.i2r (Bytes.zero 12)
      (h.initiation.encode ++ response.encode)
      (produceProof P h.identity (clientInput h.initiation response)).encodeBody
    obtain ⟨keys, derived⟩ := sessionKeys_total correct.hkdf_total responder.sharedSecret (transcriptHash P
      (finalInput h.initiation response (.finish (Bytes.ofList sealedProofLen sealed)))) .initiator
    refine ⟨.finish (Bytes.ofList sealedProofLen sealed),
      ProtectedSession.new P sid phase keys clock.instant, remote, ?_, ?_⟩
    · rw [eq] at sealing derived ⊢
      exact InitiatorHandshake.finishForSession_of isInit opened verified sealing derived phase
    · intro clock' remote' verified'
      -- the responder derives from the same transcript, under its own role
      obtain ⟨keys', derived'⟩ := sessionKeys_total correct.hkdf_total responder.sharedSecret (transcriptHash P
        (finalInput h.initiation response (.finish (Bytes.ofList sealedProofLen sealed)))) .responder
      refine ⟨ProtectedSession.new P responder.sessionId responder.keyPhase keys' clock'.instant, ?_⟩
      have found : responder.transcript.response = some response := by rw [transcriptEq]
      have initiationEq : responder.transcript.initiation = h.initiation := by rw [transcriptEq]
      simp only [ResponderHandshake.finish, found, initiationEq, verifierEq, except_bind_ok,
        except_mapError_ok, HandshakeKeys.openFinish, cryptOpen_ok,
        HandshakeTranscript.clientAuthenticationInput, HandshakeTranscript.finalBytes,
        toList_sealedProof sealing]
      exact ⟨_, correct.open_seal sealing, _, parseProof_encodeBody _, _, rfl, remote', verified', _,
        rfl, keys', derived', rfl⟩

end Exchange

lemma verifyProof_issued (correct : P.Correct) (issuer seed : Bytes 32) {notBefore notAfter : UInt64}
    {now : Nat} (begun : notBefore.toNat ≤ now) (unexpired : now ≤ notAfter.toNat) (data : List UInt8) :
    verifyProof P (.certificate (P.edPublic issuer)) data (produceProof P
        (.certificate seed (issueCertificate P issuer (P.edPublic seed) notBefore notAfter)) data) now =
      .ok (some (P.edPublic seed)) := by
  have valid : (issueCertificate P issuer (P.edPublic seed) notBefore notAfter).verify P
      (P.edPublic issuer) now = true :=
    (if_neg (not_or.2 ⟨Nat.not_lt.2 begun, Nat.not_lt.2 unexpired⟩)).trans (correct.verify_sign _ _)
  have signed : P.edVerify (issueCertificate P issuer (P.edPublic seed) notBefore notAfter).subject data
      (P.edSign seed data) = true := correct.verify_sign seed data
  simp only [produceProof, verifyProof, Certificate.decode_encode, valid, signed]
  rfl

/-- Whoever has the seed of a valid certificate can answer. -/
lemma certificate_accepted (correct : P.Correct) {issuer : Bytes 32} (shape : ∃ random cookie mac1,
      h.initiation = .initiation (P.dhPublic h.keyPair.secret) random cookie mac1)
    (mode : h.verifier = .certificate (P.edPublic issuer)) (seed : Bytes 32)
    {notBefore notAfter : UInt64} {clock : Clock} (begun : notBefore.toNat ≤ clock.unix)
    (unexpired : clock.unix ≤ notAfter.toNat) {secret : Bytes 32} {shared : P.Shared}
    (agree : P.dh secret (P.dhPublic h.keyPair.secret) = some shared) (verifier : AuthVerifier)
    (sid : SessionId) (keyPhase : UInt32) (random : Bytes 32) :
    ∃ responder response finish session, ResponderHandshake.acceptForSession P
        (.certificate seed (issueCertificate P issuer (P.edPublic seed) notBefore notAfter)) verifier
        h.initiation sid keyPhase (some secret) (some random) = .ok (responder, response) ∧
      h.finishForSession P response sid keyPhase clock = .ok (finish, session, some (P.edPublic seed)) := by
  obtain ⟨draw, cookie, mac1, initiation⟩ := shape
  obtain ⟨responder, response, accepted⟩ := acceptForSession_total correct agree
    (.certificate seed (issueCertificate P issuer (P.edPublic seed) notBefore notAfter)) verifier draw
    cookie mac1 sid keyPhase random
  rw [← initiation] at accepted
  have x : Exchange h _ verifier sid keyPhase responder response :=
    ⟨⟨draw, cookie, mac1, initiation⟩, _, _, accepted⟩
  have verified := verifyProof_issued correct issuer seed begun unexpired
  rw [← mode] at verified
  obtain ⟨pk, r, sealedProof, shape, decided⟩ := x.authenticatesResponse correct clock
  rw [verified (serverInput h.initiation pk r sid)] at decided
  obtain ⟨finish, session, remote, finished, _⟩ := x.finished correct decided keyPhase
  refine ⟨responder, response, finish, session, accepted, ?_⟩
  obtain ⟨pk', r', _, _, _, _, _, _, same, _, opened, checked, _⟩ :=
    InitiatorHandshake.finishForSession_ok finished
  obtain ⟨_, _, _, eq, _, _, _, _, opened'⟩ := x.opened correct
  obtain ⟨rfl, rfl, _, rfl⟩ := HandshakeMessage.response.inj (same.symm.trans eq)
  cases opened.symm.trans opened'
  rw [verified] at checked
  cases checked
  exact finished

/-- The ends have one id and mirrored keys iff they completed one transcript. -/
theorem mirrored_keys_iff (ideal : P.Ideal) {sid sid' : SessionId} {keyPhase keyPhase' : UInt32}
    {clock clock' : Clock} {session session' : ProtectedSession P} {remote remote' : Option (Bytes 32)}
    {identity : AuthIdentity} {verifier : AuthVerifier} {ephemeral random : Option (Bytes 32)}
    {responder : ResponderHandshake P} {initiation response response' finish finish' : HandshakeMessage}
    (shape : ∃ random cookie mac1,
      h.initiation = .initiation (P.dhPublic h.keyPair.secret) random cookie mac1)
    (committed : h.finishForSession P response sid keyPhase clock = .ok (finish, session, remote))
    (accepted : ResponderHandshake.acceptForSession P identity verifier initiation sid' keyPhase'
      ephemeral random = .ok (responder, response'))
    (finished : responder.finish finish' clock' = .ok (session', remote')) :
    session'.sessionId = session.sessionId ∧ session'.keys.send = session.keys.receive ∧
        session'.keys.receive = session.keys.send ↔
      responder.transcript = { initiation := h.initiation, response := some response } ∧
        finish' = finish := by
  obtain ⟨random, cookie, mac1, shape⟩ := shape
  obtain ⟨pk, r, sealedProof, s, _, _, _, keys, responseEq, isInit, opened, _, _, _, derive, rfl⟩ :=
    InitiatorHandshake.finishForSession_ok committed
  obtain ⟨agree, _⟩ := InitiatorHandshake.openProof_ok.1 opened
  obtain ⟨pk', _, _, _, secret, r', s', _, _, initiationEq, _, _, agree', _, _, responseEq', rfl⟩ :=
    ResponderHandshake.acceptForSession_ok accepted
  obtain ⟨_, _, _, _, keys', _, found, _, _, _, derive', rfl⟩ := ResponderHandshake.finish_ok finished
  cases found
  obtain ⟨c2s, s2c, send, receive, rfl⟩ := SessionKeys.derive_ok.1 derive
  obtain ⟨c2s', s2c', receive', send', rfl⟩ := SessionKeys.derive_ok.1 derive'
  refine ⟨?_, ?_⟩
  · -- a derived key determines the transcript that salts it
    intro mirrored
    obtain ⟨_, same, _⟩ := mirrored
    obtain rfl : s2c' = s2c := same
    obtain ⟨hash, _⟩ := ideal.hkdf_inj send' receive
    obtain ⟨rfl, rfl, rfl⟩ := finalInput_inj (by rw [initiationEq]; rfl) isInit
      (by rw [responseEq']; rfl) (by rw [responseEq]; rfl) (ideal.sha256_inj hash)
    exact ⟨rfl, rfl⟩
  · -- both ends computed one shared secret
    intro same
    obtain ⟨transcript, rfl⟩ := same
    obtain ⟨rfl, sameResponse⟩ := HandshakeTranscript.mk.inj transcript
    obtain rfl := Option.some.inj sameResponse
    obtain ⟨rfl, _, rfl, _⟩ := HandshakeMessage.response.inj (responseEq.symm.trans responseEq')
    obtain ⟨rfl, _⟩ := HandshakeMessage.initiation.inj (shape.symm.trans initiationEq)
    rw [ideal.dh_comm, agree'] at agree
    obtain rfl : s' = s := Option.some.inj agree
    rw [receive] at send'
    rw [send] at receive'
    exact ⟨rfl, (Option.some.inj send').symm, (Option.some.inj receive').symm⟩

end Rvpn.Protocol
