import Rvpn.Protocol.AuthenticatedHandshake

/-!
# Honest handshake parties

The handshake instances that honest parties run, and what ideal cryptography says about the messages
they are handed. A run of an instance carries the equations of the calls it made. `Signed`, `Sealed` and
`Secret` are what the honest parties signed, sealed and drew; the agreement lemmas are
`Parties.responder_of_finished` and `Parties.initiator_of_finished`.
-/

namespace Rvpn.Protocol
open Crypto Primitives

variable (P : Primitives)

/-- How far an instance got; it is consumed by its attempt to finish. -/
inductive Progress (α : Type) where
  | running
  | failed
  | done (outcome : α)

def Progress.outcome {α : Type} : Progress α → Option α
  | .done outcome => some outcome
  | _ => none

lemma Progress.outcome_eq_some {α : Type} {p : Progress α} {a : α} :
    p.outcome = some a ↔ p = .done a := by
  cases p with
  | done o => simp [outcome]
  | _ => simp [outcome]

structure InitiatorOutcome where
  response : HandshakeMessage
  sessionId : SessionId
  keyPhase : UInt32
  clock : Clock
  finish : HandshakeMessage
  session : ProtectedSession P
  remote : Option (Bytes 32)

/-- An initiator: its initiation has its key, its outcome is the code's. -/
structure InitiatorRun where
  handshake : InitiatorHandshake
  progress : Progress (InitiatorOutcome P)
  shape : ∃ random cookie mac1, handshake.initiation =
    .initiation (P.dhPublic handshake.keyPair.secret) random cookie mac1
  finished : ∀ o, progress = .done o →
    handshake.finishForSession P o.response o.sessionId o.keyPhase o.clock =
      .ok (o.finish, o.session, o.remote)

/-- The argument and results of a successful `finish` of the responder. -/
structure ResponderOutcome where
  finish : HandshakeMessage
  clock : Clock
  session : ProtectedSession P
  remote : Option (Bytes 32)

/-- A responder: its handshake and response are the code's. -/
structure ResponderRun where
  identity : AuthIdentity
  initiation : HandshakeMessage
  response : HandshakeMessage
  secret : Bytes 32
  random : Bytes 32
  handshake : ResponderHandshake P
  progress : Progress (ResponderOutcome P)
  accepted : ResponderHandshake.acceptForSession P identity handshake.verifier initiation
    handshake.sessionId handshake.keyPhase (some secret) (some random) = .ok (handshake, response)
  finished : ∀ o, progress = .done o → handshake.finish o.finish o.clock = .ok (o.session, o.remote)

/-- The honest instances and the certificates of honest authorities. -/
structure Parties where
  initiator : InitiatorRun P → Prop
  responder : ResponderRun P → Prop
  issued : Bytes 32 → Bytes 32 → UInt64 → UInt64 → Prop

namespace InitiatorRun
variable {P}

lemma isInitiation (run : InitiatorRun P) : run.handshake.initiation.isInitiation = true := by
  obtain ⟨_, _, _, eq⟩ := run.shape
  rw [eq]
  rfl

lemma send_label {run : InitiatorRun P} {o : InitiatorOutcome P} (h : run.progress = .done o) :
    ∃ d s, P.hkdf d s infoC2s = some o.session.keys.send := by
  obtain ⟨_, _, _, s, _, _, _, keys, _, _, _, _, _, _, derive, eq⟩ :=
    InitiatorHandshake.finishForSession_ok (run.finished o h)
  obtain ⟨c2s, _, send, _, rfl⟩ := SessionKeys.derive_ok.1 derive
  rw [eq]
  exact ⟨_, s, send⟩

end InitiatorRun

namespace ResponderRun
variable {P}

lemma spec (run : ResponderRun P) :
    ∃ pk rnd cookie mac1 sealed, run.initiation = .initiation pk rnd cookie mac1 ∧
      P.dh run.secret pk = some run.handshake.sharedSecret ∧
      HandshakeKeys.derive P run.handshake.sharedSecret (handshakeSalt P run.initiation.encode
        (HandshakeMessage.responsePublicBytes (P.dhPublic run.secret) run.random
          run.handshake.sessionId)) = .ok run.handshake.handshakeKeys ∧
      P.aeadSeal run.handshake.handshakeKeys.r2i (Bytes.zero 12) run.initiation.encode
        (produceProof P run.identity (serverInput run.initiation (P.dhPublic run.secret) run.random
          run.handshake.sessionId)).encodeBody = some sealed ∧
      run.response = .response (P.dhPublic run.secret) run.random run.handshake.sessionId
        (Bytes.ofList sealedProofLen sealed) ∧
      run.handshake.transcript = { initiation := run.initiation, response := some run.response } := by
  obtain ⟨pk, rnd, cookie, mac1, secret, r, s, keys, sealed, shape, hs, hr, agree, derive, sealing,
    response, h⟩ := ResponderHandshake.acceptForSession_ok run.accepted
  cases hs
  cases hr
  have keysEq : run.handshake.handshakeKeys = keys := by rw [h]
  have sharedEq : run.handshake.sharedSecret = s := by rw [h]
  have transcriptEq : run.handshake.transcript =
      { initiation := run.initiation, response := some run.response } := by rw [h]
  subst keysEq sharedEq
  exact ⟨pk, rnd, cookie, mac1, sealed, shape, agree, derive, sealing, response, transcriptEq⟩

lemma isInitiation (run : ResponderRun P) : run.initiation.isInitiation = true := by
  obtain ⟨_, _, _, _, _, eq, _⟩ := run.spec
  rw [eq]
  rfl

lemma send_label {run : ResponderRun P} {o : ResponderOutcome P} (h : run.progress = .done o) :
    ∃ d s, P.hkdf d s infoS2c = some o.session.keys.send := by
  obtain ⟨_, _, _, _, keys, _, _, _, _, _, derive, eq⟩ :=
    ResponderHandshake.finish_ok (run.finished o h)
  obtain ⟨_, s2c, _, send, rfl⟩ := SessionKeys.derive_ok.1 derive
  rw [eq]
  exact ⟨_, _, send⟩

end ResponderRun

namespace Parties
variable {P}

inductive Secret (w : Parties P) : Bytes 32 → Prop where
  | initiator {run} : w.initiator run → Secret w run.handshake.keyPair.secret
  | responder {run} : w.responder run → Secret w run.secret

/-- The messages that honest parties signed, under their public keys. -/
inductive Signed (w : Parties P) : Bytes 32 → List UInt8 → Prop where
  | server {run} : w.responder run → Signed w (P.edPublic run.identity.seed)
      (serverInput run.initiation (P.dhPublic run.secret) run.random run.handshake.sessionId)
  | client {run o} : w.initiator run → run.progress = .done o →
    Signed w (P.edPublic run.handshake.identity.seed)
      (clientInput run.handshake.initiation o.response)
  | certificate {issuer subject notBefore notAfter} : w.issued issuer subject notBefore notAfter →
    Signed w issuer (signedFields subject notBefore notAfter)

/-- The AEAD calls of honest parties: two proofs, and traffic. -/
inductive Sealed (w : Parties P) : SealRecord P → Prop where
  | response {run m c} : w.responder run →
    P.aeadSeal run.handshake.handshakeKeys.r2i (Bytes.zero 12) run.initiation.encode m = some c →
    run.response = .response (P.dhPublic run.secret) run.random run.handshake.sessionId
      (Bytes.ofList sealedProofLen c) →
    Sealed w ⟨run.handshake.handshakeKeys.r2i, Bytes.zero 12, run.initiation.encode, m, c⟩
  | finish {run o d s} {keys : HandshakeKeys P} {m c} : w.initiator run → run.progress = .done o →
    HandshakeKeys.derive P s d = .ok keys →
    P.aeadSeal keys.i2r (Bytes.zero 12) (run.handshake.initiation.encode ++ o.response.encode) m =
      some c →
    o.finish = .finish (Bytes.ofList sealedProofLen c) →
    Sealed w ⟨keys.i2r, Bytes.zero 12, run.handshake.initiation.encode ++ o.response.encode, m, c⟩
  | initiatorTraffic {run o n a m c} : w.initiator run → run.progress = .done o →
    Sealed w ⟨o.session.keys.send, n, a, m, c⟩
  | responderTraffic {run o n a m c} : w.responder run → run.progress = .done o →
    Sealed w ⟨o.session.keys.send, n, a, m, c⟩

/-- Ephemeral keys are fresh: two instances of one role have different ones. -/
structure Fresh (w : Parties P) : Prop where
  initiator : ∀ {run run'}, w.initiator run → w.initiator run' →
    P.dhPublic run.handshake.keyPair.secret = P.dhPublic run'.handshake.keyPair.secret → run = run'
  responder : ∀ {run run'}, w.responder run → w.responder run' →
    P.dhPublic run.secret = P.dhPublic run'.secret → run = run'

/-- Under an honest key `sig` verifies only what was signed. -/
def Unforgeable (w : Parties P) (honest : Bytes 32 → Prop) (data : List UInt8) (sig : Bytes 64) :
    Prop :=
  ∀ k, honest k → P.edVerify k data sig = true → w.Signed k data

/-- Unforgeable signatures, for the signatures inside a proof on `data`. -/
def UnforgeableProof (w : Parties P) (honest : Bytes 32 → Prop) (data : List UInt8)
    (proof : AuthProof) : Prop :=
  w.Unforgeable honest data proof.signature ∧ ∀ bytes sig, proof = .certificate bytes sig →
      w.Unforgeable honest
        (signedFields (Certificate.decode bytes).subject (Certificate.decode bytes).notBefore
          (Certificate.decode bytes).notAfter)
        (Certificate.decode bytes).issuerSignature

/-- The ideal assumptions for the response an initiator is handed. -/
def IdealResponse (w : Parties P) (honest : Bytes 32 → Prop) (h : InitiatorHandshake)
    (response : HandshakeMessage) : Prop :=
  ∀ pk r sid sealedProof s keys, response = .response pk r sid sealedProof →
    P.dh h.keyPair.secret pk = some s →
    HandshakeKeys.derive P s (handshakeSalt P h.initiation.encode
      (HandshakeMessage.responsePublicBytes pk r sid)) = .ok keys →
    Authentic w.Sealed w.Secret keys.r2i (Bytes.zero 12) h.initiation.encode sealedProof.toList ∧
      ∀ m proof, P.aeadOpen keys.r2i (Bytes.zero 12) h.initiation.encode sealedProof.toList = some m →
        parseProof m = .ok proof →
        w.UnforgeableProof honest (serverInput h.initiation pk r sid) proof

/-- The ideal assumptions for the finish a responder is handed. -/
def IdealFinish (w : Parties P) (honest : Bytes 32 → Prop) (run : ResponderRun P)
    (fin : HandshakeMessage) : Prop :=
  ∀ sealedProof, fin = .finish sealedProof →
    Authentic w.Sealed w.Secret run.handshake.handshakeKeys.i2r (Bytes.zero 12)
        (run.initiation.encode ++ run.response.encode) sealedProof.toList ∧
      ∀ m proof, P.aeadOpen run.handshake.handshakeKeys.i2r (Bytes.zero 12)
          (run.initiation.encode ++ run.response.encode) sealedProof.toList = some m →
        parseProof m = .ok proof →
        w.UnforgeableProof honest (clientInput run.initiation run.response) proof

section
variable {w : Parties P} {d : P.Digest} {s : P.Shared}

/-- Under a responder's proof key only responses were sealed. -/
lemma Sealed.of_r2i (ideal : P.Ideal) {rec : SealRecord P} (h : w.Sealed rec)
    (label : P.hkdf d s infoR2i = some rec.key) :
    ∃ run, w.responder run ∧ run.handshake.handshakeKeys.r2i = rec.key ∧
      run.response = .response (P.dhPublic run.secret) run.random run.handshake.sessionId
        (Bytes.ofList sealedProofLen rec.ciphertext) := by
  cases h with
  | response run _ response => exact ⟨_, run, rfl, response⟩
  | finish _ _ derive =>
    have labels := (ideal.hkdf_inj (HandshakeKeys.derive_ok.1 derive).2 label).2.2
    exact absurd labels (by decide)
  | initiatorTraffic _ done =>
    obtain ⟨_, _, send⟩ := InitiatorRun.send_label done
    exact absurd (ideal.hkdf_inj send label).2.2 (by decide)
  | responderTraffic _ done =>
    obtain ⟨_, _, send⟩ := ResponderRun.send_label done
    exact absurd (ideal.hkdf_inj send label).2.2 (by decide)

/-- Under a proof key of the initiator, honest parties sealed only finishes. -/
lemma Sealed.of_i2r (ideal : P.Ideal) {rec : SealRecord P} (h : w.Sealed rec)
    (label : P.hkdf d s infoI2r = some rec.key) :
    ∃ run o, w.initiator run ∧ run.progress = .done o ∧
      rec.aad = run.handshake.initiation.encode ++ o.response.encode ∧
      o.finish = .finish (Bytes.ofList sealedProofLen rec.ciphertext) := by
  cases h with
  | @response run _ _ _ _ _ =>
    obtain ⟨_, _, _, _, _, _, _, derive, _⟩ := run.spec
    have labels := (ideal.hkdf_inj (HandshakeKeys.derive_ok.1 derive).1 label).2.2
    exact absurd labels (by decide)
  | finish run done _ _ finish => exact ⟨_, _, run, done, rfl, finish⟩
  | initiatorTraffic _ done =>
    obtain ⟨_, _, send⟩ := InitiatorRun.send_label done
    exact absurd (ideal.hkdf_inj send label).2.2 (by decide)
  | responderTraffic _ done =>
    obtain ⟨_, _, send⟩ := ResponderRun.send_label done
    exact absurd (ideal.hkdf_inj send label).2.2 (by decide)

variable {k : Bytes 32} {run : ResponderRun P} {session : ProtectedSession P}
  {honest : Bytes 32 → Prop} {clock : Clock}

variable {sid : SessionId}

/-- A responder's input was signed in that exchange. -/
lemma Signed.of_serverInput {i : HandshakeMessage} (hi : i.isInitiation = true) {pk r : Bytes 32}
    (h : w.Signed k (serverInput i pk r sid)) :
    ∃ run, w.responder run ∧ P.edPublic run.identity.seed = k ∧ run.initiation = i ∧
      P.dhPublic run.secret = pk ∧ run.random = r ∧ run.handshake.sessionId = sid := by
  generalize eq : serverInput i pk r sid = data at h
  cases h with
  | @server run member =>
    obtain ⟨rfl, rfl, rfl, rfl⟩ := serverInput_inj hi run.isInitiation eq
    exact ⟨run, member, rfl, rfl, rfl, rfl, rfl⟩
  | client _ _ => exact absurd eq serverInput_ne_clientInput
  | certificate _ => exact absurd eq (serverInput_ne_signedFields hi)

/-- An initiator's input was signed by one that finished this exchange. -/
lemma Signed.of_clientInput {i r : HandshakeMessage} (hi : i.isInitiation = true)
    (h : w.Signed k (clientInput i r)) : ∃ run o, w.initiator run ∧ run.progress = .done o ∧
      P.edPublic run.handshake.identity.seed = k ∧ run.handshake.initiation = i ∧
      o.response = r := by
  generalize eq : clientInput i r = data at h
  cases h with
  | server _ => exact absurd eq.symm serverInput_ne_clientInput
  | @client run o member done =>
    obtain ⟨rfl, rfl⟩ := clientInput_inj hi run.isInitiation eq
    exact ⟨run, o, member, done, rfl, rfl, rfl⟩
  | certificate _ => exact absurd eq (clientInput_ne_signedFields hi)

lemma Signed.of_signedFields {k subject : Bytes 32} {notBefore notAfter : UInt64}
    (h : w.Signed k (signedFields subject notBefore notAfter)) :
    w.issued k subject notBefore notAfter := by
  generalize eq : signedFields subject notBefore notAfter = data at h
  cases h with
  | @server run _ => exact absurd eq.symm (serverInput_ne_signedFields run.isInitiation)
  | @client run _ _ _ => exact absurd eq.symm (clientInput_ne_signedFields run.isInitiation)
  | certificate issued =>
    obtain ⟨rfl, rfl, rfl⟩ := signedFields_inj eq
    exact issued

/-- The responder accepted an initiation with this initiator's key. -/
def Answers (run : ResponderRun P) (peer : InitiatorRun P) : Prop :=
  ∃ random cookie mac1,
    run.initiation = .initiation (P.dhPublic peer.handshake.keyPair.secret) random cookie mac1

lemma Answers.of_initiation {peer : InitiatorRun P}
    (eq : peer.handshake.initiation = run.initiation) : Answers run peer := by
  obtain ⟨random, cookie, mac1, shape⟩ := peer.shape
  exact ⟨random, cookie, mac1, by rw [← eq, shape]⟩

/-- A finish for an honest initiator's key was sent by it. -/
lemma sent_of_finished (ideal : P.Ideal) (fresh : w.Fresh) {peer : InitiatorRun P}
    (hrun : w.responder run) (hpeer : w.initiator peer) (answers : Answers run peer)
    {fin : HandshakeMessage} {remote : Option (Bytes 32)} (assumed : w.IdealFinish honest run fin)
    (ok : run.handshake.finish fin clock = .ok (session, remote)) :
    ∃ o, peer.progress = .done o ∧ peer.handshake.initiation = run.initiation ∧
      o.response = run.response ∧ o.finish = fin := by
  obtain ⟨pk, _, _, _, _, shape, agree, derive, _, _, transcript⟩ := run.spec
  obtain ⟨sealedProof, response, m, _, _, rfl, found, opened, _⟩ := ResponderHandshake.finish_ok ok
  rw [transcript] at found opened
  cases found
  obtain ⟨random, cookie, mac1, shape'⟩ := answers
  rw [shape] at shape'
  cases shape'
  -- Both ephemeral secrets are honest, so only an honest party can have sealed the finish.
  have label := (HandshakeKeys.derive_ok.1 derive).2
  have secret := ideal.not_derivable (Secret.responder hrun) (Secret.initiator hpeer) agree label
  have logged := ((assumed sealedProof rfl).1 m opened).resolve_right secret
  obtain ⟨sender, o, hsender, done, aad, finish⟩ := logged.of_i2r ideal label
  obtain ⟨initiation, response⟩ := List.append_inj aad (by
    rw [HandshakeMessage.length_encode_initiation run.isInitiation,
      HandshakeMessage.length_encode_initiation sender.isInitiation])
  have initiation := HandshakeMessage.encode_inj initiation
  have response := HandshakeMessage.encode_inj response
  -- The initiation carries the ephemeral key, which only one initiator has.
  obtain ⟨_, _, _, shape'⟩ := sender.shape
  rw [← initiation, shape] at shape'
  have same : sender = peer :=
    fresh.initiator hsender hpeer (HandshakeMessage.initiation.inj shape').1.symm
  subst same
  refine ⟨o, done, initiation.symm, response.symm, ?_⟩
  rw [finish, Bytes.ofList_toList]

/-- A finish from an honest key was sent by its initiator. -/
lemma initiator_of_finished (ideal : P.Ideal) (fresh : w.Fresh) (hrun : w.responder run)
    {fin : HandshakeMessage} (hk : honest k) (assumed : w.IdealFinish honest run fin)
    (ok : run.handshake.finish fin clock = .ok (session, some k)) :
    ∃ peer o, w.initiator peer ∧ P.edPublic peer.handshake.identity.seed = k ∧
      peer.progress = .done o ∧ peer.handshake.initiation = run.initiation ∧
      o.response = run.response ∧ o.finish = fin := by
  obtain ⟨_, _, _, _, _, _, _, _, _, _, transcript⟩ := run.spec
  obtain ⟨sealedProof, response, m, proof, _, eq, found, opened, parsed, verified, _⟩ :=
    ResponderHandshake.finish_ok ok
  rw [transcript] at found opened verified
  cases found
  obtain ⟨k', eqk, signature, _⟩ := verifyProof_ok verified
  cases eqk
  have signed := ((assumed sealedProof eq).2 m proof opened parsed).1 k hk signature
  obtain ⟨peer, _, hpeer, _, key, initiation, _⟩ := signed.of_clientInput run.isInitiation
  obtain ⟨o, done, sent⟩ :=
    sent_of_finished ideal fresh hrun hpeer (.of_initiation initiation) assumed ok
  exact ⟨peer, o, hpeer, key, done, sent⟩

/-- A response from an honest key was produced by its responder. -/
lemma responder_of_finished (ideal : P.Ideal) (fresh : w.Fresh) {run : InitiatorRun P}
    (hrun : w.initiator run) {response : HandshakeMessage} {keyPhase : UInt32}
    {finish : HandshakeMessage} (hk : honest k)
    (assumed : w.IdealResponse honest run.handshake response)
    (ok : run.handshake.finishForSession P response sid keyPhase clock =
      .ok (finish, session, some k)) :
    ∃ peer, w.responder peer ∧ P.edPublic peer.identity.seed = k ∧
      peer.initiation = run.handshake.initiation ∧ peer.response = response := by
  obtain ⟨pk, r, sealedProof, s, keys, proof, _, _, rfl, _, opened, verified, _⟩ :=
    InitiatorHandshake.finishForSession_ok ok
  obtain ⟨agree, derive, m, decrypted, parsed⟩ := InitiatorHandshake.openProof_ok.1 opened
  obtain ⟨authentic, unforgeable⟩ := assumed pk r sid sealedProof s keys rfl agree derive
  obtain ⟨k', eqk, signature, _⟩ := verifyProof_ok verified
  cases eqk
  have signed := (unforgeable m proof decrypted parsed).1 k hk signature
  obtain ⟨peer, hpeer, key, initiation, rfl, rfl, rfl⟩ := signed.of_serverInput run.isInitiation
  -- The signer's ephemeral secret is honest, so only an honest party can have sealed the proof.
  have label := (HandshakeKeys.derive_ok.1 derive).1
  have secret := ideal.not_derivable (Secret.initiator hrun) (Secret.responder hpeer) agree label
  have logged := (authentic m decrypted).resolve_right secret
  obtain ⟨sender, hsender, sameKey, produced⟩ := logged.of_r2i ideal label
  obtain ⟨_, _, _, _, _, _, _, derive', _⟩ := sender.spec
  have label' := (HandshakeKeys.derive_ok.1 derive').1
  rw [sameKey] at label'
  have salts := ideal.sha256_inj (ideal.hkdf_inj label' label).1
  obtain ⟨_, public'⟩ := List.append_inj salts (by
    rw [HandshakeMessage.length_encode_initiation run.isInitiation,
      HandshakeMessage.length_encode_initiation sender.isInitiation])
  have same : sender = peer :=
    fresh.responder hsender hpeer (HandshakeMessage.responsePublicBytes_inj public').1
  subst same
  refine ⟨sender, hpeer, key, initiation, ?_⟩
  rw [produced, Bytes.ofList_toList]

/-- The proof carries the certificate and its subject's signature. -/
def Certifies (h : InitiatorHandshake) (response : HandshakeMessage) (certificate : Certificate) : Prop :=
  ∃ pk r sid sealedProof bytes signature, response = .response pk r sid sealedProof ∧
    (∃ (s : P.Shared) (keys : HandshakeKeys P),
      h.openProof P pk r sid sealedProof = .ok (s, keys, .certificate bytes signature)) ∧
    Certificate.decode bytes = certificate ∧
    P.edVerify certificate.subject (serverInput h.initiation pk r sid) signature = true

/-- In certificate mode only the holder of a valid certificate is accepted. -/
lemma certified_of_finished {h : InitiatorHandshake} {response : HandshakeMessage}
    {keyPhase : UInt32} {finish : HandshakeMessage} {remote : Option (Bytes 32)} {ca : Bytes 32}
    (hca : honest ca) (verifier : h.verifier = .certificate ca)
    (assumed : w.IdealResponse honest h response)
    (ok : h.finishForSession P response sid keyPhase clock = .ok (finish, session, remote)) :
    ∃ certificate, remote = some certificate.subject ∧ Certifies (P := P) h response certificate ∧
      w.issued ca certificate.subject certificate.notBefore certificate.notAfter ∧
      certificate.notBefore.toNat ≤ clock.unix ∧ clock.unix ≤ certificate.notAfter.toNat := by
  obtain ⟨pk, r, sealedProof, s, keys, proof, _, _, rfl, _, opened, verified, _⟩ :=
    InitiatorHandshake.finishForSession_ok ok
  obtain ⟨agree, derive, m, decrypted, parsed⟩ := InitiatorHandshake.openProof_ok.1 opened
  obtain ⟨_, unforgeable⟩ := assumed pk r sid sealedProof s keys rfl agree derive
  obtain ⟨k, rfl, onExchange, trusted⟩ := verifyProof_ok verified
  rw [verifier] at trusted
  obtain ⟨bytes, sig, rfl, rfl, valid⟩ := trusted
  obtain ⟨lo, hi, signature⟩ := Certificate.verify_spec valid
  have signed := (unforgeable m _ decrypted parsed).2 bytes sig rfl ca hca signature
  exact ⟨Certificate.decode bytes, rfl, ⟨pk, r, sid, sealedProof, bytes, sig, rfl, ⟨s, keys, opened⟩, rfl,
    onExchange⟩, signed.of_signedFields, lo, hi⟩

/-- Two ends with the same messages hold the same id and mirrored keys. -/
lemma mirrored_of_messages (ideal : P.Ideal) {run : InitiatorRun P} {o : InitiatorOutcome P}
    {peer : ResponderRun P} {o' : ResponderOutcome P} (done : run.progress = .done o)
    (done' : peer.progress = .done o') (initiation : run.handshake.initiation = peer.initiation)
    (response : o.response = peer.response) (finish : o.finish = o'.finish) :
    o.session.sessionId = o'.session.sessionId ∧ o.session.keys.send = o'.session.keys.receive ∧
      o.session.keys.receive = o'.session.keys.send := by
  obtain ⟨pk, _, _, _, _, shape, agree', _, _, produced, transcript⟩ := peer.spec
  obtain ⟨pk', r, sealedProof, s, _, _, _, keys, eq, _, opened, _, _, _, derive, session⟩ :=
    InitiatorHandshake.finishForSession_ok (run.finished o done)
  obtain ⟨_, _, _, _, keys', _, found, _, _, _, derive', session'⟩ :=
    ResponderHandshake.finish_ok (peer.finished o' done')
  obtain ⟨agree, _⟩ := InitiatorHandshake.openProof_ok.1 opened
  obtain ⟨_, _, _, shape'⟩ := run.shape
  rw [transcript] at found derive'
  cases found
  rw [initiation, shape] at shape'
  rw [response, produced] at eq
  cases shape'
  obtain ⟨rfl, rfl, sameId, rfl⟩ := HandshakeMessage.response.inj eq
  -- The two Diffie-Hellman results agree, and so do the hashed transcripts.
  rw [ideal.dh_comm, agree'] at agree
  cases agree
  rw [initiation, response, finish] at derive
  obtain ⟨c2s, s2c, hc, hs, rfl⟩ := SessionKeys.derive_ok.1 derive
  obtain ⟨c2s', s2c', hc', hs', rfl⟩ := SessionKeys.derive_ok.1 derive'
  rw [hc] at hc'
  rw [hs] at hs'
  cases hc'
  cases hs'
  rw [session, session']
  exact ⟨sameId.symm, rfl, rfl⟩

end

/-!
The assumptions are no restriction on honest exchanges, nor on an attacker who answers under a
certificate of its own: with correct primitives, what either sends meets them.
-/

section
variable {w : Parties P} (correct : P.Correct)
  (own : ∀ k seed m, P.edVerify k m (P.edSign seed m) = true → k = P.edPublic seed)
  (honest : Bytes 32 → Prop)
include correct own

omit own in
lemma opened_proof {k : P.Key} {n : Bytes 12} {a c m : List UInt8} {proof : AuthProof}
    (sealing : P.aeadSeal k n a proof.encodeBody = some c)
    (opened : P.aeadOpen k n a (Bytes.ofList sealedProofLen c).toList = some m) :
    (Bytes.ofList sealedProofLen c).toList = c ∧ m = proof.encodeBody ∧
      parseProof m = .ok proof := by
  have len : c.length = sealedProofLen := by
    rw [P.aeadSeal_length sealing, AuthProof.length_encodeBody]
    rfl
  have same := Bytes.toList_ofList len
  rw [same, correct.open_seal sealing] at opened
  have eq := (Option.some.inj opened).symm
  refine ⟨same, eq, ?_⟩
  rw [eq, parseProof, toBody, if_pos (AuthProof.length_encodeBody proof)]
  show (AuthProof.decodeBody _).mapError _ = _
  rw [AuthProof.decodeBody_encodeBody]
  rfl

variable {seed : Bytes 32}

omit correct in
lemma unforgeableProof_of_signed {data : List UInt8} (signed : w.Signed (P.edPublic seed) data) :
    w.UnforgeableProof honest data (produceProof P (.pinnedKey seed) data) := by
  refine ⟨?_, ?_⟩
  · intro k _ verified
    rw [own _ _ _ verified]
    exact signed
  · intro bytes sig eq
    cases eq

lemma idealResponse_of_honest {peer : ResponderRun P} (hpeer : w.responder peer)
    (pinned : peer.identity = .pinnedKey seed) {run : InitiatorRun P}
    (initiation : peer.initiation = run.handshake.initiation) :
    w.IdealResponse honest run.handshake peer.response := by
  intro pk r sid sealedProof s keys eq agree derive
  obtain ⟨pk', _, _, _, sealed, shape, agree', derive', sealing, produced, _⟩ := peer.spec
  obtain ⟨_, _, _, shape'⟩ := run.shape
  rw [← initiation, shape] at shape'
  cases shape'
  rw [produced] at eq
  obtain ⟨rfl, rfl, rfl, rfl⟩ := HandshakeMessage.response.inj eq
  rw [correct.dh_comm, agree'] at agree
  cases agree
  rw [← initiation] at derive ⊢
  rw [derive'] at derive
  cases derive
  have signed : w.Signed (P.edPublic seed)
      (serverInput peer.initiation (P.dhPublic peer.secret) peer.random peer.handshake.sessionId) := by
    have signed := Signed.server hpeer
    rw [pinned] at signed
    exact signed
  refine ⟨?_, ?_⟩
  · intro m opened
    obtain ⟨same, rfl, _⟩ := opened_proof correct sealing opened
    rw [same]
    exact .inl (.response hpeer sealing produced)
  · intro m proof opened parsed
    obtain ⟨_, _, parsed'⟩ := opened_proof correct sealing opened
    rw [parsed'] at parsed
    cases parsed
    rw [pinned]
    exact unforgeableProof_of_signed own honest signed

lemma idealFinish_of_honest {run : ResponderRun P} {peer : InitiatorRun P} {o : InitiatorOutcome P}
    (hpeer : w.initiator peer) (done : peer.progress = .done o)
    (pinned : peer.handshake.identity = .pinnedKey seed)
    (initiation : peer.handshake.initiation = run.initiation) (response : o.response = run.response) :
    w.IdealFinish honest run o.finish := by
  intro sealedProof eq
  obtain ⟨pk', _, _, _, _, shape, agree', derive', _, produced, _⟩ := run.spec
  obtain ⟨pk, r, _, s, keys, _, sealedFinish, _, eqResponse, _, opened, _, sealing, finish, _⟩ :=
    InitiatorHandshake.finishForSession_ok (peer.finished o done)
  obtain ⟨agree, derive, _⟩ := InitiatorHandshake.openProof_ok.1 opened
  obtain ⟨_, _, _, shape'⟩ := peer.shape
  rw [initiation, shape] at shape'
  cases shape'
  rw [response, produced] at eqResponse
  obtain ⟨rfl, rfl, sameId, rfl⟩ := HandshakeMessage.response.inj eqResponse
  rw [correct.dh_comm, agree'] at agree
  cases agree
  rw [initiation, ← sameId, derive'] at derive
  cases derive
  rw [finish] at eq
  obtain rfl := HandshakeMessage.finish.inj eq
  rw [pinned, initiation, response] at sealing
  have signed : w.Signed (P.edPublic seed) (clientInput run.initiation run.response) := by
    have signed := Signed.client hpeer done
    rw [pinned, initiation, response] at signed
    exact signed
  refine ⟨?_, ?_⟩
  · intro m opened
    obtain ⟨same, rfl, _⟩ := opened_proof correct sealing opened
    rw [same]
    have logged := Sealed.finish hpeer done derive' (by rw [initiation, response]; exact sealing)
      finish
    rw [initiation, response] at logged
    exact .inl logged
  · intro m proof opened parsed
    obtain ⟨_, _, parsed'⟩ := opened_proof correct sealing opened
    rw [parsed'] at parsed
    cases parsed
    exact unforgeableProof_of_signed own honest signed

/-- An attacker's response, with its own ephemeral and certified key. -/
lemma idealResponse_of_attacker {run : InitiatorRun P} {ca subject secret random : Bytes 32}
    {notBefore notAfter : UInt64} {verifier : AuthVerifier} {sid : SessionId} {keyPhase : UInt32}
    {h : ResponderHandshake P} {response : HandshakeMessage}
    (answer : ResponderHandshake.acceptForSession P
      (.certificate seed (issueCertificate P ca subject notBefore notAfter)) verifier
      run.handshake.initiation sid keyPhase (some secret) (some random) = .ok (h, response))
    (ephemeral : ∀ a, w.Secret a → P.dhPublic secret ≠ P.dhPublic a)
    (dishonest : ¬ honest (P.edPublic seed))
    (issued : w.issued (P.edPublic ca) subject notBefore notAfter) :
    w.IdealResponse honest run.handshake response := by
  obtain ⟨pk', _, _, _, _, _, s', keys', sealed, shape, eqs, eqr, agree', derive', sealing, produced,
    _⟩ := ResponderHandshake.acceptForSession_ok answer
  cases eqs
  cases eqr
  intro pk r sid' sealedProof s keys eq agree derive
  rw [produced] at eq
  obtain ⟨rfl, rfl, rfl, rfl⟩ := HandshakeMessage.response.inj eq
  obtain ⟨_, _, _, shape'⟩ := run.shape
  rw [shape'] at shape
  cases shape
  rw [correct.dh_comm, agree'] at agree
  cases agree
  rw [derive'] at derive
  cases derive
  refine ⟨?_, ?_⟩
  · intro m _
    exact .inr ⟨secret, _, _, _, _, ephemeral, agree', (HandshakeKeys.derive_ok.1 derive').1⟩
  · intro m proof opened parsed
    obtain ⟨_, _, parsed'⟩ := opened_proof correct sealing opened
    rw [parsed'] at parsed
    cases parsed
    refine ⟨?_, ?_⟩
    · intro k hk verified
      rw [own _ _ _ verified] at hk
      exact absurd hk dishonest
    · intro bytes sig eq
      obtain ⟨rfl, _⟩ := AuthProof.certificate.inj eq
      rw [Certificate.decode_encode]
      intro k _ verified
      rw [own _ _ _ verified]
      exact .certificate issued

end

end Parties
end Rvpn.Protocol
