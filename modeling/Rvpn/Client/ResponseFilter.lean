import Rvpn.Client.Handshake
import Rvpn.Lib.Transparent
import Rvpn.Protocol.Completeness

/-!
# The response filter

While `establish` waits for a response, `authenticates_response` decides which one it takes, and
`finish_for_session` then does the real check. Both rebuild the secret, the keys and the signed bytes on
their own; here they are written out twice, as in the source, and shown to accept the same responses.
-/

namespace Rvpn.Protocol
open Crypto

namespace InitiatorHandshake
variable (P : Primitives)

namespace Inline

def authenticatesResponse (h : InitiatorHandshake) (response : HandshakeMessage) (clock : Clock) :
    Except HandshakeError Bool :=
  match response with
  | .response publicKey random sessionId sealedProof =>
    match h.keyPair.agree P publicKey with
    | .error _ => .ok false
    | .ok sharedSecret =>
      let responsePublic := HandshakeMessage.responsePublicBytes publicKey random sessionId
      let salt := handshakeSalt P h.initiation.encode responsePublic
      match HandshakeKeys.derive P sharedSecret salt with
      | .error _ => .ok false
      | .ok handshakeKeys =>
        match handshakeKeys.openResponse h.initiation.encode sealedProof.toList with
        | .error _ => .ok false
        | .ok opened =>
          match toBody opened with
          | .error _ => .ok false
          | .ok body =>
            match AuthProof.decodeBody body with
            | .error _ => .ok false
            | .ok proof => do
              let transcript ← (HandshakeTranscript.new h.initiation).mapError .protocol
              let data ←
                (transcript.serverAuthenticationInput publicKey random sessionId).mapError .protocol
              return (verifyProof P h.verifier data proof clock.unix).isOk
  | _ => .error .unexpectedMessage

def finishForSession (h : InitiatorHandshake) (response : HandshakeMessage)
    (expectedSessionId : SessionId) (keyPhase : UInt32) (clock : Clock) :
    Except HandshakeError (HandshakeMessage × ProtectedSession P × Option (Bytes 32)) :=
  match response with
  | .response publicKey random sessionId sealedProof =>
    if sessionId ≠ expectedSessionId then .error .unexpectedSession
    else do
    let sharedSecret ← (h.keyPair.agree P publicKey).mapError .crypto
    let responsePublic := HandshakeMessage.responsePublicBytes publicKey random sessionId
    let salt := handshakeSalt P h.initiation.encode responsePublic
    let handshakeKeys ← (HandshakeKeys.derive P sharedSecret salt).mapError .crypto
    let opened ← (handshakeKeys.openResponse h.initiation.encode sealedProof.toList).mapError
      fun _ => .authenticationFailed
    let body ← (toBody opened).mapError fun _ => .authenticationFailed
    let proof ← (AuthProof.decodeBody body).mapError .protocol
    let transcript ← (HandshakeTranscript.new h.initiation).mapError .protocol
    let data ← (transcript.serverAuthenticationInput publicKey random sessionId).mapError .protocol
    let remoteIdentity ← verifyProof P h.verifier data proof clock.unix
    let transcript ← (transcript.setResponse response).mapError .protocol
    let finishData ← transcript.clientAuthenticationInput.mapError .protocol
    let clientProof := produceProof P h.identity finishData
    let aad := h.initiation.encode ++ response.encode
    let sealedFinish ← (handshakeKeys.sealFinish aad clientProof.encodeBody).mapError .crypto
    let finish := HandshakeMessage.finish (Bytes.ofList sealedProofLen sealedFinish)
    let final ← (transcript.finalBytes finish).mapError .protocol
    let keys ← (SessionKeys.derive P sharedSecret (transcriptHash P final) .initiator).mapError
      .crypto
    return (finish, ProtectedSession.new P sessionId keyPhase keys clock.instant, remoteIdentity)
  | _ => .error .unexpectedMessage

end Inline

variable {P} {h : InitiatorHandshake}

/-- The steps that the model shares are those of `authenticates_response`. -/
lemma authenticatesResponse_inline (h : InitiatorHandshake) (response : HandshakeMessage)
    (clock : Clock) :
    Inline.authenticatesResponse P h response clock = h.authenticatesResponse P response clock := by
  cases response with
  | response pk r sid sealedProof =>
    unfold Inline.authenticatesResponse InitiatorHandshake.authenticatesResponse openProof parseProof
    simp only
    cases h.keyPair.agree P pk with
    | error e => rfl
    | ok shared =>
      simp only [Except.mapError, bind, Except.bind]
      cases HandshakeKeys.derive P shared (handshakeSalt P h.initiation.encode
          (HandshakeMessage.responsePublicBytes pk r sid)) with
      | error e => rfl
      | ok keys =>
        simp only
        cases keys.openResponse h.initiation.encode sealedProof.toList with
        | error e => rfl
        | ok opened =>
          simp only
          cases toBody opened with
          | error e => rfl
          | ok body =>
            simp only
            cases AuthProof.decodeBody body with
            | error e => rfl
            | ok proof =>
              simp only [pure, Except.pure]
              cases HandshakeTranscript.new h.initiation with
              | error e => rfl
              | ok transcript =>
                simp only
                cases transcript.serverAuthenticationInput pk r sid with
                | error e => rfl
                | ok data =>
                  simp only
                  cases verifyProof P h.verifier data proof clock.unix with
                  | error e => rfl
                  | ok remote => rfl
  | initiation pk r cookie mac1 => rfl
  | finish sealedProof => rfl
  | cookieReply cookie => rfl

lemma toBody_mapError (opened : List UInt8) :
    (toBody opened).mapError (fun _ => HandshakeError.authenticationFailed) = toBody opened := by
  unfold toBody
  split
  · rfl
  · rfl

/-- The steps that the model shares are those of `finish_for_session`. -/
lemma finishForSession_inline (h : InitiatorHandshake) (response : HandshakeMessage)
    (sid : SessionId) (keyPhase : UInt32) (clock : Clock) :
    Inline.finishForSession P h response sid keyPhase clock =
      h.finishForSession P response sid keyPhase clock := by
  cases response with
  | response pk r sid' sealedProof =>
    unfold Inline.finishForSession InitiatorHandshake.finishForSession openProof parseProof
    simp only [toBody_mapError, bind_assoc, pure_bind]
  | initiation pk r cookie mac1 => rfl
  | finish sealedProof => rfl
  | cookieReply cookie => rfl

/-- The response opens and the proof inside verifies. -/
def Authenticates (P : Primitives) (h : InitiatorHandshake) (pk r : Bytes 32) (sid : SessionId)
    (sealedProof : Bytes sealedProofLen) (clock : Clock) : Prop :=
  h.initiation.isInitiation = true ∧ ∃ s keys proof remote,
    h.openProof P pk r sid sealedProof = .ok (s, keys, proof) ∧
    verifyProof P h.verifier (serverInput h.initiation pk r sid) proof clock.unix = .ok remote

variable {pk r : Bytes 32} {sid : SessionId} {sealedProof : Bytes sealedProofLen} {clock : Clock}

lemma authenticatesResponse_iff :
    h.authenticatesResponse P (.response pk r sid sealedProof) clock = .ok true ↔
      Authenticates P h pk r sid sealedProof clock := by
  unfold InitiatorHandshake.authenticatesResponse Authenticates
  simp only
  cases opened : h.openProof P pk r sid sealedProof with
  | error e => exact ⟨nofun, nofun⟩
  | ok result =>
    obtain ⟨s, keys, proof⟩ := result
    simp only [except_bind_ok, except_mapError_ok, transcript_new_ok]
    refine ⟨?_, ?_⟩
    · rintro ⟨t, ⟨isInit, rfl⟩, data, input, verified⟩
      cases input
      cases judged : verifyProof P h.verifier (serverInput h.initiation pk r sid) proof clock.unix with
      | error e =>
        have judged : verifyProof P h.verifier _ proof clock.unix = .error e := judged
        rw [judged] at verified
        cases verified
      | ok remote => exact ⟨isInit, s, keys, proof, remote, rfl, judged⟩
    · rintro ⟨isInit, s, keys, proof, remote, eq, verified⟩
      cases eq
      refine ⟨_, ⟨isInit, rfl⟩, _, rfl, ?_⟩
      rw [verified]
      rfl

/-- An authentic response is finished if sealing and derivation succeed. -/
lemma finishForSession_iff (hkdf_total : ∀ d s i, ∃ k, P.hkdf d s i = some k)
    (seal_total : ∀ k n a m, ∃ c, P.aeadSeal k n a m = some c) (keyPhase : UInt32) :
    (∃ outcome, h.finishForSession P (.response pk r sid sealedProof) sid keyPhase clock =
        .ok outcome) ↔ Authenticates P h pk r sid sealedProof clock := by
  refine ⟨?_, ?_⟩
  · rintro ⟨⟨message, session, remote⟩, ok⟩
    obtain ⟨pk', r', sealedProof', s, keys, proof, _, _, same, isInit, opened, verified, _⟩ :=
      finishForSession_ok ok
    cases same
    exact ⟨isInit, s, keys, proof, remote, opened, verified⟩
  · rintro ⟨isInit, s, keys, proof, remote, opened, verified⟩
    obtain ⟨sealed, sealing⟩ := seal_total keys.i2r (Bytes.zero 12)
      (h.initiation.encode ++ (HandshakeMessage.response pk r sid sealedProof).encode)
      (produceProof P h.identity
        (clientInput h.initiation (.response pk r sid sealedProof))).encodeBody
    obtain ⟨sessionKeys, derived⟩ := sessionKeys_total hkdf_total s (transcriptHash P
      (finalInput h.initiation (.response pk r sid sealedProof)
        (.finish (Bytes.ofList sealedProofLen sealed)))) .initiator
    exact ⟨_, finishForSession_of isInit opened verified sealing derived keyPhase⟩

end InitiatorHandshake
end Rvpn.Protocol

namespace Rvpn.Client
open Crypto Protocol

namespace Establish
variable {P : Primitives}

/-- The packet passes `establish`'s header checks and carries the response. -/
structure Offers (e : Establish P) (packet : Packet) (pk r : Bytes 32) (sid : SessionId)
    (sealedProof : Bytes sealedProofLen) : Prop where
  kind : packet.header.kind = e.kind
  own : e.old.isNone = true ∨ packet.header.sessionId = e.sessionId
  carried : HandshakeMessage.decode packet.payload = .ok (.response pk r sid sealedProof)
  advertised : packet.header.sessionId = sid

variable {e : Establish P} {packet : Packet} {pk r : Bytes 32} {sid : SessionId}
  {sealedProof : Bytes sealedProofLen}

/-- `establish` finishes the response for the session id it carries. -/
lemma Offers.finishResponse (offers : e.Offers packet pk r sid sealedProof) (h : InitiatorHandshake)
    (clock : Clock) : ∃ keyPhase, e.finishResponse h (.response pk r sid sealedProof) clock =
      h.finishForSession P (.response pk r sid sealedProof) sid keyPhase clock := by
  unfold Establish.finishResponse
  split
  · next old is =>
    have own : packet.header.sessionId = e.sessionId := by
      refine offers.own.resolve_left ?_
      rw [is]
      exact Bool.false_ne_true
    refine ⟨e.keyPhase, ?_⟩
    rw [← own, offers.advertised]
  · exact ⟨0, rfl⟩

lemma Offers.onResponse (offers : e.Offers packet pk r sid sealedProof) {h : InitiatorHandshake}
    {env : Env} (attempt : Nat)
    (authenticated : h.authenticatesResponse P (.response pk r sid sealedProof) env.clock = .ok true) :
    e.onResponse env attempt h packet = e.commit env h (.response pk r sid sealedProof) sid := by
  unfold Establish.onResponse Establish.hear
  rw [if_pos ⟨offers.kind, offers.own⟩, offers.carried]
  simp only
  rw [if_pos offers.advertised, authenticated]

end Establish

open InitiatorHandshake in
/-- The filter is `true` exactly for responses that can be finished for their session, in any phase.
-/
theorem response_filter_exact (P : Primitives) (hkdf_total : ∀ d s i, ∃ k, P.hkdf d s i = some k)
    (seal_total : ∀ k n a m, ∃ c, P.aeadSeal k n a m = some c) :
    (∀ (h : InitiatorHandshake) (response : HandshakeMessage) (keyPhase : UInt32) (clock : Clock),
      Inline.authenticatesResponse P h response clock = .ok true ↔
        ∃ pk r sid sealedProof outcome, response = .response pk r sid sealedProof ∧
          Inline.finishForSession P h response sid keyPhase clock = .ok outcome) ∧
      ∀ (e : Establish P) (env : Env) (attempt : Nat) (h : InitiatorHandshake) (packet : Packet)
        (pk r : Bytes 32) (sid : SessionId) (sealedProof : Bytes sealedProofLen),
        e.Offers packet pk r sid sealedProof →
        (h.authenticatesResponse P (.response pk r sid sealedProof) env.clock = .ok true →
          ∃ outcome, e.finishResponse h (.response pk r sid sealedProof) env.clock = .ok outcome) ∧
        ((∃ outcome, e.finishResponse h (.response pk r sid sealedProof) env.clock = .ok outcome) →
          e.onResponse env attempt h packet =
            e.commit env h (.response pk r sid sealedProof) sid) := by
  refine ⟨?_, ?_⟩
  · intro h response keyPhase clock
    rw [authenticatesResponse_inline]
    refine ⟨?_, ?_⟩
    · intro authenticated
      cases response with
      | response pk r sid sealedProof =>
        obtain ⟨outcome, ok⟩ := (finishForSession_iff hkdf_total seal_total keyPhase).2
          (authenticatesResponse_iff.1 authenticated)
        refine ⟨pk, r, sid, sealedProof, outcome, rfl, ?_⟩
        rw [finishForSession_inline]
        exact ok
      | initiation pk r cookie mac1 => cases authenticated
      | finish sealedProof => cases authenticated
      | cookieReply cookie => cases authenticated
    · rintro ⟨pk, r, sid, sealedProof, outcome, rfl, ok⟩
      rw [finishForSession_inline] at ok
      exact authenticatesResponse_iff.2
        ((finishForSession_iff hkdf_total seal_total keyPhase).1 ⟨outcome, ok⟩)
  · intro e env attempt h packet pk r sid sealedProof offers
    obtain ⟨keyPhase, finishes⟩ := offers.finishResponse h env.clock
    rw [finishes, finishForSession_iff hkdf_total seal_total, ← authenticatesResponse_iff]
    exact ⟨fun authenticated => authenticated, offers.onResponse attempt⟩

open InitiatorHandshake Primitives in
theorem response_filter_exact_transparent : (∀ d s i, ∃ k, transparent.hkdf d s i = some k) ∧
      (∀ k n a m, ∃ c, transparent.aeadSeal k n a m = some c) ∧
      ∀ (h : InitiatorHandshake) (response : HandshakeMessage) (keyPhase : UInt32) (clock : Clock),
        Inline.authenticatesResponse transparent h response clock = .ok true ↔
          ∃ pk r sid sealedProof outcome, response = .response pk r sid sealedProof ∧
            Inline.finishForSession transparent h response sid keyPhase clock = .ok outcome := by
  refine ⟨transparent_correct.hkdf_total, transparent_correct.seal_total, ?_⟩
  exact (response_filter_exact transparent transparent_correct.hkdf_total
    transparent_correct.seal_total).1

end Rvpn.Client
