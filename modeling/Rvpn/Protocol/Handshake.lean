import Rvpn.Crypto.Identity
import Rvpn.Lib.Run
import Rvpn.Protocol.Packet

/-!
# Handshake messages and transcripts

Model of `crates/rvpn-protocol/src/handshake.rs`: the four handshake messages, the proofs that travel
sealed inside them, and the transcript from which both ends compute what they sign and hash. The
encodings determine the messages, and the signed inputs of the two roles are apart. `HandshakeState` is
the order of the messages; no application uses it.
-/

namespace Rvpn.Protocol
open Crypto

/-- `PROOF_BODY_LEN`. -/
def proofBodyLen : Nat := 1 + 112 + 64

/-- `SEALED_PROOF_LEN`. -/
def sealedProofLen : Nat := proofBodyLen + 16

/-- `INITIATION_LEN`. -/
def initiationLen : Nat := 1 + 32 + 32 + 1 + 32 + 16

/-- `RESPONSE_PUBLIC_LEN`. -/
def responsePublicLen : Nat := 1 + 32 + 32 + 16

/-- `RESPONSE_LEN`. -/
def responseLen : Nat := responsePublicLen + sealedProofLen

/-- `FINISH_LEN`. -/
def finishLen : Nat := 1 + sealedProofLen

/-- `COOKIE_REPLY_LEN`. -/
def cookieReplyLen : Nat := 1 + 32

/-- `SERVER_AUTH_DOMAIN`. -/
def serverAuthDomain : List UInt8 := ascii "/handshake/server"

/-- `CLIENT_AUTH_DOMAIN`. -/
def clientAuthDomain : List UInt8 := ascii "/handshake/client"

/-- `TRANSCRIPT_DOMAIN`. -/
def transcriptDomain : List UInt8 := ascii "/handshake/transcript"

/-- `AuthProof`: a signature, with or without a certificate. -/
inductive AuthProof where
  | pinnedKey (signature : Bytes 64)
  | certificate (certificate : Bytes 112) (signature : Bytes 64)
  deriving DecidableEq

namespace AuthProof

def signature : AuthProof → Bytes 64
  | .pinnedKey sig => sig
  | .certificate _ sig => sig

/-- `AuthProof::encode_body`: zero-padded to one length. -/
def encodeBody : AuthProof → List UInt8
  | .pinnedKey sig => 0 :: (sig.toList ++ List.replicate 112 0)
  | .certificate cert sig => 1 :: (cert.toList ++ sig.toList)

/-- `AuthProof::decode_body`. -/
def decodeBody (bytes : Bytes proofBodyLen) : Except ProtocolError AuthProof :=
  match bytes.toList with
  | 0 :: rest => .ok (.pinnedKey (Bytes.ofList 64 (rest.take 64)))
  | 1 :: rest =>
    .ok (.certificate (Bytes.ofList 112 (rest.take 112)) (Bytes.ofList 64 (rest.drop 112)))
  | _ => .error .invalidHandshake

@[simp] lemma length_encodeBody (p : AuthProof) : p.encodeBody.length = proofBodyLen := by
  cases p with
  | pinnedKey sig => simp [encodeBody, proofBodyLen]
  | certificate cert sig => simp [encodeBody, proofBodyLen]

lemma decodeBody_encodeBody (p : AuthProof) :
    decodeBody (Bytes.ofList proofBodyLen p.encodeBody) = .ok p := by
  rw [decodeBody, Bytes.toList_ofList (length_encodeBody p)]
  cases p with
  | pinnedKey sig =>
    simp only [encodeBody]
    rw [List.take_left' (by simp), Bytes.ofList_toList]
  | certificate cert sig =>
    simp only [encodeBody]
    rw [List.take_left' (by simp), List.drop_left' (by simp), Bytes.ofList_toList,
      Bytes.ofList_toList]

end AuthProof

/-- `HandshakeMessage`. -/
inductive HandshakeMessage where
  | initiation (publicKey random : Bytes 32) (cookie : Option (Bytes 32)) (mac1 : Bytes 16)
  | response (publicKey random : Bytes 32) (sessionId : SessionId)
      (sealedProof : Bytes sealedProofLen)
  | finish (sealedProof : Bytes sealedProofLen)
  | cookieReply (cookie : Bytes 32)
  deriving DecidableEq

namespace HandshakeMessage

def cookieBytes : Option (Bytes 32) → List UInt8
  | some cookie => 1 :: cookie.toList
  | none => 0 :: List.replicate 32 0

/-- `mac1_input`. -/
def mac1Input (publicKey random : Bytes 32) (cookie : Option (Bytes 32)) : List UInt8 :=
  1 :: (publicKey.toList ++ (random.toList ++ cookieBytes cookie))

/-- `HandshakeMessage::compute_mac1`. -/
def computeMac1 (P : Primitives) (key : Mac1Key) (publicKey random : Bytes 32)
    (cookie : Option (Bytes 32)) : Bytes 16 :=
  key.compute P (mac1Input publicKey random cookie)

/-- `HandshakeMessage::verify_mac1`. -/
def verifyMac1 (P : Primitives) (key : Mac1Key) : HandshakeMessage → Bool
  | .initiation publicKey random cookie mac1 =>
    key.verify P (mac1Input publicKey random cookie) mac1
  | _ => false

/-- `HandshakeMessage::response_public_bytes`. -/
def responsePublicBytes (publicKey random : Bytes 32) (sessionId : SessionId) : List UInt8 :=
  2 :: (publicKey.toList ++ (random.toList ++ sessionId.bytes.toList))

/-- `HandshakeMessage::encode`. -/
def encode : HandshakeMessage → List UInt8
  | .initiation publicKey random cookie mac1 =>
    1 :: (publicKey.toList ++ (random.toList ++ (cookieBytes cookie ++ mac1.toList)))
  | .response publicKey random sessionId sealedProof =>
    2 :: (publicKey.toList ++ (random.toList ++ (sessionId.bytes.toList ++ sealedProof.toList)))
  | .finish sealedProof => 3 :: sealedProof.toList
  | .cookieReply cookie => 4 :: cookie.toList

/-- `HandshakeMessage::decode`; any flag but one means no cookie. -/
def decode (input : List UInt8) : Except ProtocolError HandshakeMessage :=
  match input with
  | [] => .error .invalidHandshake
  | kind :: rest =>
    if kind = 1 then
      if input.length ≠ initiationLen then .error .invalidHandshake
      else
        .ok (.initiation (Bytes.ofList 32 (rest.take 32)) (Bytes.ofList 32 ((rest.drop 32).take 32))
          (if (rest.drop 64).head? = some 1 then some (Bytes.ofList 32 ((rest.drop 65).take 32))
            else none)
          (Bytes.ofList 16 (rest.drop 97)))
    else if kind = 2 then
      if input.length ≠ responseLen then .error .invalidHandshake
      else
        .ok (.response (Bytes.ofList 32 (rest.take 32)) (Bytes.ofList 32 ((rest.drop 32).take 32))
          ⟨Bytes.ofList 16 ((rest.drop 64).take 16)⟩ (Bytes.ofList sealedProofLen (rest.drop 80)))
    else if kind = 3 then
      if input.length ≠ finishLen then .error .invalidHandshake
      else .ok (.finish (Bytes.ofList sealedProofLen rest))
    else if kind = 4 then
      if input.length ≠ cookieReplyLen then .error .invalidHandshake
      else .ok (.cookieReply (Bytes.ofList 32 rest))
    else .error .invalidHandshake

def isInitiation : HandshakeMessage → Bool
  | .initiation .. => true
  | _ => false

def isResponse : HandshakeMessage → Bool
  | .response .. => true
  | _ => false

def isFinish : HandshakeMessage → Bool
  | .finish .. => true
  | _ => false

@[simp] lemma length_cookieBytes (cookie : Option (Bytes 32)) : (cookieBytes cookie).length = 33 := by
  cases cookie with
  | none => simp [cookieBytes]
  | some cookie => simp [cookieBytes]

variable {m : HandshakeMessage}

lemma length_encode_initiation (h : m.isInitiation = true) : m.encode.length = initiationLen := by
  cases m with
  | initiation publicKey random cookie mac1 => simp [encode, initiationLen]
  | _ => cases h

lemma length_encode_response (h : m.isResponse = true) : m.encode.length = responseLen := by
  cases m with
  | response publicKey random sessionId sealedProof =>
    simp [encode, responseLen, responsePublicLen]
    omega
  | _ => cases h

@[simp] lemma length_responsePublicBytes (publicKey random : Bytes 32) (sessionId : SessionId) :
    (responsePublicBytes publicKey random sessionId).length = responsePublicLen := by
  simp [responsePublicBytes, responsePublicLen]

lemma responsePublicBytes_inj {pk pk' r r' : Bytes 32} {s s' : SessionId}
    (eq : responsePublicBytes pk r s = responsePublicBytes pk' r' s') : pk = pk' ∧ r = r' ∧ s = s' := by
  obtain ⟨key, eq⟩ := List.append_inj (List.cons.inj eq).2 (by simp)
  obtain ⟨random, session⟩ := List.append_inj eq (by simp)
  exact ⟨Bytes.toList_inj.1 key, Bytes.toList_inj.1 random,
    SessionId.ext (Bytes.toList_inj.1 session)⟩

/-- Decoding an encoded message gives the message back. -/
theorem decode_encode (m : HandshakeMessage) : decode m.encode = .ok m := by
  cases m with
  | initiation pk r c t =>
    have len := length_encode_initiation (m := .initiation pk r c t) rfl
    have drop32 : ∀ l, (pk.toList ++ l).drop 32 = l := fun l => List.drop_left' (by simp)
    have drop64 : ∀ l, (pk.toList ++ (r.toList ++ l)).drop 64 = l := by
      intro l
      rw [← List.append_assoc, List.drop_left' (by simp)]
    have drop97 : ∀ l, (pk.toList ++ (r.toList ++ (cookieBytes c ++ l))).drop 97 = l := by
      intro l
      rw [← List.append_assoc, ← List.append_assoc, List.drop_left' (by simp)]
    -- the cookie is read one byte further on than its flag
    have drop65 : ∀ l, (pk.toList ++ (r.toList ++ (cookieBytes c ++ l))).drop 65 =
        (cookieBytes c).drop 1 ++ l := by
      intro l
      rw [show 65 = 64 + 1 from rfl, ← List.drop_drop, drop64, List.drop_append_of_le_length]
      simp
    rw [encode] at len ⊢
    rw [decode, if_pos rfl, if_neg (by simp [len])]
    rw [List.take_left' (by simp), drop32, List.take_left' (by simp), drop64, drop97, drop65]
    cases c with
    | none => simp [cookieBytes]
    | some c => simp [cookieBytes, List.take_left']
  | response pk r s p =>
    have len := length_encode_response (m := .response pk r s p) rfl
    have drop32 : ∀ l, (pk.toList ++ l).drop 32 = l := fun l => List.drop_left' (by simp)
    have drop64 : ∀ l, (pk.toList ++ (r.toList ++ l)).drop 64 = l := by
      intro l
      rw [← List.append_assoc, List.drop_left' (by simp)]
    have drop80 : ∀ l, (pk.toList ++ (r.toList ++ (s.bytes.toList ++ l))).drop 80 = l := by
      intro l
      rw [← List.append_assoc, ← List.append_assoc, List.drop_left' (by simp)]
    rw [encode] at len ⊢
    rw [decode, if_neg (by decide), if_pos rfl, if_neg (by simp [len])]
    rw [List.take_left' (by simp), drop32, List.take_left' (by simp), drop64,
      List.take_left' (by simp), drop80]
    simp
  | finish p =>
    rw [encode, decode, if_neg (by decide), if_neg (by decide), if_pos rfl,
      if_neg (by simp [finishLen, Nat.add_comm]), Bytes.ofList_toList]
  | cookieReply c =>
    rw [encode, decode, if_neg (by decide), if_neg (by decide), if_neg (by decide), if_pos rfl,
      if_neg (by simp [cookieReplyLen]), Bytes.ofList_toList]

lemma encode_inj {m' : HandshakeMessage} (eq : m.encode = m'.encode) : m = m' :=
  RoundTrips.injective decode_encode eq

end HandshakeMessage

def join (domain : List UInt8) (parts : List (List UInt8)) : List UInt8 :=
  domain ++ parts.flatten

def serverInput (initiation : HandshakeMessage) (publicKey random : Bytes 32)
    (sessionId : SessionId) : List UInt8 :=
  join (domain serverAuthDomain)
    [initiation.encode, HandshakeMessage.responsePublicBytes publicKey random sessionId]

def clientInput (initiation response : HandshakeMessage) : List UInt8 :=
  join (domain clientAuthDomain) [initiation.encode, response.encode]

/-- What the session keys are salted with, before hashing. -/
def finalInput (initiation response finish : HandshakeMessage) : List UInt8 :=
  join (domain transcriptDomain) [initiation.encode, response.encode, finish.encode]

/-- `HandshakeTranscript`: the messages that are signed. -/
structure HandshakeTranscript where
  initiation : HandshakeMessage
  response : Option HandshakeMessage
  deriving DecidableEq

namespace HandshakeTranscript

/-- `HandshakeTranscript::new`. -/
def new (initiation : HandshakeMessage) : Except ProtocolError HandshakeTranscript :=
  if initiation.isInitiation then .ok { initiation := initiation, response := none }
  else .error .invalidHandshake

/-- `HandshakeTranscript::server_authentication_input`. -/
def serverAuthenticationInput (t : HandshakeTranscript) (publicKey random : Bytes 32)
    (sessionId : SessionId) : Except ProtocolError (List UInt8) :=
  .ok (serverInput t.initiation publicKey random sessionId)

/-- `set_response`. -/
def setResponse (t : HandshakeTranscript) (response : HandshakeMessage) :
    Except ProtocolError HandshakeTranscript :=
  if response.isResponse then .ok { t with response := some response } else .error .invalidHandshake

/-- `HandshakeTranscript::client_authentication_input`. -/
def clientAuthenticationInput (t : HandshakeTranscript) : Except ProtocolError (List UInt8) :=
  match t.response with
  | some response => .ok (clientInput t.initiation response)
  | none => .error .invalidHandshake

/-- `final_bytes`. -/
def finalBytes (t : HandshakeTranscript) (finish : HandshakeMessage) :
    Except ProtocolError (List UInt8) :=
  if finish.isFinish then
    match t.response with
    | some response => .ok (finalInput t.initiation response finish)
    | none => .error .invalidHandshake
  else .error .invalidHandshake

end HandshakeTranscript

variable {i i' : HandshakeMessage} {pk : Bytes 32} {s : SessionId}

lemma serverInput_inj (hi : i.isInitiation = true) (hi' : i'.isInitiation = true)
    {pk' r r' : Bytes 32} {s' : SessionId} (eq : serverInput i pk r s = serverInput i' pk' r' s') :
    i = i' ∧ pk = pk' ∧ r = r' ∧ s = s' := by
  have eq := List.append_cancel_left eq
  simp only [List.flatten_cons, List.flatten_nil, List.append_nil] at eq
  obtain ⟨initiation, public'⟩ := List.append_inj eq (by
    rw [HandshakeMessage.length_encode_initiation hi, HandshakeMessage.length_encode_initiation hi'])
  exact ⟨HandshakeMessage.encode_inj initiation, HandshakeMessage.responsePublicBytes_inj public'⟩

lemma clientInput_inj {r r' : HandshakeMessage} (hi : i.isInitiation = true)
    (hi' : i'.isInitiation = true) (eq : clientInput i r = clientInput i' r') :
    i = i' ∧ r = r' := by
  have eq := List.append_cancel_left eq
  simp only [List.flatten_cons, List.flatten_nil, List.append_nil] at eq
  obtain ⟨initiation, response⟩ := List.append_inj eq (by
    rw [HandshakeMessage.length_encode_initiation hi, HandshakeMessage.length_encode_initiation hi'])
  exact ⟨HandshakeMessage.encode_inj initiation, HandshakeMessage.encode_inj response⟩

lemma finalInput_inj {r r' f f' : HandshakeMessage} (hi : i.isInitiation = true)
    (hi' : i'.isInitiation = true) (hr : r.isResponse = true) (hr' : r'.isResponse = true)
    (eq : finalInput i r f = finalInput i' r' f') : i = i' ∧ r = r' ∧ f = f' := by
  have eq := List.append_cancel_left eq
  simp only [List.flatten_cons, List.flatten_nil, List.append_nil] at eq
  obtain ⟨initiation, eq⟩ := List.append_inj eq (by
    rw [HandshakeMessage.length_encode_initiation hi, HandshakeMessage.length_encode_initiation hi'])
  obtain ⟨response, finish⟩ := List.append_inj eq (by
    rw [HandshakeMessage.length_encode_response hr, HandshakeMessage.length_encode_response hr'])
  exact ⟨HandshakeMessage.encode_inj initiation, HandshakeMessage.encode_inj response,
    HandshakeMessage.encode_inj finish⟩

/-- The two roles sign under different domains. -/
lemma serverInput_ne_clientInput {r' : HandshakeMessage} {r : Bytes 32} :
    serverInput i pk r s ≠ clientInput i' r' := by
  intro eq
  obtain ⟨domains, _⟩ := List.append_inj eq (by decide)
  exact absurd domains (by decide)

/-- No signed handshake input is the signed part of a certificate. -/
lemma serverInput_ne_signedFields (hi : i.isInitiation = true) {r : Bytes 32} {subject : Bytes 32}
    {b a : UInt64} : serverInput i pk r s ≠ signedFields subject b a := by
  intro eq
  have len := congrArg List.length eq
  simp [serverInput, join, HandshakeMessage.length_encode_initiation hi, initiationLen] at len
  omega

lemma clientInput_ne_signedFields {r : HandshakeMessage} (hi : i.isInitiation = true)
    {subject : Bytes 32} {b a : UInt64} : clientInput i r ≠ signedFields subject b a := by
  intro eq
  have len := congrArg List.length eq
  simp [clientInput, join, HandshakeMessage.length_encode_initiation hi, initiationLen] at len
  omega

/-! ### The order of the messages -/

/-- The two ends of a handshake. -/
inductive HandshakeRole where
  | initiator
  | responder

/-- `HandshakeState`. -/
inductive HandshakeState where
  | new (role : HandshakeRole)
  | awaitingResponse
  | awaitingFinish
  | established

namespace HandshakeState

/-- `HandshakeState::on_send`. -/
def onSend : HandshakeState → HandshakeMessage → Except ProtocolError HandshakeState
  | .new .initiator, .initiation _ _ _ _ => .ok .awaitingResponse
  | .awaitingFinish, .response _ _ _ _ => .ok .awaitingFinish
  | .awaitingFinish, .finish _ => .ok .established
  | _, _ => .error .invalidHandshake

/-- `HandshakeState::on_receive`. -/
def onReceive : HandshakeState → HandshakeMessage → Except ProtocolError HandshakeState
  | .new .responder, .initiation _ _ _ _ => .ok .awaitingFinish
  | .awaitingResponse, .response _ _ _ _ => .ok .awaitingFinish
  | .awaitingFinish, .finish _ => .ok .established
  | _, _ => .error .invalidHandshake

inductive Event where
  | send (message : HandshakeMessage)
  | receive (message : HandshakeMessage)

/-- A message that is refused leaves the state as it was. -/
def step (s : HandshakeState) : Event → HandshakeState
  | .send message => (s.onSend message).toOption.getD s
  | .receive message => (s.onReceive message).toOption.getD s

/-- What moves a state on; a finish does in either direction. -/
inductive Need where
  | sentInitiation
  | receivedInitiation
  | receivedResponse
  | finish

def Need.Met : Need → Event → Prop
  | .sentInitiation, .send (.initiation _ _ _ _) => True
  | .receivedInitiation, .receive (.initiation _ _ _ _) => True
  | .receivedResponse, .receive (.response _ _ _ _) => True
  | .finish, .send (.finish _) => True
  | .finish, .receive (.finish _) => True
  | _, _ => False

def needs : HandshakeState → List Need
  | .new .initiator => [.sentInitiation, .receivedResponse, .finish]
  | .new .responder => [.receivedInitiation, .finish]
  | .awaitingResponse => [.receivedResponse, .finish]
  | .awaitingFinish => [.finish]
  | .established => []

lemma step_established (e : Event) : step .established e = .established := by
  cases e <;> rfl

lemma needs_step (s : HandshakeState) (e : Event) (n : Need) (rest : List Need)
    (found : s.needs = n :: rest) :
    n.Met e ∧ (step s e).needs = rest ∨ ¬ n.Met e ∧ step s e = s := by
  rcases s with (_ | _) | _ | _ | _ <;> cases found <;> rcases e with message | message <;>
    cases message <;> first | exact .inl ⟨trivial, rfl⟩ | exact .inr ⟨id, rfl⟩

/-- A handshake is established iff the messages it needs are in the run, in their order; a response
that is sent and the sender of the finish do not matter. -/
theorem established_iff_needs_met (s : HandshakeState) (es : List Event) :
    run step s es = .established ↔ ∃ met : List Event, met.Sublist es ∧ List.Forall₂ Need.Met s.needs met := by
  induction es generalizing s with
  | nil =>
    rcases s with (_ | _) | _ | _ | _ <;> simp [needs]
  | cons e es ih =>
    rw [run_cons, ih]
    cases found : s.needs with
    | nil =>
      obtain rfl : s = .established := by
        rcases s with (_ | _) | _ | _ | _ <;> first | rfl | cases found
      rw [step_established, found]
      simp
    | cons n rest =>
      obtain ⟨meets, next⟩ | ⟨fails, same⟩ := needs_step s e n rest found
      · rw [next]
        refine ⟨fun ⟨met, sub, all⟩ => ⟨e :: met, sub.cons_cons e, .cons meets all⟩, ?_⟩
        rintro ⟨_, sub, _ | ⟨_, all⟩⟩
        exact ⟨_, sub.tail, all⟩
      · rw [same, found]
        refine ⟨fun ⟨met, sub, all⟩ => ⟨met, sub.cons e, all⟩, ?_⟩
        rintro ⟨_, sub, _ | ⟨first, all⟩⟩
        cases sub with
        | cons _ sub => exact ⟨_, sub, .cons first all⟩
        | cons_cons _ sub => exact absurd first fails

/-- A responder that has sent no response sends the finish itself. -/
example {pk random cookie mac1 sealed} : run step (.new .responder)
    [.receive (.initiation pk random cookie mac1), .send (.finish sealed)] = .established :=
  rfl

end HandshakeState

end Rvpn.Protocol
