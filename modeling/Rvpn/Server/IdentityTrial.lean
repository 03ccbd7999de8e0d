import Rvpn.Client.Handshake
import Rvpn.Lib.Transparent
import Rvpn.Protocol.Completeness
import Rvpn.Server.Steps

/-!
# Trying the identities

The server does not know who sent an initiation: `begin_initial` answers once for every identity,
each time with a pending entry of its own, and the client commits to the first response whose proof
it accepts. That is the response of the client's own identity, whatever the order in which the responses
arrive, exactly if no other identity has the same server key.
-/

namespace Rvpn.Server
open Client (Establish Stage)
open Config Crypto Protocol

variable {P : Primitives}

def FreshIds (draws : Nat → HandshakeDraw) : Prop :=
  ∀ m n id, (draws m).sessionId = some id → (draws n).sessionId = some id → m = n

/-- The packet responds with the given authentication, and is pending. -/
def Answers (pending : PendingHandshakes P) (endpoint : SocketAddr) (initiation : HandshakeMessage)
    (packet : Packet) (source : PendingSource) (auth : AuthConfig) : Prop :=
  ∃ id handshake response ephemeral random, packet = handshakePacket .handshake 0 id response ∧
    pending.entries.lookup id = some (respondedEntry endpoint source id handshake response) ∧
    ResponderHandshake.acceptForSession P auth.identity auth.verifier initiation id 0 ephemeral
      random = .ok (handshake, response)

section
variable {pending : PendingHandshakes P} {endpoint : SocketAddr} {initiation : HandshakeMessage}
  {packet : Packet} {source source' : PendingSource} {auth auth' : AuthConfig} {draw : HandshakeDraw}

/-- The entry of a response stays while others are added under other ids. -/
lemma Answers.tryRespond (h : Answers pending endpoint initiation packet source auth)
    (other : draw.sessionId ≠ some packet.header.sessionId.bytes) :
    Answers (tryRespond pending endpoint initiation source' auth' draw).1 endpoint initiation packet
      source auth := by
  obtain ⟨id, handshake, response, ephemeral, random, rfl, found, accepted⟩ := h
  obtain same | ⟨id', handshake', response', drawn, _, eq⟩ :=
    tryRespond_cases pending endpoint initiation source' auth' draw
  · rw [same]
    exact ⟨id, handshake, response, ephemeral, random, rfl, found, accepted⟩
  · refine ⟨id, handshake, response, ephemeral, random, rfl, ?_, accepted⟩
    rw [eq]
    simp only [PendingHandshakes.insert, HashMap.lookup_insert_eq]
    rw [if_neg, found]
    rintro rfl
    exact other drawn

lemma answers_tryRespond
    (mem : packet ∈ (tryRespond pending endpoint initiation source auth draw).2) :
    draw.sessionId = some packet.header.sessionId.bytes ∧
      Answers (tryRespond pending endpoint initiation source auth draw).1 endpoint initiation packet
        source auth := by
  obtain same | ⟨id, handshake, response, drawn, accepted, eq⟩ :=
    tryRespond_cases pending endpoint initiation source auth draw
  · rw [same] at mem
    cases mem
  · rw [eq] at mem ⊢
    obtain rfl := List.mem_singleton.1 mem
    refine ⟨drawn, id, handshake, response, draw.ephemeral, draw.random, rfl, ?_, accepted⟩
    simp only [PendingHandshakes.insert, HashMap.lookup_insert_eq, if_true]

variable {limit : Nat} {numbered : List (PeerIdentity × HandshakeDraw)}

lemma Answers.tryIdentities (h : Answers pending endpoint initiation packet source auth)
    (other : ∀ entry ∈ numbered, entry.2.sessionId ≠ some packet.header.sessionId.bytes) :
    Answers (tryIdentities endpoint initiation limit numbered pending).1 endpoint initiation packet
      source auth := by
  induction numbered generalizing pending with
  | nil => exact h
  | cons entry rest ih =>
    obtain ⟨here, others⟩ := List.forall_mem_cons.1 other
    unfold Server.tryIdentities
    split
    · exact h
    · exact ih (h.tryRespond here) others

lemma answers_tryIdentities
    (fresh : numbered.Pairwise fun a b => ∀ id, a.2.sessionId = some id → b.2.sessionId ≠ some id)
    (mem : packet ∈ (tryIdentities endpoint initiation limit numbered pending).2) :
    ∃ entry ∈ numbered, entry.2.sessionId = some packet.header.sessionId.bytes ∧
      Answers (tryIdentities endpoint initiation limit numbered pending).1 endpoint initiation packet
        (.known entry.1) entry.1.auth := by
  induction numbered generalizing pending with
  | nil => cases mem
  | cons entry rest ih =>
    obtain ⟨identity, draw⟩ := entry
    obtain ⟨here, others⟩ := List.pairwise_cons.1 fresh
    unfold Server.tryIdentities at mem ⊢
    split
    · next full =>
      rw [if_pos full] at mem
      cases mem
    · next room =>
      rw [if_neg room] at mem
      rcases List.mem_append.1 mem with first | later
      · obtain ⟨drawn, answers⟩ := answers_tryRespond first
        refine ⟨(identity, draw), List.mem_cons_self, drawn, ?_⟩
        exact answers.tryIdentities fun entry mem => here entry mem _ drawn
      · obtain ⟨entry, mem, drawn, answers⟩ := ih others later
        exact ⟨entry, List.mem_cons_of_mem _ mem, drawn, answers⟩

end

variable {identities : List PeerIdentity} {draws : Nat → HandshakeDraw} {endpoint : SocketAddr}

lemma pairwise_numbered (fresh : FreshIds draws) :
    (identities.zip ((List.range identities.length).map draws)).Pairwise fun a b =>
      ∀ id, a.2.sessionId = some id → b.2.sessionId ≠ some id := by
  rw [List.pairwise_iff_getElem]
  intro i j _ _ lt id drawn drawn'
  simp only [List.getElem_zip, List.getElem_map, List.getElem_range] at drawn drawn'
  exact absurd (fresh i j id drawn drawn') (Nat.ne_of_lt lt)

/-- Identity `n` with draw `n`, or the authority with the one after. -/
def Origin (identities : List PeerIdentity) (draws : Nat → HandshakeDraw) (packet : Packet)
    (source : PendingSource) (auth : AuthConfig) : Prop :=
  ∃ n, (draws n).sessionId = some packet.header.sessionId.bytes ∧
    ((∃ identity, identities[n]? = some identity ∧ source = .known identity ∧
        auth = identity.auth) ∨
      ∃ ca, n = identities.length ∧ source = .certificateAuthority ca ∧ ca.toAuthConfig = .ok auth)

/-- Every packet is an answer, for an identity or for the authority. -/
def AllAnswers (identities : List PeerIdentity) (draws : Nat → HandshakeDraw)
    (result : PendingHandshakes P × List Packet) (endpoint : SocketAddr)
    (initiation : HandshakeMessage) : Prop :=
  ∀ packet ∈ result.2, ∃ source auth, Answers result.1 endpoint initiation packet source auth ∧
    Origin identities draws packet source auth

lemma answers_beginInitial (identities : List PeerIdentity)
    (certificateAuthority : Option CertificateAuthorityConfig) (pending : PendingHandshakes P)
    (endpoint : SocketAddr) (initiation : HandshakeMessage) (limit : Nat) (fresh : FreshIds draws) :
    AllAnswers identities draws (beginInitial identities certificateAuthority pending endpoint
      initiation limit draws) endpoint initiation := by
  intro packet mem
  -- the answers of the loop over the identities, whose ids differ from that of the authority
  have loop : packet ∈ (tryIdentities endpoint initiation limit
        (identities.zip ((List.range identities.length).map draws)) pending).2 →
      ∃ identity, Origin identities draws packet (.known identity) identity.auth ∧
        (draws identities.length).sessionId ≠ some packet.header.sessionId.bytes ∧
        Answers (tryIdentities endpoint initiation limit
          (identities.zip ((List.range identities.length).map draws)) pending).1 endpoint initiation
          packet (.known identity) identity.auth := by
    intro sent
    obtain ⟨entry, listed, drawn, answers⟩ := answers_tryIdentities (pairwise_numbered fresh) sent
    obtain ⟨n, known, eq⟩ := mem_numbered listed
    rw [eq] at drawn
    refine ⟨entry.1, ⟨n, drawn, .inl ⟨entry.1, known, rfl, rfl⟩⟩, ?_, answers⟩
    intro drawn'
    obtain ⟨bound, _⟩ := List.getElem?_eq_some_iff.1 known
    exact absurd (fresh n _ _ drawn drawn') (Nat.ne_of_lt bound)
  have outcome := beginInitial_outcome pending endpoint initiation limit identities
    certificateAuthority draws
  generalize beginInitial identities certificateAuthority pending endpoint initiation limit draws =
    result at outcome mem ⊢
  cases outcome with
  | refused => cases mem
  | known =>
    obtain ⟨identity, origin, _, answers⟩ := loop mem
    exact ⟨_, _, answers, origin⟩
  | authority _ _ ca auth known _ usable eq =>
    subst eq
    rcases List.mem_append.1 mem with sent | sent
    · obtain ⟨identity, origin, other, answers⟩ := loop sent
      exact ⟨_, _, answers.tryRespond other, origin⟩
    · obtain ⟨drawn, answers⟩ := answers_tryRespond sent
      exact ⟨_, _, answers, identities.length, drawn, .inr ⟨ca, rfl, rfl, usable⟩⟩

/-- A signature of `seed` verifies under the public key of `seed` only. -/
def SignatureNamesSigner (P : Primitives) : Prop :=
  ∀ k seed m, P.edVerify k m (P.edSign seed m) = true → k = P.edPublic seed

/-- A pinned key accepts the proofs that are signed with it only. -/
lemma verifyProof_pinned (correct : P.Correct) (signer : SignatureNamesSigner P)
    (expected : Bytes 32) (identity : AuthIdentity) (data : List UInt8) (now : Nat) :
    (verifyProof P (.pinnedKey expected) data (produceProof P identity data) now).toBool = true ↔
      ∃ seed, identity = .pinnedKey seed ∧ P.edPublic seed = expected := by
  cases identity with
  | certificate seed certificate =>
    refine ⟨?_, ?_⟩
    · intro h
      cases h
    · intro h
      obtain ⟨_, eq, _⟩ := h
      cases eq
  | pinnedKey seed =>
    simp only [produceProof, verifyProof]
    split
    · next verified =>
      refine ⟨fun _ => ⟨seed, rfl, ?_⟩, fun _ => rfl⟩
      exact (signer _ _ _ verified).symm
    · next refused =>
      refine ⟨?_, ?_⟩
      · intro h
        cases h
      · intro h
        obtain ⟨seed', eq, rfl⟩ := h
        cases eq
        exact absurd (correct.verify_sign seed data) refused

/-- The authentication signs with the key that belongs to the seed. -/
def SignsAs (P : Primitives) (auth : AuthConfig) (serverSeed : Bytes 32) : Prop :=
  ∃ seed, auth.identity = .pinnedKey seed ∧ P.edPublic seed = P.edPublic serverSeed

/-- The client of a peer: its key, pinning the server's key for it. -/
structure ClientOf (e : Establish P) (client : InitiatorHandshake) (serverSeed clientKey : Bytes 32) :
    Prop where
  initial : e.old = none
  retries : e.retryLimit ≠ 0
  identity : ∃ seed, client.identity = .pinnedKey seed ∧ P.edPublic seed = clientKey
  verifier : client.verifier = .pinnedKey (P.edPublic serverSeed)
  initiation : ∃ random cookie mac1,
    client.initiation = .initiation (P.dhPublic client.keyPair.secret) random cookie mac1

namespace ClientOf
variable {e : Establish P} {client : InitiatorHandshake} {serverSeed clientKey : Bytes 32}

lemma of_start {seed : Bytes 32} {ephemeral random : Option (Bytes 32)} {message : HandshakeMessage}
    (initial : e.old = none) (retries : e.retryLimit ≠ 0)
    (started : InitiatorHandshake.start P (.pinnedKey seed) (.pinnedKey (P.edPublic serverSeed))
      ephemeral random = .ok (client, message)) :
    ClientOf e client serverSeed (P.edPublic seed) := by
  obtain ⟨_, identity, verifier, random, mac1, initiation⟩ := InitiatorHandshake.start_ok started
  exact ⟨initial, retries, ⟨seed, identity, rfl⟩, verifier, random, none, mac1, initiation⟩

lemma attachCookie (own : ClientOf e client serverSeed clientKey) (cookie : Bytes 32) :
    ClientOf e (client.attachCookie P cookie) serverSeed clientKey := by
  obtain ⟨keyPair, identity, verifier, initiation⟩ :=
    InitiatorHandshake.attachCookie_spec cookie own.initiation
  refine ⟨own.initial, own.retries, ?_, verifier.trans own.verifier, ?_⟩
  · rw [identity]
    exact own.identity
  · rw [keyPair]
    exact initiation

end ClientOf

/-- The datagram carries the server's packet, and the client can answer. -/
def Carries (e : Establish P) (packet : Packet) (event : Client.Event × Client.Env) : Prop :=
  (∃ draw wire, wrap P e.obfuscation draw packet.encode = .ok wire ∧
    event.1 = .datagram e.server wire) ∧ event.2.wrap.isSome = true ∧ event.2.sends = true

section
variable {e : Establish P} {packet : Packet} {event : Client.Event × Client.Env} {attempt : Nat}
  {client : InitiatorHandshake}

lemma step_carries_response (h : Carries e packet event) :
    e.step (.response attempt client) event = e.onResponse event.2 attempt client packet := by
  obtain ⟨⟨draw, wire, wrapped, eq⟩, _⟩ := h
  simp only [Establish.step, eq, ne_eq, not_true_eq_false, if_false, decodeDatagram_wrap wrapped]

lemma step_carries_committed {finish : Packet} {session : ProtectedSession P}
    (h : Carries e packet event) (kind : packet.header.kind = .handshake) :
    e.step (.acknowledgment attempt finish session) event =
      (.acknowledgment attempt finish session, []) := by
  obtain ⟨⟨draw, wire, wrapped, eq⟩, _⟩ := h
  simp only [Establish.step, eq, ne_eq, not_true_eq_false, if_false, decodeDatagram_wrap wrapped,
    Establish.onAcknowledgment]
  rw [if_pos]
  exact .inr (by rw [kind]; decide)

lemma send_carries (h : Carries e packet event) (sent : Packet) (next : Stage P) :
    e.send event.2 sent next = (next, [sent]) := by
  obtain ⟨_, draws, sends⟩ := h
  unfold Establish.send Establish.transmit
  cases wrapped : wrap P e.obfuscation event.2.wrap sent.encode with
  | error err =>
    rw [(wrap_error wrapped).2] at draws
    cases draws
  | ok wire => simp only [sends, if_true]

variable {pending : PendingHandshakes P} {endpoint : SocketAddr} {source : PendingSource}
  {auth : AuthConfig} {serverSeed clientKey : Bytes 32}

/-- A response is judged by its signature alone. -/
lemma onResponse_answer {id : SessionId} {handshake : ResponderHandshake P}
    {response : HandshakeMessage} (correct : P.Correct) (own : ClientOf e client serverSeed clientKey)
    (x : Exchange client auth.identity auth.verifier id 0 handshake response) (env : Client.Env) :
    e.onResponse env attempt client (handshakePacket .handshake 0 id response) =
      match client.authenticatesResponse P response env.clock with
      | .error _ => (.failed, [])
      | .ok true => e.commit env client response id
      | .ok false => (.response attempt client, []) := by
  obtain ⟨pk, r, sealedProof, rfl, _⟩ := x.authenticatesResponse correct env.clock
  have kind : e.kind = .handshake := by rw [Establish.kind, own.initial]; rfl
  have heard : e.hear env.clock client (handshakePacket .handshake 0 id (.response pk r id sealedProof)) =
      match client.authenticatesResponse P (.response pk r id sealedProof) env.clock with
      | .error _ => .failed
      | .ok true => .response (.response pk r id sealedProof) id
      | .ok false => .other := by
    simp only [Establish.hear, handshakePacket, kind, own.initial, HandshakeMessage.decode_encode]
    rfl
  rw [Establish.onResponse, heard]
  cases client.authenticatesResponse P (.response pk r id sealedProof) env.clock with
  | error => rfl
  | ok accepted => cases accepted <;> rfl

/-- A response with another key leaves the client in its first loop. -/
lemma step_refused (correct : P.Correct) (signer : SignatureNamesSigner P)
    (own : ClientOf e client serverSeed clientKey) (carries : Carries e packet event)
    (answers : Answers pending endpoint client.initiation packet source auth)
    (other : ¬ SignsAs P auth serverSeed) :
    e.step (.response attempt client) event = (.response attempt client, []) := by
  rw [step_carries_response carries]
  obtain ⟨id, handshake, response, ephemeral, random, rfl, _, accepted⟩ := answers
  have x : Exchange client auth.identity auth.verifier id 0 handshake response :=
    ⟨own.initiation, ephemeral, random, accepted⟩
  obtain ⟨pk, r, sealedProof, _, judged⟩ := x.authenticatesResponse correct event.2.clock
  rw [onResponse_answer correct own x, judged, own.verifier]
  rw [Bool.eq_false_iff.2 ((verifyProof_pinned correct signer _ _ _ _).not.2 other)]

/-- The client commits to the key it pins; its own identity accepts it. -/
lemma step_accepted (attempt : Nat) (correct : P.Correct) (signer : SignatureNamesSigner P)
    (own : ClientOf e client serverSeed clientKey) (carries : Carries e packet event)
    (answers : Answers pending endpoint client.initiation packet source auth)
    (same : SignsAs P auth serverSeed) :
    ∃ finish session, (e.step (.response attempt client) event).1 = .acknowledgment 1 finish session ∧
      finish.header.sessionId = packet.header.sessionId ∧
      ∀ me, source = .known me → auth.verifier = .pinnedKey clientKey →
        ∀ parser clock, ∃ state session remote,
          Completes parser pending endpoint finish clock state session remote me ∧
          session.sessionId = finish.header.sessionId := by
  rw [step_carries_response carries]
  obtain ⟨id, handshake, response, ephemeral, random, rfl, found, accepted⟩ := answers
  have x : Exchange client auth.identity auth.verifier id 0 handshake response :=
    ⟨own.initiation, ephemeral, random, accepted⟩
  have judged : client.authenticatesResponse P response event.2.clock = .ok true := by
    obtain ⟨pk, r, sealedProof, _, judged⟩ := x.authenticatesResponse correct event.2.clock
    rw [judged, own.verifier, (verifyProof_pinned correct signer _ _ _ _).2 same]
  obtain ⟨pk, r, sealedProof, shape, _, sessionId, _, _, _⟩ := x.opened correct
  obtain ⟨finish, session, remote, finished, completes⟩ := x.finished correct judged 0
  have finished' : client.finish P response event.2.clock = .ok (finish, session, remote) := by
    rw [← finished, shape]
    rfl
  rw [onResponse_answer correct own x, judged]
  simp only [Establish.commit, Establish.finishResponse, own.initial, finished', own.retries,
    if_false, send_carries carries]
  refine ⟨_, session, rfl, rfl, ?_⟩
  intro me known verifier parser clock
  obtain ⟨seed, identity, key⟩ := own.identity
  obtain ⟨session', completed⟩ := completes clock (some clientKey) (by
    rw [verifier, identity, ← key]
    simp only [produceProof, verifyProof, correct.verify_sign, if_true])
  subst known
  refine ⟨_, session', some clientKey, ⟨found, rfl, ?_, ⟨finish, ?_, completed⟩, rfl⟩, ?_⟩
  · simp only [respondedEntry, Establish.kind, own.initial]
    rfl
  · exact HandshakeMessage.decode_encode finish
  · obtain ⟨_, _, _, _, _, _, _, _, _, _, _, rfl⟩ := ResponderHandshake.finish_ok completed
    exact sessionId

end

/-- The response in the packet was sent for the identity. -/
def Answered (result : PendingHandshakes P × List Packet) (identity : PeerIdentity) (packet : Packet) :
    Prop :=
  packet ∈ result.2 ∧ ∃ state, result.1.entries.lookup packet.header.sessionId = some state ∧
    state.source = .known identity

/-- Whenever it arrives, the finish is accepted for the identity. -/
def Admits (pending : PendingHandshakes P) (endpoint : SocketAddr) (finish : Packet)
    (identity : PeerIdentity) : Prop :=
  ∀ parser active gracePeriod rxRate clock, ∃ record peer,
    (finishPending parser pending active endpoint finish gracePeriod rxRate clock).installed =
      some record ∧ record.identity = identity ∧
    (finishPending parser pending active endpoint finish gracePeriod rxRate clock).active.lookup
      finish.header.sessionId = some peer ∧ peer.identity = identity

/-- The client commits to its identity only, and its finish is accepted. -/
structure Selects (e : Establish P) (client : InitiatorHandshake) (attempt : Nat)
    (result : PendingHandshakes P × List Packet) (endpoint : SocketAddr) (identity : PeerIdentity)
    (events : List (Client.Event × Client.Env)) : Prop where
  only : ∀ n finish session,
    e.after (.response attempt client) events = .acknowledgment n finish session →
      (∃ packet, Answered result identity packet ∧
        finish.header.sessionId = packet.header.sessionId) ∧
      Admits result.1 endpoint finish identity
  commits : (∃ packet, Answered result identity packet) → ∃ n finish session,
    e.after (.response attempt client) events = .acknowledgment n finish session

lemma admits_of_completes {pending : PendingHandshakes P} {finish : Packet}
    {identity : PeerIdentity} (h : ∀ parser clock, ∃ state session remote,
      Completes parser pending endpoint finish clock state session remote identity ∧
      session.sessionId = finish.header.sessionId) : Admits pending endpoint finish identity := by
  intro parser active gracePeriod rxRate clock
  obtain ⟨state, session, remote, completes, sessionId⟩ := h parser clock
  obtain ⟨peer, found, owner⟩ :=
    lookup_install_self active identity session endpoint gracePeriod rxRate clock.instant
  rw [finishPending_of_completes completes, ← sessionId]
  exact ⟨_, peer, rfl, rfl, found, owner⟩

section
variable {e : Establish P} {client : InitiatorHandshake} {serverSeed clientKey : Bytes 32}
  {endpoint : SocketAddr} {attempt : Nat} {result : PendingHandshakes P × List Packet}

lemma after_committed {order : List Packet} {events : List (Client.Event × Client.Env)} {n : Nat}
    {finish : Packet} {session : ProtectedSession P} (carried : List.Forall₂ (Carries e) order events)
    (kind : ∀ packet ∈ order, packet.header.kind = .handshake) :
    e.after (.acknowledgment n finish session) events = .acknowledgment n finish session := by
  induction carried with
  | nil => rfl
  | cons carries _ ih =>
    obtain ⟨here, rest⟩ := List.forall_mem_cons.1 kind
    rw [Establish.after, run_cons, step_carries_committed carries here]
    exact ih rest

lemma Answers.kind {pending : PendingHandshakes P} {initiation : HandshakeMessage} {packet : Packet}
    {source : PendingSource} {auth : AuthConfig}
    (h : Answers pending endpoint initiation packet source auth) :
    packet.header.kind = .handshake := by
  obtain ⟨_, _, _, _, _, rfl, _⟩ := h
  rfl

lemma Answered.answers {identities : List PeerIdentity} {draws : Nat → HandshakeDraw}
    {initiation : HandshakeMessage} {identity : PeerIdentity} {packet : Packet}
    (all : AllAnswers identities draws result endpoint initiation)
    (h : Answered result identity packet) : identity ∈ identities ∧
      Answers result.1 endpoint initiation packet (.known identity) identity.auth := by
  obtain ⟨sent, state, found, source⟩ := h
  obtain ⟨source', auth, answers, n, _, origin⟩ := all packet sent
  obtain ⟨id, handshake, response, _, _, rfl, found', _⟩ := id answers
  rw [show (handshakePacket .handshake 0 id response).header.sessionId = id from rfl, found'] at found
  cases found
  obtain ⟨known, listed, eq, rfl⟩ | ⟨ca, _, eq, _⟩ := origin
  · have same : known = identity := PendingSource.known.inj (eq.symm.trans source)
    subst same
    rw [eq] at answers
    exact ⟨List.mem_of_getElem? listed, answers⟩
  · exact absurd (eq.symm.trans source) (by simp)

lemma not_signsAs_authority {ca : CertificateAuthorityConfig} {auth : AuthConfig}
    (usable : ca.toAuthConfig = .ok auth) : ¬ SignsAs P auth serverSeed := by
  obtain ⟨_, _, _, rfl⟩ := CertificateAuthorityConfig.toAuthConfig_certificate usable
  intro h
  obtain ⟨_, eq, _⟩ := h
  cases eq

/-- If no other answer has the pinned key, the client commits to its own. -/
lemma after_responses {identities : List PeerIdentity} {draws : Nat → HandshakeDraw}
    {me : PeerIdentity} {order : List Packet}
    {events : List (Client.Event × Client.Env)} (attempt : Nat) (correct : P.Correct)
    (signer : SignatureNamesSigner P) (own : ClientOf e client serverSeed clientKey)
    (auth : me.auth = .pinnedKey serverSeed clientKey)
    (all : AllAnswers identities draws result endpoint client.initiation)
    (apart : ∀ other packet, other ≠ me → Answered result other packet →
      ¬ SignsAs P other.auth serverSeed)
    (sent : ∀ packet ∈ order, packet ∈ result.2) (carried : List.Forall₂ (Carries e) order events) :
    (e.after (.response attempt client) events = .response attempt client ∧
      ∀ packet ∈ order, ¬ Answered result me packet) ∨
    ∃ finish session, e.after (.response attempt client) events = .acknowledgment 1 finish session ∧
      (∃ packet, Answered result me packet ∧ finish.header.sessionId = packet.header.sessionId) ∧
      Admits result.1 endpoint finish me := by
  induction carried with
  | nil => exact .inl ⟨rfl, by simp⟩
  | @cons packet event order events carries carried ih =>
    obtain ⟨here, rest⟩ := List.forall_mem_cons.1 sent
    rw [Establish.after, run_cons]
    by_cases mine : Answered result me packet
    · -- the response of the own identity: the client commits
      obtain ⟨_, answers⟩ := mine.answers all
      have same : SignsAs P me.auth serverSeed := ⟨serverSeed, by rw [auth]; rfl, rfl⟩
      obtain ⟨finish, session, next, sessionId, completes⟩ :=
        step_accepted attempt correct signer own carries answers same
      rw [next]
      refine .inr ⟨finish, session, ?_, ⟨packet, mine, sessionId⟩, admits_of_completes ?_⟩
      · apply after_committed carried
        intro packet mem
        obtain ⟨_, _, answers, _⟩ := all packet (rest packet mem)
        exact answers.kind
      · exact completes me rfl (by rw [auth]; rfl)
    · -- the response of another one: the client goes on waiting
      obtain ⟨source, auth', answers, _, _, origin⟩ := all packet here
      have other : ¬ SignsAs P auth' serverSeed := by
        obtain ⟨identity, _, rfl, rfl⟩ | ⟨ca, _, _, usable⟩ := origin
        · obtain ⟨_, _, _, _, _, rfl, found, _⟩ := answers
          have answered : Answered result identity _ := ⟨here, _, found, rfl⟩
          apply apart identity _ ?_ answered
          rintro rfl
          exact mine answered
        · exact not_signsAs_authority usable
      rw [step_refused correct signer own carries answers other]
      obtain ⟨waits, none⟩ | committed := ih rest
      · exact .inl ⟨waits, List.forall_mem_cons.2 ⟨mine, none⟩⟩
      · exact .inr committed

end

lemma exists_arrivals (e : Establish P) (order : List Packet) :
    ∃ events, List.Forall₂ (Carries e) order events := by
  induction order with
  | nil => exact ⟨[], .nil⟩
  | cons packet order ih =>
    obtain ⟨events, carried⟩ := ih
    let draw : WrapDraw := { nonce := Bytes.zero 12, padSelector := 0, padding := fun _ => 0 }
    cases wrapped : wrap P e.obfuscation (some draw) packet.encode with
    | error err => cases (wrap_error wrapped).2
    | ok wire =>
      let env : Client.Env := { clock := ⟨0, 0⟩, wrap := some draw, sends := true }
      refine ⟨(.datagram e.server wire, env) :: events, .cons ⟨?_, rfl, rfl⟩ carried⟩
      exact ⟨some draw, wire, wrapped, rfl⟩

/-- The client selects its identity iff no other has the key that it pins. -/
lemma selects_iff_answered (attempt : Nat) (correct : P.Correct) (signer : SignatureNamesSigner P)
    {me : PeerIdentity} {serverSeed clientKey : Bytes 32} {e : Establish P}
    {client : InitiatorHandshake} {result : PendingHandshakes P × List Packet}
    (auth : me.auth = .pinnedKey serverSeed clientKey)
    (own : ClientOf e client serverSeed clientKey)
    (all : AllAnswers identities draws result endpoint client.initiation) :
    (∀ order events, order.Perm result.2 → List.Forall₂ (Carries e) order events →
        Selects e client attempt result endpoint me events) ↔
      ∀ other packet, other ≠ me → Answered result other packet →
        ¬ SignsAs P other.auth serverSeed := by
  refine ⟨?_, ?_⟩
  · -- the response of the other identity arrives first
    intro selects other packet ne answered same
    obtain ⟨_, answers⟩ := answered.answers all
    obtain ⟨events, carried⟩ := exists_arrivals e (packet :: result.2.erase packet)
    have selected := selects _ events (List.perm_cons_erase answered.1).symm carried
    cases carried with
    | @cons _ event _ events carries carried =>
      obtain ⟨finish, session, next, sessionId, _⟩ :=
        step_accepted attempt correct signer own carries answers same
      have committed : e.after (.response attempt client) (event :: events) =
          .acknowledgment 1 finish session := by
        rw [Establish.after, run_cons, next]
        apply after_committed carried
        intro packet mem
        obtain ⟨_, _, answers, _⟩ := all packet (List.mem_of_mem_erase mem)
        exact answers.kind
      obtain ⟨⟨packet', ⟨_, state', found', mine⟩, sessionId'⟩, _⟩ :=
        selected.only 1 finish session committed
      -- the finish is for the entry of the other identity
      obtain ⟨_, state, found, others⟩ := answered
      rw [← sessionId', sessionId, found] at found'
      cases found'
      exact ne (PendingSource.known.inj (others.symm.trans mine))
  · -- no other response passes, so the order does not matter
    intro apart order events perm carried
    have sent : ∀ packet ∈ order, packet ∈ result.2 := fun packet mem => perm.mem_iff.1 mem
    obtain ⟨waits, none⟩ | ⟨finish, session, committed, selected, admits⟩ :=
      after_responses attempt correct signer own auth all apart sent carried
    · refine ⟨?_, ?_⟩
      · intro n finish session eq
        rw [waits] at eq
        cases eq
      · intro h
        obtain ⟨packet, answered⟩ := h
        exact absurd answered (none packet (perm.mem_iff.2 answered.1))
    · refine ⟨?_, fun _ => ⟨1, finish, session, committed⟩⟩
      intro n finish' session' eq
      rw [committed] at eq
      cases eq
      exact ⟨selected, admits⟩

section
variable {endpoint : SocketAddr} {initiation : HandshakeMessage}

lemma tryRespond_of_accepted (pending : PendingHandshakes P) (source : PendingSource)
    {auth : AuthConfig} {id : Bytes 16} {ephemeral random : Option (Bytes 32)}
    {handshake : ResponderHandshake P} {response : HandshakeMessage}
    (accepted : ResponderHandshake.acceptForSession P auth.identity auth.verifier initiation ⟨id⟩ 0
      ephemeral random = .ok (handshake, response)) :
    (tryRespond pending endpoint initiation source auth ⟨some id, ephemeral, random⟩).2 =
      [handshakePacket .handshake 0 ⟨id⟩ response] := by
  obtain ⟨_, _, _, _, _, _, _, _, _, _, _, _, _, _, _, rfl, _⟩ :=
    ResponderHandshake.acceptForSession_ok accepted
  simp only [tryRespond, respondInitial, ResponderHandshake.accept, drawn, bind, Except.bind, accepted]
  rfl

lemma tryIdentities_answers {limit : Nat} {numbered : List (PeerIdentity × HandshakeDraw)}
    {pending : PendingHandshakes P} {entry : PeerIdentity × HandshakeDraw} {packet : Packet}
    (room : ¬ limit ≤ pending.countFor endpoint) (mem : entry ∈ numbered)
    (others : ∀ other ∈ numbered, other = entry ∨ other.2.sessionId = none) (answered : packet ∈
      (tryRespond pending endpoint initiation (.known entry.1) entry.1.auth entry.2).2) :
    packet ∈ (tryIdentities endpoint initiation limit numbered pending).2 := by
  induction numbered with
  | nil => cases mem
  | cons first rest ih =>
    obtain ⟨identity, draw⟩ := first
    obtain ⟨here, others⟩ := List.forall_mem_cons.1 others
    unfold Server.tryIdentities
    rw [if_neg room]
    apply List.mem_append.2
    cases here with
    | inl same =>
      subst same
      exact .inl answered
    | inr silent =>
      have skipped := tryRespond_undrawn pending endpoint initiation (.known identity) identity.auth
        silent
      right
      simp only [skipped]
      rcases List.mem_cons.1 mem with same | mem
      · -- the answered entry has a draw
        subst same
        rw [skipped] at answered
        cases answered
      · exact ih mem others

end

lemma mem_beginInitial (certificateAuthority : Option CertificateAuthorityConfig)
    {pending : PendingHandshakes P} {initiation : HandshakeMessage} {limit : Nat} {packet : Packet}
    (few : ¬ maxPendingHandshakes ≤ pending.len) (room : ¬ limit ≤ pending.countFor endpoint)
    (sent : packet ∈ (tryIdentities endpoint initiation limit
      (identities.zip ((List.range identities.length).map draws)) pending).2) :
    packet ∈ (beginInitial identities certificateAuthority pending endpoint initiation limit
      draws).2 := by
  have outcome := beginInitial_outcome pending endpoint initiation limit identities
    certificateAuthority draws
  generalize beginInitial identities certificateAuthority pending endpoint initiation limit draws =
    result at outcome
  cases outcome with
  | refused full => exact absurd full (not_or.2 ⟨few, room⟩)
  | known => exact sent
  | authority _ _ ca auth known _ _ eq =>
    subst eq
    exact List.mem_append_left _ sent

def onlyDraw (i : Nat) (secret : Bytes 32) (n : Nat) : HandshakeDraw :=
  if n = i then ⟨some (Bytes.zero 16), some secret, some (Bytes.zero 32)⟩ else ⟨none, none, none⟩

lemma onlyDraw_index {i n : Nat} {secret : Bytes 32} {id : Bytes 16}
    (h : (onlyDraw i secret n).sessionId = some id) : n = i := by
  unfold onlyDraw at h
  split at h
  · next same => exact same
  · cases h

/-- Every identity is answered on some occasion, and nobody else then. -/
lemma exists_answered (correct : P.Correct)
    (certificateAuthority : Option CertificateAuthorityConfig) {other : PeerIdentity}
    (mem : other ∈ identities) {initiation : HandshakeMessage} {pk random : Bytes 32}
    {cookie : Option (Bytes 32)} {mac1 : Bytes 16} {secret : Bytes 32} {s : P.Shared}
    (shape : initiation = .initiation pk random cookie mac1) (agree : P.dh secret pk = some s)
    (endpoint : SocketAddr) :
    ∃ draws packet, FreshIds draws ∧ Answered (beginInitial identities certificateAuthority
      (PendingHandshakes.default P) endpoint initiation
      (perSourcePendingLimit identities certificateAuthority) draws) other packet := by
  obtain ⟨i, listed⟩ := List.mem_iff_getElem?.1 mem
  obtain ⟨bound, _⟩ := List.getElem?_eq_some_iff.1 listed
  -- the random source fails for all identities but the one that is to answer
  have fresh : FreshIds (onlyDraw i secret) :=
    fun m n id drawn drawn' => (onlyDraw_index drawn).trans (onlyDraw_index drawn').symm
  obtain ⟨handshake, response, accepted⟩ := acceptForSession_total correct agree other.auth.identity
    other.auth.verifier random cookie mac1 ⟨Bytes.zero 16⟩ 0 (Bytes.zero 32)
  rw [← shape] at accepted
  have room : ¬ perSourcePendingLimit identities certificateAuthority ≤
      (PendingHandshakes.default P).countFor endpoint := by
    have least : 8 ≤ perSourcePendingLimit identities certificateAuthority := le_max_right _ _
    have none : (PendingHandshakes.default P).countFor endpoint = 0 := rfl
    omega
  have sent : handshakePacket .handshake 0 ⟨Bytes.zero 16⟩ response ∈
      (tryIdentities endpoint initiation (perSourcePendingLimit identities certificateAuthority)
        (identities.zip ((List.range identities.length).map (onlyDraw i secret)))
        (PendingHandshakes.default P)).2 := by
    have draw : onlyDraw i secret i = ⟨some (Bytes.zero 16), some secret, some (Bytes.zero 32)⟩ :=
      if_pos rfl
    have listed' : (other, onlyDraw i secret i) ∈
        identities.zip ((List.range identities.length).map (onlyDraw i secret)) := by
      apply List.mem_of_getElem? (i := i)
      rw [List.getElem?_zip_eq_some]
      exact ⟨listed, by simp [bound]⟩
    refine tryIdentities_answers room listed' ?_ ?_
    · intro entry mem
      obtain ⟨n, known, eq⟩ := mem_numbered mem
      by_cases same : n = i
      · subst same
        rw [known] at listed
        exact .inl (Prod.ext (Option.some.inj listed) eq)
      · right
        rw [eq, onlyDraw, if_neg same]
    · rw [draw, tryRespond_of_accepted _ _ accepted]
      exact List.mem_singleton_self _
  have few : ¬ maxPendingHandshakes ≤ (PendingHandshakes.default P).len :=
    show ¬ maxPendingHandshakes ≤ 0 by decide
  have sent := mem_beginInitial certificateAuthority few room sent
  obtain ⟨source, auth, answers, n, drawn, origin⟩ :=
    answers_beginInitial identities certificateAuthority _ endpoint initiation _ fresh _ sent
  have index := onlyDraw_index drawn
  subst index
  obtain ⟨identity, known, rfl, _⟩ | ⟨_, past, _⟩ := origin
  · rw [known] at listed
    cases listed
    obtain ⟨_, _, _, _, _, eq, found, _⟩ := id answers
    rw [eq] at sent
    exact ⟨_, _, fresh, sent, _, found, rfl⟩
  · exact absurd past (Nat.ne_of_lt bound)

/-- For every valid configuration and pinned peer: the client selects the peer at every call of
`begin_initial`, in every order of the responses, iff no other peer has a server seed with the same
public key. -/
theorem identityTrial_iff (correct : P.Correct) (signer : SignatureNamesSigner P)
    (agrees : ∃ a b s, P.dh a (P.dhPublic b) = some s) (parser : AddressParser)
    (config : ServerConfig) (valid : config.validate parser = .ok ()) :
    ∃ identities, config.peerIdentities parser = .ok identities ∧
      ∀ (me : PeerIdentity) (serverSeed clientSeed : Bytes 32), me ∈ identities →
        me.auth = .pinnedKey serverSeed (P.edPublic clientSeed) →
        ((∀ (e : Establish P) (client : InitiatorHandshake) (attempt : Nat)
            (pending : PendingHandshakes P) (endpoint : SocketAddr) (draws : Nat → HandshakeDraw)
            (result : PendingHandshakes P × List Packet) (order : List Packet)
            (events : List (Client.Event × Client.Env)),
            ClientOf e client serverSeed (P.edPublic clientSeed) → FreshIds draws →
            result = beginInitial identities config.certificateAuthority pending endpoint
              client.initiation (perSourcePendingLimit identities config.certificateAuthority) draws →
            order.Perm result.2 → List.Forall₂ (Carries e) order events →
            Selects e client attempt result endpoint me events) ↔
          ∀ other ∈ identities, other ≠ me → ¬ SignsAs P other.auth serverSeed) := by
  obtain ⟨identities, resolved⟩ := ServerConfig.peerIdentities_of_validate parser valid
  refine ⟨identities, resolved, ?_⟩
  intro me serverSeed clientSeed _ auth
  refine ⟨?_, ?_⟩
  · -- a client whose ephemeral key agrees with that of the responder for the other identity
    intro selects other listed ne same
    obtain ⟨secret, ephemeral, s, agree⟩ := agrees
    let e : Establish P :=
      { server := config.bind, obfuscation := none, retryLimit := 1, old := none }
    cases started : InitiatorHandshake.start P (.pinnedKey clientSeed)
        (.pinnedKey (P.edPublic serverSeed)) (some ephemeral) (some (Bytes.zero 32)) with
    | error err => cases started
    | ok outcome =>
      have own : ClientOf e outcome.1 serverSeed (P.edPublic clientSeed) :=
        .of_start rfl Nat.one_ne_zero started
      obtain ⟨drawn, _, _, random, mac1, initiation⟩ := InitiatorHandshake.start_ok started
      rw [← Option.some.inj drawn] at initiation
      obtain ⟨draws, packet, fresh, answered⟩ := exists_answered correct config.certificateAuthority
        listed initiation agree config.bind
      have all := answers_beginInitial identities config.certificateAuthority
        (PendingHandshakes.default P) config.bind outcome.1.initiation
        (perSourcePendingLimit identities config.certificateAuthority) fresh
      refine (selects_iff_answered 1 correct signer auth own all).1 ?_ other packet ne answered same
      intro order events perm carried
      exact selects e outcome.1 1 _ config.bind draws _ order events own fresh rfl perm carried
  · intro apart e client attempt pending endpoint draws result order events own fresh outcome perm
      carried
    have all : AllAnswers identities draws result endpoint client.initiation := by
      rw [outcome]
      exact answers_beginInitial identities _ pending endpoint client.initiation _ fresh
    refine (selects_iff_answered attempt correct signer auth own all).2 ?_ order events perm carried
    intro other packet ne answered
    exact apart other (answered.answers all).1 ne

section Trial
open Primitives

def trialParser : AddressParser where
  net := fun text =>
    if text = "10.0.0.2/32" then some (hostNet 2)
    else if text = "10.0.0.3/32" then some (hostNet 3)
    else none
  addr := fun _ => none

def trialConfig (seed seed' : UInt8) : ServerConfig where
  bind := { ip := .v4 (Bytes.ofList 4 [192, 0, 2, 1]), port := 51820 }
  peers :=
    [{ name := "alice"
       auth := .pinnedKey (hexEncode (keyOf seed).toList) (hexEncode (keyOf 1).toList)
       allowedIps := ["10.0.0.2/32"] },
     { name := "bob"
       auth := .pinnedKey (hexEncode (keyOf seed').toList) (hexEncode (keyOf 2).toList)
       allowedIps := ["10.0.0.3/32"] }]

def alice (seed : UInt8) : PeerIdentity where
  name := "alice"
  allowedIps := [hostNet 2]
  auth := .pinnedKey (keyOf seed) (keyOf 1)

def bob (seed : UInt8) : PeerIdentity where
  name := "bob"
  allowedIps := [hostNet 3]
  auth := .pinnedKey (keyOf seed) (keyOf 2)

def trialDraws (n : Nat) : HandshakeDraw where
  sessionId := if n < 3 then some (Bytes.ofList 16 [UInt8.ofNat n]) else none
  ephemeral := some (keyOf 10)
  random := some (keyOf 11)

def bobsCall : Establish transparent where
  server := (trialConfig 8 8).bind
  obfuscation := none
  retryLimit := 5
  old := none

def bobsStart : InitiatorHandshake where
  identity := .pinnedKey (keyOf 2)
  verifier := .pinnedKey (keyOf 8)
  keyPair := ⟨keyOf 3⟩
  initiation := .initiation (keyOf 3) (keyOf 4) none (HandshakeMessage.computeMac1 transparent
    (AuthVerifier.mac1Key transparent (.pinnedKey (keyOf 8))) (keyOf 3) (keyOf 4) none)

def trialCookieKey : CookieKey :=
  ⟨keyOf 5⟩

def bobsHandshake : InitiatorHandshake :=
  bobsStart.attachCookie transparent
    (trialCookieKey.mint transparent clientEndpoint (keyOf 3) (keyOf 4) 0)

def trialResult (seed seed' : UInt8) : PendingHandshakes transparent × List Packet :=
  beginInitial [alice seed, bob seed'] none (PendingHandshakes.default transparent) clientEndpoint
    bobsHandshake.initiation 8 trialDraws

def inOrder (sent : List Packet) : List (Client.Event × Client.Env) :=
  sent.map fun packet =>
    (.datagram bobsCall.server packet.encode,
      { clock := ⟨0, 0⟩, wrap := some ⟨Bytes.zero 12, 0, fun _ => 0⟩, sends := true })

lemma carries_inOrder (sent : List Packet) : List.Forall₂ (Carries bobsCall) sent (inOrder sent) := by
  induction sent with
  | nil => exact .nil
  | cons packet sent ih => exact .cons ⟨⟨none, packet.encode, rfl, rfl⟩, rfl, rfl⟩ ih

def committedFinish : Stage transparent → Option Packet
  | .acknowledgment _ finish _ => some finish
  | _ => none

/-- With one seed for two peers, the client of the second commits to the response for the first; its
finish is refused, and the pending entry is gone. -/
theorem shared_seed_selects_other_peer : (trialConfig 8 8).validate trialParser = .ok () ∧
      (trialConfig 8 8).peerIdentities trialParser = .ok [alice 8, bob 8] ∧
      (challengeOrAdmit transparent trialCookieKey clientEndpoint bobsHandshake.initiation
        CookieChallengeLimiter.default ⟨0, 0⟩).1 = true ∧
      List.Forall₂ (Carries bobsCall) (trialResult 8 8).2 (inOrder (trialResult 8 8).2) ∧
      (committedFinish (bobsCall.after (.response 1 bobsHandshake)
        (inOrder (trialResult 8 8).2))).map (fun finish =>
          (((trialResult 8 8).1.entries.lookup finish.header.sessionId).map (·.source),
            (finishPending trialParser (trialResult 8 8).1 ∅ clientEndpoint finish 0 0
              ⟨0, 0⟩).installed,
            ((finishPending trialParser (trialResult 8 8).1 ∅ clientEndpoint finish 0 0
              ⟨0, 0⟩).pending.entries.lookup finish.header.sessionId).isNone)) =
        some (some (.known (alice 8)), none, true) := by
  refine ⟨?_, ?_, ?_, carries_inOrder _, ?_⟩
  · decide +kernel
  · decide +kernel
  · decide +kernel
  · decide +kernel

lemma trialDraws_fresh : FreshIds trialDraws := by
  intro m n id drawn drawn'
  simp only [trialDraws, Option.ite_none_right_eq_some] at drawn drawn'
  obtain ⟨lt, eq⟩ := drawn
  obtain ⟨lt', eq'⟩ := drawn'
  have apart : ∀ m < 3, ∀ n < 3, some (Bytes.ofList 16 [UInt8.ofNat m]) =
      some (Bytes.ofList 16 [UInt8.ofNat n]) → m = n := by decide
  exact apart m lt n lt' (eq.trans eq'.symm)

lemma bobs_client : ClientOf bobsCall bobsHandshake (keyOf 8) (keyOf 2) := by
  apply ClientOf.attachCookie
  have started : InitiatorHandshake.start transparent (.pinnedKey (keyOf 2))
      (.pinnedKey (transparent.edPublic (keyOf 8))) (some (keyOf 3)) (some (keyOf 4)) =
        .ok (bobsStart, bobsStart.initiation) := rfl
  exact ClientOf.of_start rfl (by decide) started

/-- With two seeds the client of the second peer selects it. -/
theorem identityTrial_iff_bob : (trialConfig 9 8).validate trialParser = .ok () ∧
      ∀ order events, order.Perm (trialResult 9 8).2 → List.Forall₂ (Carries bobsCall) order events →
        Selects bobsCall bobsHandshake 1 (trialResult 9 8) clientEndpoint (bob 8) events := by
  have valid : (trialConfig 9 8).validate trialParser = .ok () := by decide +kernel
  have resolved : (trialConfig 9 8).peerIdentities trialParser = .ok [alice 9, bob 8] := by
    decide +kernel
  refine ⟨valid, ?_⟩
  obtain ⟨identities, resolved', trial⟩ := identityTrial_iff transparent_correct
    (fun _ _ _ verified => transparent_verify_only verified) ⟨keyOf 0, keyOf 0, _, rfl⟩ trialParser
    (trialConfig 9 8) valid
  cases resolved'.symm.trans resolved
  intro order events perm carried
  refine (trial (bob 8) (keyOf 8) (keyOf 2) (by simp) rfl).2 ?_ bobsCall bobsHandshake 1 _
    clientEndpoint trialDraws (trialResult 9 8) order events bobs_client trialDraws_fresh rfl perm
    carried
  intro other mem ne same
  obtain rfl : other = alice 9 := by
    rcases List.mem_cons.1 mem with eq | mem
    · exact eq
    · exact absurd (List.mem_singleton.1 mem) ne
  obtain ⟨seed, signs, eq⟩ := same
  cases signs
  exact absurd eq (by decide)

end Trial

end Rvpn.Server
