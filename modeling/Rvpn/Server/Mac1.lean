import Rvpn.Server.IdentityTrial

/-!
# The mac1 of an initiation

A client proves with `mac1` that it knows the server's public key, or that of the certificate authority.
Its own initiations verify under the key of the server (`verifyMac1_attachCookies`). The server does not
look at it: neither `begin_initial` nor `ResponderHandshake::accept` calls `verify_mac1`.
-/

namespace Rvpn

namespace Protocol.InitiatorHandshake
open Crypto
variable {P : Primitives}

def Marked (P : Primitives) (h : InitiatorHandshake) : Prop :=
  ∃ publicKey random cookie, h.initiation = .initiation publicKey random cookie
    (HandshakeMessage.computeMac1 P (h.verifier.mac1Key P) publicKey random cookie)

variable {h : InitiatorHandshake}

lemma Marked.verifyMac1 (marked : h.Marked P) :
    h.initiation.verifyMac1 P (h.verifier.mac1Key P) = true := by
  obtain ⟨publicKey, random, cookie, eq⟩ := marked
  rw [eq]
  exact decide_eq_true rfl

lemma marked_start {identity : AuthIdentity} {verifier : AuthVerifier}
    {ephemeral random : Option (Bytes 32)} {message : HandshakeMessage}
    (ok : start P identity verifier ephemeral random = .ok (h, message)) :
    h.Marked P ∧ h.verifier = verifier ∧ message = h.initiation := by
  simp only [start, except_bind_ok, drawn_ok] at ok
  obtain ⟨secret, rfl, r, rfl, eq⟩ := ok
  cases eq
  exact ⟨⟨_, _, _, rfl⟩, rfl, rfl⟩

lemma Marked.attachCookie (marked : h.Marked P) (cookie : Bytes 32) :
    (h.attachCookie P cookie).Marked P ∧ (h.attachCookie P cookie).verifier = h.verifier := by
  obtain ⟨publicKey, random, old, eq⟩ := marked
  unfold InitiatorHandshake.attachCookie
  rw [eq]
  exact ⟨⟨publicKey, random, some cookie, rfl⟩, rfl⟩

def attachCookies (P : Primitives) (h : InitiatorHandshake) (cookies : List (Bytes 32)) :
    InitiatorHandshake :=
  cookies.foldl (InitiatorHandshake.attachCookie P) h

lemma Marked.attachCookies (marked : h.Marked P) (cookies : List (Bytes 32)) :
    (attachCookies P h cookies).Marked P ∧ (attachCookies P h cookies).verifier = h.verifier := by
  induction cookies generalizing h with
  | nil => exact ⟨marked, rfl⟩
  | cons cookie cookies ih =>
    obtain ⟨next, same⟩ := marked.attachCookie cookie
    obtain ⟨last, verifier⟩ := ih next
    exact ⟨last, verifier.trans same⟩

end Protocol.InitiatorHandshake

namespace Server
open Config Crypto Protocol
variable {P : Primitives}

/-- Each end pins the other's key, or both trust one authority. -/
inductive Matching (P : Primitives) : AuthConfig → AuthConfig → Prop
  | pinnedKey (clientSeed serverSeed : Bytes 32) :
    Matching P (.pinnedKey clientSeed (P.edPublic serverSeed))
      (.pinnedKey serverSeed (P.edPublic clientSeed))
  | certificate (clientSeed serverSeed : Bytes 32) (clientCertificate serverCertificate : Bytes 112)
      (ca : Bytes 32) :
    Matching P (.certificate clientSeed clientCertificate ca)
      (.certificate serverSeed serverCertificate ca)

lemma Matching.mac1Key {client server : AuthConfig} (h : Matching P client server) :
    client.verifier.mac1Key P = server.responderMac1Key P := by
  cases h with
  | pinnedKey => rfl
  | certificate => rfl

lemma verifyMac1_attachCookies {client server : AuthConfig} (matching : Matching P client server)
    {ephemeral random : Option (Bytes 32)} {h : InitiatorHandshake} {message : HandshakeMessage}
    (started : InitiatorHandshake.start P client.identity client.verifier ephemeral random =
      .ok (h, message)) (cookies : List (Bytes 32)) :
    (h.attachCookies P cookies).initiation.verifyMac1 P (server.responderMac1Key P) = true := by
  obtain ⟨marked, verifier, _⟩ := InitiatorHandshake.marked_start started
  obtain ⟨marked, same⟩ := marked.attachCookies cookies
  rw [← matching.mac1Key, ← verifier, ← same]
  exact marked.verifyMac1

/-- Whom the server answers for, and with which authentication. -/
inductive Configured (identities : List PeerIdentity) (authority : Option CertificateAuthorityConfig) :
    PendingSource → AuthConfig → Prop
  | known (identity : PeerIdentity) (listed : identity ∈ identities) :
    Configured identities authority (.known identity) identity.auth
  | authority (ca : CertificateAuthorityConfig) (auth : AuthConfig) (configured : authority = some ca)
      (usable : ca.toAuthConfig = .ok auth) :
    Configured identities authority (.certificateAuthority ca) auth

/-- The packet responds to the initiation with the authentication. -/
def RespondsWith (P : Primitives) (auth : AuthConfig) (initiation : HandshakeMessage) (packet : Packet) :
    Prop :=
  ∃ id handshake response ephemeral random, packet = handshakePacket .handshake 0 id response ∧
    ResponderHandshake.acceptForSession P auth.identity auth.verifier initiation id 0 ephemeral
      random = .ok (handshake, response)

section
variable {pending : PendingHandshakes P} {endpoint : SocketAddr} {initiation : HandshakeMessage}
  {limit : Nat} {identities : List PeerIdentity} {authority : Option CertificateAuthorityConfig}
  {draws : Nat → HandshakeDraw} {packet : Packet}

lemma respondsWith_tryRespond {source : PendingSource} {auth : AuthConfig} {draw : HandshakeDraw}
    (mem : packet ∈ (tryRespond pending endpoint initiation source auth draw).2) :
    RespondsWith P auth initiation packet := by
  obtain same | ⟨id, handshake, response, _, accepted, eq⟩ :=
    tryRespond_cases pending endpoint initiation source auth draw
  · rw [same] at mem
    cases mem
  · rw [eq] at mem
    exact ⟨id, handshake, response, _, _, List.mem_singleton.1 mem, accepted⟩

lemma respondsWith_tryIdentities {numbered : List (PeerIdentity × HandshakeDraw)}
    (mem : packet ∈ (tryIdentities endpoint initiation limit numbered pending).2) :
    ∃ entry ∈ numbered, RespondsWith P entry.1.auth initiation packet := by
  induction numbered generalizing pending with
  | nil => cases mem
  | cons entry rest ih =>
    obtain ⟨identity, draw⟩ := entry
    unfold tryIdentities at mem
    split at mem
    · cases mem
    · rcases List.mem_append.1 mem with first | later
      · exact ⟨(identity, draw), List.mem_cons_self, respondsWith_tryRespond first⟩
      · obtain ⟨entry, listed, responds⟩ := ih later
        exact ⟨entry, List.mem_cons_of_mem _ listed, responds⟩

lemma respondsWith_beginInitial
    (mem : packet ∈ (beginInitial identities authority pending endpoint initiation limit draws).2) :
    ∃ source auth, Configured identities authority source auth ∧ RespondsWith P auth initiation packet := by
  have outcome := beginInitial_outcome pending endpoint initiation limit identities authority draws
  generalize beginInitial identities authority pending endpoint initiation limit draws = result
    at outcome mem
  -- an answer of the loop is one for an identity
  have ofLoop : packet ∈ (tryIdentities endpoint initiation limit
      (identities.zip ((List.range identities.length).map draws)) pending).2 →
      ∃ source auth, Configured identities authority source auth ∧
        RespondsWith P auth initiation packet := by
    intro sent
    obtain ⟨entry, listed, responds⟩ := respondsWith_tryIdentities sent
    exact ⟨_, _, .known entry.1 (List.of_mem_zip listed).1, responds⟩
  cases outcome with
  | refused => cases mem
  | known => exact ofLoop mem
  | authority few room ca auth known configured usable eq left =>
    rcases List.mem_append.1 mem with first | last
    · exact ofLoop (eq ▸ first)
    · exact ⟨_, auth, .authority ca auth configured usable, respondsWith_tryRespond last⟩

lemma lookup_beginInitial {id : SessionId} {state : PendingHandshake P}
    (found : (beginInitial identities authority pending endpoint initiation limit
      draws).1.entries.lookup id = some state) :
    pending.entries.lookup id = some state ∨ ∃ auth,
      Configured identities authority state.source auth ∧
      ∃ draw response, Accepted auth draw id 0 initiation response state := by
  have outcome := beginInitial_outcome pending endpoint initiation limit identities authority draws
  generalize beginInitial identities authority pending endpoint initiation limit draws = result
    at outcome found
  have ofLoop : (tryIdentities endpoint initiation limit
      (identities.zip ((List.range identities.length).map draws)) pending).1.entries.lookup id =
        some state →
      pending.entries.lookup id = some state ∨ ∃ auth,
        Configured identities authority state.source auth ∧
        ∃ draw response, Accepted auth draw id 0 initiation response state := by
    intro found
    obtain old | ⟨entry, listed, _, source, _, response, accepted⟩ := lookup_tryIdentities found
    · exact .inl old
    · rw [source]
      exact .inr ⟨_, .known entry.1 (List.of_mem_zip listed).1, _, response, accepted⟩
  cases outcome with
  | refused => exact .inl found
  | known => exact ofLoop found
  | authority few room ca auth known configured usable eq left =>
    obtain before | ⟨_, source, _, response, accepted⟩ := lookup_tryRespond found
    · exact ofLoop (eq ▸ before)
    · rw [source]
      exact .inr ⟨auth, .authority ca auth configured usable, _, response, accepted⟩

end

section
variable {pending : PendingHandshakes P} {endpoint : SocketAddr} {initiation : HandshakeMessage}

lemma tryIdentities_silent {limit : Nat} {numbered : List (PeerIdentity × HandshakeDraw)}
    (silent : ∀ entry ∈ numbered, entry.2.sessionId = none) :
    tryIdentities endpoint initiation limit numbered pending = (pending, []) := by
  induction numbered with
  | nil => rfl
  | cons entry rest ih =>
    obtain ⟨identity, draw⟩ := entry
    obtain ⟨here, others⟩ := List.forall_mem_cons.1 silent
    have skipped := tryRespond_undrawn pending endpoint initiation (.known identity) identity.auth here
    unfold tryIdentities
    split
    · rfl
    · simp only [skipped, ih others, List.append_nil]

lemma lookup_of_accepted (source : PendingSource) {auth : AuthConfig} {id : Bytes 16}
    {ephemeral random : Option (Bytes 32)} {handshake : ResponderHandshake P}
    {response : HandshakeMessage}
    (accepted : ResponderHandshake.acceptForSession P auth.identity auth.verifier initiation ⟨id⟩ 0
      ephemeral random = .ok (handshake, response)) :
    ∃ id' state, (tryRespond pending endpoint initiation source auth
      ⟨some id, ephemeral, random⟩).1.entries.lookup id' = some state ∧ state.source = source := by
  have answered : (tryRespond pending endpoint initiation source auth ⟨some id, ephemeral, random⟩).2 =
      [handshakePacket .handshake 0 ⟨id⟩ response] := tryRespond_of_accepted pending source accepted
  obtain same | ⟨id', handshake, response, _, _, eq⟩ :=
    tryRespond_cases pending endpoint initiation source auth ⟨some id, ephemeral, random⟩
  · rw [same] at answered
    cases answered
  · rw [eq]
    refine ⟨id', respondedEntry endpoint source id' handshake response, ?_, rfl⟩
    simp only [PendingHandshakes.insert, HashMap.lookup_insert_eq, if_true]

end

lemma exists_answered_authority (correct : P.Correct) (identities : List PeerIdentity)
    {ca : CertificateAuthorityConfig} {auth : AuthConfig} (usable : ca.toAuthConfig = .ok auth)
    {pk : Bytes 32} (random : Bytes 32) (cookie : Option (Bytes 32)) (mac1 : Bytes 16)
    {secret : Bytes 32} {s : P.Shared} (agree : P.dh secret pk = some s) (endpoint : SocketAddr) :
    ∃ draws id state, (beginInitial identities (some ca) (PendingHandshakes.default P) endpoint
      (.initiation pk random cookie mac1) 1 draws).1.entries.lookup id = some state ∧
        state.source = .certificateAuthority ca := by
  obtain ⟨handshake, response, accepted⟩ := acceptForSession_total correct agree auth.identity
    auth.verifier random cookie mac1 ⟨Bytes.zero 16⟩ 0 (Bytes.zero 32)
  have few : ¬ maxPendingHandshakes ≤ (PendingHandshakes.default P).len :=
    show ¬ maxPendingHandshakes ≤ 0 by decide
  have room : ¬ 1 ≤ (PendingHandshakes.default P).countFor endpoint := show ¬ 1 ≤ 0 by decide
  have silent : tryIdentities endpoint (.initiation pk random cookie mac1) 1 (identities.zip
      ((List.range identities.length).map (onlyDraw identities.length secret)))
      (PendingHandshakes.default P) = (PendingHandshakes.default P, []) := by
    refine tryIdentities_silent ?_
    intro entry mem
    obtain ⟨n, known, eq⟩ := mem_numbered mem
    obtain ⟨bound, _⟩ := List.getElem?_eq_some_iff.1 known
    rw [eq, onlyDraw, if_neg (Nat.ne_of_lt bound)]
  refine ⟨onlyDraw identities.length secret, ?_⟩
  rw [beginInitial, if_neg few, if_neg room]
  simp only [silent, if_neg room, usable]
  rw [onlyDraw, if_pos rfl]
  exact lookup_of_accepted _ accepted

/-- Entries and responses are for peers whose key verifies the `mac1`. -/
def Gated (P : Primitives) (identities : List PeerIdentity)
    (authority : Option CertificateAuthorityConfig) (initiation : HandshakeMessage) : Prop :=
  ∀ (pending : PendingHandshakes P) (endpoint : SocketAddr) (limit : Nat) (draws : Nat → HandshakeDraw),
    (∀ id state, (beginInitial identities authority pending endpoint initiation limit
        draws).1.entries.lookup id = some state →
      pending.entries.lookup id = some state ∨ ∃ auth,
        Configured identities authority state.source auth ∧
        initiation.verifyMac1 P (auth.responderMac1Key P) = true) ∧
    ∀ packet ∈ (beginInitial identities authority pending endpoint initiation limit draws).2,
      ∃ source auth, Configured identities authority source auth ∧ RespondsWith P auth initiation packet ∧
        initiation.verifyMac1 P (auth.responderMac1Key P) = true

section
variable {identities : List PeerIdentity} {authority : Option CertificateAuthorityConfig}
  {pk random : Bytes 32} {cookie : Option (Bytes 32)} {mac1 : Bytes 16}

lemma agrees_of_accepted {auth : AuthConfig} {id : SessionId} {ephemeral rnd : Option (Bytes 32)}
    {handshake : ResponderHandshake P} {response : HandshakeMessage}
    (accepted : ResponderHandshake.acceptForSession P auth.identity auth.verifier
      (.initiation pk random cookie mac1) id 0 ephemeral rnd = .ok (handshake, response)) :
    ∃ secret s, P.dh secret pk = some s := by
  obtain ⟨_, _, _, _, secret, _, s, _, _, shape, _, _, agree, _⟩ :=
    ResponderHandshake.acceptForSession_ok accepted
  cases shape
  exact ⟨secret, s, agree⟩

/-- The gate holds if all keys verify what can be answered. -/
lemma gated_of_verified (verified : (∃ secret s, P.dh secret pk = some s) → ∀ source auth,
      Configured identities authority source auth →
      (HandshakeMessage.initiation pk random cookie mac1).verifyMac1 P (auth.responderMac1Key P) = true) :
    Gated P identities authority (.initiation pk random cookie mac1) := by
  intro pending endpoint limit draws
  refine ⟨?_, ?_⟩
  · intro id state found
    obtain old | ⟨auth, configured, draw, response, accepted⟩ := lookup_beginInitial found
    · exact .inl old
    · have agrees := agrees_of_accepted accepted.accepted
      exact .inr ⟨auth, configured, verified agrees _ auth configured⟩
  · intro packet sent
    obtain ⟨source, auth, configured, responds⟩ := respondsWith_beginInitial sent
    obtain ⟨_, _, _, _, _, _, accepted⟩ := id responds
    exact ⟨source, auth, configured, responds,
      verified (agrees_of_accepted accepted) source auth configured⟩

/-- The gate keeps nobody out: if it holds, every key verifies. -/
lemma verified_of_gated (correct : P.Correct)
    (gated : Gated P identities authority (.initiation pk random cookie mac1)) {secret : Bytes 32}
    {s : P.Shared} (agree : P.dh secret pk = some s) {source : PendingSource} {auth : AuthConfig}
    (configured : Configured identities authority source auth) :
    (HandshakeMessage.initiation pk random cookie mac1).verifyMac1 P (auth.responderMac1Key P) =
      true := by
  have fresh : ∀ id, (PendingHandshakes.default P).entries.lookup id = none := fun _ => rfl
  let endpoint : SocketAddr := ⟨.v4 (Bytes.zero 4), 0⟩
  cases configured with
  | known identity listed =>
    obtain ⟨draws, packet, _, _, state, found, source⟩ :=
      exists_answered correct authority listed rfl agree endpoint
    obtain old | ⟨auth, configured, verifies⟩ := (gated _ _ _ _).1 _ _ found
    · rw [fresh] at old
      cases old
    · rw [source] at configured
      cases configured
      exact verifies
  | authority ca auth is usable =>
    cases is
    obtain ⟨draws, id, state, found, source⟩ :=
      exists_answered_authority correct identities usable random cookie mac1 agree endpoint
    obtain old | ⟨auth', configured, verifies⟩ := (gated _ _ _ _).1 _ _ found
    · rw [fresh] at old
      cases old
    · rw [source] at configured
      cases configured with
      | authority _ _ _ usable' =>
        cases usable.symm.trans usable'
        exact verifies

end

/-- `mac1` gates the answers exactly if the initiation verifies under the keys of all configured
peers and of the authority anyway, or cannot be answered. And the client's initiation verifies under
the server's key, after any cookies and a trip over the wire. -/
theorem mac1_gates_iff (correct : P.Correct) :
    (∀ (identities : List PeerIdentity) (authority : Option CertificateAuthorityConfig)
      (pk random : Bytes 32) (cookie : Option (Bytes 32)) (mac1 : Bytes 16),
      Gated P identities authority (.initiation pk random cookie mac1) ↔
        ((∃ secret s, P.dh secret pk = some s) → ∀ source auth,
          Configured identities authority source auth →
          (HandshakeMessage.initiation pk random cookie mac1).verifyMac1 P (auth.responderMac1Key P) =
            true)) ∧
    ∀ (client server : AuthConfig), Matching P client server →
      ∀ (ephemeral random : Option (Bytes 32)) (h : InitiatorHandshake) (message : HandshakeMessage),
        InitiatorHandshake.start P client.identity client.verifier ephemeral random =
          .ok (h, message) →
        message.verifyMac1 P (server.responderMac1Key P) = true ∧ ∀ cookies, ∃ received,
          HandshakeMessage.decode (h.attachCookies P cookies).initiation.encode = .ok received ∧
            received.verifyMac1 P (server.responderMac1Key P) = true := by
  refine ⟨?_, ?_⟩
  · intro identities authority pk random cookie mac1
    refine ⟨?_, gated_of_verified⟩
    rintro gated ⟨secret, s, agree⟩ source auth configured
    exact verified_of_gated correct gated agree configured
  · intro client server matching ephemeral random h message started
    obtain ⟨_, _, same⟩ := InitiatorHandshake.marked_start started
    refine ⟨?_, ?_⟩
    · rw [same]
      exact verifyMac1_attachCookies matching started []
    · intro cookies
      exact ⟨_, HandshakeMessage.decode_encode _, verifyMac1_attachCookies matching started cookies⟩

section
open Primitives

def keyedPeer : PeerIdentity where
  name := "peer"
  allowedIps := []
  auth := .pinnedKey (keyOf 8) (keyOf 1)

def initiationWith (mac1 : Bytes 16) : HandshakeMessage :=
  .initiation (keyOf 3) (keyOf 4) none mac1

/-- The `mac1` of a client that knows the key of the server. -/
def properMac1 : Bytes 16 :=
  HandshakeMessage.computeMac1 transparent (keyedPeer.auth.responderMac1Key transparent) (keyOf 3)
    (keyOf 4) none

/-- An initiation with a wrong `mac1` gets its response and entry. -/
theorem zero_mac1_answered : (initiationWith (Bytes.zero 16)).verifyMac1 transparent
        (keyedPeer.auth.responderMac1Key transparent) = false ∧
      (beginInitial [keyedPeer] none (PendingHandshakes.default transparent) clientEndpoint
        (initiationWith (Bytes.zero 16)) (perSourcePendingLimit [keyedPeer] none)
        (onlyDraw 0 (keyOf 10))).2.length = 1 ∧
      ((beginInitial [keyedPeer] none (PendingHandshakes.default transparent) clientEndpoint
        (initiationWith (Bytes.zero 16)) (perSourcePendingLimit [keyedPeer] none)
        (onlyDraw 0 (keyOf 10))).1.entries.lookup ⟨Bytes.zero 16⟩).map PendingHandshake.source =
          some (.known keyedPeer) := by
  refine ⟨by decide +kernel, by decide +kernel, by decide +kernel⟩

/-- A proper client is gated at a server with one peer. -/
theorem mac1_gates_iff_pinned : Gated transparent [keyedPeer] none (initiationWith properMac1) ∧
      ∃ received, HandshakeMessage.decode (InitiatorHandshake.attachCookies transparent
        ⟨.pinnedKey (keyOf 1), .pinnedKey (keyOf 8), ⟨keyOf 3⟩, initiationWith properMac1⟩
        [Bytes.zero 32]).initiation.encode = .ok received ∧
        received.verifyMac1 transparent (keyedPeer.auth.responderMac1Key transparent) = true := by
  obtain ⟨gated, own⟩ := mac1_gates_iff transparent_correct
  have proper : (initiationWith properMac1).verifyMac1 transparent
      (keyedPeer.auth.responderMac1Key transparent) = true := by decide +kernel
  refine ⟨?_, ?_⟩
  · refine (gated [keyedPeer] none _ _ _ _).2 ?_
    intro _ source auth configured
    cases configured with
    | known identity listed =>
      rw [List.mem_singleton.1 listed]
      exact proper
    | authority ca auth is usable => cases is
  · exact (own (.pinnedKey (keyOf 1) (keyOf 8)) keyedPeer.auth (.pinnedKey (keyOf 1) (keyOf 8))
      (some (keyOf 3)) (some (keyOf 4)) _ _ rfl).2 [Bytes.zero 32]

end

end Server
end Rvpn
