import Rvpn.Lib.Transparent
import Rvpn.Server.Steps
import Rvpn.System.Network

/-!
# Established on both sides

`Network.established_on_both_sides`: a client returns a session only if the server sealed the
acknowledgment with the other end of that session in its table. An honest key signed the response, so
nobody else can derive the traffic keys; the acknowledgment is then a packet of the server.
-/

namespace Rvpn
open Client Config Crypto Primitives Protocol Server

namespace Network
variable {P : Primitives}

/-- The same id and key phase, and mirrored traffic keys. -/
structure Mirrors (s s' : ProtectedSession P) : Prop where
  sessionId : s.sessionId = s'.sessionId
  keyPhase : s.keyPhase = s'.keyPhase
  send : s.keys.send = s'.keys.receive
  receive : s.keys.receive = s'.keys.send

/-- The server sealed the acknowledgment while it had the other end. -/
def Acknowledged (w : Network P) (session : ProtectedSession P) (acknowledgment : Packet) : Prop :=
  ∃ table plaintext peer, Output.sealed table session.sessionId acknowledgment plaintext ∈ w.outputs ∧
    acknowledgment.header.kind = .keepalive ∧ table.lookup session.sessionId = some peer ∧
    Mirrors peer.session session

def ServerKeys (keys : SessionKeys P) : Prop :=
  ∃ d s, P.hkdf d s infoC2s = some keys.receive ∧ P.hkdf d s infoS2c = some keys.send

/-- Every session of the table is under its id, with keys of the server. -/
def Responding (active : ActivePeers P) : Prop :=
  ∀ id peer, active.lookup id = some peer →
    peer.session.sessionId = id ∧ ServerKeys peer.session.keys

/-- A call waits with its secret, has keys, or was acknowledged. -/
def StageSound (honest : Bytes 32 → Prop) (w : Network P) : Stage P → Prop
  | .response _ h => h.keyPair.secret ∈ w.drawn ∧ Trusted honest w h.verifier ∧
      ∃ random cookie mac1,
        h.initiation = .initiation (P.dhPublic h.keyPair.secret) random cookie mac1
  | .acknowledgment _ _ session => session.previous = none ∧
      ¬ P.Derivable w.parties.Secret session.keys.receive ∧
      ∃ d s, P.hkdf d s infoC2s = some session.keys.send ∧
        P.hkdf d s infoS2c = some session.keys.receive
  | .established session acknowledgment => w.Acknowledged session acknowledgment
  | .failed => True

structure Sound (honest : Bytes 32 → Prop) (w : Network P) : Prop where
  clients : ∀ id c, w.clients.lookup id = some c → StageSound honest w c.stage
  active : Responding w.server.active
  outputs : ∀ table id packet plaintext, Output.sealed table id packet plaintext ∈ w.outputs →
    Responding table ∧ ∃ peer session', table.lookup id = some peer ∧
      peer.session.sealPacket packet.header.kind plaintext = (.ok packet, session')

lemma Responding.derives {active active' : ActivePeers P}
    (h : Responding active) (derives : Derives active active') : Responding active' := by
  intro id peer' found
  obtain ⟨peer, found, kept⟩ := derives id peer' found
  obtain ⟨sessionId, keys⟩ := h id peer found
  rw [kept.sessionId, kept.keys]
  exact ⟨sessionId, keys⟩

lemma serverKeys_of_finish {h : ResponderHandshake P} {message : HandshakeMessage} {clock : Clock}
    {session : ProtectedSession P} {remote : Option (Bytes 32)}
    (ok : h.finish message clock = .ok (session, remote)) : ServerKeys session.keys := by
  obtain ⟨_, _, _, _, _, _, _, _, _, _, derive, rfl⟩ := ResponderHandshake.finish_ok ok
  obtain ⟨c2s, s2c, receive, send, rfl⟩ := SessionKeys.derive_ok.1 derive
  exact ⟨_, _, receive, send⟩

lemma Responding.install {active : ActivePeers P} {identity : PeerIdentity}
    {session : ProtectedSession P} {endpoint : SocketAddr} {gracePeriod rxRate now : Nat}
    (h : Responding active) (keys : ServerKeys session.keys) :
    Responding (install active identity session endpoint gracePeriod rxRate now).1 := by
  intro id peer found
  obtain ⟨rfl, _, sessionId, _, keys'⟩ | ⟨_, found⟩ := lookup_install found
  · rw [keys']
    exact ⟨sessionId, keys⟩
  · exact h id peer found

section
variable {honest : Bytes 32 → Prop} {w w' : Network P}

/-- What holds of a call still holds when other parties have moved. -/
lemma StageSound.extends (h : w.Extends w') {stage : Stage P} (sound : StageSound honest w stage) :
    StageSound honest w' stage := by
  cases stage with
  | response attempt handshake =>
    obtain ⟨drawn, trusted, shape⟩ := sound
    exact ⟨h.drawn _ drawn, h.trusted trusted, shape⟩
  | acknowledgment attempt finish session =>
    obtain ⟨previous, secret, keys⟩ := sound
    exact ⟨previous, fun derivable => secret (h.derivable derivable), keys⟩
  | established session acknowledgment =>
    obtain ⟨table, plaintext, peer, sealed, rest⟩ := sound
    exact ⟨table, plaintext, peer, h.outputs _ sealed, rest⟩
  | failed => trivial

lemma Responding.calm {active active' : ActivePeers P} {out : List (Output P)}
    (h : Responding active) (calm : Calm active (active', out)) : Responding active' ∧
      ∀ table id packet plaintext, Output.sealed table id packet plaintext ∈ out →
        Responding table ∧ ∃ peer session', table.lookup id = some peer ∧
          peer.session.sealPacket packet.header.kind plaintext = (.ok packet, session') := by
  refine ⟨h.derives calm.table, ?_⟩
  intro table id packet plaintext mem
  obtain quiet | ⟨_, eq⟩ | ⟨_, eq⟩ := calm.outputs _ mem
  · exact ⟨h.derives quiet.1, quiet.2⟩
  · cases eq
  · cases eq

/-- A round of the server keeps what is known of its table and of its seals. -/
lemma Responding.round (setup : Setup) {server : ServerLoop P} (h : Responding server.active)
    (event : Server.Event × Server.Env) :
    Responding (server.step setup event).1.active ∧ ∀ table id packet plaintext,
        Output.sealed table id packet plaintext ∈ (server.step setup event).2 →
        Responding table ∧ ∃ peer session', table.lookup id = some peer ∧
          peer.session.sealPacket packet.header.kind plaintext = (.ok packet, session') := by
  obtain calm | ⟨_, _, _, session, _, _, _, _, completes, _, out, eq, calm⟩ :=
    ServerLoop.step_active setup server event
  · exact h.calm calm
  · obtain ⟨_, _, finished⟩ := completes.finish
    obtain ⟨active, seals⟩ := (h.install (serverKeys_of_finish finished)).calm calm
    refine ⟨active, ?_⟩
    intro table id packet plaintext mem
    rw [eq] at mem
    rcases List.mem_cons.1 mem with installed | mem
    · cases installed
    · exact seals table id packet plaintext mem

/-- A key that a client accepts is honest. -/
lemma honest_of_verified {verifier : AuthVerifier} {data : List UInt8} {proof : AuthProof} {now : Nat}
    {k : Bytes 32} (trusted : Trusted honest w verifier)
    (unforgeable : w.parties.UnforgeableProof honest data proof)
    (trusts : Trusts P verifier proof now k) : honest k := by
  cases verifier with
  | pinnedKey expected =>
    cases trusts
    exact trusted
  | certificate ca =>
    obtain ⟨honestCa, holders⟩ := trusted
    obtain ⟨bytes, sig, eq, rfl, valid⟩ := trusts
    obtain ⟨_, _, signature⟩ := Certificate.verify_spec valid
    have signed := unforgeable.2 bytes sig eq ca honestCa signature
    exact holders _ _ _ signed.of_signedFields

/-- Only client and server derive the keys: an honest key signed. -/
lemma committed_sound (ideal : P.Ideal) {attempt : Nat} {handshake : InitiatorHandshake}
    {response message : HandshakeMessage} {sid : SessionId} {keyPhase : UInt32} {clock : Clock}
    {session : ProtectedSession P} {remote : Option (Bytes 32)} (n : Nat) (finish : Packet)
    (sound : StageSound honest w (.response attempt handshake))
    (assumed : IdealSignatures honest w handshake response)
    (ok : handshake.finishForSession P response sid keyPhase clock =
      .ok (message, session, remote)) :
    StageSound honest w (.acknowledgment n finish session) := by
  obtain ⟨drawn, trusted, shape⟩ := sound
  obtain ⟨pk, r, sealedProof, s, keys, proof, _, _, eq, isInit, opened, verified, _, _, derive, rfl⟩ :=
    InitiatorHandshake.finishForSession_ok ok
  obtain ⟨agree, _⟩ := InitiatorHandshake.openProof_ok.1 opened
  have unforgeable := assumed pk r sid sealedProof s keys proof eq opened
  obtain ⟨k, _, signature, trusts⟩ := verifyProof_ok verified
  have honestKey := honest_of_verified trusted unforgeable trusts
  obtain ⟨peer, responder, _, _, rfl, _⟩ :=
    (unforgeable.1 k honestKey signature).of_serverInput isInit
  let instanceRun : InitiatorRun P :=
    { handshake := handshake, progress := .running, shape := shape, finished := fun _ eq => nomatch eq }
  have own : w.parties.initiator instanceRun := drawn
  obtain ⟨c2s, s2c, send, receive, rfl⟩ := SessionKeys.derive_ok.1 derive
  refine ⟨rfl, ?_, _, s, send, receive⟩
  exact ideal.not_derivable (Parties.Secret.initiator own) (Parties.Secret.responder responder) agree
    receive

/-- What a client opens was sealed in the other end of its session. -/
lemma acknowledged_of_opened (ideal : P.Ideal) (sound : Sound honest w) {n now : Nat}
    {finish packet : Packet} {session session' : ProtectedSession P} {m : List UInt8}
    (stage : StageSound honest w (.acknowledgment n finish session))
    (assumed : IdealPacket honest w (.acknowledgment n finish session) packet)
    (kind : packet.header.kind = .keepalive)
    (opened : session.openPacket packet now = (.ok m, session')) :
    w.Acknowledged session' packet := by
  obtain ⟨previous, secret, d, s, send, receive⟩ := stage
  obtain ⟨_, sessionId, ⟨keyPhase, window, current, rfl⟩ | ⟨_, prev, _, found, _⟩⟩ :=
    ProtectedSession.openPacket_ok opened
  · obtain ⟨decrypted, _⟩ := ProtectedSession.openPhase_ok current
    have sealed := (assumed m decrypted).resolve_right secret
    generalize eq : (SealRecord.mk session.keys.receive
      (packetNonce packet.header.keyPhase packet.header.sequence) packet.header.encode m
      packet.payload) = record at sealed
    cases sealed with
    | @packet table id packet' plaintext peer mem found =>
      obtain ⟨key, _, header, rfl, payload⟩ := SealRecord.mk.inj eq
      obtain rfl : packet = packet' := Packet.ext (Header.encode_inj header) payload
      obtain ⟨responding, peer', _, found', sealing⟩ := sound.outputs table id packet m mem
      rw [found] at found'
      cases found'
      obtain ⟨underId, d', s', receive', send'⟩ := responding id peer found
      obtain ⟨_, _, shape, _⟩ := ProtectedSession.sealPacket_ok sealing
      -- the header is authenticated, so the id and the phase are those of the server's session
      have phase : packet.header.keyPhase = peer.session.keyPhase := by rw [shape]
      have samId : packet.header.sessionId = peer.session.sessionId := by rw [shape]
      -- the send key of the server determines the derivation, and with it the other key
      rw [← key] at send'
      obtain ⟨rfl, rfl, _⟩ := ideal.hkdf_inj receive send'
      rw [send] at receive'
      have idEq : id = session.sessionId := by rw [← underId, ← samId, sessionId]
      subst idEq
      refine ⟨table, m, peer, mem, kind, found, underId, ?_, key.symm, ?_⟩
      · rw [← phase, keyPhase]
      · exact (Option.some.inj receive').symm
    | other label derived =>
      obtain ⟨rfl, _⟩ := SealRecord.mk.inj eq
      exact absurd (ideal.hkdf_inj receive derived).2.2.symm label
  · rw [previous] at found
    cases found

lemma started_sound (call : Establish P) (auth : AuthConfig) (ephemeral random : Option (Bytes 32))
    (env : Client.Env) (drawn : ∀ secret, ephemeral = some secret → secret ∈ w.drawn)
    (trusted : Trusted honest w auth.verifier) :
    StageSound honest w (call.start auth ephemeral random env).1 := by
  obtain eq | ⟨handshake, message, eq, started⟩ := call.start_cases auth ephemeral random env
  · rw [eq]
    trivial
  · rw [eq]
    obtain ⟨draw, _, verifier, r, mac1, initiation⟩ := InitiatorHandshake.start_ok started
    refine ⟨drawn _ draw, ?_, r, none, mac1, initiation⟩
    rw [verifier]
    exact trusted

lemma StageSound.step (ideal : P.Ideal) (sound : Sound honest w) {call : Establish P}
    {stage : Stage P} (h : StageSound honest w stage) (event : Client.Event × Client.Env)
    (assumed : ∀ peer payload packet, event.1 = .datagram peer payload →
      decodeDatagram P call.obfuscation payload = some packet → IdealPacket honest w stage packet) :
    StageSound honest w (call.step stage event).1 := by
  cases stage with
  | response attempt handshake =>
    have outcome := Establish.step_response (e := call) attempt handshake event
    generalize (call.step (.response attempt handshake) event).1 = next at outcome
    cases outcome with
    | failed => trivial
    | waits attempt => exact h
    | cookie attempt cookie =>
      obtain ⟨drawn, trusted, shape⟩ := h
      obtain ⟨keyPair, _, verifier, initiation⟩ :=
        InitiatorHandshake.attachCookie_spec cookie shape
      refine ⟨?_, ?_, ?_⟩
      · rw [keyPair]
        exact drawn
      · rw [verifier]
        exact trusted
      · rw [keyPair]
        exact initiation
    | commits finish datagram decoded carried finished =>
      exact committed_sound ideal 1 finish h (assumed _ _ _ datagram decoded _ carried) finished
  | acknowledgment attempt finish session =>
    have outcome := Establish.step_acknowledgment (e := call) attempt finish session event
    generalize (call.step (.acknowledgment attempt finish session) event).1 = next at outcome
    cases outcome with
    | failed => trivial
    | waits attempt finish => exact h
    | returns datagram decoded kind opened =>
      exact acknowledged_of_opened ideal sound h (assumed _ _ _ datagram decoded) kind opened
  | established session acknowledgment => exact h
  | failed => trivial

lemma Sound.step (ideal : P.Ideal) (setup : Setup) {e : Event P} (sound : Sound honest w)
    (allowed : Allowed honest w e) : Sound honest (w.step setup e) := by
  have grows := extends_step setup w e
  cases e with
  | server event env =>
    obtain ⟨active, seals⟩ := sound.active.round setup (event, env)
    refine ⟨fun id c found => (sound.clients id c found).extends grows, active, ?_⟩
    intro table id packet plaintext mem
    rcases List.mem_append.1 mem with now | before
    · exact seals table id packet plaintext now
    · exact sound.outputs table id packet plaintext before
  | establish id call auth ephemeral random env =>
    have drawn : ∀ secret, id ∉ w.clients → ephemeral = some secret →
        secret ∈ (w.step setup (.establish id call auth ephemeral random env)).drawn := by
      intro secret new eq
      simp [Network.step, new, eq]
    have trusted := grows.trusted allowed
    simp only [Network.step] at grows drawn trusted ⊢
    split
    · exact sound
    · next new =>
      rw [if_neg new] at grows drawn trusted
      refine ⟨?_, sound.active, sound.outputs⟩
      intro id' c found
      simp only [HashMap.lookup_insert_eq] at found
      split at found
      · cases found
        exact started_sound call auth ephemeral random env (fun secret => drawn secret new) trusted
      · exact (sound.clients id' c found).extends grows
  | client id event env =>
    refine ⟨?_, sound.active, sound.outputs⟩
    intro id' c' found
    simp only [Network.step, HashMap.lookup_modify] at found
    split at found
    · next same =>
      subst same
      obtain ⟨c, called, rfl⟩ := Option.map_eq_some_iff.1 found
      have next := (sound.clients _ c called).step ideal sound (event, env)
        fun peer payload packet datagram decoded =>
          allowed c peer payload packet called datagram decoded
      exact next.extends grows
    · exact (sound.clients id' c' found).extends grows

end

lemma sound_start {honest : Bytes 32 → Prop} (config : ServerConfig) (identities : List PeerIdentity)
    (certificateAuthority : Option CertificateAuthorityConfig)
    (issued : Bytes 32 → Bytes 32 → UInt64 → UInt64 → Prop) :
    Sound honest (start (ServerLoop.start P config identities certificateAuthority) issued) := by
  refine ⟨?_, ?_, ?_⟩
  · intro id c found
    cases found
  · intro id peer found
    cases found
  · intro table id packet plaintext mem
    cases mem

/-- In every run, a call of `establish` returns a session only if the server sealed the
acknowledgment it accepted, and had at that moment an active session with the same id, key phase and
mirrored keys. -/
theorem established_on_both_sides (ideal : P.Ideal) (honest : Bytes 32 → Prop) (setup : Setup)
    (config : ServerConfig) (identities : List PeerIdentity)
    (certificateAuthority : Option CertificateAuthorityConfig)
    (issued : Bytes 32 → Bytes 32 → UInt64 → UInt64 → Prop) (events : List (Event P)) (w : Network P)
    (reached : w = run (step setup)
      (start (ServerLoop.start P config identities certificateAuthority) issued) events)
    (allowed : EachStep (step setup) (Allowed honest)
      (start (ServerLoop.start P config identities certificateAuthority) issued) events)
    (id : Nat) (c : ClientCall P) (session : ProtectedSession P) (acknowledgment : Packet)
    (found : w.clients.lookup id = some c) (returned : c.stage = .established session acknowledgment) :
    w.Acknowledged session acknowledgment := by
  have sound : Sound honest w := by
    rw [reached]
    exact run_invariant (sound_start config identities certificateAuthority issued)
      (fun w e sound allowed => sound.step ideal setup allowed) allowed
  have stage := sound.clients id c found
  rw [returned] at stage
  exact stage

/-!
An exchange in which every packet is delivered: a client calls `establish`, answers the cookie
challenge, and returns with the acknowledgment.
-/

section Delivered

def sampleIdentity : PeerIdentity where
  name := "peer"
  allowedIps := []
  auth := .pinnedKey (keyOf 8) (keyOf 1)

def sampleServer : SocketAddr where
  ip := .v4 (Bytes.ofList 4 [192, 0, 2, 1])
  port := 51820

def sampleRound : Server.Env :=
  { sampleEnv with draw := fun _ => ⟨some (Bytes.ofList 16 [9]), some (keyOf 10), some (keyOf 11)⟩ }

def sampleMoment : Client.Env where
  clock := ⟨0, 0⟩
  wrap := none
  sends := true

def sampleCall : Establish transparent where
  server := sampleServer
  obfuscation := none
  retryLimit := 5
  old := none

def clientWire (w : Network transparent) : List UInt8 :=
  match w.clients.lookup 0 with
  | some ⟨call, .response _ handshake⟩ => (call.initiationPacket handshake).encode
  | some ⟨_, .acknowledgment _ finish _⟩ => finish.encode
  | _ => []

def serverWire (w : Network transparent) : List UInt8 :=
  (w.outputs.findSome? fun
    | .send _ packet => some packet.encode
    | _ => none).getD []

def delivery (n : Nat) (w : Network transparent) : Event transparent :=
  if n = 0 then
    .establish 0 sampleCall (.pinnedKey (keyOf 1) (keyOf 8)) (some (keyOf 3)) (some (keyOf 4))
      sampleMoment
  else if n % 2 = 1 then .server (.datagram clientEndpoint (clientWire w)) sampleRound
  else .client 0 (.datagram sampleServer (serverWire w)) sampleMoment

def delivered : Nat → Network transparent
  | 0 =>
    start (ServerLoop.start transparent { bind := sampleServer } [sampleIdentity] none)
      fun _ _ _ _ => False
  | n + 1 => step (deviceSetup (none, none)) (delivered n) (delivery n (delivered n))

def deliveries (n : Nat) : List (Event transparent) :=
  (List.range n).map fun k => delivery k (delivered k)

def waitingHandshake (c : ClientCall transparent) : Option InitiatorHandshake :=
  match c.stage with
  | .response _ handshake => some handshake
  | _ => none

def receiveKey (c : ClientCall transparent) : Option transparent.Key :=
  match c.stage with
  | .acknowledgment _ _ session => some session.keys.receive
  | _ => none

def sampleHandshake : InitiatorHandshake :=
  InitiatorHandshake.attachCookie transparent
    { identity := .pinnedKey (keyOf 1)
      verifier := .pinnedKey (keyOf 8)
      keyPair := ⟨keyOf 3⟩
      initiation := .initiation (keyOf 3) (keyOf 4) none (HandshakeMessage.computeMac1 transparent
        (AuthVerifier.mac1Key transparent (.pinnedKey (keyOf 8))) (keyOf 3) (keyOf 4) none) }
    ((deviceSetup (none, none)).cookieKey.mint transparent clientEndpoint (keyOf 3) (keyOf 4) 0)

instance : DecidableEq transparent.Key :=
  inferInstanceAs (DecidableEq (List UInt8 × Sym2 (Bytes 32) × List UInt8))

section
variable {honest : Bytes 32 → Prop} {w : Network transparent} {c : ClientCall transparent}
  {packet : Packet}

lemma idealPacket_of_waiting {handshake : InitiatorHandshake}
    (waits : waitingHandshake c = some handshake)
    (assumed : ∀ response, HandshakeMessage.decode packet.payload = .ok response →
      IdealSignatures honest w handshake response) : IdealPacket honest w c.stage packet := by
  unfold waitingHandshake at waits
  split at waits
  · next stage =>
    cases waits
    rw [stage]
    exact assumed
  · cases waits

/-- A message that is no response carries no signature. -/
lemma idealPacket_of_reply (waits : (waitingHandshake c).isSome = true)
    (reply : (HandshakeMessage.decode packet.payload).toOption.map HandshakeMessage.isResponse =
      some false) : IdealPacket honest w c.stage packet := by
  obtain ⟨handshake, waits⟩ := Option.isSome_iff_exists.1 waits
  apply idealPacket_of_waiting waits
  intro response carried pk r sid sealedProof _ _ _ eq
  rw [carried, eq] at reply
  cases reply

/-- The response of the server is signed with its key. -/
lemma idealPacket_of_exchange {handshake : InitiatorHandshake} {seed secret random : Bytes 32}
    {verifier : AuthVerifier} {sid : SessionId} {keyPhase : UInt32}
    (waits : waitingHandshake c = some handshake)
    (shape : ∃ random cookie mac1, handshake.initiation =
      .initiation (transparent.dhPublic handshake.keyPair.secret) random cookie mac1)
    (reply : (HandshakeMessage.decode packet.payload).toOption =
      (ResponderHandshake.acceptForSession transparent (.pinnedKey seed) verifier
        handshake.initiation sid keyPhase (some secret) (some random)).toOption.map Prod.snd)
    (drawn : ∃ round ∈ w.rounds, ∃ n, (round.2.draw n).ephemeral = some secret ∧
      (round.2.draw n).random = some random) : IdealPacket honest w c.stage packet := by
  apply idealPacket_of_waiting waits
  intro response carried
  rw [carried] at reply
  cases accepted : ResponderHandshake.acceptForSession transparent (.pinnedKey seed) verifier
      handshake.initiation sid keyPhase (some secret) (some random) with
  | error e =>
    rw [accepted] at reply
    cases reply
  | ok result =>
    rw [accepted] at reply
    obtain rfl : response = result.2 := Option.some.inj reply
    exact idealSignatures_of_exchange transparent_correct
      (fun _ _ _ verified => transparent_verify_only verified) shape accepted drawn

def sealRecord : Output transparent →
    Option (Packet × List UInt8 × Option (transparent.Key × Option Packet))
  | .sealed table id packet plaintext => some (packet, plaintext, (table.lookup id).map fun peer =>
      (peer.session.keys.send, (peer.session.sealPacket packet.header.kind plaintext).1.toOption))
  | _ => none

/-- The acknowledgment was sealed by the server. -/
lemma idealPacket_of_record {key : transparent.Key} {plaintext : List UInt8} {o : Output transparent}
    (waits : receiveKey c = some key) (there : o ∈ w.outputs)
    (record : sealRecord o = some (packet, plaintext, some (key, some packet))) :
    IdealPacket honest w c.stage packet := by
  unfold receiveKey at waits
  split at waits
  · next stage =>
    cases waits
    rw [stage]
    cases o with
    | sealed table id packet' plaintext' =>
      obtain ⟨rfl, rest⟩ := Prod.mk.inj (Option.some.inj record)
      obtain ⟨rfl, entry⟩ := Prod.mk.inj rest
      obtain ⟨peer, found, eq⟩ := Option.map_eq_some_iff.1 entry
      obtain ⟨key, sealed⟩ := Prod.mk.inj eq
      cases sealing : peer.session.sealPacket packet'.header.kind plaintext' with
      | mk result session' =>
        rw [sealing] at sealed
        cases result with
        | error e => cases sealed
        | ok packet =>
          cases sealed
          have authentic := authentic_of_sealed transparent_correct there found sealing
          rw [key] at authentic
          exact authentic
    | _ => cases record
  · cases waits

end

def arriving (n : Nat) : Option Packet :=
  decodeDatagram transparent none (serverWire (delivered n))

lemma allowed_cookieReply (honest : Bytes 32 → Prop) :
    Allowed honest (delivered 2) (delivery 2 (delivered 2)) := by
  have view : ((delivered 2).clients.lookup 0).map (fun c =>
      (c.call.obfuscation, (waitingHandshake c).isSome)) = some (none, true) := by decide +kernel
  have reply : (arriving 2).map (fun packet =>
      (HandshakeMessage.decode packet.payload).toOption.map HandshakeMessage.isResponse) =
        some (some false) := by decide +kernel
  show Allowed honest _ (.client 0 (.datagram sampleServer (serverWire (delivered 2))) sampleMoment)
  intro c peer payload packet found datagram decoded
  cases datagram
  rw [found] at view
  obtain ⟨plain, waits⟩ := Prod.mk.inj (Option.some.inj view)
  rw [plain] at decoded
  rw [arriving, decoded] at reply
  exact idealPacket_of_reply waits (Option.some.inj reply)

lemma allowed_response (honest : Bytes 32 → Prop) :
    Allowed honest (delivered 4) (delivery 4 (delivered 4)) := by
  have view : ((delivered 4).clients.lookup 0).map (fun c =>
      (c.call.obfuscation, waitingHandshake c)) = some (none, some sampleHandshake) := by
    decide +kernel
  have reply : (arriving 4).map (fun packet => (HandshakeMessage.decode packet.payload).toOption) =
      some ((ResponderHandshake.acceptForSession transparent (.pinnedKey (keyOf 8))
        (.pinnedKey (keyOf 1)) sampleHandshake.initiation ⟨Bytes.ofList 16 [9]⟩ 0 (some (keyOf 10))
        (some (keyOf 11))).toOption.map Prod.snd) := by decide +kernel
  show Allowed honest _ (.client 0 (.datagram sampleServer (serverWire (delivered 4))) sampleMoment)
  intro c peer payload packet found datagram decoded
  cases datagram
  rw [found] at view
  obtain ⟨plain, waits⟩ := Prod.mk.inj (Option.some.inj view)
  rw [plain] at decoded
  rw [arriving, decoded] at reply
  refine idealPacket_of_exchange waits ⟨keyOf 4, _, _, rfl⟩ (Option.some.inj reply) ?_
  exact ⟨(.datagram clientEndpoint (clientWire (delivered 3)), sampleRound), List.mem_cons_self, 0,
    rfl, rfl⟩

lemma allowed_acknowledgment (honest : Bytes 32 → Prop) :
    Allowed honest (delivered 6) (delivery 6 (delivered 6)) := by
  have view : ((delivered 6).clients.lookup 0).map (fun c =>
      (c.call.obfuscation, (receiveKey c).isSome)) = some (none, true) := by decide +kernel
  have record : ((delivered 6).outputs[1]?).bind sealRecord =
      (arriving 6).bind fun packet => ((delivered 6).clients.lookup 0).bind fun c =>
        (receiveKey c).map fun key => (packet, [], some (key, some packet)) := by decide +kernel
  show Allowed honest _ (.client 0 (.datagram sampleServer (serverWire (delivered 6))) sampleMoment)
  intro c peer payload packet found datagram decoded
  cases datagram
  rw [found] at view record
  obtain ⟨plain, waits⟩ := Prod.mk.inj (Option.some.inj view)
  obtain ⟨key, waits⟩ := Option.isSome_iff_exists.1 waits
  rw [plain] at decoded
  rw [arriving, decoded] at record
  simp only [Option.bind_some, waits, Option.map_some] at record
  obtain ⟨o, there, record⟩ := Option.bind_eq_some_iff.1 record
  exact idealPacket_of_record waits (List.mem_of_getElem? there) record

lemma allowed_delivery : ∀ k < 7, Allowed (· = keyOf 8) (delivered k) (delivery k (delivered k)) := by
  intro k lt
  match k, lt with
  | 0, _ => exact (rfl : keyOf 8 = keyOf 8)
  | 1, _ => trivial
  | 2, _ => exact allowed_cookieReply _
  | 3, _ => trivial
  | 4, _ => exact allowed_response _
  | 5, _ => trivial
  | 6, _ => exact allowed_acknowledgment _

/-- The client returns, and the server has the other end. -/
theorem established_on_both_sides_delivered :
    ∃ c session acknowledgment, (delivered 7).clients.lookup 0 = some c ∧
      c.stage = .established session acknowledgment ∧
      (delivered 7).Acknowledged session acknowledgment := by
  have returned : ((delivered 7).clients.lookup 0).map (fun c =>
      match c.stage with
      | .established _ _ => true
      | _ => false) = some true := by decide +kernel
  obtain ⟨c, found, returned⟩ := Option.map_eq_some_iff.1 returned
  split at returned
  · next session acknowledgment stage =>
    refine ⟨c, session, acknowledgment, found, stage, ?_⟩
    exact established_on_both_sides transparent_ideal (· = keyOf 8) (deviceSetup (none, none))
      { bind := sampleServer } [sampleIdentity] none (fun _ _ _ _ => False) (deliveries 7)
      (delivered 7) (run_range (fun _ => rfl) 7).symm
      (eachStep_range (fun _ => rfl) allowed_delivery) 0 c session acknowledgment found stage
  · cases returned

end Delivered

end Network
end Rvpn
