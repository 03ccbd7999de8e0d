import Rvpn.Client.Handshake
import Rvpn.Protocol.Completeness
import Rvpn.Protocol.Parties
import Rvpn.Server.Tunnel

/-!
# The server and its clients on a hostile network

The server loop and any number of calls of the client's `establish` run next to each other. The network
is the attacker: it chooses which party makes the next step, and every datagram that a party is handed.
The ideal assumptions (`Network.Allowed`) are made where a client checks something; nothing is assumed
about what the server accepts.
-/

namespace Rvpn
open Client Config Crypto Primitives Protocol Server

variable (P : Primitives)

/-- A call of `establish`. -/
structure ClientCall where
  call : Establish P
  stage : Stage P

/-- Server, outputs, the clients' calls and secrets, and certificates. -/
structure Network where
  server : ServerLoop P
  outputs : List (Output P)
  rounds : List (Server.Event × Server.Env)
  clients : HashMap Nat (ClientCall P)
  drawn : List (Bytes 32)
  issued : Bytes 32 → Bytes 32 → UInt64 → UInt64 → Prop

namespace Network

inductive Event where
  | server (event : Server.Event) (env : Server.Env)
  | establish (id : Nat) (call : Establish P) (auth : AuthConfig) (ephemeral random : Option (Bytes 32))
      (env : Client.Env)
  | client (id : Nat) (event : Client.Event) (env : Client.Env)

variable {P}

def start (server : ServerLoop P) (issued : Bytes 32 → Bytes 32 → UInt64 → UInt64 → Prop) :
    Network P where
  server := server
  outputs := []
  rounds := []
  clients := ∅
  drawn := []
  issued := issued

def step (setup : Setup) (w : Network P) : Event P → Network P
  | .server event env =>
    { w with
      server := (w.server.step setup (event, env)).1
      outputs := (w.server.step setup (event, env)).2 ++ w.outputs
      rounds := (event, env) :: w.rounds }
  | .establish id call auth ephemeral random env =>
    if id ∈ w.clients then w
    else
      { w with
        clients := w.clients.insert id
          { call := call, stage := (call.start auth ephemeral random env).1 }
        drawn := ephemeral.toList ++ w.drawn }
  | .client id event env =>
    { w with
      clients := HashMap.modify id
        (fun c => { c with stage := (c.call.step c.stage (event, env)).1 }) w.clients }

/-- The instances that can have run with the secrets drawn. -/
def parties (w : Network P) : Parties P where
  initiator run := run.handshake.keyPair.secret ∈ w.drawn
  responder run := ∃ round ∈ w.rounds, ∃ n, (round.2.draw n).ephemeral = some run.secret ∧
    (round.2.draw n).random = some run.random
  issued := w.issued

/-- Packets of the server, and anything under other keys. -/
inductive Sealed (w : Network P) : SealRecord P → Prop where
  | packet {table id packet plaintext} {peer : ActivePeer P} :
    Output.sealed table id packet plaintext ∈ w.outputs → table.lookup id = some peer →
    Sealed w ⟨peer.session.keys.send, packetNonce packet.header.keyPhase packet.header.sequence,
      packet.header.encode, plaintext, packet.payload⟩
  | other {d s label key n a m c} : label ≠ infoS2c → P.hkdf d s label = some key →
    Sealed w ⟨key, n, a, m, c⟩

/-- A verifier that trusts honest keys only. -/
def Trusted (honest : Bytes 32 → Prop) (w : Network P) : AuthVerifier → Prop
  | .pinnedKey expected => honest expected
  | .certificate ca => honest ca ∧ ∀ k notBefore notAfter, w.issued ca k notBefore notAfter → honest k

/-- The signatures inside a response are unforgeable. -/
def IdealSignatures (honest : Bytes 32 → Prop) (w : Network P) (h : InitiatorHandshake)
    (response : HandshakeMessage) : Prop :=
  ∀ pk r sid sealedProof s keys proof, response = .response pk r sid sealedProof →
    h.openProof P pk r sid sealedProof = .ok (s, keys, proof) →
    w.parties.UnforgeableProof honest (serverInput h.initiation pk r sid) proof

/-- The ideal assumptions for a packet that a client is handed. -/
def IdealPacket (honest : Bytes 32 → Prop) (w : Network P) (stage : Stage P) (packet : Packet) : Prop :=
  match stage with
  | .response _ handshake =>
    ∀ response, HandshakeMessage.decode packet.payload = .ok response →
      IdealSignatures honest w handshake response
  | .acknowledgment _ _ session =>
    Authentic w.Sealed w.parties.Secret session.keys.receive
      (packetNonce packet.header.keyPhase packet.header.sequence) packet.header.encode packet.payload
  | _ => True

/-- Clients trust honest keys, and what they are handed is not forged. -/
def Allowed (honest : Bytes 32 → Prop) (w : Network P) : Event P → Prop
  | .server _ _ => True
  | .establish _ _ auth _ _ _ => Trusted honest w auth.verifier
  | .client id event _ =>
    ∀ c peer payload packet, w.clients.lookup id = some c → event = .datagram peer payload →
      decodeDatagram P c.call.obfuscation payload = some packet → IdealPacket honest w c.stage packet

structure Extends (w w' : Network P) : Prop where
  outputs : ∀ o ∈ w.outputs, o ∈ w'.outputs
  rounds : ∀ round ∈ w.rounds, round ∈ w'.rounds
  drawn : ∀ secret ∈ w.drawn, secret ∈ w'.drawn
  issued : w'.issued = w.issued

section
variable {honest : Bytes 32 → Prop} {w w' : Network P}

lemma Extends.secret (h : w.Extends w') {a : Bytes 32} (secret : w.parties.Secret a) :
    w'.parties.Secret a := by
  cases secret with
  | @initiator run drawn => exact .initiator (show w'.parties.initiator run from h.drawn _ drawn)
  | @responder run drawn =>
    obtain ⟨round, mem, n, draws⟩ := drawn
    exact .responder (show w'.parties.responder run from ⟨round, h.rounds round mem, n, draws⟩)

lemma Extends.derivable (h : w.Extends w') {k : P.Key}
    (derivable : P.Derivable w'.parties.Secret k) : P.Derivable w.parties.Secret k := by
  obtain ⟨x, y, s, d, i, other, rest⟩ := derivable
  exact ⟨x, y, s, d, i, fun a secret => other a (h.secret secret), rest⟩

lemma Extends.trusted (h : w.Extends w') {verifier : AuthVerifier}
    (trusted : Trusted honest w verifier) : Trusted honest w' verifier := by
  cases verifier with
  | pinnedKey expected => exact trusted
  | certificate ca =>
    refine ⟨trusted.1, ?_⟩
    rw [h.issued]
    exact trusted.2

lemma extends_step (setup : Setup) (w : Network P) (e : Event P) : w.Extends (w.step setup e) := by
  cases e with
  | server event env =>
    refine ⟨?_, ?_, fun _ mem => mem, rfl⟩
    · exact fun o mem => List.mem_append_right _ mem
    · exact fun round mem => List.mem_cons_of_mem _ mem
  | establish id call auth ephemeral random env =>
    simp only [step]
    split
    · exact ⟨fun _ mem => mem, fun _ mem => mem, fun _ mem => mem, rfl⟩
    · exact ⟨fun _ mem => mem, fun _ mem => mem, fun _ mem => List.mem_append_right _ mem, rfl⟩
  | client id event env => exact ⟨fun _ mem => mem, fun _ mem => mem, fun _ mem => mem, rfl⟩

end

/-!
The assumptions are no restriction on what the server sends: with correct primitives, its responses
and its packets meet them.
-/

section
variable {honest : Bytes 32 → Prop} {w : Network P}

lemma idealSignatures_of_exchange (correct : P.Correct)
    (own : ∀ k seed m, P.edVerify k m (P.edSign seed m) = true → k = P.edPublic seed)
    {h : InitiatorHandshake} {seed secret random : Bytes 32} {verifier : AuthVerifier}
    {sid : SessionId} {keyPhase : UInt32} {responder : ResponderHandshake P}
    {response : HandshakeMessage} (shape : ∃ random cookie mac1,
      h.initiation = .initiation (P.dhPublic h.keyPair.secret) random cookie mac1)
    (accepted : ResponderHandshake.acceptForSession P (.pinnedKey seed) verifier h.initiation sid
      keyPhase (some secret) (some random) = .ok (responder, response))
    (drawn : ∃ round ∈ w.rounds, ∃ n, (round.2.draw n).ephemeral = some secret ∧
      (round.2.draw n).random = some random) : IdealSignatures honest w h response := by
  have x : Exchange h (.pinnedKey seed) verifier sid keyPhase responder response :=
    ⟨shape, _, _, accepted⟩
  intro pk r sid' sealedProof s keys proof eq opened
  obtain ⟨pk', r', sealedProof', eq', verifierEq, sidEq, phaseEq, _, opened'⟩ := x.opened correct
  obtain ⟨rfl, rfl, rfl, rfl⟩ := HandshakeMessage.response.inj (eq.symm.trans eq')
  rw [opened] at opened'
  obtain ⟨_, rest⟩ := Prod.mk.inj (Except.ok.inj opened')
  obtain ⟨_, rfl⟩ := Prod.mk.inj rest
  apply Parties.unforgeableProof_of_signed own
  have accepted' := accepted
  rw [← verifierEq, ← phaseEq, ← sidEq] at accepted'
  let run : ResponderRun P :=
    { identity := .pinnedKey seed
      initiation := h.initiation
      response := response
      secret := secret
      random := random
      handshake := responder
      progress := .running
      accepted := accepted'
      finished := fun _ eq => nomatch eq }
  have signed := Parties.Signed.server (show w.parties.responder run from drawn)
  obtain ⟨_, _, _, _, _, _, _, _, _, produced, _⟩ := run.spec
  obtain ⟨pkEq, rEq, sidEq', _⟩ := HandshakeMessage.response.inj (eq'.symm.trans produced)
  rw [pkEq, rEq, sidEq']
  exact signed

lemma authentic_of_sealed (correct : P.Correct) {table : ActivePeers P}
    {id : SessionId} {packet : Packet} {plaintext : List UInt8} {peer : ActivePeer P}
    {session' : ProtectedSession P} (mem : Output.sealed table id packet plaintext ∈ w.outputs)
    (found : table.lookup id = some peer)
    (sealing : peer.session.sealPacket packet.header.kind plaintext = (.ok packet, session')) :
    Authentic w.Sealed w.parties.Secret peer.session.keys.send
      (packetNonce packet.header.keyPhase packet.header.sequence) packet.header.encode
      packet.payload := by
  intro m opened
  obtain ⟨_, _, shape, sealed, _⟩ := ProtectedSession.sealPacket_ok sealing
  have nonce : packetNonce peer.session.keyPhase peer.session.nextSendSequence =
      packetNonce packet.header.keyPhase packet.header.sequence := by rw [shape]
  rw [nonce] at sealed
  rw [correct.open_seal sealed] at opened
  cases opened
  exact .inl (.packet mem found)

end

end Network
end Rvpn
