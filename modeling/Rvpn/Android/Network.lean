import Rvpn.Android.Handshake
import Rvpn.System.Establishment

/-!
# The server and its Android clients

The server loop and any number of calls of the Android client's `establish`, with a network that
chooses which party moves next and what it is handed. Nothing tells the call that the server got its
finish, so it may return a session that the server never had; `Network.held_iff_accepted` says when the
server has held the other end.
-/

namespace Rvpn.Android
open Config Crypto Primitives Protocol Server
open Client (Establish)

variable (P : Primitives)

/-- A call of `establish`. -/
structure Caller where
  call : Establish P
  stage : Handshake.Stage P

structure Network where
  server : ServerLoop P
  clients : HashMap Nat (Caller P)

namespace Network

inductive Event where
  | server (event : Server.Event) (env : Server.Env)
  | establish (id : Nat) (call : Establish P) (auth : AuthConfig) (ephemeral random : Option (Bytes 32))
      (env : Handshake.Env)
  | client (id : Nat) (event : Handshake.Event) (env : Handshake.Env)

variable {P}

def start (server : ServerLoop P) : Network P where
  server := server
  clients := ∅

def step (setup : Setup) (w : Network P) : Event P → Network P
  | .server event env => { w with server := (w.server.step setup (event, env)).1 }
  | .establish id call auth ephemeral random env =>
    if id ∈ w.clients then w
    else
      { w with
        clients := w.clients.insert id
          { call := call, stage := (Handshake.start call auth ephemeral random env).1 } }
  | .client id event env =>
    { w with
      clients := HashMap.modify id
        (fun c => { c with stage := (Handshake.step c.call c.stage (event, env)).1 }) w.clients }

def Holds (server : ServerLoop P) (session : ProtectedSession P) : Prop :=
  ∃ peer, server.active.lookup session.sessionId = some peer ∧
    Rvpn.Network.Mirrors peer.session session

/-- The call has returned the session. -/
def Returned (w : Network P) (id : Nat) (session : ProtectedSession P) (messages : Handshake.Messages) :
    Prop :=
  ∃ c, w.clients.lookup id = some c ∧ c.stage = .returned session messages

/-- The server completes the handshake of these messages in the phase. -/
def Accepts (setup : Setup) (session : ProtectedSession P) (messages : Handshake.Messages)
    (w : Network P) (event : Event P) : Prop :=
  ∃ arriving env peer packet state session' remote identity,
    event = .server arriving env ∧ w.server.stopped = false ∧
    arriving.Arrives P setup peer packet ∧ packet.header.sequence = 1 ∧
    Completes setup.parser w.server.pending peer packet env.clock state session' remote identity ∧
    HandshakeMessage.decode packet.payload = .ok messages.finish ∧
    state.handshake.transcript =
      { initiation := messages.initiation, response := some messages.response } ∧
    state.handshake.keyPhase = session.keyPhase

/-! ### What holds of the calls and of the pending handshakes -/

/-- The session of a call comes from the messages it has kept. -/
def Committed (session : ProtectedSession P) (messages : Handshake.Messages) : Prop :=
  ∃ (h : InitiatorHandshake) (sid : SessionId) (keyPhase : UInt32) (clock : Clock)
      (remote : Option (Bytes 32)),
    (∃ random cookie mac1,
      h.initiation = .initiation (P.dhPublic h.keyPair.secret) random cookie mac1) ∧
    messages.initiation = h.initiation ∧
    h.finishForSession P messages.response sid keyPhase clock =
      .ok (messages.finish, session, remote)

/-- What holds of a call in each stage. -/
def CallSound : Handshake.Stage P → Prop
  | .response _ h => ∃ random cookie mac1,
      h.initiation = .initiation (P.dhPublic h.keyPair.secret) random cookie mac1
  | .finishing _ _ session messages => Committed session messages
  | .returned session messages => Committed session messages
  | .failed => True

/-- Every pending handshake was started by the server. -/
def Answering (pending : PendingHandshakes P) : Prop :=
  ∀ id state, pending.entries.lookup id = some state →
    (state.kind = .handshake ∨ state.kind = .rekey) ∧ ∃ auth draw keyPhase initiation response,
        Accepted auth draw id keyPhase initiation response state

structure Sound (w : Network P) : Prop where
  clients : ∀ id c, w.clients.lookup id = some c → CallSound c.stage
  pending : Answering w.server.pending

variable {messages : Handshake.Messages} {session : ProtectedSession P}

lemma callSound_of_holds {stage : Handshake.Stage P} (holds : stage.Holds session messages)
    (committed : Committed session messages) : CallSound stage := by
  cases stage with
  | finishing attempt finish session' messages' =>
    obtain ⟨rfl, rfl⟩ := holds
    exact committed
  | returned session' messages' =>
    obtain ⟨rfl, rfl⟩ := holds
    exact committed
  | _ => cases holds

lemma callSound_start (call : Establish P) (auth : AuthConfig) (ephemeral random : Option (Bytes 32))
    (env : Handshake.Env) : CallSound (Handshake.start call auth ephemeral random env).1 := by
  obtain eq | ⟨handshake, message, eq, started⟩ :=
    Handshake.start_cases call auth ephemeral random env
  · rw [eq]
    trivial
  · rw [eq]
    obtain ⟨_, _, _, r, mac1, initiation⟩ := InitiatorHandshake.start_ok started
    exact ⟨r, none, mac1, initiation⟩

lemma CallSound.step {call : Establish P} {stage : Handshake.Stage P} (h : CallSound stage)
    (event : Handshake.Event × Handshake.Env) : CallSound (Handshake.step call stage event).1 := by
  cases stage with
  | response attempt handshake =>
    have outcome := Handshake.step_response call attempt handshake event
    generalize (Handshake.step call (.response attempt handshake) event).1 = next at outcome
    cases outcome with
    | failed => trivial
    | waits attempt => exact h
    | cookie attempt cookie =>
      obtain ⟨keyPair, _, _, initiation⟩ := InitiatorHandshake.attachCookie_spec cookie h
      show ∃ _ _ _, _
      rw [keyPair]
      exact initiation
    | commits finished holds =>
      exact callSound_of_holds holds ⟨handshake, _, _, _, _, h, rfl, finished⟩
  | finishing attempt finish session messages =>
    obtain eq | holds := Handshake.step_finishing call attempt finish session messages event
    · rw [eq]
      trivial
    · exact callSound_of_holds holds h
  | returned session messages => exact h
  | failed => trivial

lemma answering_step (setup : Setup) {server : ServerLoop P} (h : Answering server.pending)
    (event : Server.Event × Server.Env) : Answering (server.step setup event).1.pending := by
  intro id state found
  obtain ⟨old, before, attempts, rfl⟩ | started := ServerLoop.step_pending setup server found
  · obtain ⟨kind, auth, draw, keyPhase, initiation, response, ⟨accepted⟩⟩ := h id old before
    exact ⟨kind, auth, draw, keyPhase, initiation, response, ⟨accepted⟩⟩
  · cases started with
    | known identity n initiation response configured kind source drawn accepted =>
      exact ⟨.inl kind, _, _, _, _, _, accepted⟩
    | authority ca auth n initiation response configured kind source usable drawn accepted =>
      exact ⟨.inl kind, _, _, _, _, _, accepted⟩
    | rekey key current initiation response active same kind source room accepted =>
      exact ⟨.inr kind, _, _, _, _, _, accepted⟩

lemma Sound.step (setup : Setup) {w : Network P} (sound : Sound w) (event : Event P) :
    Sound (w.step setup event) := by
  cases event with
  | server event env => exact ⟨sound.clients, answering_step setup sound.pending (event, env)⟩
  | establish id call auth ephemeral random env =>
    simp only [Network.step]
    split
    · exact sound
    · refine ⟨?_, sound.pending⟩
      intro id' c found
      simp only [HashMap.lookup_insert_eq] at found
      split at found
      · cases found
        exact callSound_start call auth ephemeral random env
      · exact sound.clients id' c found
  | client id event env =>
    refine ⟨?_, sound.pending⟩
    intro id' c' found
    simp only [Network.step, HashMap.lookup_modify] at found
    split at found
    · next same =>
      subst same
      obtain ⟨c, called, rfl⟩ := Option.map_eq_some_iff.1 found
      exact (sound.clients _ c called).step (event, env)
    · exact sound.clients id' c' found

/-! ### The other end of a session -/

lemma mirrors_of_keeps {peer peer' : ActivePeer P} (keeps : peer.Keeps peer')
    (mirrors : Rvpn.Network.Mirrors peer'.session session) :
    Rvpn.Network.Mirrors peer.session session := by
  obtain ⟨sessionId, keyPhase, send, receive⟩ := mirrors
  rw [keeps.sessionId] at sessionId
  rw [keeps.keyPhase] at keyPhase
  rw [keeps.keys] at send receive
  exact ⟨sessionId, keyPhase, send, receive⟩

/-- A completed handshake gives the other end exactly if messages and phase are those of the call.
-/
lemma mirrors_iff (ideal : P.Ideal) {pending : PendingHandshakes P} (answering : Answering pending)
    {parser : AddressParser} {endpoint : SocketAddr} {packet : Packet} {clock : Clock}
    {state : PendingHandshake P} {session session' : ProtectedSession P}
    {remote : Option (Bytes 32)} {identity : PeerIdentity}
    (completes : Completes parser pending endpoint packet clock state session' remote identity)
    (committed : Committed session messages) : Rvpn.Network.Mirrors session' session ↔
      HandshakeMessage.decode packet.payload = .ok messages.finish ∧ state.handshake.transcript =
          { initiation := messages.initiation, response := some messages.response } ∧
        state.handshake.keyPhase = session.keyPhase := by
  obtain ⟨message, decoded, finished⟩ := completes.finish
  obtain ⟨h, sid, _, _, _, shape, initiation, finish⟩ := committed
  obtain ⟨_, auth, draw, _, _, _, ⟨accepted⟩⟩ := answering _ state completes.found
  have keyPhase : session'.keyPhase = state.handshake.keyPhase := by
    obtain ⟨_, _, _, _, _, _, _, _, _, _, _, rfl⟩ := ResponderHandshake.finish_ok finished
    rfl
  have mirrored := mirrored_keys_iff ideal shape finish accepted finished
  rw [initiation, decoded, ← keyPhase]
  refine ⟨?_, ?_⟩
  · intro mirrors
    obtain ⟨transcript, rfl⟩ := mirrored.1 ⟨mirrors.sessionId, mirrors.send, mirrors.receive⟩
    exact ⟨rfl, transcript, mirrors.keyPhase⟩
  · intro same
    obtain ⟨ok, transcript, phase⟩ := same
    obtain ⟨id, send, receive⟩ := mirrored.2 ⟨transcript, Except.ok.inj ok⟩
    exact ⟨id, phase, send, receive⟩

/-- Accepting the finish brings the other end into the table. -/
lemma accepts_of_holds (ideal : P.Ideal) (setup : Setup) {w : Network P} (sound : Sound w)
    (committed : Committed session messages) (event : Event P)
    (holds : Holds (w.step setup event).server session) :
    Holds w.server session ∨ Accepts setup session messages w event := by
  cases event with
  | server event env =>
    obtain ⟨peer', found, mirrors⟩ := holds
    obtain calm | ⟨endpoint, packet, state, session', remote, identity, arrives, first, completes, _,
        out, eq, calm⟩ := ServerLoop.step_active setup w.server (event, env)
    · obtain ⟨peer, before, keeps⟩ := calm.table _ peer' found
      exact .inl ⟨peer, before, mirrors_of_keeps keeps mirrors⟩
    · obtain ⟨peer, before, keeps⟩ := calm.table _ peer' found
      have mirrors := mirrors_of_keeps keeps mirrors
      obtain ⟨_, _, sessionId, keyPhase, keys⟩ | ⟨_, before⟩ := lookup_install before
      · have running : w.server.stopped = false := by
          by_contra stopped
          rw [Bool.not_eq_false] at stopped
          simp only [ServerLoop.step, stopped, if_true] at eq
          cases eq
        have mirrors : Rvpn.Network.Mirrors session' session := by
          obtain ⟨id, phase, send, receive⟩ := mirrors
          rw [keys] at send receive
          exact ⟨sessionId.symm.trans id, keyPhase.symm.trans phase, send, receive⟩
        obtain ⟨decoded, transcript, phase⟩ := (mirrors_iff ideal sound.pending completes committed).1 mirrors
        exact .inr ⟨event, env, endpoint, packet, state, session', remote, identity, rfl, running,
          arrives, first, completes, decoded, transcript, phase⟩
      · exact .inl ⟨peer, before, mirrors⟩
  | establish id call auth ephemeral random env =>
    simp only [Network.step] at holds
    split at holds
    · exact .inl holds
    · exact .inl holds
  | client id event env => exact .inl holds

/-- A finish that is accepted brings the other end into the table. -/
lemma holds_of_accepts (ideal : P.Ideal) (setup : Setup) {w : Network P} (sound : Sound w)
    (committed : Committed session messages) {event : Event P}
    (accepts : Accepts setup session messages w event) :
    Holds (w.step setup event).server session := by
  obtain ⟨event, env, endpoint, packet, state, session', remote, identity, rfl, running, arrives, first,
    completes, decoded, transcript, phase⟩ := accepts
  have mirrors := (mirrors_iff ideal sound.pending completes committed).2 ⟨decoded, transcript, phase⟩
  have kind : packet.header.kind = .handshake ∨ packet.header.kind = .rekey := by
    rw [← completes.kind]
    exact (sound.pending _ state completes.found).1
  obtain ⟨entry, found, sessionId, keyPhase, keys⟩ :=
    ServerLoop.lookup_onFinish setup env { w.server with recvErrors := 0 } completes
  obtain ⟨id, phase, send, receive⟩ := mirrors
  refine ⟨entry, ?_, sessionId.trans id, keyPhase.trans phase, ?_, ?_⟩
  · show (w.server.step setup (event, env)).1.active.lookup session.sessionId = some entry
    rw [ServerLoop.step_finish setup env w.server running arrives first kind, ← id]
    exact found
  · rw [keys]
    exact send
  · rw [keys]
    exact receive

/-- When a call returns a session, the server has had its other end exactly if it accepted the
finish while the answered handshake was pending, for the same phase. -/
theorem held_iff_accepted (ideal : P.Ideal) (setup : Setup) (config : ServerConfig)
    (identities : List PeerIdentity) (certificateAuthority : Option CertificateAuthorityConfig)
    (events : List (Event P)) (last : Event P) (w₀ : Network P)
    (initial : w₀ = start (ServerLoop.start P config identities certificateAuthority)) (id : Nat)
    (session : ProtectedSession P) (messages : Handshake.Messages)
    (waiting : ¬ (run (step setup) w₀ events).Returned id session messages)
    (returned : (run (step setup) w₀ (events ++ [last])).Returned id session messages) :
    (∃ pre post, events ++ [last] = pre ++ post ∧ Holds (run (step setup) w₀ pre).server session) ↔
      ∃ pre event post, events = pre ++ event :: post ∧
        Accepts setup session messages (run (step setup) w₀ pre) event := by
  have sound₀ : Sound w₀ := by
    rw [initial]
    refine ⟨?_, ?_⟩
    · intro id c found
      cases found
    · intro id state found
      cases found
  have sound : ∀ events, Sound (run (step setup) w₀ events) := fun _ =>
    run_invariant' sound₀ fun _ event sound => sound.step setup event
  have committed : Committed session messages := by
    obtain ⟨c, found, stage⟩ := returned
    have call := (sound (events ++ [last])).clients id c found
    rw [stage] at call
    exact call
  refine ⟨?_, ?_⟩
  · intro held
    obtain ⟨pre, post, eq, holds⟩ := held
    have empty : ¬ Holds w₀.server session := by
      rw [initial]
      rintro ⟨peer, there, _⟩
      cases there
    obtain ⟨before, event, after, rfl, accepts⟩ := run_origin sound₀ empty
      (fun _ event sound => sound.step setup event)
      (fun _ event sound holds => accepts_of_holds ideal setup sound committed event holds) holds
    have split : events ++ [last] = before ++ event :: (after ++ post) := by
      rw [eq, List.append_assoc, List.cons_append]
    obtain rest | ⟨front, behind⟩ := List.eq_nil_or_concat (after ++ post)
    · -- the server's own event changes no call, so the accepting one is not the last
      rw [rest] at split
      obtain ⟨rfl, same⟩ := List.append_inj' split rfl
      obtain rfl := (List.cons.inj same).1
      obtain ⟨arriving, env, _, _, _, _, _, _, rfl, _⟩ := accepts
      rw [run_append] at returned
      exact absurd returned waiting
    · obtain ⟨final, behind⟩ := behind
      rw [behind, List.concat_eq_append, ← List.cons_append, ← List.append_assoc] at split
      exact ⟨before, event, front, (List.append_inj' split rfl).1, accepts⟩
  · intro accepted
    obtain ⟨pre, event, post, rfl, accepts⟩ := accepted
    refine ⟨pre ++ [event], post ++ [last], by simp, ?_⟩
    rw [run_append]
    exact holds_of_accepts ideal setup (sound pre) committed accepts

/-!
An exchange of a client that sends its finish twice: it answers the cookie challenge of the server and
accepts its response.
-/

section Delivered
open Rvpn.Network (sampleCall sampleIdentity sampleRound sampleServer sampleMoment)

def idle : Network transparent :=
  start (ServerLoop.start transparent { bind := sampleServer } [sampleIdentity] none)

def moment : Handshake.Env :=
  { sampleMoment with cancelled := false }

def calling : Event transparent :=
  .establish 0 { sampleCall with retryLimit := 2 } (.pinnedKey (keyOf 1) (keyOf 8)) (some (keyOf 3))
    (some (keyOf 4)) moment

def wire (c : Caller transparent) : List UInt8 :=
  match c.stage with
  | .response _ handshake => (c.call.initiationPacket handshake).encode
  | .finishing _ finish _ _ => finish.encode
  | _ => []

def arriving (w : Network transparent) : Server.Event :=
  .datagram clientEndpoint (((w.clients.lookup 0).map wire).getD [])

def answer (w : Network transparent) : List UInt8 :=
  ((w.server.step (deviceSetup (none, none)) (arriving w, sampleRound)).2.findSome? fun
    | .send _ packet => some packet.encode
    | _ => none).getD []

def exchange (events : List (Event transparent)) : List (Event transparent) :=
  let w := run (step (deviceSetup (none, none))) idle events
  events ++ [.server (arriving w) sampleRound, .client 0 (.datagram sampleServer (answer w)) moment]

def answered : List (Event transparent) :=
  exchange (exchange [calling])

def paused : Event transparent :=
  .client 0 .deadline moment

def session? (w : Network transparent) : Option (ProtectedSession transparent) :=
  (w.clients.lookup 0).bind fun c =>
    match c.stage with
    | .returned session _ => some session
    | _ => none

lemma exists_returned {w : Network transparent} {session : ProtectedSession transparent}
    (returned : session? w = some session) : ∃ messages, w.Returned 0 session messages := by
  obtain ⟨c, found, eq⟩ := Option.bind_eq_some_iff.1 returned
  split at eq
  · next session' messages stage =>
    cases eq
    exact ⟨messages, c, found, stage⟩
  · cases eq

lemma not_returned {w : Network transparent} (undecided : session? w = none)
    (session : ProtectedSession transparent) (messages : Handshake.Messages) :
    ¬ w.Returned 0 session messages := by
  rintro ⟨c, found, stage⟩
  rw [session?, found, Option.bind_some, stage] at undecided
  cases undecided

def holds? (server : ServerLoop transparent) (session : ProtectedSession transparent) : Bool :=
  (server.active.lookup session.sessionId).any fun peer =>
    decide (peer.session.sessionId = session.sessionId) &&
      decide (peer.session.keyPhase = session.keyPhase) &&
      decide (peer.session.keys.send = session.keys.receive) &&
      decide (peer.session.keys.receive = session.keys.send)

lemma holds_of_check {server : ServerLoop transparent} {session : ProtectedSession transparent}
    (check : holds? server session = true) : Holds server session := by
  unfold holds? at check
  cases found : server.active.lookup session.sessionId with
  | none =>
    rw [found] at check
    cases check
  | some peer =>
    rw [found] at check
    simp only [Option.any_some, Bool.and_eq_true, decide_eq_true_eq] at check
    obtain ⟨⟨⟨sessionId, keyPhase⟩, send⟩, receive⟩ := check
    exact ⟨peer, found, sessionId, keyPhase, send, receive⟩

/-- The first finish arrives during the pause before the second one. -/
def delivered : List (Event transparent) :=
  answered ++ [.server (arriving (run (step (deviceSetup (none, none))) idle answered)) sampleRound]

/-- The first finish is accepted while the call pauses. -/
theorem held_iff_accepted_delivered : ∃ session messages,
      (run (step (deviceSetup (none, none))) idle (delivered ++ [paused])).Returned 0 session messages ∧
      ∃ pre event post, delivered = pre ++ event :: post ∧
        Accepts (deviceSetup (none, none)) session messages
          (run (step (deviceSetup (none, none))) idle pre) event := by
  have waits : session? (run (step (deviceSetup (none, none))) idle delivered) = none := by
    decide +kernel
  have check : (session? (run (step (deviceSetup (none, none))) idle (delivered ++ [paused]))).map
      (holds? (run (step (deviceSetup (none, none))) idle delivered).server) = some true := by
    decide +kernel
  obtain ⟨session, returned, check⟩ := Option.map_eq_some_iff.1 check
  obtain ⟨messages, returned⟩ := exists_returned returned
  refine ⟨session, messages, returned, ?_⟩
  refine (held_iff_accepted transparent_ideal (deviceSetup (none, none)) { bind := sampleServer }
    [sampleIdentity] none delivered paused idle rfl 0 session messages
    (not_returned waits session messages) returned).1 ?_
  exact ⟨delivered, [paused], rfl, holds_of_check check⟩

/-- Both finishes are lost: the call returns a session nobody else has. -/
theorem lost_finish_returns : ∃ session messages,
      (run (step (deviceSetup (none, none))) idle (answered ++ [paused])).Returned 0 session messages ∧
      ∀ pre post, answered ++ [paused] = pre ++ post →
        ¬ Holds (run (step (deviceSetup (none, none))) idle pre).server session := by
  have returned : (session? (run (step (deviceSetup (none, none))) idle
      (answered ++ [paused]))).isSome = true := by decide +kernel
  have empty : ∀ pre ∈ (answered ++ [paused]).inits,
      (run (step (deviceSetup (none, none))) idle pre).server.active.keys = [] := by decide +kernel
  obtain ⟨session, returned⟩ := Option.isSome_iff_exists.1 returned
  obtain ⟨messages, returned⟩ := exists_returned returned
  refine ⟨session, messages, returned, ?_⟩
  intro pre post eq holds
  obtain ⟨peer, there, _⟩ := holds
  have mem := AList.mem_keys.1 (HashMap.mem_iff_lookup.2 ⟨peer, there⟩)
  rw [empty pre ((List.mem_inits _ _).2 ⟨post, eq.symm⟩)] at mem
  cases mem

end Delivered

end Network
end Rvpn.Android
