import Rvpn.Protocol.AuthenticatedHandshake

/-!
# The client's handshake

Model of `establish` in `apps/rvpn-client/src/handshake.rs`, for an initial handshake and for a
rekey. The call waits for a response that authenticates, then for the acknowledgment of its finish. An
event is a datagram, the deadline of the current attempt or an error of the transport, with what the
system answers during it.
-/

namespace Rvpn.Client
open Crypto Protocol

variable (P : Primitives)

/-- The arguments of `establish`. -/
structure Establish where
  server : SocketAddr
  obfuscation : Option ObfuscationKey
  retryLimit : Nat
  old : Option (ProtectedSession P)

/-- Where `establish` waits, and how it returned, with the acknowledgment. -/
inductive Stage where
  | response (attempt : Nat) (handshake : InitiatorHandshake)
  | acknowledgment (attempt : Nat) (finish : Packet) (session : ProtectedSession P)
  | established (session : ProtectedSession P) (acknowledgment : Packet)
  | failed

/-- What the system answers during one event. -/
structure Env where
  clock : Clock
  wrap : Option WrapDraw
  sends : Bool

inductive Event where
  | datagram (peer : SocketAddr) (payload : List UInt8)
  | deadline
  | receiveFailed

namespace Establish
variable {P} (e : Establish P)

def kind : PacketKind :=
  if e.old.isSome then .rekey else .handshake

def sessionId : SessionId :=
  e.old.elim SessionId.zero ProtectedSession.sessionId

def oldPhase : UInt32 :=
  e.old.elim 0 ProtectedSession.keyPhase

def keyPhase : UInt32 :=
  e.old.elim 0 fun old => old.keyPhase + 1

def initiationPacket (handshake : InitiatorHandshake) : Packet where
  header := { kind := e.kind, keyPhase := e.oldPhase, sequence := 0, sessionId := e.sessionId }
  payload := handshake.initiation.encode

/-- `transport.send_to(&wrap(..)?, ..)?`, and the state afterwards. -/
def transmit {σ : Type} (env : Env) (packet : Packet) (failed next : σ) : σ × List Packet :=
  match wrap P e.obfuscation env.wrap packet.encode with
  | .error _ => (failed, [])
  | .ok _ => if env.sends then (next, [packet]) else (failed, [])

def send (env : Env) (packet : Packet) (next : Stage P) : Stage P × List Packet :=
  e.transmit env packet .failed next

def start (auth : AuthConfig) (ephemeral random : Option (Bytes 32)) (env : Env) :
    Stage P × List Packet :=
  match InitiatorHandshake.start P auth.identity auth.verifier ephemeral random with
  | .error _ => (.failed, [])
  | .ok (handshake, _) =>
    if e.old.any fun old => decide (old.keyPhase.toNat = 2 ^ 32 - 1) then (.failed, [])
    else if e.retryLimit = 0 then (.failed, [])
    else e.send env (e.initiationPacket handshake) (.response 1 handshake)

/-- The finish for a response, and the new session. -/
def finishResponse (handshake : InitiatorHandshake) (response : HandshakeMessage) (clock : Clock) :
    Except HandshakeError (HandshakeMessage × ProtectedSession P × Option (Bytes 32)) :=
  match e.old with
  | some _ => handshake.finishForSession P response e.sessionId e.keyPhase clock
  | none => handshake.finish P response clock

/-- The finish for the response that authenticated is sent. -/
def commit (env : Env) (handshake : InitiatorHandshake) (response : HandshakeMessage)
    (sessionId : SessionId) : Stage P × List Packet :=
  match e.finishResponse handshake response env.clock with
  | .error _ => (.failed, [])
  | .ok (finish, session, _) =>
    let packet : Packet :=
      { header := { kind := e.kind, keyPhase := e.oldPhase, sequence := 1, sessionId := sessionId }
        payload := finish.encode }
    if e.retryLimit = 0 then (.failed, [])
    else e.send env packet (.acknowledgment 1 packet session)

/-- What a packet of the server is for the first loop. -/
inductive Heard where
  | other
  | failed
  | response (message : HandshakeMessage) (sessionId : SessionId)
  | cookie (cookie : Bytes 32)

/-- How the first loop of either client takes a packet. -/
def hear (clock : Clock) (handshake : InitiatorHandshake) (packet : Packet) : Heard :=
  if packet.header.kind = e.kind ∧ (e.old.isNone ∨ packet.header.sessionId = e.sessionId) then
    match HandshakeMessage.decode packet.payload with
    | .ok (.response publicKey random sessionId sealedProof) =>
      let response := HandshakeMessage.response publicKey random sessionId sealedProof
      if packet.header.sessionId = sessionId then
        match handshake.authenticatesResponse P response clock with
        | .error _ => .failed
        | .ok true => .response response sessionId
        | .ok false => .other
      else .other
    | .ok (.cookieReply cookie) => .cookie cookie
    | _ => .other
  else .other

/-- A packet of the server in the first loop. -/
def onResponse (env : Env) (attempt : Nat) (handshake : InitiatorHandshake) (packet : Packet) :
    Stage P × List Packet :=
  match e.hear env.clock handshake packet with
  | .other => (.response attempt handshake, [])
  | .failed => (.failed, [])
  | .response response sessionId => e.commit env handshake response sessionId
  | .cookie cookie =>
    let handshake := handshake.attachCookie P cookie
    e.send env (e.initiationPacket handshake) (.response attempt handshake)

def onAcknowledgment (env : Env) (attempt : Nat) (finish : Packet) (session : ProtectedSession P)
    (packet : Packet) : Stage P × List Packet :=
  if packet.header.sessionId ≠ session.sessionId ∨ packet.header.kind ≠ .keepalive then
    (.acknowledgment attempt finish session, [])
  else
    match session.openPacket packet env.clock.instant with
    | (.ok _, session) => (.established session packet, [])
    | (.error _, session) => (.acknowledgment attempt finish session, [])

/-- At the deadline the last packet is sent again, or the call gives up. -/
def onDeadline (env : Env) (stage : Stage P) : Stage P × List Packet :=
  match stage with
  | .response attempt handshake =>
    if attempt < e.retryLimit then
      e.send env (e.initiationPacket handshake) (.response (attempt + 1) handshake)
    else (.failed, [])
  | .acknowledgment attempt finish session =>
    if attempt < e.retryLimit then e.send env finish (.acknowledgment (attempt + 1) finish session)
    else (.failed, [])
  | stage => (stage, [])

/-- `establish`: one event of a call. -/
def step (stage : Stage P) (event : Event × Env) : Stage P × List Packet :=
  match stage with
  | .established _ _ => (stage, [])
  | .failed => (stage, [])
  | _ =>
    match event.1 with
    | .receiveFailed => (.failed, [])
    | .deadline => e.onDeadline event.2 stage
    | .datagram peer payload =>
      if peer ≠ e.server then (stage, [])
      else
        match decodeDatagram P e.obfuscation payload with
        | none => (stage, [])
        | some packet =>
          match stage with
          | .response attempt handshake => e.onResponse event.2 attempt handshake packet
          | .acknowledgment attempt finish session =>
            onAcknowledgment event.2 attempt finish session packet
          | stage => (stage, [])

def after (stage : Stage P) (events : List (Event × Env)) : Stage P :=
  run (fun stage event => (e.step stage event).1) stage events

lemma transmit_cases {σ : Type} (env : Env) (packet : Packet) (failed next : σ) :
    (e.transmit env packet failed next).1 = failed ∨ (e.transmit env packet failed next).1 = next := by
  unfold transmit
  split
  · exact .inl rfl
  · split
    · exact .inr rfl
    · exact .inl rfl

lemma send_cases (env : Env) (packet : Packet) (next : Stage P) :
    (e.send env packet next).1 = .failed ∨ (e.send env packet next).1 = next := by
  unfold send
  exact e.transmit_cases env packet Stage.failed next

variable {handshake : InitiatorHandshake}

variable {clock : Clock} {response : HandshakeMessage}

lemma decode_of_hear {packet : Packet} {sessionId : SessionId}
    (heard : e.hear clock handshake packet = .response response sessionId) :
    HandshakeMessage.decode packet.payload = .ok response := by
  unfold hear at heard
  split at heard
  · split at heard
    · next decoded =>
      simp only at heard
      split at heard
      · split at heard
        · cases heard
        · cases heard
          exact decoded
        · cases heard
      · cases heard
    · cases heard
    · cases heard
  · cases heard

/-- The call fails at once, or it waits with a started handshake. -/
lemma start_cases (auth : AuthConfig) (ephemeral random : Option (Bytes 32)) (env : Env) :
    (e.start auth ephemeral random env).1 = .failed ∨ ∃ handshake message,
      (e.start auth ephemeral random env).1 = .response 1 handshake ∧
      InitiatorHandshake.start P auth.identity auth.verifier ephemeral random =
        .ok (handshake, message) := by
  unfold start
  split
  · exact .inl rfl
  · next handshake message started =>
    split
    · exact .inl rfl
    · split
      · exact .inl rfl
      · obtain eq | eq := e.send_cases env (e.initiationPacket handshake) (.response 1 handshake)
        · exact .inl eq
        · exact .inr ⟨handshake, message, eq, started⟩

/-- What an event can lead to in the first loop. -/
inductive AfterResponse (handshake : InitiatorHandshake) (event : Event × Env) : Stage P → Prop
  | failed : AfterResponse handshake event .failed
  | waits (attempt : Nat) : AfterResponse handshake event (.response attempt handshake)
  | cookie (attempt : Nat) (cookie : Bytes 32) :
    AfterResponse handshake event (.response attempt (handshake.attachCookie P cookie))
  | commits {peer : SocketAddr} {payload : List UInt8} {packet : Packet}
      {response message : HandshakeMessage} {sid : SessionId} {keyPhase : UInt32}
      {session : ProtectedSession P} {remote : Option (Bytes 32)} (finish : Packet)
      (datagram : event.1 = .datagram peer payload)
      (decoded : decodeDatagram P e.obfuscation payload = some packet)
      (carried : HandshakeMessage.decode packet.payload = .ok response)
      (finished : handshake.finishForSession P response sid keyPhase event.2.clock =
        .ok (message, session, remote)) :
    AfterResponse handshake event (.acknowledgment 1 finish session)

/-- What an event can lead to in the second loop. -/
inductive AfterFinish (session : ProtectedSession P) (event : Event × Env) : Stage P → Prop
  | failed : AfterFinish session event .failed
  | waits (attempt : Nat) (finish : Packet) :
    AfterFinish session event (.acknowledgment attempt finish session)
  | returns {peer : SocketAddr} {payload : List UInt8} {packet : Packet} {m : List UInt8}
      {session' : ProtectedSession P} (datagram : event.1 = .datagram peer payload)
      (decoded : decodeDatagram P e.obfuscation payload = some packet)
      (kind : packet.header.kind = .keepalive)
      (opened : session.openPacket packet event.2.clock.instant = (.ok m, session')) :
    AfterFinish session event (.established session' packet)

lemma finishResponse_ok {outcome : HandshakeMessage × ProtectedSession P × Option (Bytes 32)}
    (ok : e.finishResponse handshake response clock = .ok outcome) :
    ∃ sid keyPhase, handshake.finishForSession P response sid keyPhase clock = .ok outcome := by
  unfold finishResponse at ok
  split at ok
  · exact ⟨_, _, ok⟩
  · obtain ⟨sid, ok⟩ := InitiatorHandshake.finish_ok ok
    exact ⟨sid, 0, ok⟩

variable {e}

/-- The inversion of an event in the first loop. -/
theorem step_response (attempt : Nat) (handshake : InitiatorHandshake) (event : Event × Env) :
    e.AfterResponse handshake event (e.step (.response attempt handshake) event).1 := by
  -- a datagram that cannot be sent ends the call, whatever the next stage was to be
  have sent : ∀ packet next, e.AfterResponse handshake event next →
      e.AfterResponse handshake event (e.send event.2 packet next).1 := by
    intro packet next h
    obtain eq | eq := e.send_cases event.2 packet next
    · rw [eq]
      exact .failed
    · rw [eq]
      exact h
  unfold step
  simp only
  split
  · exact .failed
  · unfold onDeadline
    simp only
    split
    · exact sent _ _ (.waits _)
    · exact .failed
  · next peer payload datagram =>
    split
    · exact .waits attempt
    · split
      · exact .waits attempt
      · next packet decoded =>
        unfold onResponse
        split
        · exact .waits attempt
        · exact .failed
        · next response sid heard =>
          unfold commit
          split
          · exact .failed
          · next message session remote ok =>
            obtain ⟨sid, keyPhase, finished⟩ := e.finishResponse_ok ok
            simp only
            split
            · exact .failed
            · exact sent _ _ (.commits _ datagram decoded (e.decode_of_hear heard) finished)
        · exact sent _ _ (.cookie attempt _)

/-- The inversion of an event in the second loop. -/
theorem step_acknowledgment (attempt : Nat) (finish : Packet) (session : ProtectedSession P)
    (event : Event × Env) :
    e.AfterFinish session event (e.step (.acknowledgment attempt finish session) event).1 := by
  unfold step
  simp only
  split
  · exact .failed
  · unfold onDeadline
    simp only
    split
    · obtain eq | eq := e.send_cases event.2 finish (.acknowledgment (attempt + 1) finish session)
      · rw [eq]
        exact .failed
      · rw [eq]
        exact .waits _ _
    · exact .failed
  · next peer payload datagram =>
    split
    · exact .waits _ _
    · split
      · exact .waits _ _
      · next packet decoded =>
        unfold onAcknowledgment
        split
        · exact .waits _ _
        · next same =>
          obtain ⟨_, kind⟩ := not_or.1 same
          split
          · next opened => exact .returns datagram decoded (not_not.1 kind) opened
          · next refused =>
            rw [ProtectedSession.openPacket_refused refused]
            exact .waits _ _

/-!
What the call does with its old session: the new one has its id and the next phase, and no previous
phase.
-/

/-- The session is fresh, and for a rekey follows the old one. -/
def Follows (e : Establish P) (new : ProtectedSession P) : Prop :=
  new.previous = none ∧ ∀ old, e.old = some old →
    new.sessionId = old.sessionId ∧ new.keyPhase.toNat = old.keyPhase.toNat + 1

/-- The same in each stage; a waiting call has a next phase. -/
def Renews (e : Establish P) : Stage P → Prop
  | .response _ _ => ∀ old, e.old = some old → old.keyPhase.toNat ≠ 2 ^ 32 - 1
  | .acknowledgment _ _ new => e.Follows new
  | .established new _ => e.Follows new
  | .failed => True

lemma renews_send {env : Env} {packet : Packet} {next : Stage P} (h : e.Renews next) :
    e.Renews (e.send env packet next).1 := by
  obtain eq | eq := e.send_cases env packet next
  · rw [eq]
    trivial
  · rw [eq]
    exact h

lemma renews_start (auth : AuthConfig) (ephemeral random : Option (Bytes 32)) (env : Env) :
    e.Renews (e.start auth ephemeral random env).1 := by
  unfold start
  split
  · trivial
  · split
    · trivial
    · next room =>
      split
      · trivial
      · refine renews_send ?_
        intro old eq
        simpa [eq] using room

lemma follows_finishResponse {message : HandshakeMessage} {new : ProtectedSession P}
    {remote : Option (Bytes 32)} (room : ∀ old, e.old = some old → old.keyPhase.toNat ≠ 2 ^ 32 - 1)
    (ok : e.finishResponse handshake response clock = .ok (message, new, remote)) :
    e.Follows new := by
  unfold finishResponse at ok
  split at ok
  · next old is =>
    obtain ⟨_, _, _, _, _, _, _, _, _, _, _, _, _, _, _, rfl⟩ :=
      InitiatorHandshake.finishForSession_ok ok
    refine ⟨rfl, ?_⟩
    intro old' is'
    rw [is] at is'
    cases is'
    have lt := old.keyPhase.toNat_lt
    have next := room old is
    refine ⟨by simp [ProtectedSession.new, sessionId, is], ?_⟩
    show (e.keyPhase).toNat = _
    rw [keyPhase, is, Option.elim_some, UInt32.toNat_add]
    exact Nat.mod_eq_of_lt (by simp; omega)
  · next is =>
    obtain ⟨_, ok⟩ := InitiatorHandshake.finish_ok ok
    obtain ⟨_, _, _, _, _, _, _, _, _, _, _, _, _, _, _, rfl⟩ :=
      InitiatorHandshake.finishForSession_ok ok
    refine ⟨rfl, ?_⟩
    intro old is'
    rw [is] at is'
    cases is'

lemma renews_onResponse {env : Env} {attempt : Nat} (packet : Packet)
    (room : ∀ old, e.old = some old → old.keyPhase.toNat ≠ 2 ^ 32 - 1) :
    e.Renews (e.onResponse env attempt handshake packet).1 := by
  unfold onResponse
  split
  · exact room
  · trivial
  · unfold commit
    split
    · trivial
    · next ok =>
      simp only
      split
      · trivial
      · exact renews_send (follows_finishResponse room ok)
  · exact renews_send room

/-- Every event of the call keeps it. -/
theorem renews_step {stage : Stage P} (h : e.Renews stage) (event : Event × Env) :
    e.Renews (e.step stage event).1 := by
  cases stage with
  | response attempt handshake =>
    unfold step
    simp only
    split
    · trivial
    · unfold onDeadline
      simp only
      split
      · exact renews_send h
      · trivial
    · split
      · exact h
      · split
        · exact h
        · exact renews_onResponse _ h
  | acknowledgment attempt finish session =>
    have outcome := e.step_acknowledgment attempt finish session event
    generalize (e.step (.acknowledgment attempt finish session) event).1 = next at outcome
    cases outcome with
    | failed => trivial
    | waits attempt finish => exact h
    | returns datagram decoded kind opened =>
      have same := ProtectedSession.continues_openPacket opened
      obtain ⟨previous, follows⟩ := h
      refine ⟨same.previous previous, ?_⟩
      intro old is
      rw [same.sessionId, same.keyPhase]
      exact follows old is
  | established session acknowledgment => exact h
  | failed => trivial

end Establish
end Rvpn.Client
