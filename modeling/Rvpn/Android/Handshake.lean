import Rvpn.Client.Handshake

/-!
# The handshake of the Android client

Model of `establish` in `apps/rvpn-android/src/tunnel.rs`. The first loop is that of the desktop
client, except that it can be cancelled. After it the finish is sent a fixed number of times, with a
pause between two of them, and the call returns without having heard from the server again.
-/

namespace Rvpn.Android.Handshake
open Crypto Protocol
open Client (Establish)

variable (P : Primitives)

/-- The messages of the handshake, which the program does not keep. -/
structure Messages where
  initiation : HandshakeMessage
  response : HandshakeMessage
  finish : HandshakeMessage

/-- Where `establish` waits, and how it returned. -/
inductive Stage where
  | response (attempt : Nat) (handshake : InitiatorHandshake)
  | finishing (attempt : Nat) (finish : Packet) (session : ProtectedSession P) (messages : Messages)
  | returned (session : ProtectedSession P) (messages : Messages)
  | failed

/-- What the system answers during an event, and `shutdown` at its start. -/
structure Env extends Client.Env where
  cancelled : Bool

/-- `deadline` ends the wait for a response or the pause between finishes. -/
inductive Event where
  | datagram (peer : SocketAddr) (payload : List UInt8)
  | deadline
  | receiveFailed
  | shutdown

variable {P} (e : Establish P)

def send (env : Env) (packet : Packet) (next : Stage P) : Stage P × List Packet :=
  e.transmit env.toEnv packet .failed next

def initiate (env : Env) (attempt : Nat) (handshake : InitiatorHandshake) : Stage P × List Packet :=
  if env.cancelled then (.failed, [])
  else send e env (e.initiationPacket handshake) (.response attempt handshake)

def start (auth : AuthConfig) (ephemeral random : Option (Bytes 32)) (env : Env) :
    Stage P × List Packet :=
  match InitiatorHandshake.start P auth.identity auth.verifier ephemeral random with
  | .error _ => (.failed, [])
  | .ok (handshake, _) =>
    if e.old.any fun old => decide (old.keyPhase.toNat = 4294967295) then (.failed, [])
    else if e.retryLimit = 0 then (.failed, [])
    else initiate e env 1 handshake

/-- An attempt of the second loop; there is no pause after the last one. -/
def sendFinish (env : Env) (attempt : Nat) (finish : Packet) (session : ProtectedSession P)
    (messages : Messages) : Stage P × List Packet :=
  send e env finish
    (if attempt = e.retryLimit then .returned session messages
    else .finishing attempt finish session messages)

def commit (env : Env) (handshake : InitiatorHandshake) (response : HandshakeMessage)
    (sessionId : SessionId) : Stage P × List Packet :=
  match e.finishResponse handshake response env.clock with
  | .error _ => (.failed, [])
  | .ok (finish, session, _) =>
    let packet : Packet :=
      { header := { kind := e.kind, keyPhase := e.oldPhase, sequence := 1, sessionId := sessionId }
        payload := finish.encode }
    let messages : Messages :=
      { initiation := handshake.initiation, response := response, finish := finish }
    if e.retryLimit = 0 then (.returned session messages, [])
    else sendFinish e env 1 packet session messages

/-- A packet from the server in the first loop. -/
def onResponse (env : Env) (attempt : Nat) (handshake : InitiatorHandshake) (packet : Packet) :
    Stage P × List Packet :=
  match e.hear env.clock handshake packet with
  | .other => (.response attempt handshake, [])
  | .failed => (.failed, [])
  | .response response sessionId => commit e env handshake response sessionId
  | .cookie cookie =>
    let handshake := handshake.attachCookie P cookie
    send e env (e.initiationPacket handshake) (.response attempt handshake)

/-- One event. During a pause of the second loop the call does not receive. -/
def step (stage : Stage P) (event : Event × Env) : Stage P × List Packet :=
  match stage with
  | .response attempt handshake =>
    match event.1 with
    | .receiveFailed => (.failed, [])
    | .shutdown => (.failed, [])
    | .deadline =>
      if attempt < e.retryLimit then initiate e event.2 (attempt + 1) handshake else (.failed, [])
    | .datagram peer payload =>
      if peer ≠ e.server then (stage, [])
      else
        match decodeDatagram P e.obfuscation payload with
        | none => (stage, [])
        | some packet => onResponse e event.2 attempt handshake packet
  | .finishing attempt finish session messages =>
    match event.1 with
    | .deadline => sendFinish e event.2 (attempt + 1) finish session messages
    | _ => (stage, [])
  | .returned _ _ => (stage, [])
  | .failed => (stage, [])

/-! ### What an event can lead to -/

/-- The call has a session and the messages that led to it. -/
def Stage.Holds (session : ProtectedSession P) (messages : Messages) : Stage P → Prop
  | .finishing _ _ session' messages' => session' = session ∧ messages' = messages
  | .returned session' messages' => session' = session ∧ messages' = messages
  | _ => False

lemma initiate_cases (env : Env) (attempt : Nat) (handshake : InitiatorHandshake) :
    (initiate e env attempt handshake).1 = .failed ∨
      (initiate e env attempt handshake).1 = .response attempt handshake := by
  unfold initiate
  split
  · exact .inl rfl
  · exact e.transmit_cases env.toEnv _ _ _

lemma sendFinish_cases (env : Env) (attempt : Nat) (finish : Packet) (session : ProtectedSession P)
    (messages : Messages) : (sendFinish e env attempt finish session messages).1 = .failed ∨
      (sendFinish e env attempt finish session messages).1.Holds session messages := by
  obtain eq | eq := e.transmit_cases env.toEnv finish Stage.failed
    (if attempt = e.retryLimit then .returned session messages
    else .finishing attempt finish session messages)
  · exact .inl eq
  · right
    rw [sendFinish, send, eq]
    split
    · exact ⟨rfl, rfl⟩
    · exact ⟨rfl, rfl⟩

/-- The call fails at once, or it waits with a started handshake. -/
lemma start_cases (auth : AuthConfig) (ephemeral random : Option (Bytes 32)) (env : Env) :
    (start e auth ephemeral random env).1 = .failed ∨ ∃ handshake message,
      (start e auth ephemeral random env).1 = .response 1 handshake ∧
      InitiatorHandshake.start P auth.identity auth.verifier ephemeral random =
        .ok (handshake, message) := by
  unfold start
  split
  · exact .inl rfl
  · next handshake message started =>
    split
    · exact .inl rfl
    · split
      · exact .inl rfl
      · obtain eq | eq := initiate_cases e env 1 handshake
        · exact .inl eq
        · exact .inr ⟨handshake, message, eq, started⟩

/-- What an event can lead to in the first loop. -/
inductive AfterResponse (handshake : InitiatorHandshake) : Stage P → Prop
  | failed : AfterResponse handshake .failed
  | waits (attempt : Nat) : AfterResponse handshake (.response attempt handshake)
  | cookie (attempt : Nat) (cookie : Bytes 32) :
    AfterResponse handshake (.response attempt (handshake.attachCookie P cookie))
  | commits {response finish : HandshakeMessage} {sid : SessionId} {keyPhase : UInt32} {clock : Clock}
      {session : ProtectedSession P} {remote : Option (Bytes 32)} {stage : Stage P}
      (finished : handshake.finishForSession P response sid keyPhase clock =
        .ok (finish, session, remote))
      (holds : stage.Holds session ⟨handshake.initiation, response, finish⟩) :
    AfterResponse handshake stage

lemma afterResponse_initiate (env : Env) (attempt : Nat) (handshake : InitiatorHandshake) :
    AfterResponse handshake (initiate e env attempt handshake).1 := by
  obtain eq | eq := initiate_cases e env attempt handshake
  · rw [eq]
    exact .failed
  · rw [eq]
    exact .waits attempt

lemma afterResponse_commit (env : Env) (handshake : InitiatorHandshake) (response : HandshakeMessage)
    (sessionId : SessionId) : AfterResponse handshake (commit e env handshake response sessionId).1 := by
  unfold commit
  split
  · exact .failed
  · next finish session remote ok =>
    obtain ⟨sid, keyPhase, finished⟩ := e.finishResponse_ok ok
    simp only
    split
    · exact .commits finished ⟨rfl, rfl⟩
    · next packet _ =>
      obtain eq | holds := sendFinish_cases e env 1
        { header := { kind := e.kind, keyPhase := e.oldPhase, sequence := 1, sessionId := sessionId }
          payload := finish.encode } session ⟨handshake.initiation, response, finish⟩
      · rw [eq]
        exact .failed
      · exact .commits finished holds

lemma afterResponse_onResponse (env : Env) (attempt : Nat) (handshake : InitiatorHandshake)
    (packet : Packet) : AfterResponse handshake (onResponse e env attempt handshake packet).1 := by
  unfold onResponse
  split
  · exact .waits attempt
  · exact .failed
  · exact afterResponse_commit e env handshake _ _
  · next cookie _ =>
    obtain eq | eq := e.transmit_cases env.toEnv (e.initiationPacket (handshake.attachCookie P cookie))
      (.failed : Stage P) (.response attempt (handshake.attachCookie P cookie))
    · rw [send, eq]
      exact .failed
    · rw [send, eq]
      exact .cookie attempt cookie

/-- The inversion of an event in the first loop. -/
theorem step_response (attempt : Nat) (handshake : InitiatorHandshake) (event : Event × Env) :
    AfterResponse handshake (step e (.response attempt handshake) event).1 := by
  obtain ⟨event, env⟩ := event
  cases event with
  | receiveFailed => exact .failed
  | shutdown => exact .failed
  | deadline =>
    unfold step
    simp only
    split
    · exact afterResponse_initiate e env _ handshake
    · exact .failed
  | datagram peer payload =>
    unfold step
    simp only
    split
    · exact .waits attempt
    · split
      · exact .waits attempt
      · exact afterResponse_onResponse e env attempt handshake _

/-- The inversion of an event in the second loop. -/
theorem step_finishing (attempt : Nat) (finish : Packet) (session : ProtectedSession P)
    (messages : Messages) (event : Event × Env) :
    (step e (.finishing attempt finish session messages) event).1 = .failed ∨
      (step e (.finishing attempt finish session messages) event).1.Holds session messages := by
  obtain ⟨event, env⟩ := event
  cases event with
  | deadline => exact sendFinish_cases e env (attempt + 1) finish session messages
  | _ => exact .inr ⟨rfl, rfl⟩

end Rvpn.Android.Handshake
