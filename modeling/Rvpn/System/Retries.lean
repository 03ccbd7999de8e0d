import Rvpn.Android.Handshake
import Rvpn.Config.Util
import Rvpn.Lib.Attempts
import Rvpn.System.Establishment

/-!
# The windows of the handshake attempts

Both clients send the initiation up to `retry_limit` times and wait for a response after each
transmission. The Android client waits for `jittered_retry_interval`; the desktop client takes the jitter
alone. A cookie reply makes the call send its initiation again within the same attempt; the deadline
stays.
-/

namespace Rvpn

/-- The least time for an answer, in an interval within its jitter. -/
def Config.HandshakeConfig.leastWindow (policy : Config.HandshakeConfig) : Nat :=
  fromMillis (max 1 (policy.retryIntervalMs.toNat - policy.retryJitterMs.toNat))

namespace Client.Establish
open Crypto Protocol
variable {P : Primitives}

/-- The window of the first loop of `establish`. -/
def window (policy : Config.HandshakeConfig) (_ : Nat) : Nat :=
  fromMillis policy.retryJitterMs.toNat

/-- The first loop of `establish`. -/
def attempts (e : Establish P) : Loop (Stage P) (Event × Env) where
  step stage event := (e.step stage event).1
  attempt
    | .response attempt _ => some attempt
    | _ => none
  expires event := match event.1 with
    | .deadline => true
    | _ => false
  limit := e.retryLimit
  attempt_limit := by
    intro stage ⟨event, env⟩ last ends
    cases stage with
    | response k handshake =>
      cases last
      cases event with
      | deadline =>
        have stop : e.step (.response e.retryLimit handshake) (.deadline, env) = (.failed, []) :=
          if_neg (Nat.lt_irrefl _)
        rw [stop]
      | _ => cases ends
    | _ => cases last
  attempt_none := by
    intro stage event left
    cases stage with
    | response => cases left
    | acknowledgment k finish session =>
      have outcome := e.step_acknowledgment k finish session event
      generalize (e.step (.acknowledgment k finish session) event).1 = next at outcome
      cases outcome <;> rfl
    | _ => rfl

end Client.Establish

/-- The first loop of `establish` of the Android client. -/
def Android.Handshake.attempts {P : Primitives} (e : Client.Establish P) :
    Loop (Stage P) (Event × Env) where
  step stage event := (step e stage event).1
  attempt
    | .response attempt _ => some attempt
    | _ => none
  expires event := match event.1 with
    | .deadline => true
    | _ => false
  limit := e.retryLimit
  attempt_limit := by
    intro stage ⟨event, env⟩ last ends
    cases stage with
    | response k handshake =>
      cases last
      cases event with
      | deadline =>
        have stop : step e (.response e.retryLimit handshake) (.deadline, env) = (.failed, []) :=
          if_neg (Nat.lt_irrefl _)
        rw [stop]
      | _ => cases ends
    | _ => cases last
  attempt_none := by
    intro stage event left
    cases stage with
    | response => cases left
    | finishing k finish session messages =>
      obtain eq | holds := step_finishing e k finish session messages event
      · rw [eq]
      · generalize (step e (.finishing k finish session messages) event).1 = next at holds
        cases next with
        | response => exact holds.elim
        | _ => rfl
    | _ => rfl

namespace Client.Establish
open Crypto Protocol
variable {P : Primitives}

lemma fromMillis_le_iff {n m : Nat} : fromMillis n ≤ fromMillis m ↔ n ≤ m := by
  unfold fromMillis
  omega

/-- The call waits for a response or has failed. -/
def Unanswered (stage : Stage P) : Prop :=
  stage = .failed ∨ ∃ attempt handshake, stage = .response attempt handshake

lemma Unanswered.deadline (e : Establish P) {stage : Stage P} (h : Unanswered stage) (env : Env) :
    Unanswered (e.step stage (.deadline, env)).1 := by
  obtain rfl | ⟨attempt, handshake, rfl⟩ := h
  · exact .inl rfl
  · change Unanswered (e.onDeadline env (.response attempt handshake)).1
    unfold onDeadline
    simp only
    split
    · obtain eq | eq := e.send_cases env (e.initiationPacket handshake) (.response (attempt + 1) handshake)
      · exact .inl eq
      · exact .inr ⟨_, _, eq⟩
    · exact .inl rfl

/-- Without jitter the desktop client never gets a session: deadlines are over at once. -/
theorem never_established_without_jitter (policy : Config.HandshakeConfig)
    (none : policy.retryJitterMs = 0) (e : Establish P) (auth : AuthConfig)
    (ephemeral random : Option (Bytes 32)) (env : Env) (now : Nat)
    {events : List ((Event × Env) × Reading)}
    (allowed : EachStep e.attempts.tick (e.attempts.Allowed (window policy))
      (Loop.begun (e.start auth ephemeral random env).1 now) events) :
    Always e.attempts.tick
      (fun w => ∀ session acknowledgment, w.stage ≠ .established session acknowledgment)
      (Loop.begun (e.start auth ephemeral random env).1 now) events := by
  have empty : window policy = fun _ => 0 := by
    funext k
    rw [window, none]
    rfl
  rw [empty] at allowed
  have started : Unanswered (e.start auth ephemeral random env).1 := by
    obtain eq | ⟨handshake, _, eq, _⟩ := e.start_cases auth ephemeral random env
    · exact .inl eq
    · exact .inr ⟨_, _, eq⟩
  have unanswered : Always e.attempts.tick (fun w => Unanswered w.stage)
      (Loop.begun (e.start auth ephemeral random env).1 now) events := by
    refine always_of_eachStep started ?_ (Loop.expires_of_empty _ now allowed)
    intro w event waits only
    obtain eq | ⟨attempt, handshake, eq⟩ := waits
    · refine .inl ?_
      change (e.step w.stage event.1).1 = .failed
      rw [eq]
      rfl
    · have deadline : event.1 = (.deadline, event.1.2) := by
        have ends := only (by rw [eq]; rfl)
        obtain ⟨⟨event, env⟩, reading⟩ := event
        cases event with
        | deadline => rfl
        | _ => cases ends
      change Unanswered (e.step w.stage event.1).1
      rw [deadline]
      exact Unanswered.deadline e (.inr ⟨attempt, handshake, eq⟩) _
  refine unanswered.mono ?_
  intro w waits session acknowledgment returned
  rw [returned] at waits
  obtain eq | ⟨_, _, eq⟩ := waits <;> cases eq

/-- Each attempt of the desktop client lasts for the least time, and the call is not given up before
it, exactly if the jitter is at least that long. The Android client's last for it whenever their
intervals do not overflow and the configured one is a positive `i64`. -/
theorem attempts_wait_iff (policy : Config.HandshakeConfig) (e : Establish P)
    (handshake : InitiatorHandshake) (now : Nat) :
    (e.attempts.Patient (window policy) policy.leastWindow (Loop.begun (.response 1 handshake) now) ↔
      max 1 (policy.retryIntervalMs.toNat - policy.retryJitterMs.toNat) ≤
        policy.retryJitterMs.toNat) ∧
    (policy.retryIntervalMs.toNat < 9223372036854775808 → ∀ width : Nat → Nat,
      (∀ k, ∃ nanos, jitteredRetryInterval policy.retryIntervalMs policy.retryJitterMs nanos =
        .ok (width k)) →
      (Android.Handshake.attempts e).Patient width policy.leastWindow
        (Loop.begun (.response 1 handshake) now)) := by
  refine ⟨?_, ?_⟩
  · have iff := e.attempts.patient_iff policy.leastWindow (fromMillis policy.retryJitterMs.toNat)
      (.response 1 handshake) rfl (.deadline, ⟨⟨0, 0⟩, none, true⟩) rfl now
    exact iff.trans fromMillis_le_iff
  · intro small width drawn
    refine Loop.patient_of_le ?_ _ now
    intro k
    obtain ⟨nanos, ok⟩ := drawn k
    exact le_jitteredRetryInterval small ok

section
open Primitives Network
open Server (keyOf)

def firstHandshake : InitiatorHandshake where
  identity := .pinnedKey (keyOf 1)
  verifier := .pinnedKey (keyOf 8)
  keyPair := ⟨keyOf 3⟩
  initiation := .initiation (keyOf 3) (keyOf 4) none (HandshakeMessage.computeMac1 transparent
    (AuthVerifier.mac1Key transparent (.pinnedKey (keyOf 8))) (keyOf 3) (keyOf 4) none)

def genuineResponse : HandshakeMessage :=
  ((ResponderHandshake.acceptForSession transparent (.pinnedKey (keyOf 8)) (.pinnedKey (keyOf 1))
    firstHandshake.initiation ⟨Bytes.ofList 16 [9]⟩ 0 (some (keyOf 10)) (some (keyOf 11))).toOption.map
      Prod.snd).getD firstHandshake.initiation

def genuineDatagram : Event :=
  .datagram sampleServer
    (Server.handshakePacket .handshake 0 ⟨Bytes.ofList 16 [9]⟩ genuineResponse).encode

def atMillis (event : Event) (millis : Nat) : (Event × Env) × Reading :=
  ((event, sampleMoment), ⟨fromMillis millis, fromMillis millis, Nat.le_refl _⟩)

/-- The deadline of an attempt of the default policy, as early as it can be. -/
def earliest (n : Nat) : (Event × Env) × Reading :=
  atMillis .deadline (150 * (n + 1))

def retried : Nat → Timed (Stage transparent)
  | 0 => Loop.begun (.response 1 firstHandshake) 0
  | n + 1 => sampleCall.attempts.tick (retried n) (earliest n)

def committed : Stage transparent → Bool
  | .acknowledgment _ _ _ => true
  | _ => false

def abandoned : Stage transparent → Bool
  | .failed => true
  | _ => false

lemma run_retried : run sampleCall.attempts.tick (retried 0) ((List.range 5).map earliest) = retried 5 :=
  run_range (fun _ => rfl) 5

/-- All attempts end early, and a response comes too late. -/
lemma allowed_attempts (policy : Config.HandshakeConfig) (short : policy.retryJitterMs ≤ 150) :
    EachStep sampleCall.attempts.tick (sampleCall.attempts.Allowed (window policy)) (retried 0)
      ((List.range 5).map earliest ++ [atMillis genuineDatagram 800]) := by
  have times : ∀ n < 5, (retried n).clock ≤ fromMillis (150 * (n + 1)) ∧
      (retried n).sentAt + fromMillis 150 ≤ fromMillis (150 * (n + 1)) := by decide +kernel
  have width (k : Nat) : window policy k ≤ fromMillis 150 := fromMillis_le_iff.2 short
  refine eachStep_append.2 ⟨eachStep_range (fun _ => rfl) ?_, ?_⟩
  · intro n lt
    obtain ⟨clock, sent⟩ := times n lt
    refine ⟨clock, ?_⟩
    intro attempt _
    refine ⟨fun _ => (Nat.add_le_add_left (width attempt) _).trans sent, ?_⟩
    intro other
    cases other
  · rw [run_retried]
    refine eachStep_cons.2 ⟨⟨by decide +kernel, ?_⟩, eachStep_nil⟩
    intro attempt found
    have left : sampleCall.attempts.attempt (retried 5).stage = none := by decide +kernel
    rw [left] at found
    cases found

/-- The call gives up 150 ms after its last transmission, and a response 50 ms later, which the last
attempt would have accepted, finds nobody. -/
theorem response_after_last_deadline : Config.HandshakeConfig.validate {} = .ok () ∧
      (sampleCall.start (.pinnedKey (keyOf 1) (keyOf 8)) (some (keyOf 3)) (some (keyOf 4))
        sampleMoment).1 = .response 1 firstHandshake ∧
      EachStep sampleCall.attempts.tick (sampleCall.attempts.Allowed (window {})) (retried 0)
        ((List.range 5).map earliest ++ [atMillis genuineDatagram 800]) ∧
      run sampleCall.attempts.tick (retried 0) ((List.range 5).map earliest) = retried 5 ∧
      (retried 5).gaveUp = true ∧ (retried 5).sentAt = fromMillis 600 ∧
      Config.HandshakeConfig.leastWindow {} = fromMillis 350 ∧
      abandoned (sampleCall.step (retried 5).stage (genuineDatagram, sampleMoment)).1 = true ∧
      committed (sampleCall.step (retried 4).stage (genuineDatagram, sampleMoment)).1 = true := by
  exact ⟨by decide, rfl, allowed_attempts {} (by decide), run_retried, by decide +kernel, by decide +kernel,
    by decide, by decide +kernel, by decide +kernel⟩

/-- A policy whose jitter is as long as its interval. -/
theorem attempts_wait_iff_wide_jitter :
    sampleCall.attempts.Patient (window { retryJitterMs := 500 })
        (Config.HandshakeConfig.leastWindow { retryJitterMs := 500 }) (retried 0) ∧
      (Android.Handshake.attempts sampleCall).Patient (fun _ => fromMillis 350)
        (Config.HandshakeConfig.leastWindow {}) (Loop.begun (.response 1 firstHandshake) 0) := by
  refine ⟨?_, ?_⟩
  · exact (attempts_wait_iff { retryJitterMs := 500 } sampleCall firstHandshake 0).1.2 (by decide)
  · exact (attempts_wait_iff {} sampleCall firstHandshake 0).2 (by decide) _
      fun _ => ⟨some 0, by decide⟩

/-- All attempts are made and no response is heard. -/
theorem never_established_five_attempts :
    Config.HandshakeConfig.validate { retryJitterMs := 0 } = .ok () ∧
      Always sampleCall.attempts.tick
        (fun w => ∀ session acknowledgment, w.stage ≠ .established session acknowledgment) (retried 0)
        ((List.range 5).map earliest ++ [atMillis genuineDatagram 800]) :=
  ⟨by decide, never_established_without_jitter { retryJitterMs := 0 } rfl sampleCall
    (.pinnedKey (keyOf 1) (keyOf 8)) (some (keyOf 3)) (some (keyOf 4)) sampleMoment 0
    (allowed_attempts { retryJitterMs := 0 } (by decide))⟩

end
end Client.Establish
end Rvpn
