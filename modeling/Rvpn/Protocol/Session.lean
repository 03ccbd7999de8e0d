import Rvpn.Protocol.Packet
import Rvpn.Protocol.Replay

/-!
# Protected sessions

Model of `crates/rvpn-protocol/src/session.rs`. After a rekey a session keeps the keys and the window
of the previous phase until they expire. Instants are numbers; every function that reads the clock takes
the time as an argument. A function that changes the session returns it next to its result, also when
it fails.
-/

namespace Rvpn.Protocol
open Crypto

/-- Why a packet is refused. -/
inductive SessionError where
  | handshakeNotProtected
  | sequenceExhausted
  | unexpectedSession
  | unexpectedKeyPhase (phase : UInt32)
  | crypto (e : CryptoError)
  | replay (e : ReplayError)
  | protocol (e : ProtocolError)
  deriving DecidableEq

variable (P : Primitives)

/-- `PreviousPhase`: keys and window until they expire. -/
structure PreviousPhase where
  keyPhase : UInt32
  keys : SessionKeys P
  replay : ReplayWindow
  expiresAt : Nat

/-- `ProtectedSession`: the keys, counter and window of a phase. -/
structure ProtectedSession where
  sessionId : SessionId
  keyPhase : UInt32
  nextSendSequence : UInt64
  receiveReplay : ReplayWindow
  keys : SessionKeys P
  createdAt : Nat
  previous : Option (PreviousPhase P)

namespace ProtectedSession

/-- `ProtectedSession::new`. -/
def new (sessionId : SessionId) (keyPhase : UInt32) (keys : SessionKeys P) (now : Nat) :
    ProtectedSession P where
  sessionId := sessionId
  keyPhase := keyPhase
  nextSendSequence := 0
  receiveReplay := ReplayWindow.default
  keys := keys
  createdAt := now
  previous := none

variable {P}

/-- `ProtectedSession::inherit_previous`. -/
def inheritPrevious (s old : ProtectedSession P) (gracePeriod now : Nat) : ProtectedSession P :=
  if gracePeriod = 0 then s
  else if old.sessionId = s.sessionId ∧ old.keyPhase < s.keyPhase then
    { s with
      previous := some
        { keyPhase := old.keyPhase
          keys := old.keys
          replay := old.receiveReplay
          expiresAt := now + gracePeriod } }
  else s

/-- `ProtectedSession::seal`. -/
def sealPacket (s : ProtectedSession P) (kind : PacketKind) (plaintext : List UInt8) :
    Except SessionError Packet × ProtectedSession P :=
  if kind = .handshake then (.error .handshakeNotProtected, s)
  else if s.nextSendSequence.toNat = 2 ^ 64 - 1 then (.error .sequenceExhausted, s)
  else
    let header : Header :=
      { kind := kind
        keyPhase := s.keyPhase
        sequence := s.nextSendSequence
        sessionId := s.sessionId }
    match s.keys.sealWith (packetNonce header.keyPhase header.sequence) header.encode plaintext with
    | .error e => (.error (.crypto e), s)
    | .ok payload =>
      (.ok { header := header, payload := payload },
        { s with nextSendSequence := s.nextSendSequence + 1 })

/-- Either branch of `ProtectedSession::open`, with the window afterwards. -/
def openPhase (keys : SessionKeys P) (replay : ReplayWindow) (packet : Packet) :
    Except SessionError (List UInt8) × ReplayWindow :=
  match keys.openWith (packetNonce packet.header.keyPhase packet.header.sequence)
      packet.header.encode packet.payload with
  | .error e => (.error (.crypto e), replay)
  | .ok plaintext =>
    match replay.checkAndRecord packet.header.sequence with
    | (.error e, replay) => (.error (.replay e), replay)
    | (.ok (), replay) => (.ok plaintext, replay)

/-- `ProtectedSession::open`. -/
def openPacket (s : ProtectedSession P) (packet : Packet) (now : Nat) :
    Except SessionError (List UInt8) × ProtectedSession P :=
  if packet.header.kind = .handshake then (.error .handshakeNotProtected, s)
  else if packet.header.sessionId ≠ s.sessionId then (.error .unexpectedSession, s)
  else if packet.header.keyPhase ≠ s.keyPhase then
    match s.previous with
    | some prev =>
      if prev.keyPhase = packet.header.keyPhase ∧ now ≤ prev.expiresAt then
        let (result, replay) := openPhase prev.keys prev.replay packet
        (result, { s with previous := some { prev with replay := replay } })
      else (.error (.unexpectedKeyPhase packet.header.keyPhase), s)
    | none => (.error (.unexpectedKeyPhase packet.header.keyPhase), s)
  else
    let (result, replay) := openPhase s.keys s.receiveReplay packet
    (result, { s with receiveReplay := replay })

/-- `ProtectedSession::should_rekey`. -/
def shouldRekey (s : ProtectedSession P) (packetLimit : UInt64) (now : Nat) : Bool :=
  (decide (0 < packetLimit) && decide (packetLimit ≤ s.nextSendSequence)) ||
    decide (fromSecs 120 ≤ now - s.createdAt)

/-- `ProtectedSession::should_rekey_with_policy`. -/
def shouldRekeyWithPolicy (s : ProtectedSession P) (packetLimit : UInt64) (timeLimit : Option Nat)
    (now : Nat) : Bool :=
  (decide (0 < packetLimit) && decide (packetLimit ≤ s.nextSendSequence)) ||
    timeLimit.any fun limit => decide (limit ≤ now - s.createdAt)

lemma inheritPrevious_cases (s old : ProtectedSession P) (gracePeriod now : Nat) :
    s.inheritPrevious old gracePeriod now = s ∨
      (old.sessionId = s.sessionId ∧ old.keyPhase < s.keyPhase ∧
        s.inheritPrevious old gracePeriod now =
          { s with
            previous := some
              { keyPhase := old.keyPhase
                keys := old.keys
                replay := old.receiveReplay
                expiresAt := now + gracePeriod } }) := by
  unfold inheritPrevious
  split
  · exact .inl rfl
  · split
    · next older => exact .inr ⟨older.1, older.2, rfl⟩
    · exact .inl rfl

variable {packet : Packet} {m : List UInt8} {keys : SessionKeys P} {e : SessionError}
  {s s' : ProtectedSession P} {now : Nat} {plaintext : List UInt8} {kind : PacketKind}

lemma openPhase_ok {replay replay' : ReplayWindow}
    (h : openPhase keys replay packet = (.ok m, replay')) :
    P.aeadOpen keys.receive (packetNonce packet.header.keyPhase packet.header.sequence)
        packet.header.encode packet.payload = some m ∧
      replay.checkAndRecord packet.header.sequence = (.ok (), replay') := by
  unfold openPhase at h
  split at h
  · cases h
  · next opened =>
    split at h
    · cases h
    · next recorded =>
      cases h
      exact ⟨cryptOpen_ok.1 opened, recorded⟩

lemma openPhase_error {replay : ReplayWindow} (h : (openPhase keys replay packet).1 = .error e) :
    (openPhase keys replay packet).2 = replay := by
  unfold openPhase at h ⊢
  cases opened : keys.openWith (packetNonce packet.header.keyPhase packet.header.sequence)
      packet.header.encode packet.payload with
  | error e => rfl
  | ok m =>
    cases recorded : replay.checkAndRecord packet.header.sequence with
    | mk result replay' =>
      cases result with
      | error e =>
        have same := ReplayWindow.checkAndRecord_error (congrArg Prod.fst recorded)
        rw [recorded] at same
        exact same
      | ok u =>
        simp only [opened, recorded] at h
        cases h

/-- `open` succeeds under the current phase, or the unexpired previous one. -/
lemma openPacket_ok (h : openPacket s packet now = (.ok m, s')) :
    packet.header.kind ≠ .handshake ∧ packet.header.sessionId = s.sessionId ∧
      ((packet.header.keyPhase = s.keyPhase ∧
          ∃ w, openPhase s.keys s.receiveReplay packet = (.ok m, w) ∧
            s' = { s with receiveReplay := w }) ∨
        (packet.header.keyPhase ≠ s.keyPhase ∧
          ∃ prev w, s.previous = some prev ∧ prev.keyPhase = packet.header.keyPhase ∧
            now ≤ prev.expiresAt ∧ openPhase prev.keys prev.replay packet = (.ok m, w) ∧
            s' = { s with previous := some { prev with replay := w } })) := by
  unfold openPacket at h
  split at h
  · cases h
  · next kind =>
    split at h
    · cases h
    · next session =>
      refine ⟨kind, not_not.1 session, ?_⟩
      split at h
      · next phase =>
        split at h
        · next prev found =>
          split at h
          · next live =>
            cases opened : openPhase prev.keys prev.replay packet with
            | mk result w =>
              simp only [opened] at h
              cases h
              exact .inr ⟨phase, prev, w, found, live.1, live.2, opened, rfl⟩
          · cases h
        · cases h
      · next phase =>
        cases opened : openPhase s.keys s.receiveReplay packet with
        | mk result w =>
          simp only [opened] at h
          cases h
          exact .inl ⟨not_not.1 phase, w, rfl, rfl⟩

lemma openPacket_error {s : ProtectedSession P} (h : (openPacket s packet now).1 = .error e) :
    (openPacket s packet now).2 = s := by
  unfold openPacket at h ⊢
  by_cases kind : packet.header.kind = .handshake
  · rw [if_pos kind]
  · rw [if_neg kind] at h ⊢
    by_cases session : packet.header.sessionId ≠ s.sessionId
    · rw [if_pos session]
    · rw [if_neg session] at h ⊢
      by_cases phase : packet.header.keyPhase ≠ s.keyPhase
      · rw [if_pos phase] at h ⊢
        cases found : s.previous with
        | none => rfl
        | some prev =>
          simp only [found] at h ⊢
          by_cases live : prev.keyPhase = packet.header.keyPhase ∧ now ≤ prev.expiresAt
          · rw [if_pos live] at h ⊢
            have same := openPhase_error (show (openPhase _ _ _).1 = .error e from h)
            show { s with previous := some { prev with replay := _ } } = s
            rw [same, ← found]
          · rw [if_neg live]
      · rw [if_neg phase] at h ⊢
        have same := openPhase_error (show (openPhase _ _ _).1 = .error e from h)
        show { s with receiveReplay := _ } = s
        rw [same]

lemma openPacket_refused (h : openPacket s packet now = (.error e, s')) : s' = s := by
  have same := openPacket_error (congrArg Prod.fst h)
  rwa [h] at same

lemma sealPacket_ok (h : sealPacket s kind plaintext = (.ok packet, s')) :
    kind ≠ .handshake ∧ s.nextSendSequence.toNat ≠ 2 ^ 64 - 1 ∧
      packet.header =
        { kind := kind
          keyPhase := s.keyPhase
          sequence := s.nextSendSequence
          sessionId := s.sessionId } ∧
      P.aeadSeal s.keys.send (packetNonce s.keyPhase s.nextSendSequence) packet.header.encode
        plaintext = some packet.payload ∧
      s' = { s with nextSendSequence := s.nextSendSequence + 1 } := by
  unfold sealPacket at h
  split at h
  · cases h
  · next kind' =>
    split at h
    · cases h
    · next room =>
      simp only at h
      split at h
      · cases h
      · next sealed =>
        cases h
        exact ⟨kind', room, rfl, cryptSeal_ok.1 sealed, rfl⟩

lemma sealPacket_error {s : ProtectedSession P} (h : (sealPacket s kind plaintext).1 = .error e) :
    (sealPacket s kind plaintext).2 = s := by
  unfold sealPacket at h ⊢
  by_cases kind' : kind = .handshake
  · rw [if_pos kind']
  · rw [if_neg kind'] at h ⊢
    by_cases room : s.nextSendSequence.toNat = 2 ^ 64 - 1
    · rw [if_pos room]
    · rw [if_neg room] at h ⊢
      simp only at h ⊢
      split at h
      · rfl
      · cases h

lemma sealPacket_refused (h : sealPacket s kind plaintext = (.error e, s')) : s' = s := by
  have same := sealPacket_error (congrArg Prod.fst h)
  rwa [h] at same

lemma openPacket_of_other_phase {s : ProtectedSession P}
    (current : packet.header.keyPhase ≠ s.keyPhase)
    (previous : ∀ prev, s.previous = some prev → prev.keyPhase ≠ packet.header.keyPhase) (now : Nat)
    (m : List UInt8) : (openPacket s packet now).1 ≠ .ok m := by
  intro ok
  cases opened : openPacket s packet now with
  | mk result s' =>
    rw [opened] at ok
    obtain rfl : result = .ok m := ok
    obtain ⟨_, _, ⟨phase, _⟩ | ⟨_, prev, _, found, phase, _⟩⟩ := openPacket_ok opened
    · exact current phase
    · exact previous prev found phase

lemma openPacket_of_current {s : ProtectedSession P} {w : ReplayWindow}
    (kind : packet.header.kind ≠ .handshake) (sessionId : packet.header.sessionId = s.sessionId)
    (phase : packet.header.keyPhase = s.keyPhase)
    (opened : openPhase s.keys s.receiveReplay packet = (.ok m, w)) (now : Nat) :
    openPacket s packet now = (.ok m, { s with receiveReplay := w }) := by
  unfold openPacket
  rw [if_neg kind, if_neg (not_not.2 sessionId), if_neg (not_not.2 phase), opened]

lemma openPacket_of_previous {s : ProtectedSession P} {prev : PreviousPhase P} {w : ReplayWindow}
    (kind : packet.header.kind ≠ .handshake) (sessionId : packet.header.sessionId = s.sessionId)
    (current : packet.header.keyPhase ≠ s.keyPhase) (found : s.previous = some prev)
    (phase : prev.keyPhase = packet.header.keyPhase) (inTime : now ≤ prev.expiresAt)
    (opened : openPhase prev.keys prev.replay packet = (.ok m, w)) :
    (openPacket s packet now).1 = .ok m := by
  unfold openPacket
  rw [if_neg kind, if_neg (not_not.2 sessionId), if_pos current]
  simp only [found]
  rw [if_pos ⟨phase, inTime⟩, opened]

/-- A packet that decrypts and has a new number in the window is opened. -/
lemma openPhase_of_represents {replay : ReplayWindow} {A : Finset Nat} (rep : Represents replay A)
    (decrypts : P.aeadOpen keys.receive (packetNonce packet.header.keyPhase packet.header.sequence)
      packet.header.encode packet.payload = some m) (new : packet.header.sequence.toNat ∉ A)
    (near : ∀ n ∈ A, n < packet.header.sequence.toNat + replayWindow) :
    ∃ w, openPhase keys replay packet = (.ok m, w) := by
  have accepts := ReplayWindow.checkAndRecord_fst rep packet.header.sequence
  rw [Reference.ok_of_not_mem new near] at accepts
  unfold openPhase
  rw [show keys.openWith _ _ _ = .ok m from cryptOpen_ok.2 decrypts]
  simp only
  cases recorded : replay.checkAndRecord packet.header.sequence with
  | mk result w =>
    rw [recorded] at accepts
    obtain rfl : result = .ok () := accepts
    exact ⟨w, rfl⟩

/-- `seal` and `open` keep id, phase and keys, and no previous phase. -/
structure Continues (s s' : ProtectedSession P) : Prop where
  sessionId : s'.sessionId = s.sessionId
  keyPhase : s'.keyPhase = s.keyPhase
  keys : s'.keys = s.keys
  previous : s.previous = none → s'.previous = none

lemma Continues.refl (s : ProtectedSession P) : s.Continues s :=
  ⟨rfl, rfl, rfl, id⟩

lemma continues_sealPacket {result : Except SessionError Packet}
    (h : sealPacket s kind plaintext = (result, s')) : s.Continues s' := by
  cases result with
  | error e =>
    rw [sealPacket_refused h]
    exact .refl s
  | ok packet =>
    obtain ⟨_, _, _, _, rfl⟩ := sealPacket_ok h
    exact ⟨rfl, rfl, rfl, id⟩

lemma continues_openPacket {result : Except SessionError (List UInt8)}
    (h : openPacket s packet now = (result, s')) : s.Continues s' := by
  cases result with
  | error e =>
    rw [openPacket_refused h]
    exact .refl s
  | ok plaintext =>
    obtain ⟨_, _, ⟨_, _, _, rfl⟩ | ⟨_, prev, _, found, _, _, _, rfl⟩⟩ := openPacket_ok h
    · exact ⟨rfl, rfl, rfl, id⟩
    · refine ⟨rfl, rfl, rfl, ?_⟩
      intro none
      rw [none] at found
      cases found

end ProtectedSession
end Rvpn.Protocol
